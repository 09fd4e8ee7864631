import LiveEvents.Json.Printer
import LiveEvents.Proofs.WrittenTokens

/-!
# Documents in JSON

Everything that can write a document: any blanks between the tokens, any way to write its texts and
its numerals. The reader is one automaton, and over the characters of a value it goes from a place
where a value is wanted to the place where that value was put.
-/

namespace LiveEvents.Json

/-! ## How documents are written -/

/-- Any number of blanks, as they may stand between tokens. -/
def Blanks (cs : List Char) : Prop := ∀ c ∈ cs, c = ' ' ∨ c = '\t' ∨ c = '\n' ∨ c = '\r'

/-- A value, a member, or what stands between brackets, with the closing one. -/
inductive Piece where
  | value (n : Node)
  | items (ns : List Node)
  | member (key : String) (n : Node)
  | members (ms : List (Option String × Node))

/-- What can write a piece of a document. -/
inductive Written : Piece → List Char → Prop where
  | null : Written (.value .null) ['n', 'u', 'l', 'l']
  | yes : Written (.value (.bool true)) ['t', 'r', 'u', 'e']
  | no : Written (.value (.bool false)) ['f', 'a', 'l', 's', 'e']
  | number {f : Figures} (hf : f.Sound) : Written (.value (.number f.numeral)) f.chars
  | string {s : String} {cs : List Char} (hs : WritesString s cs) :
      Written (.value (.string (some s))) cs
  | array {ns : List Node} {b cs : List Char} (hb : Blanks b) (hns : Written (.items ns) cs) :
      Written (.value (.array ns)) ('[' :: (b ++ cs))
  | object {ms : List (Option String × Node)} {b cs : List Char} (hb : Blanks b)
      (hms : Written (.members ms) cs) : Written (.value (.object ms)) ('\x7b' :: (b ++ cs))
  | noItems : Written (.items []) [']']
  | lastItem {n : Node} {v b : List Char} (hn : Written (.value n) v) (hb : Blanks b) :
      Written (.items [n]) (v ++ (b ++ [']']))
  | item {n n' : Node} {ns : List Node} {v b b' cs : List Char} (hn : Written (.value n) v)
      (hb : Blanks b) (hb' : Blanks b') (hns : Written (.items (n' :: ns)) cs) :
      Written (.items (n :: n' :: ns)) (v ++ (b ++ ',' :: (b' ++ cs)))
  | keyed {key : String} {n : Node} {k b b' v : List Char} (hkey : WritesString key k)
      (hb : Blanks b) (hb' : Blanks b') (hn : Written (.value n) v) :
      Written (.member key n) (k ++ (b ++ ':' :: (b' ++ v)))
  | noMembers : Written (.members []) ['\x7d']
  | lastMember {key : String} {n : Node} {v b : List Char} (hm : Written (.member key n) v)
      (hb : Blanks b) : Written (.members [(some key, n)]) (v ++ (b ++ ['\x7d']))
  | member {key : String} {n : Node} {m : Option String × Node}
      {ms : List (Option String × Node)} {v b b' cs : List Char}
      (hm : Written (.member key n) v) (hb : Blanks b) (hb' : Blanks b')
      (hms : Written (.members (m :: ms)) cs) :
      Written (.members ((some key, n) :: m :: ms)) (v ++ (b ++ ',' :: (b' ++ cs)))

/-- A text that writes a document, with blanks around it. -/
def Writes (n : Node) (text : String) : Prop :=
  ∃ b v b', Blanks b ∧ Written (.value n) v ∧ Blanks b' ∧ text.toList = b ++ (v ++ b')

/-! ## How they are read -/

namespace Reader

/-- The reader goes over some characters from a place between tokens to another. -/
def Goes (p : Place) (cs : List Char) (p' : Place) : Prop :=
  ∃ s, cs.foldlM step ⟨.between, p⟩ = some s ∧ Ends s p'

theorem Goes.nil (p : Place) : Goes p [] p := ⟨_, rfl, .inl rfl⟩

theorem isDelimiter_of_blank {c : Char} (h : c = ' ' ∨ c = '\t' ∨ c = '\n' ∨ c = '\r') :
    IsDelimiter c := by
  rcases h with rfl | rfl | rfl | rfl <;> simp [IsDelimiter]

variable {p p' p'' : Place} {cs cs' b : List Char}

/-- After a value the reader goes on at what ends it. -/
theorem Goes.append {c : Char} (h : Goes p cs p') (hc : IsDelimiter c)
    (h' : Goes p' (c :: cs') p'') : Goes p (cs ++ c :: cs') p'' := by
  obtain ⟨s, hfold, hends⟩ := h
  obtain ⟨s', hfold', hends'⟩ := h'
  refine ⟨s', ?_, hends'⟩
  rw [List.foldlM_append, hfold]
  exact (hends.foldlM hc cs').trans hfold'

/-- A character that leads from one place to another. -/
theorem Goes.cons {c : Char} (hstep : step ⟨.between, p⟩ c = some ⟨.between, p'⟩)
    (h : Goes p' cs p'') : Goes p (c :: cs) p'' := by
  obtain ⟨s, hfold, hends⟩ := h
  refine ⟨s, ?_, hends⟩
  rw [List.foldlM_cons, hstep]
  exact hfold

theorem step_blank {c : Char} (h : c = ' ' ∨ c = '\t' ∨ c = '\n' ∨ c = '\r') :
    step ⟨.between, p⟩ c = some ⟨.between, p⟩ := by
  rcases h with rfl | rfl | rfl | rfl <;> rfl

theorem Goes.blanks (hb : Blanks b) (h : Goes p cs p') : Goes p (b ++ cs) p' := by
  induction b with
  | nil => exact h
  | cons c rest ih =>
    exact .cons (step_blank (hb c List.mem_cons_self))
      (ih fun c hc => hb c (List.mem_cons_of_mem _ hc))

/-- A mark that leads from one place to another. -/
theorem step_mark {c : Char} (hc : between p c = (p.mark c).map fun q => ⟨.between, q⟩)
    (hp : p.mark c = some p') : step ⟨.between, p⟩ c = some ⟨.between, p'⟩ := by
  change between p c = _
  rw [hc, hp]
  rfl

/-- Blanks, and then what ends a value. -/
theorem Goes.then {c : Char} (h : Goes p cs p') (hb : Blanks b) (hc : IsDelimiter c)
    (h' : Goes p' (c :: cs') p'') : Goes p (cs ++ (b ++ c :: cs')) p'' := by
  cases b with
  | nil => exact h.append hc h'
  | cons d rest =>
    exact h.append (isDelimiter_of_blank (hb d List.mem_cons_self)) (h'.blanks hb)

/-- A text, and then anything. -/
theorem Goes.string {s : String} (hs : WritesString s b)
    (hp : p.scalar (.string (some s)) = some p') (h : Goes p' cs p'') : Goes p (b ++ cs) p'' := by
  obtain ⟨s, hfold, hends⟩ := h
  refine ⟨s, ?_, hends⟩
  rw [List.foldlM_append, foldlM_writesString hs hp]
  exact hfold

/-- A value can be put where the reader stands. -/
def Place.Wants (p : Place) : Prop := p.want = .value ∨ p.want = .firstItem

theorem scalar_eq_put {n : Node} (h : p.Wants) : p.scalar n = p.put n := by
  obtain ⟨stack, want⟩ := p
  rcases h with rfl | rfl <;> rfl

/-- What the reader makes of a piece. -/
def Reads : Piece → List Char → Prop
  | .value n, cs => ∀ p p' : Place, p.Wants → p.put n = some p' → Goes p cs p'
  | .items ns, cs => ∀ (done : List Node) (stack : List Frame) (want : Want) (p' : Place),
      (want = .firstItem ∨ want = .value ∧ ns ≠ []) →
      Place.put ⟨stack, .value⟩ (.array (done.reverse ++ ns)) = some p' →
      Goes ⟨.array done :: stack, want⟩ cs p'
  | .member key n, cs => ∀ (done : List (Option String × Node)) (stack : List Frame) (want : Want),
      (want = .firstKey ∨ want = .key) →
      Goes ⟨.object done :: stack, want⟩ cs ⟨.object ((some key, n) :: done) :: stack, .separator⟩
  | .members ms, cs => ∀ (done : List (Option String × Node)) (stack : List Frame) (want : Want)
      (p' : Place), (want = .firstKey ∨ want = .key ∧ ms ≠ []) →
      Place.put ⟨stack, .value⟩ (.object (done.reverse ++ ms)) = some p' →
      Goes ⟨.object done :: stack, want⟩ cs p'

theorem wants_item {done : List Node} {stack : List Frame} {want : Want} {ns : List Node}
    (h : want = .firstItem ∨ want = .value ∧ ns ≠ []) :
    Place.Wants ⟨.array done :: stack, want⟩ := by
  rcases h with rfl | ⟨rfl, -⟩
  · exact .inr rfl
  · exact .inl rfl

theorem wants_key {want : Want} {ms : List (Option String × Node)}
    (h : want = .firstKey ∨ want = .key ∧ ms ≠ []) : want = .firstKey ∨ want = .key :=
  h.imp_right And.left

theorem reads_written {piece : Piece} (h : Written piece cs) : Reads piece cs := by
  induction h with
  | null | yes | no =>
    intro p p' hwants hput
    rw [← scalar_eq_put hwants] at hput
    refine ⟨⟨.between, p'⟩, ?_, .inl rfl⟩
    simp [step, between, hput]
  | number hf =>
    intro p p' hwants hput
    rw [← scalar_eq_put hwants] at hput
    exact foldlM_figures hf hput
  | string hs =>
    intro p p' hwants hput
    rw [← scalar_eq_put hwants] at hput
    exact ⟨_, foldlM_writesString hs hput, .inl rfl⟩
  | array hb hns ih =>
    intro p p' hwants hput
    have hopen : step ⟨.between, p⟩ '[' = some ⟨.between, ⟨.array [] :: p.stack, .firstItem⟩⟩ := by
      obtain ⟨stack, want⟩ := p
      rcases hwants with rfl | rfl <;> rfl
    exact .cons hopen (.blanks hb (ih [] p.stack _ p' (.inl rfl) hput))
  | object hb hms ih =>
    intro p p' hwants hput
    have hopen : step ⟨.between, p⟩ '\x7b' =
        some ⟨.between, ⟨.object [] :: p.stack, .firstKey⟩⟩ := by
      obtain ⟨stack, want⟩ := p
      rcases hwants with rfl | rfl <;> rfl
    exact .cons hopen (.blanks hb (ih [] p.stack _ p' (.inl rfl) hput))
  | noItems =>
    intro done stack want p' hwant hput
    obtain rfl : want = .firstItem := hwant.resolve_right fun h => h.2 rfl
    rw [List.append_nil] at hput
    exact .cons (step_mark rfl hput) (.nil p')
  | @lastItem n _ _ _ hb ih =>
    intro done stack want p' hwant hput
    have hvalue := ih ⟨.array done :: stack, want⟩ _ (wants_item hwant) rfl
    have hclose : Place.put ⟨stack, .value⟩ (.array (n :: done).reverse) = some p' := by
      rwa [List.reverse_cons]
    exact hvalue.then hb (by simp [IsDelimiter]) (.cons (step_mark rfl hclose) (.nil p'))
  | @item n n' ns _ _ _ _ _ hb hb' _ ih ih' =>
    intro done stack want p' hwant hput
    have hvalue := ih ⟨.array done :: stack, want⟩ _ (wants_item hwant) rfl
    have hrest : Goes ⟨.array (n :: done) :: stack, .value⟩ _ p' :=
      ih' (n :: done) stack .value p' (.inr ⟨rfl, by simp⟩) (by simpa using hput)
    exact hvalue.then hb (by simp [IsDelimiter]) (.cons rfl (.blanks hb' hrest))
  | @keyed key n _ _ _ _ hkey hb hb' _ ih =>
    intro done stack want hwant
    have hvalue := ih ⟨.member (some key) done :: stack, .value⟩ _ (.inl rfl) rfl
    have hcolon : Place.scalar ⟨.object done :: stack, want⟩ (.string (some key)) =
        some ⟨.object done :: stack, .colon (some key)⟩ := by
      rcases hwant with rfl | rfl <;> rfl
    exact .string hkey hcolon (.blanks hb (.cons rfl (.blanks hb' hvalue)))
  | noMembers =>
    intro done stack want p' hwant hput
    obtain rfl : want = .firstKey := hwant.resolve_right fun h => h.2 rfl
    rw [List.append_nil] at hput
    exact .cons (step_mark rfl hput) (.nil p')
  | @lastMember key n _ _ _ hb ih =>
    intro done stack want p' hwant hput
    have hmember := ih done stack want (wants_key hwant)
    have hclose : Place.put ⟨stack, .value⟩ (.object ((some key, n) :: done).reverse) =
        some p' := by
      rwa [List.reverse_cons]
    exact hmember.then hb (by simp [IsDelimiter]) (.cons (step_mark rfl hclose) (.nil p'))
  | @member key n m ms _ _ _ _ _ hb hb' _ ih ih' =>
    intro done stack want p' hwant hput
    have hmember := ih done stack want (wants_key hwant)
    have hrest : Goes ⟨.object ((some key, n) :: done) :: stack, .key⟩ _ p' :=
      ih' ((some key, n) :: done) stack .key p' (.inr ⟨rfl, by simp⟩) (by simpa using hput)
    exact hmember.then hb (by simp [IsDelimiter]) (.cons rfl (.blanks hb' hrest))

theorem Ends.finish {s : State} {root : Node} (h : Ends s ⟨[], .nothing root⟩) :
    finish s = some root := by
  rcases h with rfl | ⟨part, n, neg, hscan, hend⟩
  · rfl
  · obtain ⟨scan, place⟩ := s
    subst hscan
    simp [Reader.finish, hend]

end Reader

open Reader in
/-- What writes a document is read as that document. -/
theorem ofString?_of_writes {n : Node} {text : String} (h : Writes n text) :
    Node.ofString? text = some n := by
  obtain ⟨b, v, b', hb, hv, hb', htext⟩ := h
  have hvalue : Goes {} (b ++ v) ⟨[], .nothing n⟩ :=
    .blanks hb (reads_written hv {} _ (.inl rfl) rfl)
  have hall : Goes {} ((b ++ v) ++ b') ⟨[], .nothing n⟩ := by
    cases b' with
    | nil => rwa [List.append_nil]
    | cons c rest =>
      apply hvalue.append (isDelimiter_of_blank (hb' c List.mem_cons_self))
      have hnil := (Goes.nil ⟨[], .nothing n⟩).blanks hb'
      rwa [List.append_nil] at hnil
  obtain ⟨s, hfold, hends⟩ := hall
  rw [Node.ofString?, Node.ofChars?, htext, ← List.append_assoc, hfold]
  exact hends.finish

end LiveEvents.Json
