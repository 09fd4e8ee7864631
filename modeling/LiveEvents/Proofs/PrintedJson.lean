import LiveEvents.Json.Printer
import LiveEvents.Proofs.WrittenJson

/-!
# What is printed is read back

The compact text of a value writes a document: its texts with the short escapes and its numbers
without places. So the reader makes of it exactly the document that was printed, and the value
itself if no key stands twice in an object and it is not nested too deep.
-/

namespace LiveEvents

theorem Text.toList_toString_nat (n : Nat) : (toString n).toList = decimal n := by
  simp [decimal, Nat.toString_eq_repr, Nat.repr]

theorem Text.toList_toString_int (i : Int) : (toString i).toList = decimalInt i := by
  cases i with
  | ofNat n =>
    have hnot : ¬Int.ofNat n < 0 := by simp
    rw [decimalInt, if_neg hnot]
    exact toList_toString_nat n
  | negSucc n =>
    rw [decimalInt, if_pos (Int.negSucc_lt_zero n)]
    simp [decimal, Int.toString_eq_repr, Int.repr, Nat.repr]

namespace Json

/-! ## Texts -/

/-- The escape of a control character by its number. -/
theorem hexValue_control : ∀ n < 0x20,
    hexValue? 0 ['0', '0', Nat.digitChar (n / 16), Nat.digitChar (n % 16)] = some n := by
  decide

theorem writesChar_escapedChar (c : Char) : WritesChar c (escapedChar c) := by
  unfold escapedChar
  split
  case h_8 hquote hslash _ _ _ _ _ =>
    split
    case isTrue hcontrol => exact .unit ⟨rfl, hexValue_control _ hcontrol⟩
    case isFalse hcontrol => exact .itself hquote hslash (Nat.le_of_not_lt hcontrol)
  all_goals exact .short (by simp [shortEscapes])

theorem writesChars_escaped (cs : List Char) : WritesChars cs (cs.flatMap escapedChar) := by
  induction cs with
  | nil => exact .nil
  | cons c rest ih => exact .cons (writesChar_escapedChar c) ih

theorem writesString_stringChars (s : String) : WritesString s (stringChars s) :=
  ⟨_, writesChars_escaped s.toList, rfl⟩

/-! ## Numbers -/

def Power.ofInt (i : Int) : Power where
  capital := false
  sign := if i < 0 then some true else none
  digits := Text.decimal i.natAbs

theorem Power.chars_ofInt (i : Int) : (Power.ofInt i).chars = 'e' :: Text.decimalInt i := by
  by_cases hi : i < 0 <;> simp [chars, ofInt, Text.decimalInt, hi]

def Number.figures : Number → Figures
  | .whole value => .ofInt value
  | .decimal negative digits exponent =>
    { negative, whole := Text.decimal digits, power := some (.ofInt exponent) }

theorem IsWhole.isDigit {ds : List Char} (h : IsWhole ds) :
    ds ≠ [] ∧ ∀ d ∈ ds, d.isDigit = true := by
  cases h with
  | zero => simp
  | digits hc _ hrest => exact ⟨List.cons_ne_nil _ _, List.forall_mem_cons.mpr ⟨hc, hrest⟩⟩

theorem Number.sound_figures (n : Number) : n.figures.Sound := by
  cases n with
  | whole value => exact Figures.sound_ofInt value
  | decimal negative digits exponent =>
    refine ⟨isWhole_decimal digits, by simp [figures], ?_⟩
    intro e he
    cases he
    exact (isWhole_decimal _).isDigit

theorem Number.chars_figures (n : Number) : n.figures.chars = n.chars := by
  cases n with
  | whole value => rw [figures, Figures.chars_ofInt, chars, Text.toList_toString_int]
  | decimal negative digits exponent =>
    rw [chars, Text.toList_toString_int, Text.toList_toString_nat, List.append_assoc]
    cases negative <;> simp [figures, Figures.chars, Power.chars_ofInt]

/-! ## Documents -/

mutual

/-- The document that is printed for a value. -/
def node : Json → Node
  | null => .null
  | bool b => .bool b
  | number n => .number n.figures.numeral
  | string s => .string (some s)
  | array items => .array (itemNodes items)
  | object members => .object (memberNodes members)

def itemNodes : List Json → List Node
  | [] => []
  | item :: rest => item.node :: itemNodes rest

def memberNodes : List (String × Json) → List (Option String × Node)
  | [] => []
  | (key, value) :: rest => (some key, value.node) :: memberNodes rest

end

/-- A whole number is printed in its digits, and they are its numeral. -/
theorem node_ofInt (i : Int) : (ofInt i).node = .number (.ofInt i) := by
  rw [ofInt, node, Number.figures, Figures.numeral_ofInt]

theorem blanks_nil : Blanks [] := by simp [Blanks]

mutual

theorem written_chars (j : Json) : Written (.value j.node) j.chars := by
  cases j with
  | null => exact .null
  | bool b =>
    cases b
    · exact .no
    · exact .yes
  | number n =>
    rw [chars, ← n.chars_figures]
    exact .number n.sound_figures
  | string s => exact .string (writesString_stringChars s)
  | array items => exact .array blanks_nil (written_itemsChars items)
  | object members => exact .object blanks_nil (written_membersChars members)

theorem written_itemsChars (items : List Json) :
    Written (.items (itemNodes items)) (itemsChars items) := by
  cases items with
  | nil => exact .noItems
  | cons item rest =>
    have hitem := written_chars item
    have hrest := written_itemsChars rest
    cases rest with
    | nil => exact .lastItem hitem blanks_nil
    | cons next rest => exact .item hitem blanks_nil blanks_nil hrest

theorem written_membersChars (members : List (String × Json)) :
    Written (.members (memberNodes members)) (membersChars members) := by
  cases members with
  | nil => exact .noMembers
  | cons member rest =>
    obtain ⟨key, value⟩ := member
    have hmember : Written (.member key value.node) (stringChars key ++ ':' :: value.chars) :=
      .keyed (writesString_stringChars key) blanks_nil blanks_nil (written_chars value)
    have hrest := written_membersChars rest
    cases rest with
    | nil => simpa [membersChars, memberNodes] using Written.lastMember hmember blanks_nil
    | cons next rest =>
      simpa [membersChars, memberNodes] using Written.member hmember blanks_nil blanks_nil hrest

end

theorem writes_compact (j : Json) : Writes j.node j.compact :=
  ⟨[], j.chars, [], blanks_nil, written_chars j, blanks_nil, by simp [compact]⟩

/-- The document that was printed is read. -/
theorem ofString?_compact (j : Json) : Node.ofString? j.compact = some j.node :=
  ofString?_of_writes (writes_compact j)

/-! ## Values -/

/-- The value is what its document settles to, at most so many levels deep. -/
def Settles (depth : Nat) (j : Json) : Prop := j.node.toJson? depth = some j

theorem settles_string (depth : Nat) (s : String) : (string s).Settles depth := by
  simp [Settles, node, Node.toJson?]

theorem settles_array {depth : Nat} {items : List Json} (h : ∀ item ∈ items, item.Settles depth) :
    (array items).Settles (depth + 1) := by
  have hitems : Node.itemsToJson? depth (itemNodes items) = some items := by
    induction items with
    | nil => rfl
    | cons item rest ih =>
      obtain ⟨hitem, hrest⟩ := List.forall_mem_cons.mp h
      have hread : item.node.toJson? depth = some item := hitem
      simp [itemNodes, Node.itemsToJson?, hread, ih hrest]
  simp [Settles, node, Node.toJson?, hitems]

theorem setMember_of_notMem {key : String} {members : List (String × Json)} (value : Json)
    (h : key ∉ members.map (·.1)) : setMember key value members = members ++ [(key, value)] := by
  induction members with
  | nil => rfl
  | cons member rest ih =>
    simp only [List.map_cons, List.mem_cons, not_or] at h
    rw [setMember, if_neg (Ne.symm h.1), ih h.2, List.cons_append]

theorem membersToJson?_memberNodes {depth : Nat} {members : List (String × Json)}
    (done : List (String × Json)) (h : ∀ member ∈ members, member.2.Settles depth)
    (hkeys : ((done ++ members).map (·.1)).Nodup) :
    Node.membersToJson? depth done (memberNodes members) = some (done ++ members) := by
  induction members generalizing done with
  | nil => simp [memberNodes, Node.membersToJson?]
  | cons member rest ih =>
    obtain ⟨key, value⟩ := member
    obtain ⟨hvalue, hrest⟩ := List.forall_mem_cons.mp h
    have hread : value.node.toJson? depth = some value := hvalue
    have hnew : key ∉ done.map (·.1) := by
      rw [List.map_append, List.map_cons] at hkeys
      exact fun hkey => (List.nodup_append.mp hkeys).2.2 key hkey key List.mem_cons_self rfl
    have hset := setMember_of_notMem value hnew
    rw [List.append_cons] at hkeys ⊢
    rw [← ih _ hrest hkeys, memberNodes, Node.membersToJson?, hread]
    simp only [Option.bind_eq_bind, Option.bind_some, hset]

theorem settles_object {depth : Nat} {members : List (String × Json)}
    (h : ∀ member ∈ members, member.2.Settles depth) (hkeys : (members.map (·.1)).Nodup) :
    (object members).Settles (depth + 1) := by
  have hread := membersToJson?_memberNodes [] h (by simpa using hkeys)
  simp [Settles, node, Node.toJson?, hread]

/-- A value that settles is read back from its compact text. -/
theorem Settles.ofString?_compact {j : Json} (h : j.Settles maxDepth) :
    Json.ofString? j.compact = some j := by
  have hread : j.node.toJson? maxDepth = some j := h
  simp [Json.ofString?, Json.ofString?_compact, hread]

end Json

end LiveEvents
