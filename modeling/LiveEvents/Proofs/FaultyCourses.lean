import LiveEvents.Proofs.DirectWrites
import LiveEvents.Proofs.ProgramCourses
import LiveEvents.Store.Fault

/-!
# Upserts under faults

An upsert is alone on a store whose calls may return an error without being performed, or never
return. Until a fault is met, what the upsert sees is what the direct write has in its tables; from
then on nothing is committed any more, and the upsert ends in an error.
-/

namespace LiveEvents

open Store (Call Entity Fault FaultRule Memory Mint Row StoreError Table Tables faultAt? pairKey)
open Upsert (StoreSetting)

namespace Store

/-- The faults that keep a call from being performed. -/
def Fault.Interrupts : Fault → Prop
  | fail _ | hang => True
  | absent | rival | rivalAfter => False

theorem faultAt?_interrupts {rules : List FaultRule} (h : ∀ r ∈ rules, r.fault.Interrupts)
    {before : List String} {c : Call} {f : Fault} (hf : faultAt? rules before c = some f) :
    f.Interrupts := by
  obtain ⟨r, hr, rfl⟩ := Option.map_eq_some_iff.mp hf
  exact h r (List.mem_of_find?_eq_some hr)

theorem Memory.performFaulty_hangs {mint : Mint} {m : Memory} {staged : Tables}
    {fault : Option Fault} {c : Call} (h : (m.performFaulty mint staged fault c).1 = none) :
    fault = some .hang ∧ (m.performFaulty mint staged fault c).2.1 = m := by
  cases fault with
  | none => simp [Memory.performFaulty] at h
  | some f =>
    cases f with
    | hang => exact ⟨rfl, rfl⟩
    | fail e => simp [Memory.performFaulty] at h
    | absent =>
      simp only [Memory.performFaulty] at h
      split at h <;> cases h
    | rival => simp [Memory.performFaulty] at h
    | rivalAfter =>
      simp only [Memory.performFaulty] at h
      split at h <;> simp_all

/-- Whether a run comes to a call at which there is a fault. -/
def Memory.meetsFault {α : Type} (mint : Mint) (rules : List FaultRule) (before : List String)
    (m : Memory) (staged : Tables) : Program α → Bool
  | .done _ => false
  | .ask c next =>
    match faultAt? rules before c with
    | some _ => true
    | none =>
      let (reply, m, staged) := m.perform mint staged c
      meetsFault mint rules (c.name :: before) m staged (next reply)

theorem Memory.runFaulty_nil {α : Type} (mint : Mint) (before : List String) (m : Memory)
    (staged : Tables) (p : Program α) : m.runFaulty mint [] before staged p =
      (some (m.run mint staged p).1, (m.run mint staged p).2.1) := by
  induction p generalizing before m staged with
  | done a => rfl
  | ask c next ih => exact ih _ _ _ _

theorem Memory.meetsFault_nil {α : Type} (mint : Mint) (before : List String) (m : Memory)
    (staged : Tables) (p : Program α) : m.meetsFault mint [] before staged p = false := by
  induction p generalizing before m staged with
  | done a => rfl
  | ask c next ih => exact ih _ _ _ _

end Store

/-- A transaction in a run under faults, and whether a fault has been met. -/
structure Trial where
  before : List String := []
  memory : Memory
  staged : Tables := {}
  met : Bool := false

/-- The setting in which calls have the faults of these rules and nothing has been committed. -/
def faulty (mint : Mint) (rules : List FaultRule) (kept : Tables) : StoreSetting Trial where
  ready _ s := s.memory.committed = kept
  moves c s r s' :=
    s.memory.performFaulty mint s.staged (faultAt? rules s.before c) c =
        (some r, s'.memory, s'.staged) ∧
      s'.before = c.name :: s.before ∧ s'.met = (s.met || (faultAt? rules s.before c).isSome)

namespace Trial

variable {α β : Type} {mint : Mint} {rules : List FaultRule} {kept : Tables} {s s' : Trial}

def run (mint : Mint) (rules : List FaultRule) (s : Trial) (p : Store.Program α) :
    Option α × Memory :=
  s.memory.runFaulty mint rules s.before s.staged p

/-- Whether a fault has been met when that run ends. -/
def meets (mint : Mint) (rules : List FaultRule) (s : Trial) (p : Store.Program α) : Bool :=
  s.met || s.memory.meetsFault mint rules s.before s.staged p

/-- The trial after a call that returned. -/
def next (mint : Mint) (rules : List FaultRule) (s : Trial) (c : Call) : Trial :=
  let outcome := s.memory.performFaulty mint s.staged (faultAt? rules s.before c) c
  { before := c.name :: s.before, memory := outcome.2.1, staged := outcome.2.2
    met := s.met || (faultAt? rules s.before c).isSome }

theorem meets_ask (s : Trial) (c : Call) (f : Except StoreError c.Reply → Store.Program α)
    {r : Except StoreError c.Reply}
    (hr : (s.memory.performFaulty mint s.staged (faultAt? rules s.before c) c).1 = some r) :
    (s.next mint rules c).meets mint rules (f r) = s.meets mint rules (.ask c f) := by
  unfold meets next
  simp only [Memory.meetsFault]
  cases hf : faultAt? rules s.before c with
  | some _ => simp
  | none =>
    rw [hf] at hr
    have hreply : (s.memory.perform mint s.staged c).1 = r := Option.some.inj hr
    simp only [Option.isSome_none, Bool.or_false, ← hreply]
    rfl

/-- What is said of all courses of a program is true of its run, unless a call hangs. -/
theorem run_of_always {post : α → Trial → Prop} {p : Store.Program α} {s : Trial}
    (h : p.Always (faulty mint rules kept) post s) :
    (∃ a s', s.run mint rules p = (some a, s'.memory) ∧ s'.met = s.meets mint rules p ∧
        post a s') ∨
      ((s.run mint rules p).1 = none ∧ (s.run mint rules p).2.committed = kept ∧
        s.meets mint rules p = true) := by
  induction p generalizing s with
  | done a => exact Or.inl ⟨a, s, rfl, (Bool.or_false _).symm, h⟩
  | ask c f ih =>
    obtain ⟨hready, hmoves⟩ := h
    cases hr : (s.memory.performFaulty mint s.staged (faultAt? rules s.before c) c).1 with
    | none =>
      obtain ⟨hf, hm⟩ := Memory.performFaulty_hangs hr
      have hrun : s.run mint rules (.ask c f) = (none, s.memory) := by
        unfold run
        simp only [Memory.runFaulty, hr, hm]
      have hmeets : s.meets mint rules (.ask c f) = true := by
        simp [meets, Memory.meetsFault, hf]
      exact Or.inr ⟨by rw [hrun], by rw [hrun]; exact hready, hmeets⟩
    | some r =>
      have hmove : (faulty mint rules kept).moves c s r (s.next mint rules c) :=
        ⟨Prod.ext hr rfl, rfl, rfl⟩
      have hrun : s.run mint rules (.ask c f) = (s.next mint rules c).run mint rules (f r) := by
        unfold run
        simp only [Memory.runFaulty, hr]
        rfl
      rw [hrun, ← meets_ask s c f hr]
      exact ih r (hmoves r _ hmove)

/-- All that a call can come to where faults only interrupt. -/
theorem moves_cases (hrules : ∀ r ∈ rules, r.fault.Interrupts) {c : Call}
    {r : Except StoreError c.Reply} (h : (faulty mint rules kept).moves c s r s') :
    (s.memory.perform mint s.staged c = (r, s'.memory, s'.staged) ∧ s'.met = s.met) ∨
      (s'.met = true ∧ s'.memory = s.memory ∧ s'.staged = s.staged ∧ ∃ e, r = .error e) := by
  obtain ⟨hp, _, hmet⟩ := h
  cases hf : faultAt? rules s.before c with
  | none =>
    rw [hf] at hp hmet
    obtain ⟨hr, hrest⟩ := Prod.mk.inj hp
    exact Or.inl ⟨Prod.ext (Option.some.inj hr) hrest, by simpa using hmet⟩
  | some f =>
    have hint := Store.faultAt?_interrupts hrules hf
    rw [hf] at hp hmet
    cases f with
    | fail e =>
      obtain ⟨hr, hm, hs⟩ := by simpa only [Memory.performFaulty, Prod.mk.injEq] using hp
      exact Or.inr ⟨by simpa using hmet, hm.symm, hs.symm, e, (Option.some.inj hr).symm⟩
    | hang => simp [Memory.performFaulty] at hp
    | absent | rival | rivalAfter => exact hint.elim

/-- A reply to a call that the store does is the store's own. -/
theorem moves_ok (hrules : ∀ r ∈ rules, r.fault.Interrupts) {c : Call} {r a : c.Reply} {m' : Memory}
    {staged' : Tables} (hp : s.memory.perform mint s.staged c = (.ok r, m', staged'))
    (h : (faulty mint rules kept).moves c s (.ok a) s') :
    a = r ∧ s'.met = s.met ∧ s'.memory = m' ∧ s'.staged = staged' := by
  rcases moves_cases hrules h with ⟨hperform, hmet⟩ | ⟨_, _, _, e, he⟩
  · rw [hp] at hperform
    obtain ⟨hreply, hrest⟩ := Prod.mk.inj hperform
    obtain ⟨hmem, hstaged⟩ := Prod.mk.inj hrest
    exact ⟨(Except.ok.inj hreply).symm, hmet, hmem.symm, hstaged.symm⟩
  · cases he

/-- An error in place of what the store would have done is a fault. -/
theorem moves_error (hrules : ∀ r ∈ rules, r.fault.Interrupts) {c : Call} {r : c.Reply}
    {m' : Memory} {staged' : Tables} {e : StoreError}
    (hp : s.memory.perform mint s.staged c = (.ok r, m', staged'))
    (h : (faulty mint rules kept).moves c s (.error e) s') :
    s'.met = true ∧ s'.memory = s.memory ∧ s'.staged = s.staged := by
  rcases moves_cases hrules h with ⟨hperform, _⟩ | ⟨hmet, hmem, hstaged, _⟩
  · rw [hp] at hperform
    cases (Prod.mk.inj hperform).1
  · exact ⟨hmet, hmem, hstaged⟩

/-- Nothing has been committed and, at least if guids are `fresh`, a fault has been met. -/
structure Failed (kept : Tables) (fresh : Prop) (s : Trial) : Prop where
  met : fresh → s.met = true
  kept : s.memory.committed = kept

/-- No fault has been met, nothing has been committed, and `seen` is what the transaction sees. -/
structure Clean (mint : Mint) (kept : Tables) (seen : Memory) (s : Trial) : Prop where
  met : s.met = false
  kept : s.memory.committed = kept
  alone : s.memory.Alone mint s.staged
  seen : s.memory.seen s.staged = seen

theorem Clean.find? {d : Memory} (hs : Clean mint kept d s) (k : Entity) (key : String) :
    Table.find? (s.staged.of k) (s.memory.committed.of k) key = (d.committed.of k).row? key := by
  rw [hs.alone.find? k key, hs.seen]

theorem Clean.findGuid? {d : Memory} (hs : Clean mint kept d s) (k : Entity) (g : Guid) :
    Table.findGuid? (s.staged.of k) (s.memory.committed.of k) g = (d.committed.of k).get? g := by
  rw [hs.alone.findGuid? k g, hs.seen]

theorem Clean.sound {d : Memory} (hs : Clean mint kept d s) : d.Sound mint :=
  hs.seen ▸ hs.alone.seen

theorem Clean.rows {d : Memory} (hs : Clean mint kept d s) : d.rows = s.memory.rows := by
  rw [← hs.seen]
  rfl

theorem Clean.names {d : Memory} (hs : Clean mint kept d s) : d.names = s.memory.names := by
  rw [← hs.seen]
  rfl

theorem Clean.createRow {d : Memory} (hs : Clean mint kept d s) (k : Entity) (row : k.Of)
    (hfree : (d.committed.of k).row? (Row.key row) = none) :
    s.memory.createRow s.staged k row =
      (.ok (), s.memory.gave k, s.staged.set k ((s.staged.of k).put (Row.guid row) row)) :=
  Memory.createRow_of_none ((hs.find? k _).trans hfree)

theorem Clean.createRow_taken {d : Memory} (hs : Clean mint kept d s) (k : Entity) (row : k.Of)
    {row' : k.Of} (htaken : (d.committed.of k).row? (Row.key row) = some row') :
    s.memory.createRow s.staged k row =
      (.error (.duplicate (Row.entity k.Of).name (Row.key row)), s.memory, s.staged) :=
  Memory.createRow_of_some ((hs.find? k _).trans htaken)

theorem Clean.add (hd : mint.Distinct) {d : Memory} (hs : Clean mint kept d s) {k : Entity}
    {row : k.Of} (hg : Row.guid row = mint.guid k (d.given k))
    (hfree : (d.committed.of k).row? (Row.key row) = none) (hmet : s'.met = false)
    (hm : s'.memory = s.memory.gave k)
    (hstaged : s'.staged = s.staged.set k ((s.staged.of k).put (Row.guid row) row)) :
    Clean mint kept (d.add k row) s' := by
  have hseen := hs.seen
  subst hseen
  rw [Memory.given_seen] at hg
  refine ⟨hmet, ?_, ?_, ?_⟩
  · rw [hm, Memory.committed_gave, hs.kept]
  · rw [hm, hstaged]
    exact hs.alone.add hd k row hg hfree
  · rw [hm, hstaged, hs.alone.seen_add k row]

theorem Clean.change (hd : mint.Distinct) {d : Memory} (hs : Clean mint kept d s) {k : Entity}
    {g : Guid} {row row' : k.Of} (hrow : (d.committed.of k).get? g = some row)
    (hg : Row.guid row' = Row.guid row) (hp : Store.Fixed.part row' = Store.Fixed.part row)
    (hmet : s'.met = false) (hm : s'.memory = s.memory)
    (hstaged : s'.staged = s.staged.set k ((s.staged.of k).put g row')) :
    Clean mint kept (d.change k g row') s' := by
  have hseen := hs.seen
  subst hseen
  refine ⟨hmet, hm ▸ hs.kept, ?_, ?_⟩
  · rw [hm, hstaged]
    exact hs.alone.change hd k hrow hg hp
  · rw [hm, hstaged, hs.alone.seen_change k g row']

end Trial

namespace Upsert

open Trial (Failed Clean)

variable {mint : Mint} {rules : List FaultRule} {kept : Tables} {fresh : Prop} {d : Memory}
  {s : Trial}

/-- Every course under faults ends in an error after a fault, or as `good` says. -/
abbrev Tries (mint : Mint) (rules : List FaultRule) (kept : Tables) (fresh : Prop) {α : Type}
    (good : α → Trial → Prop) (x : Step α) (s : Trial) : Prop :=
  Ends (faulty mint rules kept) (fun _ s' => Failed kept fresh s') good x s

theorem tries_call (hrules : ∀ r ∈ rules, r.fault.Interrupts) (hs : Clean mint kept d s) {c : Call}
    {r : c.Reply} {m' : Memory} {staged' : Tables}
    (hp : s.memory.perform mint s.staged c = (.ok r, m', staged')) {good : c.Reply → Trial → Prop}
    (hgood : ∀ s', s'.met = false → s'.memory = m' → s'.staged = staged' → good r s') :
    Tries mint rules kept fresh good (call c) s := by
  refine ends_call hs.kept ?_ ?_
  · intro a s' hm
    obtain ⟨rfl, hmet, hmem, hstaged⟩ := Trial.moves_ok hrules hp hm
    exact hgood s' (hmet.trans hs.met) hmem hstaged
  · intro e s' hm
    obtain ⟨hmet, hmem, _⟩ := Trial.moves_error hrules hp hm
    exact ⟨fun _ => hmet, by rw [hmem, hs.kept]⟩

theorem tries_lookup (hrules : ∀ r ∈ rules, r.fault.Interrupts) (hs : Clean mint kept d s)
    {c : Call} {r : c.Reply} (hp : s.memory.perform mint s.staged c = (.ok r, s.memory, s.staged))
    {good : c.Reply → Trial → Prop} (hgood : ∀ s', Clean mint kept d s' → good r s') :
    Tries mint rules kept fresh good (call c) s := by
  refine tries_call hrules hs hp fun s' hmet hm hstaged => hgood s' ?_
  refine ⟨hmet, hm ▸ hs.kept, ?_, ?_⟩ <;> rw [hm, hstaged]
  · exact hs.alone
  · exact hs.seen

/-- A call that the store refuses ends the step, with or without a fault. -/
theorem tries_refused (hrules : ∀ r ∈ rules, r.fault.Interrupts) (hs : Clean mint kept d s)
    {c : Call} {e : StoreError} {staged' : Tables}
    (hp : s.memory.perform mint s.staged c = (.error e, s.memory, staged')) (hnot : ¬ fresh)
    {good : c.Reply → Trial → Prop} : Tries mint rules kept fresh good (call c) s := by
  refine ends_call hs.kept ?_ ?_
  · intro a s' hm
    rcases Trial.moves_cases hrules hm with ⟨hperform, _⟩ | ⟨_, _, _, e', he⟩
    · rw [hp] at hperform
      cases (Prod.mk.inj hperform).1
    · cases he
  · intro e' s' hm
    rcases Trial.moves_cases hrules hm with ⟨hperform, _⟩ | ⟨hmet, hmem, _, _⟩
    · rw [hp] at hperform
      have hmem := (Prod.mk.inj (Prod.mk.inj hperform).2).1
      exact ⟨fun h => absurd h hnot, by rw [← hmem, hs.kept]⟩
    · exact ⟨fun _ => hmet, by rw [hmem, hs.kept]⟩

/-- A creation is done, or it has met a fault that looks like a duplicate. -/
theorem tries_create (hd : mint.Distinct) (hrules : ∀ r ∈ rules, r.fault.Interrupts)
    (hs : Clean mint kept d s) {c : Call} {k : Entity} {row : k.Of} {r : c.Reply}
    (hp : s.memory.perform mint s.staged c =
      (.ok r, s.memory.gave k, s.staged.set k ((s.staged.of k).put (Row.guid row) row)))
    (hg : Row.guid row = mint.guid k (d.given k))
    (hfree : (d.committed.of k).row? (Row.key row) = none) {good : Bool → Trial → Prop}
    (hdone : ∀ s', Clean mint kept (d.add k row) s' → good true s')
    (hnot : ∀ s', s'.met = true → s'.memory = s.memory → s'.staged = s.staged → good false s') :
    Tries mint rules kept fresh good (create c) s := by
  refine ends_create hs.kept ?_ ?_ ?_
  · intro a s' hm
    obtain ⟨_, hmet, hmem, hstaged⟩ := Trial.moves_ok hrules hp hm
    exact hdone s' (hs.add hd hg hfree (hmet.trans hs.met) hmem hstaged)
  · intro e s' hm _
    obtain ⟨hmet, hmem, hstaged⟩ := Trial.moves_error hrules hp hm
    exact hnot s' hmet hmem hstaged
  · intro e s' hm _
    obtain ⟨hmet, hmem, _⟩ := Trial.moves_error hrules hp hm
    exact ⟨fun _ => hmet, by rw [hmem, hs.kept]⟩

/-- A lookup after a creation that was not done finds what it found before. -/
theorem tries_again (hrules : ∀ r ∈ rules, r.fault.Interrupts) (hs : Clean mint kept d s)
    {s' : Trial} (hmet : s'.met = true) (hm : s'.memory = s.memory) (hstaged : s'.staged = s.staged)
    {c : Call} {r : c.Reply} (hp : s.memory.perform mint s.staged c = (.ok r, s.memory, s.staged))
    {good : c.Reply → Trial → Prop} (hgood : ∀ s'', Failed kept fresh s'' → good r s'') :
    Tries mint rules kept fresh good (call c) s' := by
  have hkept : s'.memory.committed = kept := hm ▸ hs.kept
  rw [← hm, ← hstaged] at hp
  refine ends_call hkept ?_ ?_
  · intro a s'' hmove
    obtain ⟨rfl, hmet', hm', _⟩ := Trial.moves_ok hrules hp hmove
    exact hgood s'' ⟨fun _ => hmet'.trans hmet, by rw [hm', hkept]⟩
  · intro e s'' hmove
    obtain ⟨hmet', hm', _⟩ := Trial.moves_error hrules hp hmove
    exact ⟨fun _ => hmet', by rw [hm', hkept]⟩

/-! ## The stages of an upsert -/

theorem tries_period (hd : mint.Distinct) (hrules : ∀ r ∈ rules, r.fault.Interrupts)
    (hs : Clean mint kept d s) (spec : PeriodSpec) :
    Tries mint rules kept fresh (fun row s' => row = (ensurePeriod mint d spec).1 ∧
      Clean mint kept (ensurePeriod mint d spec).2 s') (period spec) s := by
  have hlookup : ∀ {d' : Memory} {s' : Trial}, Clean mint kept d' s' →
      s'.memory.perform mint s'.staged (.periodByCode spec.code) =
        (.ok (d'.committed.periods.row? spec.code), s'.memory, s'.staged) :=
    fun h => congrArg (fun r => (Except.ok r, _, _)) (h.find? .period spec.code)
  unfold period
  refine ends_bind (tries_lookup hrules hs (hlookup hs) fun s₁ h₁ => ?_)
  cases hfree : d.committed.periods.row? spec.code with
  | some row =>
    rw [ensurePeriod_of_some hfree]
    exact ends_pure ⟨rfl, h₁⟩
  | none =>
    rw [ensurePeriod_of_none hfree]
    have hp := s₁.memory.perform_createPeriod mint s₁.staged (periodDraft spec)
    rw [← h₁.rows, h₁.createRow .period ((periodDraft spec).toPeriod _) hfree] at hp
    refine ends_bind (tries_create hd hrules h₁ hp rfl hfree (fun s₂ h₂ => ?_)
      fun s₂ hmet hm hstaged => ?_)
    · refine ends_bind (tries_lookup hrules h₂ (hlookup h₂) fun s₃ h₃ => ?_)
      have hfound : Table.row? (Memory.committed _).periods spec.code =
          some ((periodDraft spec).toPeriod (mint.row d.rows)) :=
        Memory.row?_add (k := .period) h₂.sound
      rw [hfound]
      exact ends_pure ⟨rfl, h₃⟩
    · refine ends_bind (tries_again hrules h₁ hmet hm hstaged (hlookup h₁) fun s₃ h₃ => ?_)
      rw [hfree]
      exact ends_throw h₃

theorem tries_team (hd : mint.Distinct) (hrules : ∀ r ∈ rules, r.fault.Interrupts)
    {language : Guid} (hs : Clean mint kept d s) (hnew : fresh → mint.Unforeseen language d)
    (t : TeamRef) (ecosystem : Guid) :
    Tries mint rules kept fresh (fun row s' => row = (ensureTeam mint d t ecosystem language).1 ∧
      Clean mint kept (ensureTeam mint d t ecosystem language).2 s')
      (team t ecosystem language) s := by
  have hlookup : ∀ {d' : Memory} {s' : Trial}, Clean mint kept d' s' →
      s'.memory.perform mint s'.staged (.team t.externalId ecosystem) =
        (.ok (d'.committed.teams.row? (pairKey t.externalId ecosystem)), s'.memory, s'.staged) :=
    fun h => congrArg (fun r => (Except.ok r, _, _))
      (h.find? .team (pairKey t.externalId ecosystem))
  unfold team
  refine ends_bind (tries_lookup hrules hs (hlookup hs) fun s₁ h₁ => ?_)
  cases hfree : d.committed.teams.row? (pairKey t.externalId ecosystem) with
  | some row =>
    rw [ensureTeam_of_some hfree]
    exact ends_pure ⟨rfl, h₁⟩
  | none =>
    rw [ensureTeam_of_none hfree]
    have hp := s₁.memory.perform_createTeam mint s₁.staged (teamDraft t ecosystem)
    rw [← h₁.rows, h₁.createRow .team ((teamDraft t ecosystem).toTeam _) hfree] at hp
    refine ends_bind (tries_create hd hrules h₁ hp rfl hfree (fun s₂ h₂ => ?_)
      fun s₂ hmet hm hstaged => ?_)
    · refine ends_bind (tries_lookup hrules h₂ (hlookup h₂) fun s₃ h₃ => ?_)
      have hfound : Table.row? (Memory.committed _).teams (pairKey t.externalId ecosystem) =
          some ((teamDraft t ecosystem).toTeam (mint.row d.rows)) :=
        Memory.row?_add (k := .team) h₂.sound
      rw [hfound]
      refine ends_bind (ends_pure ?_)
      have hp' := s₃.memory.perform_createTeamName mint s₃.staged
        (teamNameDraft t (mint.row d.rows) language)
      rw [← h₃.names] at hp'
      -- the team is new, but a name may have been committed under its guid before
      cases hname : d.committed.teamNames.row? (pairKey (mint.row d.rows) language) with
      | none =>
        rw [h₃.createRow .teamName
          ((teamNameDraft t (mint.row d.rows) language).toTeamName _) hname] at hp'
        refine ends_bind (tries_call hrules h₃ hp' fun s₄ hmet hm hstaged => ?_)
        exact ends_pure ⟨rfl, h₃.add hd (k := .teamName) rfl hname hmet hm hstaged⟩
      | some name =>
        have hnot : ¬ fresh := by
          intro hf
          have hnone := (Table.row?_eq_none_iff _ _).mpr (hnew hf d.rows (Nat.le_refl _))
          cases hname.symm.trans hnone
        rw [h₃.createRow_taken .teamName
          ((teamNameDraft t (mint.row d.rows) language).toTeamName _) hname] at hp'
        exact ends_bind (tries_refused hrules h₃ hp' hnot)
    · refine ends_bind (tries_again hrules h₁ hmet hm hstaged (hlookup h₁) fun s₃ h₃ => ?_)
      rw [hfree]
      exact ends_throw h₃

theorem tries_teams (hd : mint.Distinct) (hrules : ∀ r ∈ rules, r.fault.Interrupts)
    {language : Guid} (hs : Clean mint kept d s) (hnew : fresh → mint.Unforeseen language d)
    (pair : TeamPair) :
    Tries mint rules kept fresh (fun both s' => both = (ensureTeams mint d pair language).1 ∧
      Clean mint kept (ensureTeams mint d pair language).2 s') (teams pair language) s := by
  unfold teams
  refine ends_bind ((tries_team hd hrules hs hnew pair.home pair.ecosystem).imp ?_)
  rintro home s₁ ⟨rfl, h₁⟩
  have hnew' : fresh → _ := fun hf => unforeseen_ensureTeam hd (hnew hf) pair.home pair.ecosystem
  refine ends_bind ((tries_team hd hrules h₁ hnew' pair.away pair.ecosystem).imp ?_)
  rintro away s₂ ⟨rfl, h₂⟩
  exact ends_pure ⟨rfl, h₂⟩

theorem tries_event (hd : mint.Distinct) (hrules : ∀ r ∈ rules, r.fault.Interrupts)
    (hs : Clean mint kept d s) (o : Observation) (period : Guid) (teams : Option (Team × Team)) :
    Tries mint rules kept fresh (fun outcome s' => outcome = (writeEvent mint d o period teams).1 ∧
      Clean mint kept (writeEvent mint d o period teams).2 s') (event o period teams) s := by
  have hlookup : ∀ {d' : Memory} {s' : Trial}, Clean mint kept d' s' →
      s'.memory.perform mint s'.staged (.eventByExternalId o.externalId) =
        (.ok (d'.committed.events.row? o.externalId), s'.memory, s'.staged) :=
    fun h => congrArg (fun r => (Except.ok r, _, _)) (h.find? .event o.externalId)
  unfold event
  refine ends_bind (tries_lookup hrules hs (hlookup hs) fun s₁ h₁ => ?_)
  cases hrow : d.committed.events.row? o.externalId with
  | some row =>
    rw [writeEvent_of_some hrow]
    have hget : (d.committed.of .event).get? row.guid = some row :=
      (((h₁.sound .event).row?_eq_some_iff o.externalId row).mp hrow).1
    have hp := s₁.memory.perform_updateEvent mint s₁.staged row.guid (patch o period teams)
    rw [Memory.updateRow_of_some ((h₁.findGuid? .event row.guid).trans hget)] at hp
    refine ends_bind (tries_call hrules h₁ hp fun s₂ hmet hm hstaged => ?_)
    exact ends_pure ⟨rfl, h₁.change hd (k := .event) hget rfl rfl hmet hm hstaged⟩
  | none =>
    rw [writeEvent_of_none hrow]
    have hp := s₁.memory.perform_createEvent mint s₁.staged (draft o period teams)
    rw [← h₁.rows, h₁.createRow .event ((draft o period teams).toEvent _) hrow] at hp
    refine ends_bind (tries_call hrules h₁ hp fun s₂ hmet hm hstaged => ?_)
    have h₂ : Clean mint kept
        (d.add .event ((draft o period teams).toEvent (mint.row d.rows))) s₂ :=
      h₁.add hd rfl hrow hmet hm hstaged
    refine ends_bind (tries_lookup hrules h₂ (hlookup h₂) fun s₃ h₃ => ?_)
    have hfound : Table.row? (Memory.committed _).events o.externalId =
        some ((draft o period teams).toEvent (mint.row d.rows)) :=
      Memory.row?_add (k := .event) h₂.sound
    rw [hfound]
    exact ends_pure ⟨rfl, h₃⟩

theorem tries_title (hd : mint.Distinct) (hrules : ∀ r ∈ rules, r.fault.Interrupts)
    (hs : Clean mint kept d s) (o : Observation) (event : Guid) :
    Tries mint rules kept fresh (fun _ s' => Clean mint kept (writeTitle mint d o event) s')
      (title o event) s := by
  have hlookup : ∀ {d' : Memory} {s' : Trial}, Clean mint kept d' s' →
      s'.memory.perform mint s'.staged (.title event o.identity.language) =
        (.ok (d'.committed.titles.row? (pairKey event o.identity.language)), s'.memory,
          s'.staged) :=
    fun h => congrArg (fun r => (Except.ok r, _, _))
      (h.find? .title (pairKey event o.identity.language))
  unfold title
  refine ends_bind (tries_lookup hrules hs (hlookup hs) fun s₁ h₁ => ?_)
  cases hrow : d.committed.titles.row? (pairKey event o.identity.language) with
  | some row =>
    rw [writeTitle_of_some hrow]
    by_cases hsame : row.title ≠ o.title
    · have hget : (d.committed.of .title).get? row.guid = some row :=
        (((h₁.sound .title).row?_eq_some_iff _ row).mp hrow).1
      have hp := s₁.memory.perform_updateTitle mint s₁.staged row.guid o.title
      rw [Memory.updateRow_of_some ((h₁.findGuid? .title row.guid).trans hget)] at hp
      simp only [if_pos hsame]
      refine tries_call hrules h₁ hp fun s₂ hmet hm hstaged => ?_
      exact h₁.change hd (k := .title) hget rfl rfl hmet hm hstaged
    · simp only [if_neg hsame]
      exact ends_pure h₁
  | none =>
    rw [writeTitle_of_none hrow]
    have hp := s₁.memory.perform_createTitle mint s₁.staged (titleDraft o event)
    rw [← h₁.rows, h₁.createRow .title ((titleDraft o event).toTitle _) hrow] at hp
    refine tries_call hrules h₁ hp fun s₂ hmet hm hstaged => ?_
    exact h₁.add hd (k := .title) rfl hrow hmet hm hstaged

/-- The last stages: the event, its title and the commit. -/
theorem tries_both (hd : mint.Distinct) (hrules : ∀ r ∈ rules, r.fault.Interrupts)
    (hs : Clean mint kept d s) (o : Observation) (period : Guid) (teams : Option (Team × Team)) :
    Tries mint rules kept fresh (fun outcome s' => outcome = (writeBoth mint d o period teams).1 ∧
      s'.met = false ∧ s'.memory = (writeBoth mint d o period teams).2)
      (do
        let outcome ← event o period teams
        title o outcome.guid
        call .commit
        return outcome) s := by
  refine ends_bind ((tries_event hd hrules hs o period teams).imp ?_)
  rintro outcome s₁ ⟨rfl, h₁⟩
  refine ends_bind ((tries_title hd hrules h₁ o _).imp ?_)
  intro _ s₂ h₂
  have hp : s₂.memory.perform mint s₂.staged .commit =
      (.ok (), s₂.memory.seen s₂.staged, {}) := by
    simp only [Memory.perform, h₂.alone.conflict?]
    rfl
  refine ends_bind (tries_call hrules h₂ hp fun s₃ hmet hmem _ => ?_)
  exact ends_pure ⟨rfl, hmet, hmem.trans h₂.seen⟩

/-- An upsert that meets no fault does what the direct write does, and is committed. -/
theorem tries_steps (hd : mint.Distinct) (hrules : ∀ r ∈ rules, r.fault.Interrupts) {m : Memory}
    (hm : m.Sound mint) (o : Observation) (hnew : fresh → mint.Unforeseen o.identity.language m) :
    Tries mint rules m.committed fresh (fun outcome s' => outcome = (write mint m o).1 ∧
      s'.met = false ∧ s'.memory = (write mint m o).2) (steps o) { memory := m } := by
  have hs : Clean mint m.committed m { memory := m } := ⟨rfl, rfl, hm.alone, rfl⟩
  unfold steps
  refine ends_bind (tries_lookup hrules hs rfl fun s₁ h₁ => ?_)
  refine ends_bind ((tries_period hd hrules h₁ o.period).imp ?_)
  rintro period s₂ ⟨rfl, h₂⟩
  have hnew' : fresh → _ := fun hf => unforeseen_ensurePeriod (hnew hf) o.period
  unfold write
  cases hteams : o.teams with
  | some pair =>
    rw [ensurePlayers_of_some hteams]
    refine ends_bind (ends_map ((tries_teams hd hrules h₂ hnew' pair).imp ?_))
    rintro both s₃ ⟨rfl, h₃⟩
    exact tries_both hd hrules h₃ o _ _
  | none =>
    rw [ensurePlayers_of_none hteams]
    exact ends_bind (ends_pure (tries_both hd hrules h₂ o _ _))

/-! ## Whole upserts -/

/-- The upsert of an observation in a transaction of its own, given up if a call hangs. -/
def underFaults (mint : Mint) (rules : List FaultRule) (timeout : Duration) (m : Memory)
    (o : Observation) : Except UpsertError Outcome × Memory :=
  let (result, m) := m.runFaulty mint rules [] {} (program o)
  (result.getD (.error (abandoned o timeout)), m)

/-- Whether that upsert comes to a call at which there is a fault. -/
def meetsFault (mint : Mint) (rules : List FaultRule) (m : Memory) (o : Observation) : Bool :=
  m.meetsFault mint rules [] {} (program o)

/-- An upsert under faults is the direct write, or it fails and keeps what was committed. It never
fails by itself, unless a team name has been committed under a guid that was still to come. -/
theorem underFaults_cases {m : Memory} {o : Observation} (hd : mint.Distinct)
    (hrules : ∀ r ∈ rules, r.fault.Interrupts) (hm : m.Sound mint) (timeout : Duration) :
    (meetsFault mint rules m o = false ∧
        underFaults mint rules timeout m o = (.ok (write mint m o).1, (write mint m o).2)) ∨
      ((mint.Unforeseen o.identity.language m → meetsFault mint rules m o = true) ∧
        (∃ e, (underFaults mint rules timeout m o).1 = .error e) ∧
        (underFaults mint rules timeout m o).2.committed = m.committed) := by
  have hmeets : meetsFault mint rules m o =
      ({ memory := m } : Trial).meets mint rules (program o) := (Bool.false_or _).symm
  rw [hmeets]
  rcases Trial.run_of_always (tries_steps hd hrules hm o id) with
    ⟨r, s, hrun, hmet, hpost⟩ | ⟨hnone, hkept, hmet⟩
  · have hunder : underFaults mint rules timeout m o = (r, s.memory) := by
      change (_, _) = _
      exact congrArg (fun x : Option (Except UpsertError Outcome) × Memory =>
        (x.1.getD (.error (abandoned o timeout)), x.2)) hrun
    rw [hunder]
    cases r with
    | ok outcome =>
      obtain ⟨houtcome, hclean, hmemory⟩ := hpost
      exact Or.inl ⟨hmet.symm.trans hclean, by rw [houtcome, hmemory]⟩
    | error e => exact Or.inr ⟨fun hnew => hmet.symm.trans (hpost.met hnew), ⟨e, rfl⟩, hpost.kept⟩
  · refine Or.inr ⟨fun _ => hmet, ⟨abandoned o timeout, ?_⟩, hkept⟩
    exact congrArg (fun x : Option (Except UpsertError Outcome) =>
      x.getD (.error (abandoned o timeout))) hnone

/-- Without faults an upsert alone on a store succeeds, and is the direct write. -/
theorem run_program {m : Memory} {o : Observation} (hd : mint.Distinct) (hm : m.Sound mint)
    (hnew : mint.Unforeseen o.identity.language m) :
    (m.run mint {} (program o)).1 = .ok (write mint m o).1 ∧
      (m.run mint {} (program o)).2.1 = (write mint m o).2 := by
  have hrun : underFaults mint [] .zero m o =
      ((m.run mint {} (program o)).1, (m.run mint {} (program o)).2.1) := by
    unfold underFaults
    rw [Memory.runFaulty_nil]
    rfl
  have hrules : ∀ r ∈ ([] : List FaultRule), r.fault.Interrupts := by simp
  rcases underFaults_cases hd hrules hm .zero with ⟨_, hok⟩ | ⟨hmeets, _, _⟩
  · rw [hrun] at hok
    exact Prod.mk.inj hok
  · have hmet := hmeets hnew
    rw [meetsFault, Memory.meetsFault_nil] at hmet
    cases hmet

end Upsert

end LiveEvents
