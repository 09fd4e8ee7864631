import LiveEvents.Proofs.CommittedRows
import LiveEvents.Proofs.DirectWrites
import LiveEvents.Proofs.SharedCourses

/-!
# Upserts that race

Any number of upserts run on one store, one call of one of them at a time, and each may be
abandoned before it ends. In every state that is reached, all references between committed rows
lead somewhere, every upsert that succeeded names the event of its id, and no two upserts have
created the event of one id.
-/

namespace LiveEvents.Upsert

open Store (Entity Memory Mint Row Table Tables)

/-- An upsert and what is left of it to do. -/
structure Writer where
  observation : Observation
  rest : Store.Program (Except UpsertError Outcome)
  staged : Tables := {}

namespace Writer

def result? (w : Writer) : Option (Except UpsertError Outcome) :=
  match w.rest with
  | .done r => some r
  | .ask _ _ => none

/-- The next call of an upsert, if there is one left. -/
def advance (mint : Mint) (m : Memory) (w : Writer) : Memory × Writer :=
  match w.rest with
  | .done _ => (m, w)
  | .ask c next =>
    let (reply, m, staged) := m.perform mint w.staged c
    (m, { w with rest := next reply, staged })

/-- An upsert that has not ended in its time drops its transaction. -/
def abandon (timeout : Duration) (w : Writer) : Writer :=
  match w.rest with
  | .done _ => w
  | .ask _ _ =>
    { w with rest := .done (.error (abandoned w.observation timeout)), staged := {} }

end Writer

/-- A store and all upserts that have been started on it. -/
structure Race where
  memory : Memory := {}
  writers : List Writer := []

inductive Move where
  | start (o : Observation)
  | advance (writer : ℕ)
  | abandon (writer : ℕ) (timeout : Duration)

namespace Race

def act (mint : Mint) (r : Race) : Move → Race
  | .start o => { r with writers := r.writers ++ [{ observation := o, rest := program o }] }
  | .advance i =>
    match r.writers[i]? with
    | some w =>
      let (memory, w) := w.advance mint r.memory
      { memory, writers := r.writers.set i w }
    | none => r
  | .abandon i timeout =>
    match r.writers[i]? with
    | some w => { r with writers := r.writers.set i (w.abandon timeout) }
    | none => r

def after (mint : Mint) (moves : List Move) : Race :=
  moves.foldl (act mint) {}

theorem act_of_done {mint : Mint} {r : Race} {i : ℕ} {w : Writer}
    {x : Except UpsertError Outcome} (hi : r.writers[i]? = some w) (hrest : w.rest = .done x) :
    r.act mint (.advance i) = r := by
  obtain ⟨hlt, hw⟩ := List.getElem?_eq_some_iff.mp hi
  simp only [act, hi, Writer.advance, hrest]
  rw [← hw, List.set_getElem_self]

theorem act_of_ask {mint : Mint} {r : Race} {i : ℕ} {w : Writer} {c : Store.Call}
    {next : Except Store.StoreError c.Reply → Store.Program (Except UpsertError Outcome)}
    (hi : r.writers[i]? = some w) (hrest : w.rest = .ask c next) :
    r.act mint (.advance i) =
      { memory := (r.memory.perform mint w.staged c).2.1
        writers := r.writers.set i { w with
          rest := next (r.memory.perform mint w.staged c).1
          staged := (r.memory.perform mint w.staged c).2.2 } } := by
  simp only [act, hi, Writer.advance, hrest]

theorem getElem?_set_cases {α : Type} {as : List α} {i j : ℕ} {a b : α}
    (h : (as.set j b)[i]? = some a) : (i = j ∧ a = b) ∨ (i ≠ j ∧ as[i]? = some a) := by
  by_cases hij : i = j
  · subst hij
    rw [List.getElem?_set_self'] at h
    obtain ⟨_, _, ha⟩ := Option.map_eq_some_iff.mp h
    exact Or.inl ⟨rfl, ha.symm⟩
  · rw [List.getElem?_set_ne (Ne.symm hij)] at h
    exact Or.inr ⟨hij, h⟩

theorem getElem?_snoc_cases {α : Type} {as : List α} {i : ℕ} {a b : α}
    (h : (as ++ [b])[i]? = some a) : as[i]? = some a ∨ (i = as.length ∧ a = b) := by
  rcases Nat.lt_trichotomy i as.length with hlt | rfl | hgt
  · rw [List.getElem?_append_left hlt] at h
    exact Or.inl h
  · rw [List.getElem?_concat_length] at h
    exact Or.inr ⟨rfl, (Option.some.inj h).symm⟩
  · rw [List.getElem?_eq_none (by simp; omega)] at h
    cases h

/-- What an upsert can be after a move: as it was, new, one call further, or abandoned. -/
theorem writer_of_act {mint : Mint} {r : Race} {move : Move} {i : ℕ} {w : Writer}
    (h : (r.act mint move).writers[i]? = some w) :
    r.writers[i]? = some w ∨ (∃ o, w = { observation := o, rest := program o }) ∨
      (∃ w₀ c next, move = .advance i ∧ r.writers[i]? = some w₀ ∧ w₀.rest = .ask c next ∧
        w = { w₀ with
          rest := next (r.memory.perform mint w₀.staged c).1
          staged := (r.memory.perform mint w₀.staged c).2.2 }) ∨
      ∃ w₀ timeout, r.writers[i]? = some w₀ ∧ w = { w₀ with
        rest := .done (.error (abandoned w₀.observation timeout)), staged := {} } := by
  cases move with
  | start o =>
    change (r.writers ++ [{ observation := o, rest := program o }])[i]? = some w at h
    rcases getElem?_snoc_cases h with hold | ⟨_, hnew⟩
    · exact Or.inl hold
    · exact Or.inr (Or.inl ⟨o, hnew⟩)
  | advance j =>
    cases hj : r.writers[j]? with
    | none =>
      simp only [act, hj] at h
      exact Or.inl h
    | some w₀ =>
      cases hrest : w₀.rest with
      | done result =>
        rw [act_of_done hj hrest] at h
        exact Or.inl h
      | ask c next =>
        rw [act_of_ask hj hrest] at h
        rcases getElem?_set_cases h with ⟨rfl, hw⟩ | ⟨_, hold⟩
        · exact Or.inr (Or.inr (Or.inl ⟨w₀, c, next, rfl, hj, hrest, hw⟩))
        · exact Or.inl hold
  | abandon j timeout =>
    cases hj : r.writers[j]? with
    | none =>
      simp only [act, hj] at h
      exact Or.inl h
    | some w₀ =>
      cases hrest : w₀.rest with
      | done result =>
        simp only [act, hj, Writer.abandon, hrest] at h
        rcases getElem?_set_cases h with ⟨rfl, rfl⟩ | ⟨_, hold⟩
        · exact Or.inl hj
        · exact Or.inl hold
      | ask c next =>
        simp only [act, hj, Writer.abandon, hrest] at h
        rcases getElem?_set_cases h with ⟨rfl, hw⟩ | ⟨_, hold⟩
        · exact Or.inr (Or.inr (Or.inr ⟨w₀, timeout, hj, hw⟩))
        · exact Or.inl hold

end Race

/-- The race after these moves, from a store with any rows. -/
def Race.from (mint : Mint) (m : Memory) (moves : List Move) : Race :=
  moves.foldl (Race.act mint) { memory := m }

theorem Race.from_snoc {mint : Mint} {m : Memory} {moves : List Move} (move : Move) :
    Race.from mint m (moves ++ [move]) = (Race.from mint m moves).act mint move :=
  List.foldl_append

/-! ## What every move keeps -/

variable {mint : Mint}

/-- The staged rows of an upsert go with the store, and whatever others do, it ends well. -/
structure Writer.Safe (mint : Mint) (m : Memory) (w : Writer) : Prop where
  admits : m.Admits mint w.staged
  course : ∃ before, ∀ m', m.Rely mint w.staged m' →
    w.rest.Always (shared mint) (Written w.observation) ⟨before, m', w.staged⟩

theorem Writer.Safe.later {m m' : Memory} {w : Writer} (h : w.Safe mint m)
    (hrely : m.Rely mint w.staged m') : w.Safe mint m' := by
  obtain ⟨before, hcourse⟩ := h.course
  exact ⟨hrely.admits, before, fun m'' hrely' => hcourse m'' (hrely.trans hrely')⟩

theorem Writer.of_result? {σ : Type} {W : StoreSetting σ}
    {post : Except UpsertError Outcome → σ → Prop} {w : Writer} {s : σ}
    {r : Except UpsertError Outcome} (hr : w.result? = some r) (h : w.rest.Always W post s) :
    post r s := by
  unfold Writer.result? at hr
  cases hrest : w.rest with
  | done r' =>
    rw [hrest] at hr h
    rw [← Option.some.inj hr]
    exact h
  | ask c next =>
    rw [hrest] at hr
    cases hr

/-- An upsert that has ended has written what it says. -/
theorem Writer.Safe.written {m : Memory} {w : Writer} (h : w.Safe mint m) (hm : m.Sound mint)
    (hc : m.committed.Complete) {r : Except UpsertError Outcome} (hr : w.result? = some r) :
    ∃ before, Written w.observation r ⟨before, m, w.staged⟩ := by
  obtain ⟨before, hcourse⟩ := h.course
  exact ⟨before, Writer.of_result? hr (hcourse m (Memory.Rely.refl hm h.admits hc))⟩

structure Race.Safe (mint : Mint) (r : Race) : Prop where
  sound : r.memory.Sound mint
  complete : r.memory.committed.Complete
  writers : ∀ (i : ℕ) (w : Writer), r.writers[i]? = some w → w.Safe mint r.memory
  apart : ∀ (i j : ℕ) (w w' : Writer), i ≠ j → r.writers[i]? = some w → r.writers[j]? = some w' →
    r.memory.committed.Apart w.staged w'.staged
  created : ∀ (i j : ℕ) (w w' : Writer) (g g' : Guid), i ≠ j → r.writers[i]? = some w →
    r.writers[j]? = some w' → w.result? = some (.ok (.created g)) →
    w'.result? = some (.ok (.created g')) → w.observation.externalId ≠ w'.observation.externalId

theorem Race.safe_empty (mint : Mint) : ({} : Race).Safe mint where
  sound := Memory.sound_empty mint
  complete := Tables.complete_empty
  writers := by simp
  apart := by simp
  created := by simp

theorem Race.Safe.rely {r : Race} (h : r.Safe mint) {staged : Tables}
    (hs : r.memory.Admits mint staged) : r.memory.Rely mint staged r.memory :=
  Memory.Rely.refl h.sound hs h.complete

/-- One upsert has another state, and the others can rely on the store. -/
theorem Race.Safe.replace {r : Race} (h : r.Safe mint) {m : Memory} {i : ℕ} {w : Writer}
    (hm : m.Sound mint) (hc : m.committed.Complete) (hw : w.Safe mint m)
    (hrely : ∀ (j : ℕ) (w' : Writer), j ≠ i → r.writers[j]? = some w' →
      r.memory.Rely mint w'.staged m ∧ m.committed.Apart w.staged w'.staged)
    (hapart : ∀ (j k : ℕ) (w' w'' : Writer), j ≠ k → r.writers[j]? = some w' →
      r.writers[k]? = some w'' → m.committed.Apart w'.staged w''.staged)
    (hcreated : ∀ (j : ℕ) (w' : Writer) (g g' : Guid), j ≠ i → r.writers[j]? = some w' →
      w.result? = some (.ok (.created g)) → w'.result? = some (.ok (.created g')) →
      w.observation.externalId ≠ w'.observation.externalId) :
    ({ memory := m, writers := r.writers.set i w } : Race).Safe mint := by
  refine ⟨hm, hc, ?_, ?_, ?_⟩
  · intro j w' hj
    rcases Race.getElem?_set_cases hj with ⟨_, rfl⟩ | ⟨hji, hold⟩
    · exact hw
    · exact (h.writers j w' hold).later (hrely j w' hji hold).1
  · intro j k w' w'' hne hj hk
    rcases Race.getElem?_set_cases hj with ⟨rfl, rfl⟩ | ⟨hji, hold⟩
    · rcases Race.getElem?_set_cases hk with ⟨rfl, _⟩ | ⟨hki, hold'⟩
      · exact absurd rfl hne
      · exact (hrely k w'' hki hold').2
    · rcases Race.getElem?_set_cases hk with ⟨rfl, rfl⟩ | ⟨_, hold'⟩
      · exact (hrely j w' hji hold).2.symm
      · exact hapart j k w' w'' hne hold hold'
  · intro j k w' w'' g g' hne hj hk hg hg'
    rcases Race.getElem?_set_cases hj with ⟨rfl, rfl⟩ | ⟨hji, hold⟩
    · rcases Race.getElem?_set_cases hk with ⟨rfl, _⟩ | ⟨hki, hold'⟩
      · exact absurd rfl hne
      · exact hcreated k w'' g g' hki hold' hg hg'
    · rcases Race.getElem?_set_cases hk with ⟨rfl, rfl⟩ | ⟨_, hold'⟩
      · exact (hcreated j w' g' g hji hold hg' hg).symm
      · exact h.created j k w' w'' g g' hne hold hold' hg hg'

/-- A call of one upsert is something that the others rely on. -/
theorem Race.Safe.others {r : Race} (hd : mint.Distinct) (h : r.Safe mint) {i : ℕ} {w : Writer}
    (hi : r.writers[i]? = some w) {m : Memory} {staged : Tables}
    (hstep : Memory.Step mint r.memory w.staged m staged) (hc : m.committed.Complete) (j : ℕ)
    (w' : Writer) (hji : j ≠ i) (hj : r.writers[j]? = some w') :
    r.memory.Rely mint w'.staged m ∧ m.committed.Apart staged w'.staged := by
  have hs := (h.writers i w hi).admits
  have ho := (h.writers j w' hj).admits
  have ha := h.apart i j w w' (Ne.symm hji) hi hj
  exact ⟨⟨hstep.sound h.sound hs, hstep.admits_other hs ho ha, hc, hstep.continues hs,
    hstep.own_other hs ha⟩, hstep.apart hd ho ha⟩

/-- A call of an upsert keeps the tables complete. -/
theorem Writer.Safe.complete {m : Memory} {w : Writer} (h : w.Safe mint m) (hm : m.Sound mint)
    (hc : m.committed.Complete) {c : Store.Call} {next : Except Store.StoreError c.Reply →
      Store.Program (Except UpsertError Outcome)} (hrest : w.rest = .ask c next) :
    (m.perform mint w.staged c).2.1.committed.Complete := by
  obtain ⟨before, hcourse⟩ := h.course
  have hnow := hcourse m (Memory.Rely.refl hm h.admits hc)
  rw [hrest] at hnow
  by_cases hcommit : c = .commit
  · have hready := hnow.1 hcommit
    subst hcommit
    simp only [Memory.perform]
    cases w.staged.conflict? m.committed with
    | some e => exact hc
    | none => exact hready
  · rw [Memory.perform_committed mint m w.staged hcommit]
    exact hc

/-- An upsert is safe again after its next call. -/
theorem Writer.Safe.next {m : Memory} {w : Writer} (h : w.Safe mint m)
    (hm : m.Sound mint) (hc : m.committed.Complete) {c : Store.Call}
    {next : Except Store.StoreError c.Reply → Store.Program (Except UpsertError Outcome)}
    (hrest : w.rest = .ask c next) {m' : Memory}
    (hrely : (m.perform mint w.staged c).2.1.Rely mint (m.perform mint w.staged c).2.2 m') :
    (next (m.perform mint w.staged c).1).Always (shared mint) (Written w.observation)
      ⟨m.committed, m', (m.perform mint w.staged c).2.2⟩ := by
  obtain ⟨before, hcourse⟩ := h.course
  have hnow := hcourse m (Memory.Rely.refl hm h.admits hc)
  rw [hrest] at hnow
  exact hnow.2 _ _ ⟨(m.perform mint w.staged c).2.1, rfl, hrely, rfl⟩

/-- An upsert that makes no call, and stays as safe as it is. -/
theorem Race.Safe.leave {r : Race} (h : r.Safe mint) {i : ℕ} {w w' : Writer}
    (hi : r.writers[i]? = some w) (hw' : w'.Safe mint r.memory)
    (hstaged : w'.staged = w.staged ∨ w'.staged = {})
    (hcreated : ∀ g, w'.result? = some (.ok (.created g)) → w' = w) :
    ({ r with writers := r.writers.set i w' } : Race).Safe mint := by
  refine h.replace h.sound h.complete hw' ?_ h.apart ?_
  · intro j other hji hj
    refine ⟨h.rely (h.writers j other hj).admits, ?_⟩
    rcases hstaged with hsame | hempty
    · rw [hsame]
      exact h.apart i j w other (Ne.symm hji) hi hj
    · rw [hempty]
      exact Tables.Apart.empty _ _
  · intro j other g g' hji hj hg hg'
    have hsame := hcreated g hg
    rw [hsame] at hg ⊢
    exact h.created i j w other g g' (Ne.symm hji) hi hj hg hg'

theorem Race.Safe.advance (hd : mint.Distinct) {r : Race} (h : r.Safe mint) (i : ℕ) :
    (r.act mint (.advance i)).Safe mint := by
  cases hi : r.writers[i]? with
  | none =>
    simp only [Race.act, hi]
    exact h
  | some w =>
    have hw := h.writers i w hi
    cases hrest : w.rest with
    | done result =>
      simp only [Race.act, hi, Writer.advance, hrest]
      exact h.leave hi hw (Or.inl rfl) fun _ _ => rfl
    | ask c next =>
      simp only [Race.act, hi, Writer.advance, hrest]
      have hstep := Memory.perform_step mint r.memory w.staged c
      have hsound := hstep.sound h.sound hw.admits
      have hadmits := hstep.admits hd h.sound hw.admits
      have hcomplete := hw.complete h.sound h.complete hrest
      have hnext := hw.next h.sound h.complete hrest (Memory.Rely.refl hsound hadmits hcomplete)
      refine h.replace hsound hcomplete
        ⟨hadmits, _, fun _ hrely => hw.next h.sound h.complete hrest hrely⟩
        (h.others hd hi hstep hcomplete) ?_ ?_
      · exact fun j k w' w'' hjk hj hk => hstep.apart_others (h.apart j k w' w'' hjk hj hk)
      · intro j w' g g' _ hj hg hg' hid
        -- the event of the other upsert was committed before this call
        have hnone := (Writer.of_result? hg hnext _ rfl).2 g rfl
        obtain ⟨_, hother⟩ := (h.writers j w' hj).written h.sound h.complete hg'
        obtain ⟨⟨e, he, hkey⟩, _⟩ := hother _ rfl
        exact (Table.row?_eq_none_iff _ _).mp hnone e (Table.mem_rows_of_get? he)
          (hkey.trans hid.symm)

theorem Race.Safe.abandon {r : Race} (h : r.Safe mint) (i : ℕ) (timeout : Duration) :
    (r.act mint (.abandon i timeout)).Safe mint := by
  cases hi : r.writers[i]? with
  | none =>
    simp only [Race.act, hi]
    exact h
  | some w =>
    have hw := h.writers i w hi
    cases hrest : w.rest with
    | done result =>
      simp only [Race.act, hi, Writer.abandon, hrest]
      exact h.leave hi hw (Or.inl rfl) fun _ _ => rfl
    | ask c next =>
      simp only [Race.act, hi, Writer.abandon, hrest]
      have hdropped : Writer.Safe mint r.memory
          { observation := w.observation
            rest := .done (.error (abandoned w.observation timeout)) } :=
        ⟨Memory.admits_empty mint _, {}, fun _ _ => nofun⟩
      exact h.leave hi hdropped (Or.inr rfl) nofun

theorem Race.Safe.start (hd : mint.Distinct) (hslash : mint.Slashless) {r : Race}
    (h : r.Safe mint) (o : Observation) : (r.act mint (.start o)).Safe mint := by
  have hnew : Writer.Safe mint r.memory { observation := o, rest := program o } :=
    ⟨Memory.admits_empty mint _, {}, fun m' _ => program_written hd hslash o _⟩
  refine ⟨h.sound, h.complete, ?_, ?_, ?_⟩
  · intro j w hj
    rcases Race.getElem?_snoc_cases hj with hold | ⟨_, rfl⟩
    · exact h.writers j w hold
    · exact hnew
  · intro j k w w' hne hj hk
    rcases Race.getElem?_snoc_cases hj with hold | ⟨_, rfl⟩
    · rcases Race.getElem?_snoc_cases hk with hold' | ⟨_, rfl⟩
      · exact h.apart j k w w' hne hold hold'
      · exact (Tables.Apart.empty _ _).symm
    · exact Tables.Apart.empty _ _
  · intro j k w w' g g' hne hj hk hg hg'
    rcases Race.getElem?_snoc_cases hj with hold | ⟨_, rfl⟩
    · rcases Race.getElem?_snoc_cases hk with hold' | ⟨_, rfl⟩
      · exact h.created j k w w' g g' hne hold hold' hg hg'
      · cases hg'
    · cases hg

theorem Race.Safe.act (hd : mint.Distinct) (hslash : mint.Slashless) {r : Race} (h : r.Safe mint)
    (move : Move) : (r.act mint move).Safe mint := by
  cases move with
  | start o => exact h.start hd hslash o
  | advance i => exact h.advance hd i
  | abandon i timeout => exact h.abandon i timeout

theorem Race.safe_after (hd : mint.Distinct) (hslash : mint.Slashless) (moves : List Move) :
    (Race.after mint moves).Safe mint := by
  have hrun : ∀ (moves : List Move) (r : Race), r.Safe mint →
      (moves.foldl (Race.act mint) r).Safe mint := by
    intro moves
    induction moves with
    | nil => exact fun _ h => h
    | cons move moves ih => exact fun r h => ih _ (h.act hd hslash move)
  exact hrun moves {} (Race.safe_empty mint)

/-! ## What is seen in the rows -/

/-- Every reference between rows leads to a row, every event has a title, and every team has
exactly one name. -/
structure Resolved (t : Tables) : Prop where
  period : ∀ e ∈ t.events.rows, ∃ p ∈ t.periods.rows, p.guid = e.period
  home : ∀ e ∈ t.events.rows, e.homeTeam = noTeam ∨ ∃ team ∈ t.teams.rows, team.guid = e.homeTeam
  away : ∀ e ∈ t.events.rows, e.awayTeam = noTeam ∨ ∃ team ∈ t.teams.rows, team.guid = e.awayTeam
  event : ∀ l ∈ t.titles.rows, ∃ e ∈ t.events.rows, e.guid = l.event
  title : ∀ e ∈ t.events.rows, ∃ l ∈ t.titles.rows, l.event = e.guid
  name : ∀ team ∈ t.teams.rows, (t.teamNames.rows.filter (·.team = team.guid)).length = 1

theorem length_filter_eq_one {α : Type} {p : α → Bool} {as : List α} (hn : as.Nodup) {a : α}
    (ha : a ∈ as) (hp : p a = true) (honly : ∀ b ∈ as, p b = true → b = a) :
    (as.filter p).length = 1 := by
  have hall : ∀ b ∈ as.filter p, b = a :=
    fun b hb => honly b (List.mem_of_mem_filter hb) (List.of_mem_filter hb)
  have hrep := List.eq_replicate_of_mem hall
  have hle : (as.filter p).length ≤ 1 := List.nodup_replicate.mp (hrep ▸ hn.filter p)
  have hpos := List.length_pos_of_mem (List.mem_filter.mpr ⟨ha, hp⟩)
  omega

theorem resolved_of_complete {m : Memory} (hm : m.Sound mint) (hc : m.committed.Complete) :
    Resolved m.committed := by
  have hrow : ∀ (k : Entity) (g : Guid), (m.committed.of k).contains g = true →
      ∃ row ∈ (m.committed.of k).rows, Row.guid row = g := by
    intro k g hg
    obtain ⟨row, hget⟩ := (Table.contains_iff _ _).mp hg
    exact ⟨row, Table.mem_rows_of_get? hget, (hm k).own g row hget⟩
  have hevent : ∀ e ∈ m.committed.events.rows, m.committed.events.get? e.guid = some e :=
    fun e he => (hm .event).get?_of_mem_rows he
  refine ⟨?_, ?_, ?_, ?_, ?_, ?_⟩
  · intro e he
    exact hrow .period _ (hc.period _ e (hevent e he))
  · intro e he
    exact (hc.home _ e (hevent e he)).imp_right (hrow .team _)
  · intro e he
    exact (hc.away _ e (hevent e he)).imp_right (hrow .team _)
  · intro l hl
    exact hrow .event _ (hc.event _ l ((hm .title).get?_of_mem_rows hl))
  · intro e he
    obtain ⟨h, l, hget, hle⟩ := hc.titled _ ((Table.contains_iff _ _).mpr ⟨e, hevent e he⟩)
    exact ⟨l, Table.mem_rows_of_get? hget, hle⟩
  · intro team hteam
    have hget := (hm .team).get?_of_mem_rows hteam
    obtain ⟨h, n, hn, hng⟩ := hc.named _ ((Table.contains_iff _ _).mpr ⟨team, hget⟩)
    have hnodup : m.committed.teamNames.rows.Nodup :=
      List.Nodup.of_map Row.key (hm .teamName).wellKeyed.keys
    refine length_filter_eq_one hnodup (Table.mem_rows_of_get? hn) (decide_eq_true hng) ?_
    intro n' hmem hn'
    have hget' := (hm .teamName).get?_of_mem_rows hmem
    have hsame : n'.team = n.team := (of_decide_eq_true hn').trans hng.symm
    have hguid := hc.once _ _ n' n hget' hn hsame
    rw [hguid] at hget'
    exact Option.some.inj (hget'.symm.trans hn)

/-- In every order of calls, the committed references lead to rows, an upsert that succeeds names
the one event of its id, and at most one upsert has created it. -/
theorem racing_upserts_resolved (hd : mint.Distinct) (hslash : mint.Slashless)
    (moves : List Move) :
    let r := Race.after mint moves
    Resolved r.memory.committed ∧
      (∀ w ∈ r.writers, ∀ outcome, w.result? = some (.ok outcome) →
        ∃ e ∈ r.memory.committed.events.rows, e.guid = outcome.guid ∧
          e.externalId = w.observation.externalId ∧
          ∀ e' ∈ r.memory.committed.events.rows,
            e'.externalId = w.observation.externalId → e' = e) ∧
      ∀ (i j : ℕ) (w w' : Writer) (g g' : Guid), r.writers[i]? = some w →
        r.writers[j]? = some w' → w.result? = some (.ok (.created g)) →
        w'.result? = some (.ok (.created g')) →
        w.observation.externalId = w'.observation.externalId → i = j := by
  have h := Race.safe_after hd hslash moves
  refine ⟨resolved_of_complete h.sound h.complete, ?_, ?_⟩
  · intro w hw outcome hr
    obtain ⟨i, hi⟩ := List.getElem?_of_mem hw
    obtain ⟨_, hwritten⟩ := (h.writers i w hi).written h.sound h.complete hr
    obtain ⟨⟨e, he, hid⟩, _⟩ := hwritten outcome rfl
    refine ⟨e, Table.mem_rows_of_get? he, (h.sound .event).own _ e he, hid, ?_⟩
    intro e' hmem hid'
    have hget' := (h.sound .event).get?_of_mem_rows hmem
    have hguid := (h.sound .event).unique _ _ e' e hget' he (hid'.trans hid.symm)
    rw [hguid] at hget'
    exact Option.some.inj (hget'.symm.trans he)
  · intro i j w w' g g' hi hj hg hg' hid
    by_contra hne
    exact h.created i j w w' g g' hne hi hj hg hg' hid

/-- Of four upserts of one game the first is abandoned, the second has looked for the period and
the third has staged all its rows when the fourth is committed. -/
def photoFinish : List Move :=
  List.replicate 4 (.start finals) ++ List.replicate 3 (.advance 0) ++ [.abandon 0 .zero] ++
    List.replicate 2 (.advance 1) ++ List.replicate 17 (.advance 2) ++
    List.replicate 18 (.advance 3) ++ List.replicate 8 (.advance 1) ++ [.advance 2]

/-- The second upsert takes over the rows of the fourth, and the third collides with them. -/
theorem photoFinish_resolved : Mint.serial.Distinct ∧ Mint.serial.Slashless ∧
    (Race.after .serial photoFinish).writers.map Writer.result? =
      [some (.error (.timedOut "finals-7" .zero)), some (.ok (.updated (Store.hexGuid 'a' 9))),
        some (.error (.store (.duplicate "event" "finals-7"))),
        some (.ok (.created (Store.hexGuid 'a' 9)))] ∧
    Resolved (Race.after .serial photoFinish).memory.committed :=
  ⟨Mint.serial_distinct, Mint.serial_slashless, by decide +kernel,
    (racing_upserts_resolved Mint.serial_distinct Mint.serial_slashless photoFinish).1⟩

end LiveEvents.Upsert
