import LiveEvents.Proofs.StagedRows
import LiveEvents.Store.Memory

/-!
# Steps of a memory store

The five tables are the values of one function of the kind of row, so that an invariant of a
table is an invariant of the store. `Memory.Step` says once what a call can do: it forgets what
was staged, it stages at most one row more in one table, or it publishes all that was staged.
Everything that any number of open transactions keep is shown of these three.
-/

namespace LiveEvents.Store

open Table (Change)

namespace Entity

@[reducible] def Of : Entity → Type
  | event => Event
  | title => Title
  | period => Period
  | team => Team
  | teamName => TeamName

instance (k : Entity) : Row k.Of :=
  match k with
  | event => inferInstanceAs (Row Event)
  | title => inferInstanceAs (Row Title)
  | period => inferInstanceAs (Row Period)
  | team => inferInstanceAs (Row Team)
  | teamName => inferInstanceAs (Row TeamName)

instance (k : Entity) : Fixed k.Of :=
  match k with
  | event => inferInstanceAs (Fixed Event)
  | title => inferInstanceAs (Fixed Title)
  | period => inferInstanceAs (Fixed Period)
  | team => inferInstanceAs (Fixed Team)
  | teamName => inferInstanceAs (Fixed TeamName)

end Entity

namespace Tables

def of (t : Tables) : (k : Entity) → Table k.Of
  | .event => t.events
  | .title => t.titles
  | .period => t.periods
  | .team => t.teams
  | .teamName => t.teamNames

def set (t : Tables) : (k : Entity) → Table k.Of → Tables
  | .event, rows => { t with events := rows }
  | .title, rows => { t with titles := rows }
  | .period, rows => { t with periods := rows }
  | .team, rows => { t with teams := rows }
  | .teamName, rows => { t with teamNames := rows }

@[simp] theorem of_set_self (t : Tables) (k : Entity) (rows : Table k.Of) :
    (t.set k rows).of k = rows := by
  cases k <;> rfl

theorem of_set_ne (t : Tables) {j k : Entity} (h : j ≠ k) (rows : Table k.Of) :
    (t.set k rows).of j = t.of j := by
  cases k <;> cases j <;> first | rfl | exact absurd rfl h

@[simp] theorem of_empty (k : Entity) : ({} : Tables).of k = [] := by
  cases k <;> rfl

theorem of_publish (committed staged : Tables) (k : Entity) :
    (committed.publish staged).of k = (committed.of k).putAll (staged.of k) := by
  cases k <;> rfl

theorem conflict?_eq_none_iff (staged committed : Tables) :
    staged.conflict? committed = none ↔
      ∀ k, Table.conflict? (staged.of k) (committed.of k) = none := by
  constructor
  · intro h k
    simp only [conflict?, Option.or_eq_none_iff] at h
    cases k with
    | event => exact h.1
    | title => exact h.2.1
    | period => exact h.2.2.1
    | team => exact h.2.2.2.1
    | teamName => exact h.2.2.2.2
  · intro h
    simp only [conflict?, Option.or_eq_none_iff]
    exact ⟨h .event, h .title, h .period, h .team, h .teamName⟩

/-- A conflict is that of a new staged row with a committed row of its key. -/
theorem conflict?_eq_some {staged committed : Tables} {e : StoreError}
    (h : staged.conflict? committed = some e) :
    ∃ k, ∃ row ∈ (staged.of k).rows, (committed.of k).contains (Row.guid row) = false ∧
      (∃ r ∈ (committed.of k).rows, Row.key r = Row.key row) ∧
      e = .duplicate k.name (Row.key row) := by
  have htable : ∃ k, Table.conflict? (staged.of k) (committed.of k) = some e := by
    simp only [conflict?, Option.or_eq_some_iff] at h
    rcases h with h | ⟨-, h | ⟨-, h | ⟨-, h | ⟨-, h⟩⟩⟩⟩
    · exact ⟨.event, h⟩
    · exact ⟨.title, h⟩
    · exact ⟨.period, h⟩
    · exact ⟨.team, h⟩
    · exact ⟨.teamName, h⟩
  obtain ⟨k, hk⟩ := htable
  obtain ⟨row, hrow, he⟩ := Option.map_eq_some_iff.mp hk
  have hp := List.find?_some hrow
  simp only [Bool.and_eq_true, Bool.not_eq_true', List.any_eq_true, beq_iff_eq] at hp
  refine ⟨k, row, List.mem_of_find?_eq_some hrow, hp.1, hp.2, ?_⟩
  rw [← he]
  cases k <;> rfl

def Apart (committed staged staged' : Tables) : Prop :=
  ∀ k, Table.Apart (committed.of k) (staged.of k) (staged'.of k)

def Continues (early late : Tables) : Prop :=
  ∀ k, Table.Continues (early.of k) (late.of k)

theorem Apart.symm {committed staged staged' : Tables} (h : Apart committed staged staged') :
    Apart committed staged' staged := fun k => (h k).symm

theorem Apart.empty (committed staged : Tables) : Apart committed {} staged := by
  intro k
  rw [of_empty]
  exact Table.Apart.nil_left _ _

theorem Continues.refl (t : Tables) : Continues t t := fun _ => Table.Continues.refl _

theorem Continues.trans {t u v : Tables} (htu : Continues t u) (huv : Continues u v) :
    Continues t v := fun k => (htu k).trans (huv k)

theorem continues_publish {f : Entity → ℕ → Guid} {n : Entity → ℕ} {committed staged : Tables}
    (hS : ∀ k, Table.Staged (f k) (n k) (committed.of k) (staged.of k)) :
    committed.Continues (committed.publish staged) := by
  intro k
  rw [of_publish]
  exact (hS k).continues

end Tables

namespace Mint

/-- The guids for rows of a kind, by their numbers. -/
def guid (mint : Mint) : Entity → ℕ → Guid
  | .teamName => mint.name
  | _ => mint.row

/-- No guid is given out twice. -/
structure Distinct (mint : Mint) : Prop where
  row : mint.row.Injective
  name : mint.name.Injective

theorem Distinct.guid {mint : Mint} (h : mint.Distinct) (k : Entity) : (mint.guid k).Injective := by
  cases k with
  | teamName => exact h.name
  | event | title | period | team => exact h.row

end Mint

namespace Table

variable {α : Type} [Row α]

theorem insert_of_none {staged committed : Table α} {row : α}
    (h : find? staged committed (Row.key row) = none) :
    insert staged committed row = .ok (staged.put (Row.guid row) row) := by
  simp [insert, h]

theorem insert_of_some {staged committed : Table α} {row row' : α}
    (h : find? staged committed (Row.key row) = some row') :
    insert staged committed row = .error (.duplicate (Row.entity α).name (Row.key row)) := by
  simp [insert, h]

end Table

namespace Memory

variable {mint : Mint} {m m' : Memory} {staged staged' other other' : Tables}

theorem perform_commit_of_free (mint : Mint) (h : staged.conflict? m.committed = none) :
    m.perform mint staged .commit =
      (.ok (), { m with committed := m.committed.publish staged }, {}) := by
  simp only [perform, h]

theorem perform_commit_of_conflict (mint : Mint) {e : StoreError}
    (h : staged.conflict? m.committed = some e) :
    m.perform mint staged .commit = (.error e, m, {}) := by
  simp only [perform, h]

/-- How many guids have been given out for rows of a kind. -/
def given (m : Memory) : Entity → ℕ
  | .teamName => m.names
  | _ => m.rows

/-- The store after one more guid for a row of a kind. -/
def gave (m : Memory) : Entity → Memory
  | .teamName => { m with names := m.names + 1 }
  | _ => { m with rows := m.rows + 1 }

@[simp] theorem committed_gave (m : Memory) (k : Entity) : (m.gave k).committed = m.committed := by
  cases k <;> rfl

@[simp] theorem given_gave_self (m : Memory) (k : Entity) :
    (m.gave k).given k = m.given k + 1 := by
  cases k <;> rfl

theorem given_le_gave (m : Memory) (j k : Entity) : m.given j ≤ (m.gave k).given j := by
  cases k <;> cases j <;> simp [gave, given]

/-- The committed tables are keyed by guids that have been given out and by natural keys. -/
def Sound (mint : Mint) (m : Memory) : Prop :=
  ∀ k, Table.Committed (mint.guid k) (m.given k) (m.committed.of k)

/-- The staged rows of a transaction go with the committed rows. -/
def Admits (mint : Mint) (m : Memory) (staged : Tables) : Prop :=
  ∀ k, Table.Staged (mint.guid k) (m.given k) (m.committed.of k) (staged.of k)

theorem sound_empty (mint : Mint) : ({} : Memory).Sound mint := by
  intro k
  change Table.Committed _ _ (({} : Tables).of k)
  rw [Tables.of_empty]
  exact Table.Committed.nil

theorem admits_empty (mint : Mint) (m : Memory) : m.Admits mint {} := by
  intro k
  rw [Tables.of_empty]
  exact Table.Staged.nil _

/-- All that one call of a transaction can do. -/
inductive Step (mint : Mint) (m : Memory) (staged : Tables) : Memory → Tables → Prop where
  | forget : Step mint m staged m {}
  | stage {m' : Memory} {staged' : Tables} (hc : m'.committed = m.committed)
      (h : ∀ k, Change (mint.guid k) (m.given k) (m'.given k) (m.committed.of k) (staged.of k)
        (staged'.of k)) : Step mint m staged m' staged'
  | publish (h : ∀ k, Table.conflict? (staged.of k) (m.committed.of k) = none) :
      Step mint m staged { m with committed := m.committed.publish staged } {}

theorem Step.refl (mint : Mint) (m : Memory) (staged : Tables) : Step mint m staged m staged :=
  .stage rfl fun _ => .keep (Nat.le_refl _)

/-- A row is inserted in the table of its kind, and the others stay. -/
theorem Step.create (k : Entity) (row : k.Of) (hg : Row.guid row = mint.guid k (m.given k))
    (hfree : Table.find? (staged.of k) (m.committed.of k) (Row.key row) = none) :
    Step mint m staged (m.gave k) (staged.set k ((staged.of k).put (Row.guid row) row)) := by
  refine .stage (committed_gave m k) fun j => ?_
  by_cases hj : j = k
  · subst hj
    rw [Tables.of_set_self]
    exact .insert row (given_gave_self m j) hg hfree
  · rw [Tables.of_set_ne staged hj]
    exact .keep (given_le_gave m j k)

/-- A visible row is staged with another value of what an update may change. -/
theorem Step.update (k : Entity) (row row' : k.Of) (g : Guid)
    (hseen : Table.findGuid? (staged.of k) (m.committed.of k) g = some row)
    (hg : Row.guid row' = Row.guid row) (hp : Fixed.part row' = Fixed.part row) :
    Step mint m staged m (staged.set k ((staged.of k).put g row')) := by
  refine .stage rfl fun j => ?_
  by_cases hj : j = k
  · subst hj
    rw [Tables.of_set_self]
    exact .update row row' g rfl hseen hg hp
  · rw [Tables.of_set_ne staged hj]
    exact .keep (Nat.le_refl _)

/-- The creation of a row: what the calls that create rows have in common. -/
def createRow (m : Memory) (staged : Tables) (k : Entity) (row : k.Of) :
    Except StoreError Unit × Memory × Tables :=
  match Table.insert (staged.of k) (m.committed.of k) row with
  | .ok rows => (.ok (), m.gave k, staged.set k rows)
  | .error e => (.error e, m, staged)

/-- The update of a row: what the calls that update rows have in common. -/
def updateRow (m : Memory) (staged : Tables) (k : Entity) (g : Guid) (f : k.Of → k.Of) :
    Except StoreError Unit × Memory × Tables :=
  match Table.findGuid? (staged.of k) (m.committed.of k) g with
  | some row => (.ok (), m, staged.set k ((staged.of k).put g (f row)))
  | none => (.error (.notFound k.name g), m, staged)

theorem createRow_of_none {k : Entity} {row : k.Of}
    (h : Table.find? (staged.of k) (m.committed.of k) (Row.key row) = none) :
    m.createRow staged k row =
      (.ok (), m.gave k, staged.set k ((staged.of k).put (Row.guid row) row)) := by
  simp only [createRow, Table.insert_of_none h]

theorem createRow_of_some {k : Entity} {row row' : k.Of}
    (h : Table.find? (staged.of k) (m.committed.of k) (Row.key row) = some row') :
    m.createRow staged k row =
      (.error (.duplicate (Row.entity k.Of).name (Row.key row)), m, staged) := by
  simp only [createRow, Table.insert_of_some h]

theorem updateRow_of_some {k : Entity} {g : Guid} {row : k.Of}
    (h : Table.findGuid? (staged.of k) (m.committed.of k) g = some row) (f : k.Of → k.Of) :
    m.updateRow staged k g f = (.ok (), m, staged.set k ((staged.of k).put g (f row))) := by
  simp only [updateRow, h]

theorem updateRow_of_none {k : Entity} {g : Guid} {f : k.Of → k.Of}
    (h : Table.findGuid? (staged.of k) (m.committed.of k) g = none) :
    m.updateRow staged k g f = (.error (.notFound k.name g), m, staged) := by
  simp only [updateRow, h]

theorem createRow_step (k : Entity) (row : k.Of) (hg : Row.guid row = mint.guid k (m.given k)) :
    Step mint m staged (m.createRow staged k row).2.1 (m.createRow staged k row).2.2 := by
  cases hf : Table.find? (staged.of k) (m.committed.of k) (Row.key row) with
  | none =>
    rw [createRow_of_none hf]
    exact .create k row hg hf
  | some row' =>
    rw [createRow_of_some hf]
    exact Step.refl mint m staged

theorem updateRow_step (k : Entity) (g : Guid) (f : k.Of → k.Of)
    (hg : ∀ row, Row.guid (f row) = Row.guid row)
    (hp : ∀ row, Fixed.part (f row) = Fixed.part row) :
    Step mint m staged (m.updateRow staged k g f).2.1 (m.updateRow staged k g f).2.2 := by
  cases hf : Table.findGuid? (staged.of k) (m.committed.of k) g with
  | none =>
    rw [updateRow_of_none hf]
    exact Step.refl mint m staged
  | some row =>
    rw [updateRow_of_some hf f]
    exact .update k row (f row) g hf (hg row) (hp row)

theorem perform_createPeriod (mint : Mint) (m : Memory) (staged : Tables) (draft : PeriodDraft) :
    m.perform mint staged (.createPeriod draft) =
      m.createRow staged .period (draft.toPeriod (mint.row m.rows)) := by
  simp only [perform]
  cases hf : Table.find? staged.periods m.committed.periods
      (Row.key (draft.toPeriod (mint.row m.rows))) with
  | none =>
    rw [createRow_of_none (k := .period) hf, Table.insert_of_none hf]
    rfl
  | some row => rw [createRow_of_some (k := .period) hf, Table.insert_of_some hf]

theorem perform_createEvent (mint : Mint) (m : Memory) (staged : Tables) (draft : EventDraft) :
    m.perform mint staged (.createEvent draft) =
      m.createRow staged .event (draft.toEvent (mint.row m.rows)) := by
  simp only [perform]
  cases hf : Table.find? staged.events m.committed.events
      (Row.key (draft.toEvent (mint.row m.rows))) with
  | none =>
    rw [createRow_of_none (k := .event) hf, Table.insert_of_none hf]
    rfl
  | some row => rw [createRow_of_some (k := .event) hf, Table.insert_of_some hf]

theorem perform_createTitle (mint : Mint) (m : Memory) (staged : Tables) (draft : TitleDraft) :
    m.perform mint staged (.createTitle draft) =
      m.createRow staged .title (draft.toTitle (mint.row m.rows)) := by
  simp only [perform]
  cases hf : Table.find? staged.titles m.committed.titles
      (Row.key (draft.toTitle (mint.row m.rows))) with
  | none =>
    rw [createRow_of_none (k := .title) hf, Table.insert_of_none hf]
    rfl
  | some row => rw [createRow_of_some (k := .title) hf, Table.insert_of_some hf]

theorem perform_createTeam (mint : Mint) (m : Memory) (staged : Tables) (draft : TeamDraft) :
    m.perform mint staged (.createTeam draft) =
      m.createRow staged .team (draft.toTeam (mint.row m.rows)) := by
  simp only [perform]
  cases hf : Table.find? staged.teams m.committed.teams
      (Row.key (draft.toTeam (mint.row m.rows))) with
  | none =>
    rw [createRow_of_none (k := .team) hf, Table.insert_of_none hf]
    rfl
  | some row => rw [createRow_of_some (k := .team) hf, Table.insert_of_some hf]

theorem perform_createTeamName (mint : Mint) (m : Memory) (staged : Tables)
    (draft : TeamNameDraft) :
    m.perform mint staged (.createTeamName draft) =
      m.createRow staged .teamName (draft.toTeamName (mint.name m.names)) := by
  simp only [perform]
  cases hf : Table.find? staged.teamNames m.committed.teamNames
      (Row.key (draft.toTeamName (mint.name m.names))) with
  | none =>
    rw [createRow_of_none (k := .teamName) hf, Table.insert_of_none hf]
    rfl
  | some row => rw [createRow_of_some (k := .teamName) hf, Table.insert_of_some hf]

theorem perform_updateEvent (mint : Mint) (m : Memory) (staged : Tables) (g : Guid)
    (patch : EventPatch) :
    m.perform mint staged (.updateEvent g patch) = m.updateRow staged .event g patch.apply := by
  simp only [perform]
  cases hf : Table.findGuid? staged.events m.committed.events g with
  | none => rw [updateRow_of_none (k := .event) hf]
  | some row =>
    rw [updateRow_of_some (k := .event) hf]
    rfl

theorem perform_updateTitle (mint : Mint) (m : Memory) (staged : Tables) (g : Guid)
    (title : String) :
    m.perform mint staged (.updateTitle g title) =
      m.updateRow staged .title g (fun row => { row with title }) := by
  simp only [perform]
  cases hf : Table.findGuid? staged.titles m.committed.titles g with
  | none => rw [updateRow_of_none (k := .title) hf]
  | some row =>
    rw [updateRow_of_some (k := .title) hf]
    rfl

theorem perform_step (mint : Mint) (m : Memory) (staged : Tables) (c : Call) :
    Step mint m staged (m.perform mint staged c).2.1 (m.perform mint staged c).2.2 := by
  cases c with
  | begin => exact .forget
  | periodByCode _ | eventByExternalId _ | title _ _ | team _ _ => exact Step.refl mint m staged
  | createPeriod draft =>
    rw [perform_createPeriod]
    exact createRow_step .period _ rfl
  | createEvent draft =>
    rw [perform_createEvent]
    exact createRow_step .event _ rfl
  | createTitle draft =>
    rw [perform_createTitle]
    exact createRow_step .title _ rfl
  | createTeam draft =>
    rw [perform_createTeam]
    exact createRow_step .team _ rfl
  | createTeamName draft =>
    rw [perform_createTeamName]
    exact createRow_step .teamName _ rfl
  | updateEvent g patch =>
    rw [perform_updateEvent]
    exact updateRow_step .event g patch.apply (fun _ => rfl) (fun _ => rfl)
  | updateTitle g title =>
    rw [perform_updateTitle]
    exact updateRow_step .title g _ (fun _ => rfl) (fun _ => rfl)
  | commit =>
    simp only [perform]
    cases hc : staged.conflict? m.committed with
    | none => exact .publish ((Tables.conflict?_eq_none_iff staged m.committed).mp hc)
    | some e => exact .forget

theorem createRow_committed (m : Memory) (staged : Tables) (k : Entity) (row : k.Of) :
    (m.createRow staged k row).2.1.committed = m.committed := by
  cases hf : Table.find? (staged.of k) (m.committed.of k) (Row.key row) with
  | none =>
    rw [createRow_of_none hf]
    exact committed_gave m k
  | some row' => rw [createRow_of_some hf]

theorem updateRow_memory (m : Memory) (staged : Tables) (k : Entity) (g : Guid) (f : k.Of → k.Of) :
    (m.updateRow staged k g f).2.1 = m := by
  cases hf : Table.findGuid? (staged.of k) (m.committed.of k) g with
  | none => rw [updateRow_of_none hf]
  | some row => rw [updateRow_of_some hf]

/-- Nothing but a commit changes what is committed. -/
theorem perform_committed (mint : Mint) (m : Memory) (staged : Tables) {c : Call}
    (hc : c ≠ .commit) : (m.perform mint staged c).2.1.committed = m.committed := by
  cases c with
  | begin | periodByCode _ | eventByExternalId _ | title _ _ | team _ _ => rfl
  | createPeriod draft =>
    rw [perform_createPeriod]
    exact createRow_committed _ _ _ _
  | createEvent draft =>
    rw [perform_createEvent]
    exact createRow_committed _ _ _ _
  | createTitle draft =>
    rw [perform_createTitle]
    exact createRow_committed _ _ _ _
  | createTeam draft =>
    rw [perform_createTeam]
    exact createRow_committed _ _ _ _
  | createTeamName draft =>
    rw [perform_createTeamName]
    exact createRow_committed _ _ _ _
  | updateEvent g patch => rw [perform_updateEvent, updateRow_memory]
  | updateTitle g title => rw [perform_updateTitle, updateRow_memory]
  | commit => exact absurd rfl hc

theorem perform_publishes (mint : Mint) (m : Memory) (staged : Tables) (c : Call) :
    (m.perform mint staged c).2.1.committed = m.committed ∨
      (m.perform mint staged c).2.1.committed = m.committed.publish staged := by
  by_cases hc : c = .commit
  · subst hc
    cases hconflict : staged.conflict? m.committed with
    | some e =>
      rw [perform_commit_of_conflict mint hconflict]
      exact Or.inl rfl
    | none =>
      rw [perform_commit_of_free mint hconflict]
      exact Or.inr rfl
  · exact Or.inl (perform_committed mint m staged hc)

/-! ## What every step keeps -/

theorem Step.sound (hm : m.Sound mint) (hs : m.Admits mint staged)
    (h : Step mint m staged m' staged') : m'.Sound mint := by
  intro k
  cases h with
  | forget => exact hm k
  | stage hc h =>
    rw [hc]
    exact (hm k).mono (h k).le
  | publish h =>
    change Table.Committed _ _ ((m.committed.publish staged).of k)
    rw [Tables.of_publish]
    exact (hm k).publish (hs k) (h k)

theorem Step.admits (hd : mint.Distinct) (hm : m.Sound mint) (hs : m.Admits mint staged)
    (h : Step mint m staged m' staged') : m'.Admits mint staged' := by
  cases h with
  | forget => exact admits_empty mint m
  | stage hc h =>
    intro k
    rw [hc]
    exact (hs k).change (hd.guid k) (hm k) (h k)
  | publish _ => exact admits_empty mint _

/-- Another transaction's staged rows still go with the committed rows. -/
theorem Step.admits_other (hs : m.Admits mint staged) (ho : m.Admits mint other)
    (ha : m.committed.Apart staged other) (h : Step mint m staged m' staged') :
    m'.Admits mint other := by
  intro k
  cases h with
  | forget => exact ho k
  | stage hc h =>
    rw [hc]
    exact (ho k).mono (h k).le
  | publish h =>
    change Table.Staged _ _ ((m.committed.publish staged).of k) _
    rw [Tables.of_publish]
    exact (hs k).publish (ho k) (ha k)

theorem Step.apart (hd : mint.Distinct) (ho : m.Admits mint other)
    (ha : m.committed.Apart staged other) (h : Step mint m staged m' staged') :
    m'.committed.Apart staged' other := by
  cases h with
  | forget => exact Tables.Apart.empty _ _
  | stage hc h =>
    intro k
    rw [hc]
    exact (ha k).change (hd.guid k) (ho k) (h k)
  | publish _ => exact Tables.Apart.empty _ _

theorem Step.apart_others (ha : m.committed.Apart other other')
    (h : Step mint m staged m' staged') : m'.committed.Apart other other' := by
  intro k
  cases h with
  | forget => exact ha k
  | stage hc _ =>
    rw [hc]
    exact ha k
  | publish _ =>
    rw [Tables.of_publish]
    exact (ha k).publish _

/-- A guid that another transaction has staged a new row under does not get committed. -/
theorem Step.own_other (hs : m.Admits mint staged) (ha : m.committed.Apart staged other)
    (h : Step mint m staged m' staged') (k : Entity) (g : Guid)
    (hg : (other.of k).contains g = true) (hnew : (m.committed.of k).contains g = false) :
    (m'.committed.of k).contains g = false := by
  cases h with
  | forget => exact hnew
  | stage hc _ =>
    rw [hc]
    exact hnew
  | publish _ =>
    have hnone : (staged.of k).get? g = none := by
      refine (Table.contains_eq_false_iff _ _).mp ?_
      by_contra hc
      rw [ha k g (by simpa using hc) hg] at hnew
      cases hnew
    rw [Tables.of_publish, Table.contains_eq_false_iff, Table.get?_putAll _ (hs k).nodup, hnone]
    exact (Table.contains_eq_false_iff _ _).mp hnew

theorem Step.continues (hs : m.Admits mint staged) (h : Step mint m staged m' staged') :
    m.committed.Continues m'.committed := by
  cases h with
  | forget => exact Tables.Continues.refl _
  | stage hc _ =>
    rw [hc]
    exact Tables.Continues.refl _
  | publish _ => exact Tables.continues_publish hs

end Memory

end LiveEvents.Store
