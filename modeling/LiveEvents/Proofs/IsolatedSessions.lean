import LiveEvents.Proofs.CommittedRows

/-!
# What transactions show one another

Transactions meet only in the committed tables. These change at a successful commit alone, which
puts all staged rows of its transaction in their places and leaves every other row; a commit is
refused for a natural key that a new staged row shares with a committed row, and for nothing else.
Until then no transaction finds what another one has staged.

All of this holds however guids are given out, so the invariant carried along is only that every
table is keyed by the guids of its rows.
-/

namespace LiveEvents.Store

namespace Table

variable {α : Type} [Row α]

theorem Keyed.mem_iff {t : Table α} (ht : t.Keyed) (g : Guid) (row : α) :
    (g, row) ∈ t ↔ t.get? g = some row :=
  ⟨get?_of_mem ht.nodup, mem_of_get?⟩

/-- What is found under a natural key is what is visible under the guid of the row. -/
theorem Keyed.get?_of_find? {staged committed : Table α} (hS : staged.Keyed)
    (hC : committed.Keyed) {key : String} {row : α} (h : find? staged committed key = some row) :
    (staged.get? (Row.guid row)).or (committed.get? (Row.guid row)) = some row := by
  obtain ⟨_, hstaged | ⟨hcommitted, hfree, _⟩⟩ := find?_some h
  · rw [hS.get?_of_mem_rows hstaged]
    rfl
  · rw [(contains_eq_false_iff staged _).mp hfree, hC.get?_of_mem_rows hcommitted]
    rfl

theorem Change.keyed {f : ℕ → Guid} {n n' : ℕ} [Fixed α] {committed staged staged' : Table α}
    (hC : committed.Keyed) (hS : staged.Keyed) (h : Change f n n' committed staged staged') :
    staged'.Keyed := by
  cases h with
  | keep _ => exact hS
  | insert row _ _ _ => exact hS.put row
  | update row row' g _ hseen hg _ =>
    have hown : Row.guid row = g := by
      rw [findGuid?_eq] at hseen
      rcases Option.or_eq_some_iff.mp hseen with hrow | ⟨_, hrow⟩
      · exact hS.own g row hrow
      · exact hC.own g row hrow
    have hput := hS.put row'
    rwa [hg.trans hown] at hput

end Table

namespace Tables

def Keyed (t : Tables) : Prop := ∀ k, (t.of k).Keyed

theorem keyed_empty : Keyed {} := by
  intro k
  rw [of_empty]
  exact Table.Keyed.nil

/-- A new staged row has the natural key of a committed row of its table. -/
def Collides (staged committed : Tables) : Prop :=
  ∃ k, ∃ row ∈ (staged.of k).rows, (committed.of k).contains (Row.guid row) = false ∧
    ∃ row' ∈ (committed.of k).rows, Row.key row' = Row.key row

theorem collides_iff (staged committed : Tables) :
    staged.Collides committed ↔ staged.conflict? committed ≠ none := by
  rw [ne_eq, conflict?_eq_none_iff]
  simp only [Table.conflict?_eq_none_iff, Collides]
  push Not
  rfl

/-- The late tables are the early ones with the staged rows in their places. -/
def Replaced (early staged late : Tables) : Prop :=
  ∀ k g row, (g, row) ∈ late.of k ↔
    (g, row) ∈ staged.of k ∨ ((g, row) ∈ early.of k ∧ (staged.of k).contains g = false)

theorem replaced_publish {committed staged : Tables} (hC : committed.Keyed) (hS : staged.Keyed) :
    Replaced committed staged (committed.publish staged) := by
  intro k g row
  have hlate : ((committed.publish staged).of k).Keyed := by
    rw [of_publish]
    exact (hC k).putAll (hS k)
  rw [hlate.mem_iff, (hS k).mem_iff, (hC k).mem_iff, of_publish,
    Table.get?_putAll _ (hS k).nodup, Table.contains_eq_false_iff]
  cases hs : (staged.of k).get? g with
  | some row' => simp
  | none => simp

end Tables

namespace Memory

variable {mint : Mint} {m m' : Memory} {staged staged' : Tables}

theorem Step.keyed (hm : m.committed.Keyed) (hs : staged.Keyed)
    (h : Step mint m staged m' staged') : m'.committed.Keyed ∧ staged'.Keyed := by
  cases h with
  | forget => exact ⟨hm, Tables.keyed_empty⟩
  | stage hc h => exact ⟨hc ▸ hm, fun k => (h k).keyed (hm k) (hs k)⟩
  | publish _ =>
    refine ⟨fun k => ?_, Tables.keyed_empty⟩
    rw [Tables.of_publish]
    exact (hm k).putAll (hs k)

end Memory

/-- The row in the reply of a lookup. -/
def Call.found? : (c : Call) → c.Reply → Option (Σ k : Entity, k.Of)
  | .periodByCode _, row => row.map (⟨.period, ·⟩)
  | .eventByExternalId _, row => row.map (⟨.event, ·⟩)
  | .title _ _, row => row.map (⟨.title, ·⟩)
  | .team _ _, row => row.map (⟨.team, ·⟩)
  | _, _ => none

namespace Memory

variable {mint : Mint} {m m' : Memory} {staged staged' : Tables}

/-- A lookup finds a row that its own transaction has staged, or a committed one. -/
theorem get?_of_found? (hm : m.committed.Keyed) (hs : staged.Keyed) {c : Call} {reply : c.Reply}
    (h : (m.perform mint staged c).1 = .ok reply) {k : Entity} {row : k.Of}
    (hfound : c.found? reply = some ⟨k, row⟩) :
    ((staged.of k).get? (Row.guid row)).or ((m.committed.of k).get? (Row.guid row)) =
      some row := by
  have hlookup : ∀ (j : Entity) (key : String),
      (Table.find? (staged.of j) (m.committed.of j) key).map (Sigma.mk j) = some ⟨k, row⟩ →
        ((staged.of k).get? (Row.guid row)).or ((m.committed.of k).get? (Row.guid row)) =
          some row := by
    intro j key hj
    obtain ⟨row', hfind, hrow⟩ := Option.map_eq_some_iff.mp hj
    cases hrow
    exact (hs k).get?_of_find? (hm k) hfind
  cases c with
  | periodByCode code =>
    rw [← Except.ok.inj h] at hfound
    exact hlookup .period code hfound
  | eventByExternalId id =>
    rw [← Except.ok.inj h] at hfound
    exact hlookup .event id hfound
  | title event language =>
    rw [← Except.ok.inj h] at hfound
    exact hlookup .title (pairKey event language) hfound
  | team id ecosystem =>
    rw [← Except.ok.inj h] at hfound
    exact hlookup .team (pairKey id ecosystem) hfound
  | begin | createPeriod _ | createEvent _ | updateEvent _ _ | createTitle _ | updateTitle _ _
  | createTeam _ | createTeamName _ | commit => cases hfound

end Memory

namespace Sessions

variable {κ : Type} [DecidableEq κ] {mint : Mint}

/-- The transaction that acts. -/
def Action.name : Action κ → κ
  | .begin name | .rollback name | .call name _ => name

/-- Every table of a store and of its open transactions is keyed. -/
structure Keyed (s : Sessions κ) : Prop where
  committed : s.memory.committed.Keyed
  staged : ∀ name staged, s.active.lookup name = some staged → staged.Keyed

theorem keyed_empty : ({} : Sessions κ).Keyed := ⟨Tables.keyed_empty, by simp⟩

/-- What a call does to a store in which its transaction is open. -/
theorem call_of_open (mint : Mint) {s : Sessions κ} {name : κ} {staged : Tables}
    (h : s.active.lookup name = some staged) (c : Call) :
    (s.call mint name c).1 = some (s.memory.perform mint staged c).1 ∧
      (s.call mint name c).2.memory = (s.memory.perform mint staged c).2.1 := by
  unfold Sessions.call
  rw [h]
  exact ⟨rfl, rfl⟩

theorem lookup_call_self {s : Sessions κ} {name : κ} {staged staged' : Tables} {c : Call}
    (h : s.active.lookup name = some staged)
    (h' : (s.call mint name c).2.active.lookup name = some staged') :
    staged' = (s.memory.perform mint staged c).2.2 := by
  unfold Sessions.call at h'
  rw [h] at h'
  cases c with
  | commit => simp [lookup_erase] at h'
  | begin | periodByCode _ | createPeriod _ | eventByExternalId _ | createEvent _
  | updateEvent _ _ | title _ _ | createTitle _ | updateTitle _ _ | team _ _ | createTeam _
  | createTeamName _ =>
    rw [lookup_open, if_pos rfl] at h'
    exact (Option.some.inj h').symm

/-- A transaction keeps what it has staged whatever the others do. -/
theorem lookup_act_of_ne (s : Sessions κ) (a : Action κ) {name : κ} (h : name ≠ a.name) :
    (act mint s a).active.lookup name = s.active.lookup name := by
  cases a with
  | begin other => exact (lookup_open other name {} s.active).trans (if_neg h)
  | rollback other => exact (lookup_erase other name s.active).trans (if_neg h)
  | call other c =>
    change (s.call mint other c).2.active.lookup name = _
    unfold Sessions.call
    cases hopen : s.active.lookup other with
    | none => rfl
    | some staged =>
      cases c with
      | commit => exact (lookup_erase other name s.active).trans (if_neg h)
      | begin | periodByCode _ | createPeriod _ | eventByExternalId _ | createEvent _
      | updateEvent _ _ | title _ _ | createTitle _ | updateTitle _ _ | team _ _ | createTeam _
      | createTeamName _ => exact (lookup_open other name _ s.active).trans (if_neg h)

theorem Keyed.act {s : Sessions κ} (h : s.Keyed) (a : Action κ) : (act mint s a).Keyed := by
  have hothers : ∀ name, name ≠ a.name → ∀ staged,
      (Sessions.act mint s a).active.lookup name = some staged → staged.Keyed := by
    intro name hne staged hopen
    rw [lookup_act_of_ne s a hne] at hopen
    exact h.staged name staged hopen
  have hall : (∀ staged, (Sessions.act mint s a).active.lookup a.name = some staged →
      staged.Keyed) → ∀ name staged, (Sessions.act mint s a).active.lookup name = some staged →
        staged.Keyed := by
    intro hself name staged hopen
    by_cases hname : name = a.name
    · exact hself staged (hname ▸ hopen)
    · exact hothers name hname staged hopen
  cases a with
  | begin name =>
    refine ⟨h.committed, hall fun staged hopen => ?_⟩
    have hnew := (lookup_open name name {} s.active).symm.trans hopen
    rw [if_pos rfl] at hnew
    rw [← Option.some.inj hnew]
    exact Tables.keyed_empty
  | rollback name =>
    refine ⟨h.committed, hall fun staged hopen => ?_⟩
    have hnone := (lookup_erase name name s.active).symm.trans hopen
    rw [if_pos rfl] at hnone
    cases hnone
  | call name c =>
    cases hopen : s.active.lookup name with
    | none =>
      have hsame : Sessions.act mint s (.call name c) = s := by
        simp only [Sessions.act, Sessions.call, hopen]
      rw [hsame]
      exact h
    | some staged =>
      have hstep := (Memory.perform_step mint s.memory staged c).keyed h.committed
        (h.staged name staged hopen)
      obtain ⟨_, hmemory⟩ := call_of_open mint hopen c
      refine ⟨?_, hall fun staged' hopen' => ?_⟩
      · change (s.call mint name c).2.memory.committed.Keyed
        rw [hmemory]
        exact hstep.1
      · rw [lookup_call_self hopen hopen']
        exact hstep.2

theorem keyed_after (mint : Mint) (history : List (Action κ)) : (after mint {} history).Keyed := by
  have hrun : ∀ (history : List (Action κ)) (s : Sessions κ), s.Keyed →
      (after mint s history).Keyed := by
    intro history
    induction history with
    | nil => exact fun _ h => h
    | cons a history ih => exact fun s h => ih _ (h.act a)
  exact hrun history {} keyed_empty

theorem commit_of_call {s : Sessions κ} {name : κ} {c : Call}
    (h : (s.call mint name c).2.memory.committed ≠ s.memory.committed) :
    c = .commit ∧ (s.call mint name .commit).1 = some (.ok ()) := by
  cases hopen : s.active.lookup name with
  | none => simp [Sessions.call, hopen] at h
  | some staged =>
    obtain ⟨_, hmemory⟩ := call_of_open mint hopen c
    rw [hmemory] at h
    by_cases hc : c = .commit
    · subst hc
      refine ⟨rfl, ?_⟩
      rw [(call_of_open mint hopen .commit).1]
      cases hconflict : staged.conflict? s.memory.committed with
      | none => rw [Memory.perform_commit_of_free mint hconflict]
      | some e =>
        rw [Memory.perform_commit_of_conflict mint hconflict] at h
        exact absurd rfl h
    · exact absurd (Memory.perform_committed mint s.memory staged hc) h

theorem call_commit {s : Sessions κ} (hs : s.Keyed) {name : κ} {staged : Tables}
    (hopen : s.active.lookup name = some staged) :
    ((s.call mint name .commit).1 = some (.ok ()) ∧
        ¬ staged.Collides s.memory.committed ∧
        Tables.Replaced s.memory.committed staged
          (s.call mint name .commit).2.memory.committed) ∨
      ((∃ e, (s.call mint name .commit).1 = some (.error e)) ∧
        staged.Collides s.memory.committed ∧
        (s.call mint name .commit).2.memory.committed = s.memory.committed) := by
  obtain ⟨hreply, hmemory⟩ := call_of_open mint hopen .commit
  rw [hreply, hmemory, Tables.collides_iff]
  cases hconflict : staged.conflict? s.memory.committed with
  | none =>
    rw [Memory.perform_commit_of_free mint hconflict]
    exact Or.inl ⟨rfl, not_not_intro rfl,
      Tables.replaced_publish hs.committed (hs.staged name staged hopen)⟩
  | some e =>
    rw [Memory.perform_commit_of_conflict mint hconflict]
    exact Or.inr ⟨⟨e, rfl⟩, nofun, rfl⟩

/-- In every state that transactions can bring about: only a commit that succeeds changes what is
committed; a commit puts the staged rows of its transaction in their places and nothing else, or
it fails and changes nothing, which it does exactly if a new staged row collides; a lookup finds
what is staged by its own transaction or committed; and no transaction touches what another one
has staged. -/
theorem transactions_isolated (mint : Mint) (history : List (Action κ)) :
    let s := after mint {} history
    (∀ a, (act mint s a).memory.committed ≠ s.memory.committed →
      ∃ name, a = .call name .commit ∧ (s.call mint name .commit).1 = some (.ok ())) ∧
    (∀ name staged, s.active.lookup name = some staged →
      ((s.call mint name .commit).1 = some (.ok ()) ∧
          ¬ staged.Collides s.memory.committed ∧
          Tables.Replaced s.memory.committed staged
            (s.call mint name .commit).2.memory.committed) ∨
        ((∃ e, (s.call mint name .commit).1 = some (.error e)) ∧
          staged.Collides s.memory.committed ∧
          (s.call mint name .commit).2.memory.committed = s.memory.committed)) ∧
    (∀ name staged (c : Call) (reply : c.Reply) (k : Entity) (row : k.Of),
      s.active.lookup name = some staged → (s.call mint name c).1 = some (.ok reply) →
      c.found? reply = some ⟨k, row⟩ →
        ((staged.of k).get? (Row.guid row)).or ((s.memory.committed.of k).get? (Row.guid row)) =
          some row) ∧
    (∀ (a : Action κ) name, name ≠ a.name →
      (act mint s a).active.lookup name = s.active.lookup name) := by
  intro s
  have hs : s.Keyed := keyed_after mint history
  refine ⟨?_, fun name staged hopen => call_commit hs hopen, ?_,
    fun a name hname => lookup_act_of_ne s a hname⟩
  · intro a hchanged
    cases a with
    | begin name | rollback name => exact absurd rfl hchanged
    | call name c =>
      obtain ⟨rfl, hok⟩ := commit_of_call hchanged
      exact ⟨name, rfl, hok⟩
  · intro name staged c reply k row hopen hreply hfound
    rw [(call_of_open mint hopen c).1] at hreply
    exact Memory.get?_of_found? hs.committed (hs.staged name staged hopen)
      (Option.some.inj hreply) hfound

/-- The period of the second transaction collides, and is not published. -/
theorem rival_period_refused : ∃ staged,
    (after .serial {} rivalHistory).active.lookup true = some staged ∧
      staged.Collides (committedAfter .serial rivalHistory) ∧
      ((after .serial {} rivalHistory).call .serial true .commit).2.memory.committed =
        committedAfter .serial rivalHistory := by
  have hopen : ((after .serial {} rivalHistory).active.lookup true).isSome = true := by
    decide +kernel
  have hrefused : ((after .serial {} rivalHistory).call .serial true .commit).1 =
      some (.error (.duplicate "event period" "2024-06-01")) := by
    decide +kernel
  obtain ⟨staged, hstaged⟩ := Option.isSome_iff_exists.mp hopen
  obtain ⟨_, hcommit, _⟩ := transactions_isolated .serial rivalHistory
  rcases hcommit true staged hstaged with ⟨hok, _⟩ | ⟨_, hcollides, hkept⟩
  · rw [hrefused] at hok
    cases hok
  · exact ⟨staged, hstaged, hcollides, hkept⟩

end Sessions

end LiveEvents.Store
