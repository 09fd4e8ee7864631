import LiveEvents.Proofs.KeyedLists
import LiveEvents.Proofs.SerialGuids

/-!
# What stays committed

Any number of transactions are open on one store, and their calls come in any order and with any
arguments. In every state that is reached, committed rows sit under their own guids and have
different natural keys. Later states keep each of them: its guid, its natural key, and of an
event all that its creation fixed.
-/

namespace LiveEvents.Store

namespace Table

variable {α : Type} [Row α]

/-- Each row sits under its own guid, and no two rows have one guid or one natural key. -/
structure WellKeyed (t : Table α) : Prop where
  own : ∀ g row, (g, row) ∈ t → Row.guid row = g
  guids : t.guids.Nodup
  keys : (t.rows.map Row.key).Nodup

theorem Committed.wellKeyed {f : ℕ → Guid} {n : ℕ} {t : Table α} (h : Committed f n t) :
    t.WellKeyed where
  own g row hm := h.own g row (get?_of_mem h.nodup hm)
  guids := h.nodup
  keys := by
    have hinj : ∀ p ∈ t, ∀ q ∈ t, Row.key p.2 = Row.key q.2 → p = q := by
      intro p hp q hq hk
      have hp' := get?_of_mem h.nodup hp
      have hq' := get?_of_mem h.nodup hq
      have hg : p.1 = q.1 := h.unique p.1 q.1 p.2 q.2 hp' hq' hk
      rw [hg, hq'] at hp'
      exact Prod.ext hg (Option.some.inj hp').symm
    have ht : t.Nodup := List.Nodup.of_map Prod.fst h.nodup
    rw [rows, List.map_map]
    exact List.Nodup.map_on hinj ht

end Table

/-- No row of the early tables is missing from the late ones, no natural key has changed its guid,
and every event has the columns that its creation gave it once and for all. -/
structure Tables.Persists (early late : Tables) : Prop where
  stays : ∀ k, ∀ row ∈ (early.of k).rows, ∃ row' ∈ (late.of k).rows,
    Row.guid row' = Row.guid row ∧ Row.key row' = Row.key row
  bound : ∀ k, ∀ row ∈ (early.of k).rows, ∀ row' ∈ (late.of k).rows,
    Row.key row' = Row.key row → Row.guid row' = Row.guid row
  event : ∀ e ∈ early.events.rows, ∀ e' ∈ late.events.rows, e'.guid = e.guid →
    e'.externalId = e.externalId ∧ e'.category = e.category ∧ e'.ecosystem = e.ecosystem ∧
      e'.isSports = e.isSports ∧ e'.createdAt = e.createdAt

theorem Tables.Continues.persists {early late : Tables} {f : Entity → ℕ → Guid} {n n' : Entity → ℕ}
    (h : early.Continues late) (he : ∀ k, Table.Committed (f k) (n k) (early.of k))
    (hl : ∀ k, Table.Committed (f k) (n' k) (late.of k)) : early.Persists late where
  stays k row hrow := by
    obtain ⟨row', hrow', hpart⟩ := h k _ row ((he k).get?_of_mem_rows hrow)
    exact ⟨row', Table.mem_rows_of_get? hrow', (hl k).own _ _ hrow', Fixed.key_eq hpart⟩
  bound k row hrow row' hrow' hkey := by
    obtain ⟨r, hr, hpart⟩ := h k _ row ((he k).get?_of_mem_rows hrow)
    exact (hl k).unique _ _ row' r ((hl k).get?_of_mem_rows hrow') hr
      (hkey.trans (Fixed.key_eq hpart).symm)
  event e hmem e' hmem' hguid := by
    obtain ⟨r, hr, hpart⟩ := h .event e.guid e ((he .event).get?_of_mem_rows hmem)
    have hget := (hl .event).get?_of_mem_rows hmem'
    change Table.get? _ e'.guid = some e' at hget
    rw [hguid, hr] at hget
    rw [Option.some.inj hget] at hpart
    exact (part_event_eq_iff e' e).mp hpart

namespace Sessions

variable {κ : Type} [DecidableEq κ] {mint : Mint}

/-- What may happen to a store next. -/
inductive Action (κ : Type) where
  | begin (name : κ)
  | rollback (name : κ)
  | call (name : κ) (c : Call)

def act (mint : Mint) (s : Sessions κ) : Action κ → Sessions κ
  | .begin name => s.begin name
  | .rollback name => (s.rollback name).2
  | .call name c => (s.call mint name c).2

def after (mint : Mint) (s : Sessions κ) (actions : List (Action κ)) : Sessions κ :=
  actions.foldl (act mint) s

theorem after_append (mint : Mint) (s : Sessions κ) (past future : List (Action κ)) :
    after mint s (past ++ future) = after mint (after mint s past) future :=
  List.foldl_append

/-- Committed rows are well kept, and go with the staged rows of every open transaction. -/
structure Sound (mint : Mint) (s : Sessions κ) : Prop where
  memory : s.memory.Sound mint
  admits : ∀ name staged, s.active.lookup name = some staged → s.memory.Admits mint staged
  apart : ∀ name name' staged staged', name ≠ name' → s.active.lookup name = some staged →
    s.active.lookup name' = some staged' → s.memory.committed.Apart staged staged'

theorem sound_empty (mint : Mint) : ({} : Sessions κ).Sound mint where
  memory := Memory.sound_empty mint
  admits := by simp
  apart := by simp

theorem lookup_erase (name name' : κ) (active : List (κ × Tables)) :
    (erase name active).lookup name' = if name' = name then none else active.lookup name' :=
  lookup_filter_ne name name' active

theorem lookup_open (name name' : κ) (staged : Tables) (active : List (κ × Tables)) :
    ((name, staged) :: erase name active).lookup name' =
      if name' = name then some staged else active.lookup name' :=
  lookup_replaced name name' active staged

/-- One transaction is open with new rows, and all others are as they were. -/
theorem Sound.opened {s : Sessions κ} {name : κ} {m' : Memory} {staged' : Tables}
    (hm : m'.Sound mint) (hs : m'.Admits mint staged')
    (ho : ∀ k other, k ≠ name → s.active.lookup k = some other →
      m'.Admits mint other ∧ m'.committed.Apart staged' other)
    (hp : ∀ k k' other other', k ≠ k' → s.active.lookup k = some other →
      s.active.lookup k' = some other' → m'.committed.Apart other other') :
    Sound mint
      ({ memory := m', active := (name, staged') :: erase name s.active } : Sessions κ) := by
  refine ⟨hm, ?_, ?_⟩
  · intro k other hk
    rw [lookup_open] at hk
    by_cases hn : k = name
    · rw [if_pos hn] at hk
      rwa [← Option.some.inj hk]
    · rw [if_neg hn] at hk
      exact (ho k other hn hk).1
  · intro k k' other other' hne hk hk'
    rw [lookup_open] at hk hk'
    by_cases hn : k = name
    · have hn' : k' ≠ name := fun e => hne (hn.trans e.symm)
      rw [if_pos hn] at hk
      rw [if_neg hn'] at hk'
      rw [← Option.some.inj hk]
      exact (ho k' other' hn' hk').2
    · rw [if_neg hn] at hk
      by_cases hn' : k' = name
      · rw [if_pos hn'] at hk'
        rw [← Option.some.inj hk']
        exact (ho k other hn hk).2.symm
      · rw [if_neg hn'] at hk'
        exact hp k k' other other' hne hk hk'

theorem Sound.begin {s : Sessions κ} (h : s.Sound mint) (name : κ) : (s.begin name).Sound mint :=
  .opened h.memory (Memory.admits_empty mint s.memory)
    (fun k other _ hk => ⟨h.admits k other hk, Tables.Apart.empty _ _⟩) h.apart

theorem Sound.step {s : Sessions κ} (hd : mint.Distinct) (h : s.Sound mint) {name : κ}
    {staged staged' : Tables} {m' : Memory} (hopen : s.active.lookup name = some staged)
    (hstep : Memory.Step mint s.memory staged m' staged') :
    Sound mint
      ({ memory := m', active := (name, staged') :: erase name s.active } : Sessions κ) := by
  have hown := h.admits name staged hopen
  refine .opened (hstep.sound h.memory hown) (hstep.admits hd h.memory hown) ?_ ?_
  · intro k other hn hk
    have ho := h.admits k other hk
    have ha := h.apart name k staged other (Ne.symm hn) hopen hk
    exact ⟨hstep.admits_other hown ho ha, hstep.apart hd ho ha⟩
  · intro k k' other other' hne hk hk'
    exact hstep.apart_others (h.apart k k' other other' hne hk hk')

/-- A transaction is dropped. -/
theorem Sound.erase {s : Sessions κ} (h : s.Sound mint) (name : κ) :
    ({ s with active := erase name s.active } : Sessions κ).Sound mint := by
  have hback : ∀ k staged, (Sessions.erase name s.active).lookup k = some staged →
      s.active.lookup k = some staged := by
    intro k staged hk
    rw [lookup_erase] at hk
    by_cases hn : k = name
    · simp [hn] at hk
    · rwa [if_neg hn] at hk
  exact ⟨h.memory, fun k staged hk => h.admits k staged (hback k staged hk),
    fun k k' staged staged' hne hk hk' =>
      h.apart k k' staged staged' hne (hback k staged hk) (hback k' staged' hk')⟩

theorem Sound.call {s : Sessions κ} (hd : mint.Distinct) (h : s.Sound mint) (name : κ) (c : Call) :
    (s.call mint name c).2.Sound mint ∧
      s.memory.committed.Continues (s.call mint name c).2.memory.committed := by
  unfold Sessions.call
  cases hopen : s.active.lookup name with
  | none => exact ⟨h, Tables.Continues.refl _⟩
  | some staged =>
    have hstep := Memory.perform_step mint s.memory staged c
    have hnext := h.step hd hopen hstep
    refine ⟨?_, hstep.continues (h.admits name staged hopen)⟩
    cases c with
    | commit =>
      have herase : ∀ rows : Tables,
          Sessions.erase name ((name, rows) :: Sessions.erase name s.active) =
            Sessions.erase name s.active := by
        simp [Sessions.erase]
      have hdropped := hnext.erase name
      rwa [herase] at hdropped
    | begin | periodByCode _ | createPeriod _ | eventByExternalId _ | createEvent _
    | updateEvent _ _ | title _ _ | createTitle _ | updateTitle _ _ | team _ _ | createTeam _
    | createTeamName _ => exact hnext

theorem Sound.act {s : Sessions κ} (hd : mint.Distinct) (h : s.Sound mint) (a : Action κ) :
    (act mint s a).Sound mint ∧ s.memory.committed.Continues (act mint s a).memory.committed := by
  cases a with
  | begin name => exact ⟨h.begin name, Tables.Continues.refl _⟩
  | rollback name => exact ⟨h.erase name, Tables.Continues.refl _⟩
  | call name c => exact h.call hd name c

theorem Sound.after {s : Sessions κ} (hd : mint.Distinct) (h : s.Sound mint)
    (actions : List (Action κ)) : (after mint s actions).Sound mint ∧
      s.memory.committed.Continues (after mint s actions).memory.committed := by
  induction actions generalizing s with
  | nil => exact ⟨h, Tables.Continues.refl _⟩
  | cons a actions ih =>
    obtain ⟨hact, hcont⟩ := h.act hd a
    obtain ⟨hrest, hcont'⟩ := ih hact
    exact ⟨hrest, hcont.trans hcont'⟩

/-- The committed tables after a history of a store that was empty. -/
def committedAfter (mint : Mint) (history : List (Action κ)) : Tables :=
  (after mint {} history).memory.committed

/-- Whatever is called in whatever order, the committed rows are well keyed in all five tables and
persist in every later state. -/
theorem committed_rows_persist (hd : mint.Distinct) (past future : List (Action κ)) :
    (∀ k, ((committedAfter mint past).of k).WellKeyed) ∧
      (committedAfter mint past).Persists (committedAfter mint (past ++ future)) := by
  obtain ⟨hpast, _⟩ := (sound_empty mint).after hd past
  obtain ⟨hlate, hcont⟩ := hpast.after hd future
  rw [← after_append] at hlate hcont
  exact ⟨fun k => (hpast.memory k).wellKeyed, hcont.persists hpast.memory hlate.memory⟩

def dayDraft : PeriodDraft where
  code := "2024-06-01"
  isActive := true
  scheduled := "2024-06-01 00:00:00"
  remark := ""
  extra := .object []

/-- Two transactions create one period, and the first of them commits. -/
def rivalHistory : List (Action Bool) :=
  [.begin false, .begin true, .call false (.createPeriod dayDraft),
    .call true (.createPeriod dayDraft), .call false .commit]

/-- The period of the first transaction outlives the commit of the second. -/
theorem rival_period_persists : Mint.serial.Distinct ∧
    (committedAfter .serial rivalHistory).periods.rows.map Period.guid = [hexGuid 'a' 0] ∧
    (∀ k, ((committedAfter .serial rivalHistory).of k).WellKeyed) ∧
    (committedAfter .serial rivalHistory).Persists
      (committedAfter .serial (rivalHistory ++ [.call true .commit])) :=
  ⟨Mint.serial_distinct, by decide +kernel,
    committed_rows_persist Mint.serial_distinct rivalHistory [.call true .commit]⟩

end Sessions

end LiveEvents.Store
