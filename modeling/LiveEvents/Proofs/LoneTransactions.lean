import LiveEvents.Proofs.StoreSteps

/-!
# A transaction that is alone on a store

It sees the committed rows with its own rows in their places, `Memory.seen`. What it sees is keyed
as committed rows are, so it finds by a natural key what is seen under it, a row that it creates
or updates is one put into what is seen, and its commit collides with nothing.
-/

namespace LiveEvents.Store

namespace Table

variable {α : Type} [Row α] {f : ℕ → Guid} {n : ℕ}

def row? (t : Table α) (key : String) : Option α := t.rows.find? (Row.key · == key)

theorem row?_eq_none_iff (t : Table α) (key : String) :
    t.row? key = none ↔ ∀ row ∈ t.rows, Row.key row ≠ key := by
  simp [row?]

theorem Committed.row?_eq_some_iff {t : Table α} (h : Committed f n t) (key : String) (row : α) :
    t.row? key = some row ↔ t.get? (Row.guid row) = some row ∧ Row.key row = key := by
  constructor
  · intro hr
    exact ⟨h.get?_of_mem_rows (List.mem_of_find?_eq_some hr), by simpa using List.find?_some hr⟩
  · rintro ⟨hget, rfl⟩
    cases hr : t.row? (Row.key row) with
    | none => exact absurd rfl ((row?_eq_none_iff t _).mp hr row (mem_rows_of_get? hget))
    | some row' =>
      have hk : Row.key row' = Row.key row := by simpa using List.find?_some hr
      have hget' := h.get?_of_mem_rows (List.mem_of_find?_eq_some hr)
      have hg := h.unique _ _ _ _ hget' hget hk
      rw [hg, hget] at hget'
      exact hget'.symm

theorem Committed.put_new {t : Table α} (h : Committed f n t) {row : α}
    (hg : Row.guid row = f n) (hfree : t.row? (Row.key row) = none) :
    Committed f (n + 1) (t.put (Row.guid row) row) := by
  have hkey := (row?_eq_none_iff t (Row.key row)).mp hfree
  refine { h.toKeyed.put row with given := ?_, unique := ?_ }
  · intro g hc
    rcases (contains_put t _ g row).mp hc with rfl | hc
    · exact ⟨n, by omega, hg.symm⟩
    · obtain ⟨i, hi, he⟩ := h.given g hc
      exact ⟨i, by omega, he⟩
  · intro g g' r r' hr hr' hk
    rcases get?_put_cases hr with ⟨he, rfl⟩ | ⟨_, hr⟩
    · rcases get?_put_cases hr' with ⟨he', _⟩ | ⟨_, hr'⟩
      · rw [he, he']
      · exact absurd hk.symm (hkey r' (mem_rows_of_get? hr'))
    · rcases get?_put_cases hr' with ⟨_, rfl⟩ | ⟨_, hr'⟩
      · exact absurd hk (hkey r (mem_rows_of_get? hr))
      · exact h.unique g g' r r' hr hr' hk

theorem Committed.put_same {t : Table α} (h : Committed f n t) {row row' : α} {g : Guid}
    (hrow : t.get? g = some row) (hg : Row.guid row' = Row.guid row)
    (hk : Row.key row' = Row.key row) : Committed f n (t.put g row') := by
  have hown : Row.guid row' = g := hg.trans (h.own g row hrow)
  refine { (hown ▸ h.toKeyed.put row' : Keyed (t.put g row')) with given := ?_, unique := ?_ }
  · intro g' hc
    rcases (contains_put t g g' row').mp hc with rfl | hc
    · exact h.given g' ((contains_iff t g').mpr ⟨row, hrow⟩)
    · exact h.given g' hc
  · intro a b r r' hr hr' hkey
    -- a row under `g` has the key of the old row there
    have hold : ∀ c q, (t.put g row').get? c = some q →
        ∃ q', t.get? c = some q' ∧ Row.key q' = Row.key q := by
      intro c q hq
      rcases get?_put_cases hq with ⟨hc, rfl⟩ | ⟨_, hq⟩
      · exact ⟨row, by rw [hc, hrow], hk.symm⟩
      · exact ⟨q, hq, rfl⟩
    obtain ⟨q, hq, hqk⟩ := hold a r hr
    obtain ⟨q', hq', hqk'⟩ := hold b r' hr'
    exact h.unique a b q q' hq hq' (by rw [hqk, hqk', hkey])

variable [Fixed α]

/-- A transaction that is alone finds what is in the overlaid table. -/
theorem find?_eq_row? {committed staged : Table α} (hC : Committed f n committed)
    (hS : Staged f n committed staged) (hV : Committed f n (committed.putAll staged))
    (key : String) : find? staged committed key = (committed.putAll staged).row? key := by
  cases h : find? staged committed key with
  | some row =>
    obtain ⟨hk, hmem⟩ := find?_some h
    refine ((hV.row?_eq_some_iff key row).mpr ⟨?_, hk⟩).symm
    rw [get?_putAll committed hS.nodup]
    rcases hmem with hs | ⟨hc, hnot, _⟩
    · rw [hS.get?_of_mem_rows hs]
      rfl
    · rw [(contains_eq_false_iff staged _).mp hnot, hC.get?_of_mem_rows hc]
      rfl
  | none =>
    obtain ⟨hs, hc⟩ := (find?_eq_none_iff staged committed key).mp h
    refine ((row?_eq_none_iff _ key).mpr ?_).symm
    intro row hrow hk
    have hget := hV.get?_of_mem_rows hrow
    rw [get?_putAll committed hS.nodup] at hget
    rcases Option.or_eq_some_iff.mp hget with hget | ⟨hnone, hget⟩
    · exact hs row (mem_rows_of_get? hget) hk
    · have hin := hc row (mem_rows_of_get? hget) hk
      rw [(contains_eq_false_iff staged _).mpr hnone] at hin
      cases hin

/-- The staged rows of a transaction that is alone collide with nothing. -/
theorem conflict?_eq_none {committed staged : Table α} (hC : Committed f n committed)
    (hS : Staged f n committed staged) (hV : Committed f n (committed.putAll staged)) :
    conflict? staged committed = none := by
  refine (conflict?_eq_none_iff staged committed).mpr ?_
  intro row hrow hnew r hr hk
  have hget := hC.get?_of_mem_rows hr
  obtain ⟨r', hr', hp⟩ := hS.continues _ r hget
  have hrow' : (committed.putAll staged).get? (Row.guid row) = some row := by
    rw [get?_putAll committed hS.nodup, hS.get?_of_mem_rows hrow]
    rfl
  have hg := hV.unique _ _ r' row hr' hrow' ((Fixed.key_eq hp).trans hk)
  rw [← hg, (contains_iff committed _).mpr ⟨r, hget⟩] at hnew
  cases hnew

end Table

namespace Tables

theorem publish_set (committed staged : Tables) (k : Entity) (rows : Table k.Of) :
    committed.publish (staged.set k rows) =
      (committed.publish staged).set k ((committed.of k).putAll rows) := by
  cases k <;> rfl

theorem publish_set_put (committed staged : Tables) (k : Entity) (h : (staged.of k).guids.Nodup)
    (g : Guid) (row : k.Of) :
    committed.publish (staged.set k ((staged.of k).put g row)) =
      (committed.publish staged).set k (((committed.publish staged).of k).put g row) := by
  rw [publish_set, Table.putAll_put _ h, of_publish]

end Tables

namespace Memory

variable {mint : Mint} {m : Memory} {staged : Tables}

/-- Puts a new row into the table of its kind. -/
def add (m : Memory) (k : Entity) (row : k.Of) : Memory :=
  { m.gave k with
    committed := m.committed.set k ((m.committed.of k).put (Row.guid row) row) }

def change (m : Memory) (k : Entity) (g : Guid) (row : k.Of) : Memory :=
  { m with committed := m.committed.set k ((m.committed.of k).put g row) }

@[simp] theorem given_add_self (m : Memory) (k : Entity) (row : k.Of) :
    (m.add k row).given k = m.given k + 1 := by
  cases k <;> rfl

theorem given_le_add (m : Memory) (j k : Entity) (row : k.Of) :
    m.given j ≤ (m.add k row).given j := by
  cases k <;> cases j <;> simp [add, gave, given]

theorem Sound.add (h : m.Sound mint) (k : Entity) (row : k.Of)
    (hg : Row.guid row = mint.guid k (m.given k))
    (hfree : (m.committed.of k).row? (Row.key row) = none) : (m.add k row).Sound mint := by
  intro j
  by_cases hj : j = k
  · subst hj
    rw [given_add_self]
    change Table.Committed _ _ ((m.committed.set j _).of j)
    rw [Tables.of_set_self]
    exact (h j).put_new hg hfree
  · change Table.Committed _ _ ((m.committed.set k _).of j)
    rw [Tables.of_set_ne _ hj]
    exact (h j).mono (given_le_add m j k row)

theorem Sound.change (h : m.Sound mint) (k : Entity) {g : Guid} {row row' : k.Of}
    (hrow : (m.committed.of k).get? g = some row) (hg : Row.guid row' = Row.guid row)
    (hk : Row.key row' = Row.key row) : (m.change k g row').Sound mint := by
  intro j
  by_cases hj : j = k
  · subst hj
    change Table.Committed _ _ ((m.committed.set j _).of j)
    rw [Tables.of_set_self]
    exact (h j).put_same hrow hg hk
  · change Table.Committed _ _ ((m.committed.set k _).of j)
    rw [Tables.of_set_ne _ hj]
    exact h j

theorem get?_add (m : Memory) (k : Entity) (row : k.Of) :
    ((m.add k row).committed.of k).get? (Row.guid row) = some row := by
  change Table.get? ((m.committed.set k _).of k) _ = _
  rw [Tables.of_set_self, Table.get?_put, if_pos rfl]

theorem row?_add {k : Entity} {row : k.Of} (h : (m.add k row).Sound mint) :
    ((m.add k row).committed.of k).row? (Row.key row) = some row :=
  ((h k).row?_eq_some_iff _ row).mpr ⟨get?_add m k row, rfl⟩

theorem Sound.get?_new (hd : mint.Distinct) (h : m.Sound mint) (k : Entity) :
    (m.committed.of k).get? (mint.guid k (m.given k)) = none :=
  (Table.contains_eq_false_iff _ _).mp (Table.not_contains_of_given (hd.guid k) (h k).given)

/-- All that writing straight into the tables can do to a store. -/
inductive Writes (mint : Mint) (m : Memory) : Memory → Prop where
  | nothing : Writes mint m m
  | add {m' : Memory} {k : Entity} {row : k.Of} (h : Writes mint m m')
      (hg : Row.guid row = mint.guid k (m'.given k))
      (hfree : (m'.committed.of k).row? (Row.key row) = none) : Writes mint m (m'.add k row)
  | change {m' : Memory} {k : Entity} {row row' : k.Of} {g : Guid} (h : Writes mint m m')
      (hrow : (m'.committed.of k).get? g = some row) (hg : Row.guid row' = Row.guid row)
      (hp : Fixed.part row' = Fixed.part row) : Writes mint m (m'.change k g row')

theorem Writes.trans {m' m'' : Memory} (h : m.Writes mint m') (h' : m'.Writes mint m'') :
    m.Writes mint m'' := by
  induction h' with
  | nothing => exact h
  | add _ hg hfree ih => exact ih.add hg hfree
  | change _ hrow hg hp ih => exact ih.change hrow hg hp

theorem Writes.sound {m' : Memory} (hm : m.Sound mint) (h : m.Writes mint m') :
    m'.Sound mint := by
  induction h with
  | nothing => exact hm
  | add _ hg hfree ih => exact ih.add _ _ hg hfree
  | change _ hrow hg hp ih => exact ih.change _ hrow hg (Fixed.key_eq hp)

theorem continues_add (hd : mint.Distinct) (hm : m.Sound mint) (k : Entity) (row : k.Of)
    (hg : Row.guid row = mint.guid k (m.given k)) :
    m.committed.Continues (m.add k row).committed := by
  intro j
  change Table.Continues _ ((m.committed.set k _).of j)
  by_cases hj : j = k
  · subst hj
    rw [Tables.of_set_self]
    intro g r hr
    have hne : g ≠ Row.guid row := by
      rintro rfl
      rw [hg, hm.get?_new hd j] at hr
      cases hr
    exact ⟨r, by rw [Table.get?_put, if_neg hne, hr], rfl⟩
  · rw [Tables.of_set_ne _ hj]
    exact Table.Continues.refl _

theorem continues_change (k : Entity) {g : Guid} {row row' : k.Of}
    (hrow : (m.committed.of k).get? g = some row) (hp : Fixed.part row' = Fixed.part row) :
    m.committed.Continues (m.change k g row').committed := by
  intro j
  change Table.Continues _ ((m.committed.set k _).of j)
  by_cases hj : j = k
  · subst hj
    rw [Tables.of_set_self]
    intro h r hr
    by_cases hg : h = g
    · rw [hg, hrow] at hr
      exact ⟨row', by rw [Table.get?_put, if_pos hg], by rw [hp, Option.some.inj hr]⟩
    · exact ⟨r, by rw [Table.get?_put, if_neg hg, hr], rfl⟩
  · rw [Tables.of_set_ne _ hj]
    exact Table.Continues.refl _

theorem Writes.continues {m' : Memory} (hd : mint.Distinct) (hm : m.Sound mint)
    (h : m.Writes mint m') : m.committed.Continues m'.committed := by
  induction h with
  | nothing => exact Tables.Continues.refl _
  | add hw hg _ ih => exact ih.trans (continues_add hd (hw.sound hm) _ _ hg)
  | change hw hrow _ hp ih => exact ih.trans (continues_change _ hrow hp)

/-- The store as a transaction sees it. -/
def seen (m : Memory) (staged : Tables) : Memory :=
  { m with committed := m.committed.publish staged }

theorem given_seen (m : Memory) (staged : Tables) (k : Entity) :
    (m.seen staged).given k = m.given k := by
  cases k <;> rfl

/-- No other transaction has come between: what is seen is keyed as the committed rows are. -/
structure Alone (mint : Mint) (m : Memory) (staged : Tables) : Prop where
  sound : m.Sound mint
  admits : m.Admits mint staged
  seen : (m.seen staged).Sound mint

theorem Sound.alone (h : m.Sound mint) : m.Alone mint {} := ⟨h, admits_empty mint m, h⟩

namespace Alone

theorem committed_seen (h : m.Alone mint staged) (k : Entity) :
    Table.Committed (mint.guid k) (m.given k) ((m.committed.of k).putAll (staged.of k)) := by
  rw [← Tables.of_publish, ← given_seen m staged k]
  exact h.seen k

theorem find? (h : m.Alone mint staged) (k : Entity) (key : String) :
    Table.find? (staged.of k) (m.committed.of k) key =
      ((m.seen staged).committed.of k).row? key := by
  change _ = Table.row? ((m.committed.publish staged).of k) key
  rw [Tables.of_publish]
  exact Table.find?_eq_row? (h.sound k) (h.admits k) (h.committed_seen k) key

theorem findGuid? (h : m.Alone mint staged) (k : Entity) (g : Guid) :
    Table.findGuid? (staged.of k) (m.committed.of k) g =
      ((m.seen staged).committed.of k).get? g := by
  change _ = Table.get? ((m.committed.publish staged).of k) g
  rw [Tables.of_publish, Table.get?_putAll _ (h.admits k).nodup, Table.findGuid?_eq]

theorem conflict? (h : m.Alone mint staged) : staged.conflict? m.committed = none :=
  (Tables.conflict?_eq_none_iff staged m.committed).mpr fun k =>
    Table.conflict?_eq_none (h.sound k) (h.admits k) (h.committed_seen k)

theorem seen_add (h : m.Alone mint staged) (k : Entity) (row : k.Of) :
    (m.gave k).seen (staged.set k ((staged.of k).put (Row.guid row) row)) =
      (m.seen staged).add k row := by
  unfold Memory.seen Memory.add
  rw [committed_gave, Tables.publish_set_put _ _ k (h.admits k).nodup]
  cases k <;> rfl

theorem seen_change (h : m.Alone mint staged) (k : Entity) (g : Guid) (row : k.Of) :
    m.seen (staged.set k ((staged.of k).put g row)) = (m.seen staged).change k g row := by
  unfold Memory.seen Memory.change
  rw [Tables.publish_set_put _ _ k (h.admits k).nodup]

theorem add (hd : mint.Distinct) (h : m.Alone mint staged) (k : Entity) (row : k.Of)
    (hg : Row.guid row = mint.guid k (m.given k))
    (hfree : ((m.seen staged).committed.of k).row? (Row.key row) = none) :
    (m.gave k).Alone mint (staged.set k ((staged.of k).put (Row.guid row) row)) := by
  have hfind : Table.find? (staged.of k) (m.committed.of k) (Row.key row) = none :=
    (h.find? k (Row.key row)).trans hfree
  have hstep := Step.create k row hg hfind
  refine ⟨hstep.sound h.sound h.admits, hstep.admits hd h.sound h.admits, ?_⟩
  rw [h.seen_add k row]
  exact h.seen.add k row (by rw [given_seen]; exact hg) hfree

theorem change (hd : mint.Distinct) (h : m.Alone mint staged) (k : Entity) {g : Guid}
    {row row' : k.Of} (hrow : ((m.seen staged).committed.of k).get? g = some row)
    (hg : Row.guid row' = Row.guid row) (hp : Fixed.part row' = Fixed.part row) :
    m.Alone mint (staged.set k ((staged.of k).put g row')) := by
  have hstep : Step mint m staged m _ :=
    .update k row row' g ((h.findGuid? k g).trans hrow) hg hp
  refine ⟨h.sound, hstep.admits hd h.sound h.admits, ?_⟩
  rw [h.seen_change k g row']
  exact h.seen.change k hrow hg (Fixed.key_eq hp)

end Alone

end Memory

end LiveEvents.Store
