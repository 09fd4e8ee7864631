import LiveEvents.Store.Table
import Mathlib.Data.List.Nodup

/-!
# Tables as maps from guids to rows

A table is read through `get?`: what a `put` or a `putAll` changes is said of the row under each
guid. In a keyed table every row sits under its own guid and no guid occurs twice, so that a row
of the table and the row found under its guid are the same thing.
-/

namespace LiveEvents.Store.Table

variable {α : Type}

def guids (t : Table α) : List Guid := t.map Prod.fst

@[simp] theorem get?_nil (g : Guid) : get? ([] : Table α) g = none := rfl

theorem get?_cons (g g' : Guid) (row : α) (t : Table α) :
    get? ((g', row) :: t) g = if g = g' then some row else get? t g := by
  by_cases h : g = g'
  · simp [get?, h]
  · have hb : (g == g') = false := by simpa using h
    simp [get?, List.lookup_cons, h, hb]

theorem get?_singleton_iff (g : Guid) (row : α) (g' : Guid) (row' : α) :
    get? [(g, row)] g' = some row' ↔ g' = g ∧ row' = row := by
  rw [get?_cons]
  by_cases h : g' = g
  · simp [h, eq_comm]
  · simp [h]

theorem get?_eq_none_iff (t : Table α) (g : Guid) : t.get? g = none ↔ g ∉ t.guids := by
  induction t with
  | nil => simp [guids]
  | cons p t ih =>
    obtain ⟨g', row⟩ := p
    by_cases h : g = g'
    · simp [get?_cons, guids, h]
    · simp only [guids] at ih
      simp [get?_cons, guids, h, ih]

theorem contains_iff (t : Table α) (g : Guid) :
    t.contains g = true ↔ ∃ row, t.get? g = some row := by
  simp [contains, Option.isSome_iff_exists]

theorem contains_eq_false_iff (t : Table α) (g : Guid) :
    t.contains g = false ↔ t.get? g = none := by
  simp [contains]

theorem mem_guids_iff (t : Table α) (g : Guid) : g ∈ t.guids ↔ t.contains g = true := by
  rw [← not_iff_not, ← get?_eq_none_iff]
  simp [contains]

theorem mem_of_get? {t : Table α} {g : Guid} {row : α} (h : t.get? g = some row) :
    (g, row) ∈ t := by
  induction t with
  | nil => simp at h
  | cons p t ih =>
    obtain ⟨g', r⟩ := p
    rw [get?_cons] at h
    by_cases hg : g = g'
    · rw [if_pos hg] at h
      rw [hg, Option.some.inj h]
      exact List.mem_cons_self
    · rw [if_neg hg] at h
      exact List.mem_cons_of_mem _ (ih h)

theorem get?_of_mem {t : Table α} (ht : t.guids.Nodup) {g : Guid} {row : α} (h : (g, row) ∈ t) :
    t.get? g = some row := by
  induction t with
  | nil => simp at h
  | cons p t ih =>
    obtain ⟨g', r⟩ := p
    obtain ⟨hnot, hnodup⟩ := List.nodup_cons.mp ht
    rw [get?_cons]
    rcases List.mem_cons.mp h with heq | hmem
    · obtain ⟨rfl, rfl⟩ := Prod.mk.inj heq
      rw [if_pos rfl]
    · have hne : g ≠ g' := by
        rintro rfl
        exact hnot (List.mem_map.mpr ⟨(g, row), hmem, rfl⟩)
      rw [if_neg hne]
      exact ih hnodup hmem

theorem mem_rows_of_get? {t : Table α} {g : Guid} {row : α} (h : t.get? g = some row) :
    row ∈ t.rows :=
  List.mem_map.mpr ⟨(g, row), mem_of_get? h, rfl⟩

theorem findGuid?_eq (staged committed : Table α) (g : Guid) :
    findGuid? staged committed g = (staged.get? g).or (committed.get? g) := by
  unfold findGuid?
  cases staged.get? g with
  | some row => rfl
  | none => rfl

/-! ## One row -/

@[simp] theorem get?_put (t : Table α) (g g' : Guid) (row : α) :
    (t.put g row).get? g' = if g' = g then some row else t.get? g' := by
  induction t with
  | nil => simp [put, get?_cons]
  | cons p t ih =>
    obtain ⟨h, r⟩ := p
    by_cases hg : h = g
    · by_cases hg' : g' = g
      · simp [put, get?_cons, hg, hg']
      · simp [put, get?_cons, hg, hg']
    · by_cases hg' : g' = g
      · subst hg'
        have hne : g' ≠ h := fun e => hg e.symm
        simpa [put, hg, get?_cons, hne] using ih
      · simp [put, hg, get?_cons, hg', ih]

/-- A row that is found after an insertion is the new row or was there before. -/
theorem get?_put_cases {t : Table α} {g g' : Guid} {row r : α}
    (h : (t.put g row).get? g' = some r) :
    (g' = g ∧ row = r) ∨ (g' ≠ g ∧ t.get? g' = some r) := by
  rw [get?_put] at h
  by_cases hg : g' = g
  · rw [if_pos hg] at h
    exact Or.inl ⟨hg, Option.some.inj h⟩
  · rw [if_neg hg] at h
    exact Or.inr ⟨hg, h⟩

theorem contains_put (t : Table α) (g g' : Guid) (row : α) :
    (t.put g row).contains g' = true ↔ g' = g ∨ t.contains g' = true := by
  by_cases h : g' = g
  · simp [contains, h]
  · simp [contains, h]

theorem put_eq_append (t : Table α) (g : Guid) (row : α) (h : t.get? g = none) :
    t.put g row = t ++ [(g, row)] := by
  induction t with
  | nil => rfl
  | cons p t ih =>
    obtain ⟨g', r⟩ := p
    rw [get?_cons] at h
    by_cases hg : g = g'
    · simp [hg] at h
    · rw [if_neg hg] at h
      have hne : g' ≠ g := fun e => hg e.symm
      simp [put, hne, ih h]

theorem guids_put_of_contains {t : Table α} {g : Guid} (h : t.contains g = true) (row : α) :
    (t.put g row).guids = t.guids := by
  induction t with
  | nil => simp [contains] at h
  | cons p t ih =>
    obtain ⟨g', r⟩ := p
    by_cases hg : g' = g
    · simp [put, guids, hg]
    · have ht : contains t g = true := by simpa [contains, get?_cons, Ne.symm hg] using h
      simpa [put, guids, hg] using ih ht

theorem nodup_guids_put {t : Table α} (h : t.guids.Nodup) (g : Guid) (row : α) :
    (t.put g row).guids.Nodup := by
  by_cases hc : t.contains g = true
  · rwa [guids_put_of_contains hc]
  · have hg : g ∉ t.guids := fun hm => hc ((mem_guids_iff t g).mp hm)
    rw [put_eq_append t g row ((get?_eq_none_iff t g).mpr hg)]
    simp only [guids, List.map_append, List.map_cons, List.map_nil]
    exact List.nodup_append_comm.mp (List.nodup_cons.mpr ⟨hg, h⟩)

theorem put_eq_map {t : Table α} (ht : t.guids.Nodup) {g : Guid} (h : t.contains g = true)
    (row : α) : t.put g row = t.map fun p => if p.1 = g then (g, row) else p := by
  induction t with
  | nil => simp [contains] at h
  | cons p t ih =>
    obtain ⟨k, r⟩ := p
    obtain ⟨hnot, hnodup⟩ := List.nodup_cons.mp ht
    by_cases hk : k = g
    · have hrest : ∀ q ∈ t, (if q.1 = g then (g, row) else q) = q := by
        intro q hq
        have hne : q.1 ≠ g := by
          rintro rfl
          rw [hk] at hnot
          exact hnot (List.mem_map.mpr ⟨q, hq, rfl⟩)
        rw [if_neg hne]
      simp [put, hk, List.map_congr_left hrest]
    · have htail : contains t g = true := by
        simpa [contains, get?_cons, Ne.symm hk] using h
      simp [put, hk, ih hnodup htail]

theorem put_put (t : Table α) (g : Guid) (row row' : α) :
    (t.put g row).put g row' = t.put g row' := by
  induction t with
  | nil => simp [put]
  | cons p t ih =>
    obtain ⟨g', r⟩ := p
    by_cases hg : g' = g
    · simp [put, hg]
    · simp [put, hg, ih]

theorem put_self {t : Table α} {g : Guid} {row : α} (h : t.get? g = some row) :
    t.put g row = t := by
  induction t with
  | nil => simp at h
  | cons p t ih =>
    obtain ⟨g', r⟩ := p
    rw [get?_cons] at h
    by_cases hg : g = g'
    · rw [if_pos hg] at h
      simp [put, hg, Option.some.inj h]
    · rw [if_neg hg] at h
      simp [put, Ne.symm hg, ih h]

/-- Rows under two guids can be put in either order once one of the guids has its place. -/
theorem put_comm {t : Table α} {g g' : Guid} (hne : g ≠ g') (h : t.contains g = true)
    (row row' : α) : (t.put g row).put g' row' = (t.put g' row').put g row := by
  induction t with
  | nil => simp [contains] at h
  | cons p t ih =>
    obtain ⟨k, r⟩ := p
    by_cases hk : k = g
    · have hk' : k ≠ g' := fun e => hne (hk ▸ e)
      simp [put, hk, hne]
    · by_cases hk' : k = g'
      · have hne' : g' ≠ g := fun e => hne e.symm
        simp [put, hk', hne']
      · have ht : contains t g = true := by
          simpa [contains, get?_cons, Ne.symm hk] using h
        simp [put, hk, hk', ih ht]

theorem mem_rows_put {t : Table α} {g : Guid} {row r : α} (h : r ∈ (t.put g row).rows) :
    r = row ∨ r ∈ t.rows := by
  induction t with
  | nil => exact Or.inl (by simpa [put, rows] using h)
  | cons p t ih =>
    obtain ⟨g', r'⟩ := p
    by_cases hg : g' = g
    · simp only [put, if_pos hg, rows, List.map_cons, List.mem_cons] at h ⊢
      exact h.imp_right Or.inr
    · simp only [put, if_neg hg, rows, List.map_cons, List.mem_cons] at h ⊢
      rcases h with h | h
      · exact Or.inr (Or.inl h)
      · exact (ih h).imp_right Or.inr

/-! ## Many rows -/

@[simp] theorem putAll_nil (t : Table α) : t.putAll [] = t := rfl

theorem putAll_cons (t u : Table α) (g : Guid) (row : α) :
    t.putAll ((g, row) :: u) = (t.put g row).putAll u := rfl

theorem get?_putAll (t : Table α) {u : Table α} (hu : u.guids.Nodup) (g : Guid) :
    (t.putAll u).get? g = (u.get? g).or (t.get? g) := by
  induction u generalizing t with
  | nil => simp
  | cons p u ih =>
    obtain ⟨g', row⟩ := p
    obtain ⟨hnot, hnodup⟩ := List.nodup_cons.mp hu
    have hnone : get? u g' = none := (get?_eq_none_iff u g').mpr hnot
    rw [putAll_cons, ih _ hnodup, get?_put, get?_cons]
    by_cases hg : g = g'
    · simp [hg, hnone]
    · simp [hg]

theorem nodup_guids_putAll {t : Table α} (ht : t.guids.Nodup) (u : Table α) :
    (t.putAll u).guids.Nodup := by
  induction u generalizing t with
  | nil => exact ht
  | cons p u ih => exact ih (nodup_guids_put ht p.1 p.2)

theorem contains_putAll_of_left {t : Table α} {g : Guid} (h : t.contains g = true) (u : Table α) :
    (t.putAll u).contains g = true := by
  induction u generalizing t with
  | nil => exact h
  | cons p u ih => exact ih ((contains_put t p.1 g p.2).mpr (Or.inr h))

theorem put_putAll {t : Table α} {g : Guid} (ht : t.contains g = true) (row : α) {u : Table α}
    (hu : u.get? g = none) : (t.put g row).putAll u = (t.putAll u).put g row := by
  induction u generalizing t with
  | nil => rfl
  | cons p u ih =>
    obtain ⟨g', r⟩ := p
    rw [get?_cons] at hu
    by_cases hg : g = g'
    · simp [hg] at hu
    · rw [if_neg hg] at hu
      rw [putAll_cons, putAll_cons, put_comm hg ht,
        ih ((contains_put t g' g r).mpr (Or.inr ht)) hu]

/-- Staging one more row shows through as one more row of the overlaid table. -/
theorem putAll_put (t : Table α) {u : Table α} (hu : u.guids.Nodup) (g : Guid) (row : α) :
    t.putAll (u.put g row) = (t.putAll u).put g row := by
  induction u generalizing t with
  | nil => rfl
  | cons p u ih =>
    obtain ⟨g', r⟩ := p
    obtain ⟨hnot, hnodup⟩ := List.nodup_cons.mp hu
    by_cases hg : g' = g
    · subst hg
      have hnone : get? u g' = none := (get?_eq_none_iff u g').mpr hnot
      have hmem : (t.put g' r).contains g' = true := (contains_put t g' g' r).mpr (Or.inl rfl)
      rw [putAll_cons, ← put_putAll hmem row hnone, put_put]
      simp [put, putAll_cons]
    · simp only [put, hg, if_false, putAll_cons]
      exact ih (t.put g' r) hnodup

/-! ## Rows and their natural keys -/

variable [Row α]

/-- Every row sits under its own guid, and no guid occurs twice. -/
structure Keyed (t : Table α) : Prop where
  nodup : t.guids.Nodup
  own : ∀ g row, t.get? g = some row → Row.guid row = g

theorem Keyed.nil : Keyed ([] : Table α) := ⟨by simp [guids], by simp⟩

theorem Keyed.get?_of_mem_rows {t : Table α} (ht : t.Keyed) {row : α} (h : row ∈ t.rows) :
    t.get? (Row.guid row) = some row := by
  obtain ⟨⟨g, r⟩, hmem, rfl⟩ := List.mem_map.mp h
  have hget := get?_of_mem ht.nodup hmem
  rw [ht.own g r hget]
  exact hget

theorem Keyed.put {t : Table α} (ht : t.Keyed) (row : α) : (t.put (Row.guid row) row).Keyed where
  nodup := nodup_guids_put ht.nodup _ _
  own g r h := by
    rcases get?_put_cases h with ⟨rfl, rfl⟩ | ⟨_, h⟩
    · rfl
    · exact ht.own g r h

theorem Keyed.putAll {t u : Table α} (ht : t.Keyed) (hu : u.Keyed) : (t.putAll u).Keyed where
  nodup := nodup_guids_putAll ht.nodup u
  own g row h := by
    rw [get?_putAll t hu.nodup] at h
    cases hg : u.get? g with
    | some r =>
      rw [hg] at h
      exact hu.own g row (by simpa [hg] using h)
    | none =>
      rw [hg] at h
      exact ht.own g row (by simpa using h)

/-- What a transaction finds under a natural key is a staged row, or a committed one in whose
place it has staged nothing. -/
theorem find?_some {staged committed : Table α} {key : String} {row : α}
    (h : find? staged committed key = some row) :
    Row.key row = key ∧
      (row ∈ staged.rows ∨ (row ∈ committed.rows ∧ staged.contains (Row.guid row) = false ∧
        ∀ r ∈ staged.rows, Row.key r ≠ key)) := by
  unfold find? at h
  cases hs : staged.rows.find? (Row.key · == key) with
  | some r =>
    simp only [hs, Option.some.injEq] at h
    subst h
    exact ⟨by simpa using List.find?_some hs, Or.inl (List.mem_of_find?_eq_some hs)⟩
  | none =>
    simp only [hs] at h
    have hp := List.find?_some h
    simp only [Bool.and_eq_true, beq_iff_eq, Bool.not_eq_true'] at hp
    have hnone : ∀ r ∈ staged.rows, Row.key r ≠ key := by simpa using hs
    exact ⟨hp.1, Or.inr ⟨List.mem_of_find?_eq_some h, hp.2, hnone⟩⟩

theorem find?_eq_none_iff (staged committed : Table α) (key : String) :
    find? staged committed key = none ↔ (∀ row ∈ staged.rows, Row.key row ≠ key) ∧
      ∀ row ∈ committed.rows, Row.key row = key → staged.contains (Row.guid row) = true := by
  unfold find?
  cases hs : staged.rows.find? (Row.key · == key) with
  | some r =>
    have hr : Row.key r = key := by simpa using List.find?_some hs
    simp only [reduceCtorEq, false_iff, not_and]
    exact fun hnone => absurd hr (hnone r (List.mem_of_find?_eq_some hs))
  | none =>
    have hnone : ∀ r ∈ staged.rows, Row.key r ≠ key := by simpa using hs
    simp only [List.find?_eq_none, Bool.and_eq_true, beq_iff_eq, Bool.not_eq_true', not_and,
      Bool.not_eq_false]
    exact ⟨fun h => ⟨hnone, h⟩, fun h => h.2⟩

/-- A staged row hides every other row of its natural key that comes after it. -/
theorem find?_eq_of_staged {staged committed : Table α} {row : α} (h : row ∈ staged.rows)
    (honly : ∀ r ∈ staged.rows, Row.key r = Row.key row → r = row) :
    find? staged committed (Row.key row) = some row := by
  unfold find?
  cases hs : staged.rows.find? (Row.key · == Row.key row) with
  | some r =>
    have hr : Row.key r = Row.key row := by simpa using List.find?_some hs
    simp [honly r (List.mem_of_find?_eq_some hs) hr]
  | none =>
    have hnone : ∀ r ∈ staged.rows, Row.key r ≠ Row.key row := by simpa using hs
    exact absurd rfl (hnone row h)

theorem conflict?_eq_none_iff (staged committed : Table α) :
    conflict? staged committed = none ↔ ∀ row ∈ staged.rows,
      committed.contains (Row.guid row) = false →
        ∀ r ∈ committed.rows, Row.key r ≠ Row.key row := by
  simp [conflict?, List.find?_eq_none]

end LiveEvents.Store.Table
