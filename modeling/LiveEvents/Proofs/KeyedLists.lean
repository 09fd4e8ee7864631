import Mathlib.Data.List.Nodup
import Mathlib.Tactic.SplitIfs

/-!
# Looking up keys

What a list of pairs gives for a key: it does not depend on the order of the list when no key stands
twice, nor on pairs with other keys that are left out or put in front.
-/

namespace LiveEvents

section Lookup

variable {κ α : Type} [BEq κ] [LawfulBEq κ] {k : κ} {l l' : List (κ × α)}

theorem lookup_eq_some_iff (hl : (l.map (·.1)).Nodup) {v : α} :
    l.lookup k = some v ↔ (k, v) ∈ l := by
  induction l with
  | nil => simp
  | cons pair rest ih =>
    obtain ⟨hfirst, hrest⟩ := List.nodup_cons.mp hl
    rw [List.lookup_cons, List.mem_cons]
    by_cases hk : k = pair.1
    · subst hk
      have hnone : (pair.1, v) ∉ rest := fun h => hfirst (List.mem_map.mpr ⟨_, h, rfl⟩)
      simp [hnone, Prod.ext_iff, eq_comm]
    · simp [beq_false_of_ne hk, ih hrest, Prod.ext_iff, hk]

/-- When no key stands twice, the order does not matter. -/
theorem lookup_eq_of_perm (h : l.Perm l') (hl : (l.map (·.1)).Nodup) :
    l.lookup k = l'.lookup k := by
  have hl' : (l'.map (·.1)).Nodup := (h.map (·.1)).nodup_iff.mp hl
  apply Option.ext
  intro v
  rw [lookup_eq_some_iff hl, lookup_eq_some_iff hl', h.mem_iff]

theorem lookup_filter {p : κ → Bool} (hk : p k = true) :
    (l.filter fun pair => p pair.1).lookup k = l.lookup k := by
  induction l with
  | nil => rfl
  | cons pair rest ih =>
    obtain ⟨key, v⟩ := pair
    by_cases hp : p key = true
    · simp only [List.filter_cons, hp, if_true, List.lookup_cons, ih]
    · have hne : k ≠ key := by
        rintro rfl
        exact hp hk
      simp [hp, List.lookup_cons, beq_false_of_ne hne, ih]

end Lookup

section Replaced

variable {κ α : Type} [DecidableEq κ] (k k' : κ) (l : List (κ × α))

theorem lookup_filter_ne :
    (l.filter (·.1 ≠ k)).lookup k' = if k' = k then none else l.lookup k' := by
  split_ifs with hk
  · subst hk
    rw [List.lookup_eq_none_iff]
    intro pair hpair
    have hother : pair.1 ≠ k' := by simpa using (List.mem_filter.mp hpair).2
    exact bne_iff_ne.mpr hother.symm
  · exact lookup_filter (p := fun key => decide (key ≠ k)) (by simpa using hk)

/-- A pair takes the place of all others with its key. -/
theorem lookup_replaced (v : α) :
    ((k, v) :: l.filter (·.1 ≠ k)).lookup k' = if k' = k then some v else l.lookup k' := by
  rw [List.lookup_cons, lookup_filter_ne]
  split_ifs with hk
  · subst hk
    simp
  · rw [beq_false_of_ne hk]

end Replaced

end LiveEvents
