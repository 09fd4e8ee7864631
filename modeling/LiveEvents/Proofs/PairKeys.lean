import LiveEvents.Store.Table
import Mathlib.Data.List.Basic

/-!
# Keys of two parts

The natural key of a title, a team or the name of a team is two texts with a slash between them.
Nothing keeps a slash out of either text, so different pairs may have one key. Such pairs overlap:
the first text of the longer one runs on past the slash of the shorter one. Pairs of one key are
told apart by how many slashes their first texts hold.
-/

namespace LiveEvents.Store

theorem append_sep_eq_iff {α : Type} (sep : α) (xs us ys vs : List α) :
    xs ++ sep :: us = ys ++ sep :: vs ↔
      (xs = ys ∧ us = vs) ∨ (∃ mid, xs = ys ++ sep :: mid ∧ vs = mid ++ sep :: us) ∨
        ∃ mid, ys = xs ++ sep :: mid ∧ us = mid ++ sep :: vs := by
  constructor
  · intro h
    -- What the longer of the two first lists has beyond the other one begins with the separator.
    rcases List.append_eq_append_iff.mp h with ⟨mid, rfl, hmid⟩ | ⟨mid, rfl, hmid⟩
    · cases mid with
      | nil => exact Or.inl (by simpa using hmid)
      | cons c mid =>
        obtain ⟨rfl, rfl⟩ := List.cons.inj hmid
        exact Or.inr (Or.inr ⟨mid, rfl, rfl⟩)
    · cases mid with
      | nil => exact Or.inl (by simpa using hmid.symm)
      | cons c mid =>
        obtain ⟨rfl, rfl⟩ := List.cons.inj hmid
        exact Or.inr (Or.inl ⟨mid, rfl, rfl⟩)
  · rintro (⟨rfl, rfl⟩ | ⟨mid, rfl, rfl⟩ | ⟨mid, rfl, rfl⟩)
    · rfl
    · simp
    · simp

/-- The first text of the long pair runs on past the slash of the short one. -/
def Overlaps (long short : String × String) : Prop :=
  ∃ mid, long.1 = short.1 ++ "/" ++ mid ∧ short.2 = mid ++ "/" ++ long.2

def slashes (text : String) : ℕ := text.toList.count '/'

theorem Overlaps.slashes_lt {long short : String × String} (h : Overlaps long short) :
    slashes short.1 < slashes long.1 := by
  obtain ⟨mid, hlong, -⟩ := h
  unfold slashes
  rw [hlong, String.toList_append, String.toList_append, List.count_append, List.count_append]
  have hone : List.count '/' "/".toList = 1 := by decide
  omega

theorem overlaps_iff (long short : String × String) :
    Overlaps long short ↔ ∃ mid, long.1.toList = short.1.toList ++ '/' :: mid ∧
      short.2.toList = mid ++ '/' :: long.2.toList := by
  constructor
  · rintro ⟨mid, hlong, hshort⟩
    exact ⟨mid.toList, by simp [hlong], by simp [hshort]⟩
  · rintro ⟨mid, hlong, hshort⟩
    exact ⟨String.ofList mid, String.toList_inj.mp (by simp [hlong]),
      String.toList_inj.mp (by simp [hshort])⟩

/-- Two pairs have one key only if they are the same or overlap. -/
theorem pairKey_eq_iff (p q : String × String) :
    pairKey p.1 p.2 = pairKey q.1 q.2 ↔ p = q ∨ Overlaps p q ∨ Overlaps q p := by
  have hlist : pairKey p.1 p.2 = pairKey q.1 q.2 ↔
      p.1.toList ++ '/' :: p.2.toList = q.1.toList ++ '/' :: q.2.toList := by
    rw [← String.toList_inj]
    simp [pairKey]
  rw [hlist, append_sep_eq_iff, overlaps_iff, overlaps_iff, String.toList_inj, String.toList_inj,
    Prod.ext_iff]

theorem eq_iff_slashes_of_pairKey {p q : String × String}
    (h : pairKey p.1 p.2 = pairKey q.1 q.2) : p = q ↔ slashes p.1 = slashes q.1 := by
  constructor
  · rintro rfl
    rfl
  · intro hslashes
    rcases (pairKey_eq_iff p q).mp h with heq | hlong | hlong
    · exact heq
    · have hlt := hlong.slashes_lt
      omega
    · have hlt := hlong.slashes_lt
      omega

/-- A key with an owner free of slashes names its owner. -/
theorem pairKey_injective {owner owner' part part' : String} (h : '/' ∉ owner.toList)
    (h' : '/' ∉ owner'.toList) (hk : pairKey owner part = pairKey owner' part') :
    owner = owner' ∧ part = part' := by
  have hsame : slashes owner = slashes owner' :=
    (List.count_eq_zero.mpr h).trans (List.count_eq_zero.mpr h').symm
  exact Prod.ext_iff.mp
    ((eq_iff_slashes_of_pairKey (p := (owner, part)) (q := (owner', part')) hk).mpr hsame)

end LiveEvents.Store
