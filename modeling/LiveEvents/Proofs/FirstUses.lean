import LiveEvents.Proofs.LoneTransactions

/-!
# Tables of first uses

A table to which a row is added at the first use of every key lists the rows of the elements that
are first to use their keys, in their order. A further element either adds its row at the end, or
finds the row of the first element with its key and changes it in its place.
-/

namespace LiveEvents

variable {α β : Type} [DecidableEq β] {key : α → β} {as : List α} {a : α}

/-- The elements whose keys no earlier element has. -/
def firsts (key : α → β) : List α → List α
  | [] => []
  | a :: as => a :: (firsts key as).filter (key · ≠ key a)

theorem mem_of_mem_firsts (h : a ∈ firsts key as) : a ∈ as := by
  induction as with
  | nil => exact h
  | cons b as ih =>
    rcases List.mem_cons.mp h with rfl | h
    · exact List.mem_cons_self
    · exact List.mem_cons_of_mem b (ih (List.mem_of_mem_filter h))

theorem exists_mem_firsts (h : a ∈ as) : ∃ b ∈ firsts key as, key b = key a := by
  induction as with
  | nil => cases h
  | cons c as ih =>
    by_cases hc : key a = key c
    · exact ⟨c, List.mem_cons_self, hc.symm⟩
    · have ha : a ∈ as := by
        rcases List.mem_cons.mp h with rfl | ha
        · exact absurd rfl hc
        · exact ha
      obtain ⟨b, hb, hk⟩ := ih ha
      have hne : key b ≠ key c := by rwa [hk]
      exact ⟨b, List.mem_cons_of_mem c (List.mem_filter.mpr ⟨hb, by simpa using hne⟩), hk⟩

theorem firsts_snoc (key : α → β) (as : List α) (a : α) :
    firsts key (as ++ [a]) = firsts key as ++ if ∃ b ∈ as, key b = key a then [] else [a] := by
  induction as with
  | nil => simp [firsts]
  | cons b as ih =>
    simp only [List.cons_append, firsts, ih, List.filter_append, List.mem_cons, exists_eq_or_imp]
    by_cases hb : key b = key a
    · rw [if_pos (Or.inl hb)]
      by_cases has : ∃ c ∈ as, key c = key a
      · simp [has]
      · simp [has, hb]
    · have hne : key a ≠ key b := fun e => hb e.symm
      by_cases has : ∃ c ∈ as, key c = key a
      · simp [has]
      · simp [has, hb, hne]

theorem firsts_snoc_of_mem (h : ∃ b ∈ as, key b = key a) :
    firsts key (as ++ [a]) = firsts key as := by
  rw [firsts_snoc, if_pos h, List.append_nil]

theorem firsts_snoc_of_not_mem (h : ∀ b ∈ as, key b ≠ key a) :
    firsts key (as ++ [a]) = firsts key as ++ [a] := by
  rw [firsts_snoc, if_neg fun ⟨b, hb, hk⟩ => h b hb hk]

namespace Store

variable {ρ : Type} [Row ρ] {f f' : α → ρ} {row row' : ρ}

/-- The rows of these elements, each under its own guid. -/
def listed (f : α → ρ) (as : List α) : Table ρ := as.map fun a => (Row.guid (f a), f a)

theorem rows_listed (f : α → ρ) (as : List α) : (listed f as).rows = as.map f := by
  simp [listed, Table.rows]

theorem listed_congr (h : ∀ a ∈ as, f a = f' a) : listed f as = listed f' as :=
  List.map_congr_left fun a ha => by rw [h a ha]

theorem row?_listed_eq_none_iff (f : α → ρ) (as : List α) (k : String) :
    (listed f as).row? k = none ↔ ∀ a ∈ as, Row.key (f a) ≠ k := by
  rw [Table.row?_eq_none_iff, rows_listed]
  simp

theorem exists_of_row?_listed {k : String} (h : (listed f as).row? k = some row) :
    ∃ a ∈ as, f a = row ∧ Row.key (f a) = k := by
  have hmem := List.mem_of_find?_eq_some h
  rw [rows_listed] at hmem
  obtain ⟨a, ha, rfl⟩ := List.mem_map.mp hmem
  exact ⟨a, ha, rfl, by simpa using List.find?_some h⟩

/-- If a key has a row, a further element with that key is not the first to use it. -/
theorem firsts_of_row?_some {k : String} (h : (listed f (firsts key as)).row? k = some row)
    (hk : ∀ b ∈ as, Row.key (f b) = k → key b = key a) :
    firsts key (as ++ [a]) = firsts key as ∧ ∃ b ∈ firsts key as, f b = row ∧ key b = key a := by
  obtain ⟨b, hb, hrow, hkey⟩ := exists_of_row?_listed h
  have hmem := mem_of_mem_firsts hb
  exact ⟨firsts_snoc_of_mem ⟨b, hmem, hk b hmem hkey⟩, b, hb, hrow, hk b hmem hkey⟩

/-- If a key has no row, a further element with that key is the first to use it. -/
theorem firsts_of_row?_none {k : String} (h : (listed f (firsts key as)).row? k = none)
    (hk : ∀ b ∈ as, key b = key a → Row.key (f b) = k) :
    (∀ b ∈ as, key b ≠ key a) ∧ firsts key (as ++ [a]) = firsts key as ++ [a] := by
  have hnone : ∀ b ∈ as, key b ≠ key a := by
    intro b hb he
    obtain ⟨c, hc, hkey⟩ : ∃ c ∈ firsts key as, key c = key b := exists_mem_firsts hb
    exact (row?_listed_eq_none_iff f _ k).mp h c hc
      (hk c (mem_of_mem_firsts hc) (hkey.trans he))
  exact ⟨hnone, firsts_snoc_of_not_mem hnone⟩

theorem listed_put_new (hnew : (listed f as).get? (Row.guid row) = none)
    (hold : ∀ b ∈ as, f b = f' b) (ha : f' a = row) :
    (listed f as).put (Row.guid row) row = listed f' (as ++ [a]) := by
  rw [Table.put_eq_append _ _ _ hnew, listed_congr hold]
  simp [listed, ha]

theorem listed_put_change {g : ℕ → Guid} {n : ℕ} (ht : Table.Committed g n (listed f as))
    (hrow : (listed f as).get? (Row.guid row) = some row) (hg : Row.guid row' = Row.guid row)
    (hsame : ∀ a ∈ as, f a = row → f' a = row')
    (hother : ∀ a ∈ as, Row.key (f a) ≠ Row.key row → f' a = f a) :
    (listed f as).put (Row.guid row) row' = listed f' as := by
  rw [Table.put_eq_map ht.nodup ((Table.contains_iff _ _).mpr ⟨row, hrow⟩)]
  unfold listed
  rw [List.map_map]
  refine List.map_congr_left fun a ha => ?_
  have hmem : f a ∈ (listed f as).rows := by
    rw [rows_listed]
    exact List.mem_map_of_mem ha
  have hget := ht.get?_of_mem_rows hmem
  by_cases hk : Row.guid (f a) = Row.guid row
  · rw [hk, hrow] at hget
    have heq : f a = row := (Option.some.inj hget).symm
    simp only [Function.comp_apply, if_pos hk, hsame a ha heq, hg]
  · have hne : Row.key (f a) ≠ Row.key row := fun e => hk (ht.unique _ _ _ _ hget hrow e)
    simp only [Function.comp_apply, if_neg hk, hother a ha hne]

end Store

end LiveEvents
