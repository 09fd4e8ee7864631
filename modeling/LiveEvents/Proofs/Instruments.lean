import LiveEvents.Proofs.PairKeys
import LiveEvents.Wire.Okx

/-!
# Instruments

The instrument of a symbol is its upper case with at most one dash put in, before a quote currency
at its end. No quote currency has a dash in it, so the last dash of an instrument tells where it was
put in, and the upper case of the symbol can be read off the instrument.
-/

namespace LiveEvents

namespace Text

theorem withoutEnd?_eq_some_iff {ending s rest : String} :
    withoutEnd? ending s = some rest ↔ s = rest ++ ending := by
  unfold withoutEnd?
  constructor
  · intro h
    split_ifs at h with hend
    obtain ⟨front, hfront⟩ := List.isSuffixOf_iff_suffix.mp hend
    obtain rfl := Option.some.inj h
    apply String.toList_inj.mp
    rw [← hfront]
    simp
  · rintro rfl
    rw [if_pos (List.isSuffixOf_iff_suffix.mpr (by simp))]
    simp

theorem withoutEnd?_eq_none_iff {ending s : String} :
    withoutEnd? ending s = none ↔ ∀ rest, s ≠ rest ++ ending := by
  rw [Option.eq_none_iff_forall_ne_some]
  exact forall_congr' fun rest => not_congr withoutEnd?_eq_some_iff

theorem without_append (c : Char) (s t : String) :
    without c (s ++ t) = without c s ++ without c t := by
  apply String.toList_inj.mp
  simp [without]

end Text

namespace Okx

theorem dash_notMem_quotes : ∀ quote ∈ quotes, '-' ∉ quote.toList := by decide

/-- The instrument of a symbol if the quote currencies are tried in some order. -/
def instrumentBy (order : List String) (symbol : String) : String :=
  (order.findSome? fun quote =>
    (Text.withoutEnd? quote (Text.upper symbol)).map (· ++ "-" ++ quote)).getD (Text.upper symbol)

/-- A symbol is split before one of the quote currencies that are tried, or none of them stands at
its end and it stays whole. -/
theorem instrumentBy_cases (order : List String) (symbol : String) :
    (∃ base, ∃ quote ∈ order, Text.upper symbol = base ++ quote ∧
        instrumentBy order symbol = base ++ "-" ++ quote) ∨
      (∀ quote ∈ order, ∀ base, Text.upper symbol ≠ base ++ quote) ∧
        instrumentBy order symbol = Text.upper symbol := by
  unfold instrumentBy
  generalize Text.upper symbol = upper
  cases hfind : order.findSome? fun quote =>
      (Text.withoutEnd? quote upper).map (· ++ "-" ++ quote) with
  | some split =>
    obtain ⟨quote, hquote, hsplit⟩ := List.exists_of_findSome?_eq_some hfind
    obtain ⟨base, hbase, rfl⟩ := Option.map_eq_some_iff.mp hsplit
    exact .inl ⟨base, quote, hquote, Text.withoutEnd?_eq_some_iff.mp hbase, rfl⟩
  | none =>
    refine .inr ⟨fun quote hquote => ?_, rfl⟩
    have hnone := List.findSome?_eq_none_iff.mp hfind quote hquote
    exact Text.withoutEnd?_eq_none_iff.mp (Option.map_eq_none_iff.mp hnone)

/-- A symbol is split before a quote currency at its end, or it has none there and stays whole. -/
theorem instrument_cases (symbol : String) :
    (∃ base, ∃ quote ∈ quotes, Text.upper symbol = base ++ quote ∧
        instrument symbol = base ++ "-" ++ quote) ∨
      (∀ quote ∈ quotes, ∀ base, Text.upper symbol ≠ base ++ quote) ∧
        instrument symbol = Text.upper symbol :=
  instrumentBy_cases quotes symbol

/-- The dash that is put in is the only difference. -/
theorem without_instrument (symbol : String) :
    Text.without '-' (instrument symbol) = Text.without '-' (Text.upper symbol) := by
  obtain ⟨base, quote, -, hupper, hsplit⟩ | ⟨-, hwhole⟩ := instrument_cases symbol
  · have hdash : Text.without '-' "-" = "" := by decide
    rw [hupper, hsplit, Text.without_append, Text.without_append, Text.without_append, hdash,
      String.append_empty]
  · rw [hwhole]

/-- What stands before and after the last dash can be read off. -/
theorem eq_of_append_dash {base base' quote quote' : String} (hquote : '-' ∉ quote.toList)
    (hquote' : '-' ∉ quote'.toList) (h : base ++ "-" ++ quote = base' ++ "-" ++ quote') :
    base = base' ∧ quote = quote' := by
  have hlists : base.toList ++ '-' :: quote.toList = base'.toList ++ '-' :: quote'.toList := by
    simpa using congrArg String.toList h
  obtain ⟨hbase, heq⟩ | ⟨mid, -, heq⟩ | ⟨mid, -, heq⟩ :=
    (Store.append_sep_eq_iff _ _ _ _ _).mp hlists
  · exact ⟨String.toList_inj.mp hbase, String.toList_inj.mp heq⟩
  · exact absurd (heq ▸ List.mem_append_right _ List.mem_cons_self) hquote'
  · exact absurd (heq ▸ List.mem_append_right _ List.mem_cons_self) hquote

theorem instrument_eq_iff {symbol symbol' : String} :
    instrument symbol = instrument symbol' ↔ Text.upper symbol = Text.upper symbol' := by
  constructor
  · intro h
    obtain ⟨base, quote, hquote, hupper, hsplit⟩ | ⟨hnone, hwhole⟩ := instrument_cases symbol <;>
    obtain ⟨base', quote', hquote', hupper', hsplit'⟩ | ⟨hnone', hwhole'⟩ :=
      instrument_cases symbol'
    · rw [hsplit, hsplit'] at h
      obtain ⟨rfl, rfl⟩ := eq_of_append_dash (dash_notMem_quotes quote hquote)
        (dash_notMem_quotes quote' hquote') h
      rw [hupper, hupper']
    -- A symbol that is split ends in a quote currency, and so does its instrument.
    · rw [hsplit, hwhole'] at h
      exact absurd h.symm (hnone' quote hquote _)
    · rw [hwhole, hsplit'] at h
      exact absurd h (hnone quote' hquote' _)
    · rw [hwhole, hwhole'] at h
      exact h
  · intro h
    unfold instrument
    rw [h]

end Okx

end LiveEvents
