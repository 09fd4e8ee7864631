import LiveEvents.Proofs.Instruments

/-!
# Base and quote

An instrument is written base, dash, quote. Upper case neither makes nor removes a dash, so a symbol
without dashes has exactly one in its instrument or none. No quote currency ends in another one, so
a symbol is split in one way at most and the order in which the quote currencies are tried is of no
consequence. A symbol that is a quote currency itself is split in front of all of it, and one that
is written as an instrument already gets a second dash.
-/

namespace LiveEvents

namespace Text

theorem upper_append (s t : String) : upper (s ++ t) = upper s ++ upper t := by
  apply String.toList_inj.mp
  simp [upper]

/-! ## Dashes under upper case -/

theorem dash_notMem_expansions :
    ∀ expansion ∈ upperExpansions, '-' ∉ expansion.2.map Char.ofNat := by
  decide +kernel

/-- No run of case pairs reaches down to the dash. -/
theorem dash_lt_upperRuns : ∀ run ∈ upperRuns, (0x2D : Int) < run.first + run.shift := by
  decide +kernel

theorem ofNat_ne_dash {code : ℕ} (h : 0x2D < code) : Char.ofNat code ≠ '-' := by
  by_cases hvalid : code.isValidChar
  · intro hdash
    have hcode : (Char.ofNat code).toNat = code := by
      unfold Char.ofNat
      rw [dif_pos hvalid]
      unfold Char.ofNatAux Char.toNat
      simp
    rw [hdash] at hcode
    exact Nat.ne_of_lt h hcode
  -- What is no character at all becomes the null character.
  · unfold Char.ofNat
    rw [dif_neg hvalid]
    decide

theorem count_dash_upperChar_ascii : ∀ code < 0x80,
    (upperChar (Char.ofNat code)).count '-' = if Char.ofNat code = '-' then 1 else 0 := by
  decide +kernel

theorem dash_notMem_upperChar {c : Char} (h : ¬c.toNat < 0x80) : '-' ∉ upperChar c := by
  unfold upperChar
  rw [if_neg h]
  split
  next codes hcodes =>
    obtain ⟨before, later, hexpansions, -⟩ := List.lookup_eq_some_iff.mp hcodes
    apply dash_notMem_expansions (c.toNat, codes)
    rw [hexpansions]
    exact List.mem_append_right _ List.mem_cons_self
  next =>
    split
    next run hrun =>
      have hlow := dash_lt_upperRuns run (List.mem_of_find?_eq_some hrun)
      have hcovers := List.find?_some hrun
      simp only [CaseRun.covers, Bool.and_eq_true, decide_eq_true_eq] at hcovers
      rw [List.mem_singleton]
      exact (ofNat_ne_dash (by omega)).symm
    next =>
      rw [List.mem_singleton]
      rintro rfl
      exact h (by decide)

theorem count_dash_upperChar (c : Char) :
    (upperChar c).count '-' = if c = '-' then 1 else 0 := by
  by_cases h : c.toNat < 0x80
  · have hcode := count_dash_upperChar_ascii c.toNat h
    rwa [Char.ofNat_toNat] at hcode
  · rw [List.count_eq_zero.mpr (dash_notMem_upperChar h), if_neg]
    rintro rfl
    exact h (by decide)

theorem count_dash_upper (s : String) : (upper s).toList.count '-' = s.toList.count '-' := by
  unfold upper
  rw [String.toList_ofList]
  induction s.toList with
  | nil => rfl
  | cons c cs ih =>
    rw [List.flatMap_cons, List.count_append, ih, count_dash_upperChar, List.count_cons]
    simp only [beq_iff_eq]
    omega

theorem dash_mem_upper_iff {s : String} : '-' ∈ (upper s).toList ↔ '-' ∈ s.toList := by
  rw [← List.count_pos_iff, ← List.count_pos_iff, count_dash_upper]

end Text

namespace Okx

/-! ## One split at most -/

/-- No quote currency ends in another one. -/
theorem quotes_apart : ∀ quote ∈ quotes, ∀ quote' ∈ quotes,
    quote.toList <:+ quote'.toList → quote = quote' := by
  decide

theorem split_unique {base base' quote quote' : String} (hquote : quote ∈ quotes)
    (hquote' : quote' ∈ quotes) (h : base ++ quote = base' ++ quote') :
    base = base' ∧ quote = quote' := by
  have hlists : base.toList ++ quote.toList = base'.toList ++ quote'.toList := by
    simpa using congrArg String.toList h
  have heq : quote = quote' := by
    rcases List.suffix_or_suffix_of_suffix (hlists ▸ List.suffix_append base.toList quote.toList)
      (List.suffix_append base'.toList quote'.toList) with hends | hends
    · exact quotes_apart quote hquote quote' hquote' hends
    · exact (quotes_apart quote' hquote' quote hquote hends).symm
  subst heq
  exact ⟨String.toList_inj.mp (List.append_cancel_right hlists), rfl⟩

theorem instrument_of_split {symbol base quote : String} (hquote : quote ∈ quotes)
    (h : Text.upper symbol = base ++ quote) : instrument symbol = base ++ "-" ++ quote := by
  obtain ⟨base', quote', hquote', hupper, hsplit⟩ | ⟨hnone, -⟩ := instrument_cases symbol
  · obtain ⟨rfl, rfl⟩ := split_unique hquote hquote' (h.symm.trans hupper)
    exact hsplit
  · exact absurd h (hnone quote hquote base)

theorem instrumentBy_perm {order : List String} (horder : order.Perm quotes) (symbol : String) :
    instrumentBy order symbol = instrument symbol := by
  obtain ⟨base, quote, hquote, hupper, hsplit⟩ | ⟨hnone, hwhole⟩ := instrumentBy_cases order symbol
  · rw [hsplit, instrument_of_split (horder.mem_iff.mp hquote) hupper]
  · obtain ⟨base', quote', hquote', hupper', -⟩ | ⟨-, hwhole'⟩ := instrument_cases symbol
    · exact absurd hupper' (hnone quote' (horder.mem_iff.mpr hquote') base')
    · rw [hwhole, hwhole']

theorem count_dash_instrument_of_split {symbol base quote : String} (hquote : quote ∈ quotes)
    (h : Text.upper symbol = base ++ quote) :
    (instrument symbol).toList.count '-' = symbol.toList.count '-' + 1 := by
  have hdash : ("-" : String).toList.count '-' = 1 := by decide
  have hupper := Text.count_dash_upper symbol
  rw [h] at hupper
  rw [instrument_of_split hquote h]
  simp only [String.toList_append, List.count_append] at hupper ⊢
  omega

theorem instrument_eq_self_iff {symbol : String} :
    instrument symbol = symbol ↔
      Text.upper symbol = symbol ∧ ∀ base, ∀ quote ∈ quotes, symbol ≠ base ++ quote := by
  constructor
  · intro hself
    obtain ⟨base, quote, hquote, hupper, -⟩ | ⟨hnone, hwhole⟩ := instrument_cases symbol
    -- An instrument that was split has one dash more than its symbol.
    · have hcount := count_dash_instrument_of_split hquote hupper
      rw [hself] at hcount
      omega
    · have hupper : Text.upper symbol = symbol := hwhole.symm.trans hself
      exact ⟨hupper, fun base quote hquote heq => hnone quote hquote base (hupper.trans heq)⟩
  · rintro ⟨hupper, hnone⟩
    obtain ⟨base, quote, hquote, hends, -⟩ | ⟨-, hwhole⟩ := instrument_cases symbol
    · exact absurd (hupper.symm.trans hends) (hnone base quote hquote)
    · exact hwhole.trans hupper

theorem upper_quotes : ∀ quote ∈ quotes, Text.upper quote = quote := by decide +kernel

theorem instrument_of_instrument {base quote : String} (hquote : quote ∈ quotes) :
    instrument (base ++ "-" ++ quote) = Text.upper base ++ "--" ++ quote := by
  have hdash : Text.upper "-" = "-" := by decide +kernel
  have hupper : Text.upper (base ++ "-" ++ quote) = Text.upper base ++ "-" ++ quote := by
    rw [Text.upper_append, Text.upper_append, upper_quotes quote hquote, hdash]
  rw [instrument_of_split hquote hupper]
  apply String.toList_inj.mp
  simp

/-- The upper case of a symbol is a base with something in it and a quote currency. -/
def Splits (symbol base quote : String) : Prop :=
  quote ∈ quotes ∧ base ≠ "" ∧ Text.upper symbol = base ++ quote

/-- A symbol without dashes that is no quote currency itself is split before the one quote currency
at its end, or has none there and stays whole. A quote currency is split in front of all of it. The
order of the quote currencies is of no consequence. A symbol is its own instrument exactly if it is
in upper case and has no quote currency at its end, so one that is written as an instrument never
is: it gets a second dash. -/
theorem instrument_split_once (symbol : String) :
    ('-' ∉ symbol.toList → Text.upper symbol ∉ quotes →
      (∃ base quote, Splits symbol base quote ∧ '-' ∉ base.toList ∧ '-' ∉ quote.toList ∧
          instrument symbol = base ++ "-" ++ quote) ∨
        (∀ base quote, ¬Splits symbol base quote) ∧ instrument symbol = Text.upper symbol) ∧
      (Text.upper symbol ∈ quotes → instrument symbol = "-" ++ Text.upper symbol) ∧
      (∀ order : List String, order.Perm quotes → instrumentBy order symbol = instrument symbol) ∧
      (instrument symbol = symbol ↔
        Text.upper symbol = symbol ∧ ∀ base, ∀ quote ∈ quotes, symbol ≠ base ++ quote) ∧
      ∀ base, ∀ quote ∈ quotes, symbol = base ++ "-" ++ quote →
        instrument symbol = Text.upper base ++ "--" ++ quote := by
  refine ⟨fun hdash hquotes => ?_, fun hquotes => ?_, fun order horder =>
    instrumentBy_perm horder symbol, instrument_eq_self_iff, ?_⟩
  · obtain ⟨base, quote, hquote, hupper, hsplit⟩ | ⟨hnone, hwhole⟩ := instrument_cases symbol
    · have hbase : base ≠ "" := by
        rintro rfl
        rw [String.empty_append] at hupper
        exact hquotes (hupper ▸ hquote)
      have hfree : '-' ∉ base.toList := by
        intro hmem
        apply hdash
        rw [← Text.dash_mem_upper_iff, hupper, String.toList_append]
        exact List.mem_append_left _ hmem
      exact .inl ⟨base, quote, ⟨hquote, hbase, hupper⟩, hfree, dash_notMem_quotes quote hquote,
        hsplit⟩
    · exact .inr ⟨fun base quote hsplits => hnone quote hsplits.1 base hsplits.2.2, hwhole⟩
  · exact @instrument_of_split _ "" _ hquotes (by rw [String.empty_append])
  · rintro base quote hquote rfl
    exact instrument_of_instrument hquote

theorem solusd_split_once :
    '-' ∉ "solusd".toList ∧ Text.upper "solusd" ∉ quotes ∧
      ((∃ base quote, Splits "solusd" base quote ∧ '-' ∉ base.toList ∧ '-' ∉ quote.toList ∧
          instrument "solusd" = base ++ "-" ++ quote) ∨
        (∀ base quote, ¬Splits "solusd" base quote) ∧
          instrument "solusd" = Text.upper "solusd") ∧
      instrument "solusd" = "SOL-USD" :=
  ⟨by decide, by decide +kernel,
    (instrument_split_once "solusd").1 (by decide) (by decide +kernel), by decide +kernel⟩

/-- A quote currency has nothing in front of it and is split all the same, and the instrument of an
instrument is another one. -/
theorem usdt_split_empty :
    '-' ∉ "USDT".toList ∧ (∀ base quote, ¬Splits "USDT" base quote) ∧
      instrument "USDT" = "-USDT" ∧ instrument "USDT" ≠ Text.upper "USDT" ∧
      instrument "BTCUSDT" = "BTC-USDT" ∧ instrument "BTC-USDT" = "BTC--USDT" := by
  have hnone : ∀ base quote, ¬Splits "USDT" base quote := by
    rintro base quote ⟨hquote, hbase, hupper⟩
    have hwhole : Text.upper "USDT" = "" ++ "USDT" := by decide +kernel
    exact hbase (split_unique hquote (by decide) (hupper.symm.trans hwhole)).1
  exact ⟨by decide, hnone, by decide +kernel, by decide +kernel, by decide +kernel,
    by decide +kernel⟩

end Okx

end LiveEvents
