import LiveEvents.Proofs.CalendarDays
import LiveEvents.Proofs.PrintedJson

/-!
# Texts of days

Leading zeros do not change the number that digits name, month and day have two digits each, and
a sign is no digit. So the text of a day names that day only, whatever separates its parts.
-/

namespace LiveEvents

namespace Text

theorem decimalValue_zeros (k : Nat) (ds : List Char) :
    decimalValue (List.replicate k '0' ++ ds) = decimalValue ds := by
  induction k with
  | zero => rfl
  | succ k ih => exact ih

theorem decimalValue_padded (width n : Nat) : decimalValue (padded width n) = n := by
  rw [padded, decimalValue_zeros, Json.decimalValue_decimal]

theorem padded_injective {width n n' : Nat} (h : padded width n = padded width n') : n = n' := by
  rw [← decimalValue_padded width n, h, decimalValue_padded]

theorem isDigit_padded {width n : Nat} : ∀ c ∈ padded width n, c.isDigit = true := by
  intro c hc
  rcases List.mem_append.mp hc with hzero | hdigit
  · rw [List.eq_of_mem_replicate hzero]
    rfl
  · exact (Json.isWhole_decimal n).isDigit.2 c hdigit

theorem length_padded {width n : Nat} (hwidth : 0 < width) (hn : n < 10 ^ width) :
    (padded width n).length = width := by
  have hlength : (decimal n).length ≤ width :=
    (Nat.length_toDigits_le_iff (by decide) hwidth).mpr hn
  rw [padded, List.length_append, List.length_replicate]
  omega

end Text

namespace Civil

/-- The months and the days of a month are written with two digits. -/
theorem Valid.lt_hundred {c : Civil} (h : c.Valid) : c.month < 100 ∧ c.day < 100 := by
  obtain ⟨-, hmonth, -, hday⟩ := h
  have hlength : monthLength c.year c.month ≤ 31 := by
    unfold monthLength
    split_ifs <;> omega
  omega

end Civil

namespace Date

theorem yearChars_cases (year : Int) :
    0 ≤ year ∧ yearChars year = Text.padded 4 year.natAbs ∨
      ∃ sign : Char, sign.isDigit = false ∧ (sign = '-' ↔ year < 0) ∧
        yearChars year = sign :: Text.padded 4 year.natAbs := by
  unfold yearChars
  split_ifs with hplain hneg
  · exact .inl ⟨hplain.1, rfl⟩
  · exact .inr ⟨'-', rfl, by simpa using hneg, rfl⟩
  · exact .inr ⟨'+', rfl, by simpa using hneg, rfl⟩

/-- A year with a sign does not begin with a digit. -/
theorem sign_cons_ne_padded {sign : Char} (h : sign.isDigit = false) {width n : Nat}
    {cs : List Char} : sign :: cs ≠ Text.padded width n := by
  intro heq
  have hdigit := Text.isDigit_padded sign (heq ▸ List.mem_cons_self)
  rw [h] at hdigit
  cases hdigit

theorem yearChars_injective {year year' : Int} (h : yearChars year = yearChars year') :
    year = year' := by
  obtain ⟨hpos, hchars⟩ | ⟨sign, hsign, hneg, hchars⟩ := yearChars_cases year <;>
  obtain ⟨hpos', hchars'⟩ | ⟨sign', hsign', hneg', hchars'⟩ := yearChars_cases year' <;>
  rw [hchars, hchars'] at h
  · have habs := Text.padded_injective h
    omega
  · exact absurd h.symm (sign_cons_ne_padded hsign')
  · exact absurd h (sign_cons_ne_padded hsign)
  · obtain ⟨rfl, hdigits⟩ := List.cons.inj h
    have habs := Text.padded_injective hdigits
    have hsame : year < 0 ↔ year' < 0 := hneg.symm.trans hneg'
    omega

theorem charsWith_injective (separator : Char) {d d' : Date}
    (h : d.charsWith separator = d'.charsWith separator) : d = d' := by
  obtain ⟨hmonth, hday⟩ := d.civil_valid.lt_hundred
  obtain ⟨hmonth', hday'⟩ := d'.civil_valid.lt_hundred
  have hlength {n : Nat} (hn : n < 100) : (Text.padded 2 n).length = 2 :=
    Text.length_padded (by decide) hn
  unfold charsWith at h
  obtain ⟨hyears, htails⟩ := List.append_inj' h (by
    simp [hlength hmonth, hlength hday, hlength hmonth', hlength hday'])
  obtain ⟨hmonths, hdays⟩ := List.append_inj (List.cons.inj htails).2
    ((hlength hmonth).trans (hlength hmonth').symm)
  have hyear := yearChars_injective hyears
  have hmonth := Text.padded_injective hmonths
  have hday := Text.padded_injective (List.cons.inj hdays).2
  apply civil_inj.mp
  cases hcivil : d.civil
  cases hcivil' : d'.civil
  simp_all

end Date

end LiveEvents
