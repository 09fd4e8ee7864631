import LiveEvents.Game
import LiveEvents.Proofs.DateTexts
import Mathlib.Data.List.Induction

/-!
# Scheduled times

A date is read back from its text whatever the width of its year, and a clock from two digits for
each of its parts. A text with an offset is read in one form and a text without in another; the
fraction and the offset do not change what is shown. What is shown has neither a `T` nor an offset,
so it is read in neither form, and to show it again changes nothing.
-/

namespace LiveEvents

namespace Text

theorem exists_padded_cons (width n : ℕ) :
    ∃ d ds, padded width n = d :: ds ∧ d.isDigit = true := by
  cases h : padded width n with
  | nil => simp [padded, decimal] at h
  | cons d ds => exact ⟨d, ds, rfl, isDigit_padded d (h ▸ List.mem_cons_self)⟩

theorem padded_ne_nil (width n : ℕ) : padded width n ≠ [] := by
  obtain ⟨d, ds, h, -⟩ := exists_padded_cons width n
  exact h ▸ List.cons_ne_nil d ds

theorem decimalValue_snoc (ds : List Char) (d : Char) :
    decimalValue (ds ++ [d]) = decimalValue ds * 10 + (d.toNat - '0'.toNat) := by
  simp [decimalValue]

theorem isDigit_iff {c : Char} : c.isDigit = true ↔ 48 ≤ c.toNat ∧ c.toNat ≤ 57 := by
  simp only [Char.isDigit, Bool.and_eq_true, decide_eq_true_eq]
  exact Iff.rfl

/-- Digits name a number below the power of ten with as many zeros. -/
theorem decimalValue_lt {ds : List Char} (h : ∀ d ∈ ds, d.isDigit = true) :
    decimalValue ds < 10 ^ ds.length := by
  induction ds using List.reverseRecOn with
  | nil => decide
  | append_singleton ds d ih =>
    have hlast := isDigit_iff.mp (h d (by simp))
    have hrest := ih fun e he => h e (List.mem_append_left _ he)
    have hzero : '0'.toNat = 48 := rfl
    rw [decimalValue_snoc, List.length_append, List.length_singleton, Nat.pow_succ, hzero]
    omega

theorem twoDigits?_of_isDigit {a b : Char} (ha : a.isDigit = true) (hb : b.isDigit = true) :
    twoDigits? a b = some (decimalValue [a, b]) := by
  simp [twoDigits?, digit?, ha, hb, decimalValue]

theorem exists_padded_two {n : ℕ} (h : n < 100) :
    ∃ a b, padded 2 n = [a, b] ∧ twoDigits? a b = some n := by
  have hlength := @length_padded 2 n (by decide) h
  match heq : padded 2 n, hlength with
  | [a, b], _ =>
    have hdigits := heq ▸ @isDigit_padded 2 n
    refine ⟨a, b, rfl, ?_⟩
    rw [twoDigits?_of_isDigit (hdigits a (by simp)) (hdigits b (by simp)), ← heq,
      decimalValue_padded]

theorem exists_padded_four {n : ℕ} (h : n < 10000) :
    ∃ a b c d, padded 4 n = [a, b, c, d] ∧ twoDigits? a b = some (n / 100) ∧
      twoDigits? c d = some (n % 100) := by
  have hlength := @length_padded 4 n (by decide) h
  match heq : padded 4 n, hlength with
  | [a, b, c, d], _ =>
    have hdigits := heq ▸ @isDigit_padded 4 n
    have hvalue : decimalValue [a, b] * 100 + decimalValue [c, d] = n := by
      rw [← decimalValue_padded 4 n, heq]
      simp [decimalValue]
      omega
    have hsmall : decimalValue [c, d] < 100 := @decimalValue_lt [c, d] (by simp_all)
    refine ⟨a, b, c, d, rfl, ?_, ?_⟩
    · rw [twoDigits?_of_isDigit (hdigits a (by simp)) (hdigits b (by simp))]
      congr 1
      omega
    · rw [twoDigits?_of_isDigit (hdigits c (by simp)) (hdigits d (by simp))]
      congr 1
      omega

/-- A run of digits is read up to where it ends. -/
theorem number?_append {limit : ℕ} {ds rest : List Char} (hds : ∀ d ∈ ds, d.isDigit = true)
    (hne : ds ≠ []) (hlimit : ds.length ≤ limit) (hrest : ∀ c ∈ rest.head?, c.isDigit = false) :
    number? limit (ds ++ rest) = some (decimalValue ds, rest) := by
  have hrun : ((ds ++ rest).take limit).takeWhile Char.isDigit = ds := by
    rw [List.take_append, List.take_of_length_le hlimit, List.takeWhile_append_of_pos hds]
    cases hrest' : rest.take (limit - ds.length) with
    | nil => simp
    | cons c tail =>
      have hc : c ∈ rest.head? := by
        cases rest with
        | nil => simp at hrest'
        | cons c' rest =>
          cases hk : limit - ds.length with
          | zero => simp [hk] at hrest'
          | succ k => simp_all
      simp [hrest c hc]
  simp only [number?, hrun, List.isEmpty_eq_false_iff.mpr hne]
  simp

theorem isBlank_of_isDigit {c : Char} (h : c.isDigit = true) : isBlank c = false := by
  obtain ⟨hlow, hhigh⟩ := isDigit_iff.mp h
  simp [isBlank]
  omega

theorem dropBlanks_cons {c : Char} (h : isBlank c = false) (cs : List Char) :
    dropBlanks (c :: cs) = c :: cs := by
  simp [dropBlanks, h]

theorem dropBlanks_padded (width n : ℕ) (cs : List Char) :
    dropBlanks (padded width n ++ cs) = padded width n ++ cs := by
  obtain ⟨d, ds, h, hd⟩ := exists_padded_cons width n
  rw [h]
  exact dropBlanks_cons (isBlank_of_isDigit hd) _

end Text

namespace Date

theorem ofCivil?_civil (d : Date) :
    ofCivil? ⟨d.civil.year, d.civil.month, d.civil.day⟩ = some d := by
  have hin : -96465292 ≤ d.day ∧ d.day ≤ 95026236 := ⟨d.first_le, d.le_last⟩
  have hvalid : Civil.Valid ⟨d.civil.year, d.civil.month, d.civil.day⟩ := d.civil_valid
  have hnumber : Civil.dayNumber ⟨d.civil.year, d.civil.month, d.civil.day⟩ = d.day :=
    d.dayNumber_civil
  simp only [ofCivil?, hvalid, if_true, hnumber, ofDay?, hin]
  rfl

/-- The year of a date is read back, whatever its width. -/
theorem year?_yearChars (year : ℤ) (rest : List Char) :
    year? (yearChars year ++ '-' :: rest) = some (year, '-' :: rest) := by
  have hread : ∀ limit, (Text.padded 4 year.natAbs).length ≤ limit →
      Text.number? limit (Text.padded 4 year.natAbs ++ '-' :: rest) =
        some (year.natAbs, '-' :: rest) := by
    intro limit hlimit
    rw [Text.number?_append Text.isDigit_padded (Text.padded_ne_nil 4 _) hlimit (by simp),
      Text.decimalValue_padded]
  have hlong : (Text.padded 4 year.natAbs).length ≤
      (Text.padded 4 year.natAbs ++ '-' :: rest).length := by simp
  unfold yearChars
  split_ifs with hplain hneg
  · have hlength : (Text.padded 4 year.natAbs).length ≤ 4 :=
      Nat.le_of_eq (Text.length_padded (by decide) (by omega))
    have habs : (year.natAbs : ℤ) = year := by omega
    obtain ⟨d, ds, hdigits, hd⟩ := Text.exists_padded_cons 4 year.natAbs
    have hplus : d ≠ '+' := by rintro rfl; cases hd
    have hminus : d ≠ '-' := by rintro rfl; cases hd
    have hread' := hread 4 hlength
    rw [hdigits] at hread' ⊢
    simp only [List.cons_append] at hread' ⊢
    unfold year?
    split
    · next heq => exact absurd (List.cons.inj heq).1 hminus
    · next heq => exact absurd (List.cons.inj heq).1 hplus
    · rw [hread']
      exact congrArg (fun y => some (y, '-' :: rest)) habs
  · have habs : -(year.natAbs : ℤ) = year := by omega
    simp only [List.cons_append, year?, hread _ hlong]
    exact congrArg (fun y => some (y, '-' :: rest)) habs
  · have habs : (year.natAbs : ℤ) = year := by omega
    simp only [List.cons_append, year?, hread _ hlong]
    exact congrArg (fun y => some (y, '-' :: rest)) habs

theorem dropBlanks_yearChars (year : ℤ) (rest : List Char) :
    Text.dropBlanks (yearChars year ++ rest) = yearChars year ++ rest := by
  unfold yearChars
  split_ifs
  · exact Text.dropBlanks_padded 4 _ rest
  · exact Text.dropBlanks_cons rfl _
  · exact Text.dropBlanks_cons rfl _

end Date

/-! ## Times without an offset -/

namespace Instant

/-- Hour, minute and second of a clock in two digits each. -/
def clockText (hour minute second : ℕ) : List Char :=
  Text.padded 2 hour ++ ':' :: (Text.padded 2 minute ++ ':' :: Text.padded 2 second)

theorem number?_padded_two {n : ℕ} (h : n < 100) {rest : List Char}
    (hrest : ∀ c ∈ rest.head?, c.isDigit = false) :
    Text.number? 2 (Text.padded 2 n ++ rest) = some (n, rest) := by
  have hlength : (Text.padded 2 n).length ≤ 2 := Nat.le_of_eq (Text.length_padded (by decide) h)
  rw [Text.number?_append Text.isDigit_padded (Text.padded_ne_nil 2 n) hlength hrest,
    Text.decimalValue_padded]

theorem field?_padded {n : ℕ} (h : n < 100) (close : Char) {c : Char} (hc : c.isDigit = false)
    (rest : List Char) :
    field? 2 close (Text.padded 2 n ++ c :: rest) = if c = close then some (n, rest) else none := by
  have hhead : ∀ d ∈ (c :: rest).head?, d.isDigit = false := by simpa using hc
  simp [field?, Text.dropBlanks_padded, number?_padded_two h hhead]

/-- In the plain form a date and its clock are separated by a `T`. -/
theorem ofPlain?_eq_none (d : Date) {separator : Char} (hdigit : separator.isDigit = false)
    (hne : separator ≠ 'T') (cs : List Char) : ofPlain? (d.chars ++ separator :: cs) = none := by
  obtain ⟨hmonth, hday⟩ := d.civil_valid.lt_hundred
  have hdash : '-'.isDigit = false := rfl
  simp only [ofPlain?, Date.chars, Date.charsWith, List.append_assoc, List.cons_append,
    Date.dropBlanks_yearChars, Date.year?_yearChars, Option.bind_eq_bind, Option.bind_some,
    Option.bind_none, field?_padded hmonth '-' hdash, field?_padded hday 'T' hdigit, if_true,
    if_neg hne]

theorem ofPlain?_text (d : Date) {hour minute second : ℕ} (hhour : hour < 100)
    (hminute : minute < 100) (hsecond : second < 100) :
    ofPlain? (d.chars ++ 'T' :: clockText hour minute second) =
      ofClock? d hour minute second 0 := by
  obtain ⟨hmonth, hday⟩ := d.civil_valid.lt_hundred
  have hdash : '-'.isDigit = false := rfl
  have hcolon : ':'.isDigit = false := rfl
  have hT : 'T'.isDigit = false := rfl
  have hlast : Text.number? 2 (Text.dropBlanks (Text.padded 2 second)) = some (second, []) := by
    have hread := @number?_padded_two second hsecond [] (by simp)
    have hblanks := Text.dropBlanks_padded 2 second []
    rw [List.append_nil] at hread hblanks
    rw [hblanks, hread]
  simp only [ofPlain?, Date.chars, Date.charsWith, clockText, List.append_assoc,
    List.cons_append, Date.dropBlanks_yearChars, Date.year?_yearChars, Option.bind_eq_bind,
    Option.bind_some, field?_padded hmonth '-' hdash, field?_padded hday 'T' hT,
    field?_padded hhour ':' hcolon, field?_padded hminute ':' hcolon, if_true, hlast,
    List.isEmpty_nil, Date.ofCivil?_civil]

/-! ## Times with an offset -/

/-- Digits up to where they end are a fraction of a second. -/
theorem fraction?_append {ds rest : List Char} (hds : ∀ d ∈ ds, d.isDigit = true) (hne : ds ≠ [])
    (hrest : ∀ c ∈ rest.head?, c.isDigit = false) :
    ∃ nanos < nanosPerSecond, fraction? (ds ++ rest) = some (nanos, rest) := by
  have hrun : (ds ++ rest).takeWhile Char.isDigit = ds := by
    rw [List.takeWhile_append_of_pos hds]
    cases rest with
    | nil => simp
    | cons c rest => simp [hrest c rfl]
  have hkept : Text.decimalValue (ds.take 9) < 10 ^ (ds.take 9).length :=
    Text.decimalValue_lt fun d hd => hds d (List.mem_of_mem_take hd)
  have hwidth : (ds.take 9).length + (9 - ds.length) = 9 := by
    rw [List.length_take]
    omega
  refine ⟨Text.decimalValue (ds.take 9) * 10 ^ (9 - ds.length), ?_, ?_⟩
  · calc Text.decimalValue (ds.take 9) * 10 ^ (9 - ds.length)
        < 10 ^ (ds.take 9).length * 10 ^ (9 - ds.length) :=
          Nat.mul_lt_mul_of_pos_right hkept (Nat.pow_pos (by decide))
      _ = nanosPerSecond := by rw [← Nat.pow_add, hwidth]; rfl
  · simp only [fraction?, hrun, List.isEmpty_eq_false_iff.mpr hne, List.drop_left]
    rfl

/-- An offset has a letter or a sign. -/
theorem offset?_eq_none {cs : List Char} (h : ∀ c ∈ cs, c.isDigit = true ∨ c = ':') :
    offset? cs = none := by
  unfold offset?
  split
  · simp at h
  · simp at h
  · next sign h1 h2 m1 m2 =>
    have hplus : sign ≠ '+' := by rintro rfl; simpa using h '+'
    have hminus : sign ≠ '-' := by rintro rfl; simpa using h '-'
    have hlong : sign ≠ '\u2212' := by rintro rfl; simpa using h '\u2212'
    cases Text.twoDigits? h1 h2 with
    | none => rfl
    | some hours =>
      cases Text.twoDigits? m1 m2 with
      | none => rfl
      | some minutes => simp
  · rfl

theorem clockAndOffset?_eq_none (d : Date) {cs : List Char}
    (h : ∀ c ∈ cs, c.isDigit = true ∨ c = ':') : clockAndOffset? d cs = none := by
  unfold clockAndOffset?
  split
  · next h1 h2 m1 m2 s1 s2 rest =>
    have hrest : ∀ c ∈ rest, c.isDigit = true ∨ c = ':' := fun c hc => h c (by simp [hc])
    have hpoint : ∀ tail, rest ≠ '.' :: tail := by
      rintro tail rfl
      simpa using hrest '.'
    cases Text.twoDigits? h1 h2 with
    | none => rfl
    | some hour =>
      cases Text.twoDigits? m1 m2 with
      | none => rfl
      | some minute =>
        cases Text.twoDigits? s1 s2 with
        | none => rfl
        | some second => simp [offset?_eq_none hrest]
  · rfl

/-- A date with a year of four digits is read, then a separator and the rest. -/
theorem ofRfc3339?_text {d : Date} (hyear : 0 ≤ d.civil.year ∧ d.civil.year ≤ 9999)
    (separator : Char) (cs : List Char) :
    ofRfc3339? (d.chars ++ separator :: cs) =
      if separator = 'T' ∨ separator = 't' ∨ separator = ' ' then clockAndOffset? d cs
      else none := by
  obtain ⟨hmonth, hday⟩ := d.civil_valid.lt_hundred
  obtain ⟨y1, y2, y3, y4, hyearChars, hcenturyRead, hyearRead⟩ :=
    @Text.exists_padded_four d.civil.year.natAbs (by omega)
  obtain ⟨m1, m2, hmonthChars, hmonthRead⟩ := Text.exists_padded_two hmonth
  obtain ⟨d1, d2, hdayChars, hdayRead⟩ := Text.exists_padded_two hday
  have hsum : ((d.civil.year.natAbs / 100 : ℕ) : ℤ) * 100 + (d.civil.year.natAbs % 100 : ℕ) =
      d.civil.year := by omega
  simp only [Date.chars, Date.charsWith, Date.yearChars, if_pos hyear, hyearChars, hmonthChars,
    hdayChars, List.cons_append, List.nil_append, ofRfc3339?, hcenturyRead, hyearRead,
    hmonthRead, hdayRead, Option.bind_eq_bind, Option.bind_some, hsum, Date.ofCivil?_civil]

theorem ofRfc3339?_cons_eq_none {c : Char} (h : c.isDigit = false) (cs : List Char) :
    ofRfc3339? (c :: cs) = none := by
  unfold ofRfc3339?
  split
  · next heq =>
    obtain ⟨rfl, -⟩ := List.cons.inj heq
    simp [Text.twoDigits?, Text.digit?, h]
  · rfl

/-- A date with only digits and colons behind it is no time with an offset. -/
theorem ofRfc3339?_eq_none (d : Date) (separator : Char) {cs : List Char}
    (h : ∀ c ∈ cs, c.isDigit = true ∨ c = ':') :
    ofRfc3339? (d.chars ++ separator :: cs) = none := by
  by_cases hyear : 0 ≤ d.civil.year ∧ d.civil.year ≤ 9999
  · rw [ofRfc3339?_text hyear, clockAndOffset?_eq_none d h, ite_self]
  · have hsign : (if d.civil.year < 0 then '-' else '+').isDigit = false := by split_ifs <;> rfl
    rw [Date.chars, Date.charsWith, Date.yearChars, if_neg hyear]
    exact ofRfc3339?_cons_eq_none hsign _

/-! ## What is shown -/

/-- The clock of a time that was read is shown as it was written. -/
theorem displayChars_of_ofClock? (d : Date) {hour minute second nanos : ℕ} (hhour : hour < 24)
    (hminute : minute < 60) (hsecond : second ≤ 60) (hnanos : nanos < nanosPerSecond) :
    ∃ t, ofClock? d hour minute second nanos = some t ∧
      t.displayChars = d.chars ++ ' ' :: clockText hour minute second := by
  have hin : (decide (24 ≤ hour) || decide (60 ≤ minute) || decide (60 < second)) = false := by
    simp
    omega
  have hfraction : nanos / nanosPerSecond = 0 := Nat.div_eq_of_lt hnanos
  by_cases hleap : second = 60
  · subst hleap
    refine ⟨⟨d, hour * 3600 + minute * 60 + 59, nanos + nanosPerSecond⟩,
      by simp only [ofClock?, hin]; rfl, ?_⟩
    have hclock : (hour * 3600 + minute * 60 + 59) / 3600 = hour ∧
        (hour * 3600 + minute * 60 + 59) / 60 % 60 = minute ∧
        (hour * 3600 + minute * 60 + 59) % 60 + (nanos / nanosPerSecond + 1) = 60 := by omega
    have hnext : (nanos + nanosPerSecond) / nanosPerSecond = nanos / nanosPerSecond + 1 :=
      Nat.add_div_right _ (by decide)
    simp only [displayChars, clockChars, clockSecond, clockText, hnext, hclock]
  · refine ⟨⟨d, hour * 3600 + minute * 60 + second, nanos⟩,
      by simp only [ofClock?, hin, if_neg hleap]; rfl, ?_⟩
    have hclock : (hour * 3600 + minute * 60 + second) / 3600 = hour ∧
        (hour * 3600 + minute * 60 + second) / 60 % 60 = minute ∧
        (hour * 3600 + minute * 60 + second) % 60 + nanos / nanosPerSecond = second := by omega
    simp only [displayChars, clockChars, clockSecond, clockText, hclock]

theorem isDigit_or_colon {hour minute second : ℕ} :
    ∀ c ∈ clockText hour minute second, c.isDigit = true ∨ c = ':' := by
  intro c hc
  simp only [clockText, List.mem_append, List.mem_cons] at hc
  obtain h | rfl | h | rfl | h := hc
  · exact .inl (Text.isDigit_padded c h)
  · exact .inr rfl
  · exact .inl (Text.isDigit_padded c h)
  · exact .inr rfl
  · exact .inl (Text.isDigit_padded c h)

/-- What is shown is read in neither form again. -/
theorem displayTime_display (t : Instant) : displayTime t.display = t.display := by
  have hchars : t.displayChars = t.date.chars ++ ' ' ::
      clockText (t.second / 3600) (t.second / 60 % 60) t.clockSecond := rfl
  have hoffset : ofRfc3339? t.displayChars = none := by
    rw [hchars]
    exact ofRfc3339?_eq_none t.date ' ' isDigit_or_colon
  have hplain : ofPlain? t.displayChars = none := by
    rw [hchars]
    exact ofPlain?_eq_none t.date rfl (by decide) _
  simp only [displayTime, display, String.toList_ofList, hoffset, hplain]

end Instant

/-! ## Times of the day on the wall -/

/-- A day with a year of four digits and a clock, whose second may be 60. -/
structure WallTime where
  day : Civil
  valid : day.Valid
  year_nonneg : 0 ≤ day.year
  year_le : day.year ≤ 9999
  hour : Fin 24
  minute : Fin 60
  second : Fin 61

/-- `Z`, or the hours and minutes east or west of universal time. -/
inductive Offset where
  | zulu
  | east (hour : Fin 24) (minute : Fin 60)
  | west (hour : Fin 24) (minute : Fin 60)

namespace WallTime

variable (w : WallTime)

def dayChars : List Char :=
  Text.padded 4 w.day.year.natAbs ++
    '-' :: (Text.padded 2 w.day.month ++ '-' :: Text.padded 2 w.day.day)

def clockChars : List Char :=
  Instant.clockText w.hour w.minute w.second

/-- Day and clock with a blank between them. -/
def shown : String :=
  String.ofList (w.dayChars ++ ' ' :: w.clockChars)

/-- Day and clock without an offset. -/
def plain : String :=
  String.ofList (w.dayChars ++ 'T' :: w.clockChars)

end WallTime

/-- The digits of a fraction of a second behind their point, which goes with them. -/
def fractionText (digits : List (Fin 10)) : List Char :=
  if digits.isEmpty then [] else '.' :: digits.map fun d => Nat.digitChar d.val

def Offset.chars : Offset → List Char
  | zulu => ['Z']
  | east hour minute => '+' :: (Text.padded 2 hour ++ ':' :: Text.padded 2 minute)
  | west hour minute => '-' :: (Text.padded 2 hour ++ ':' :: Text.padded 2 minute)

/-- RFC 3339 text of a day, a clock, a fraction and an offset. -/
def WallTime.stamped (w : WallTime) (fraction : List (Fin 10)) (offset : Offset) : String :=
  String.ofList (w.dayChars ++ 'T' :: (w.clockChars ++ (fractionText fraction ++ offset.chars)))

theorem Offset.exists_offset? (o : Offset) : ∃ seconds, Instant.offset? o.chars = some seconds := by
  cases o with
  | zulu => exact ⟨0, rfl⟩
  | east hour minute =>
    obtain ⟨h1, h2, hhour, hhourRead⟩ := @Text.exists_padded_two hour (by omega)
    obtain ⟨m1, m2, hminute, hminuteRead⟩ := @Text.exists_padded_two minute (by omega)
    refine ⟨((hour : ℕ) * 60 + (minute : ℕ)) * 60, ?_⟩
    simp [chars, hhour, hminute, Instant.offset?, hhourRead, hminuteRead]
  | west hour minute =>
    obtain ⟨h1, h2, hhour, hhourRead⟩ := @Text.exists_padded_two hour (by omega)
    obtain ⟨m1, m2, hminute, hminuteRead⟩ := @Text.exists_padded_two minute (by omega)
    refine ⟨-(((hour : ℕ) * 60 + (minute : ℕ)) * 60), ?_⟩
    simp [chars, hhour, hminute, Instant.offset?, hhourRead, hminuteRead]

/-- No offset goes on a number or starts a fraction. -/
theorem Offset.first_char (o : Offset) :
    (∀ c ∈ o.chars.head?, c.isDigit = false) ∧ ∀ cs, o.chars ≠ '.' :: cs := by
  cases o <;> simp [chars]

namespace WallTime

example : stamped ⟨⟨2016, 12, 31⟩, by decide, by decide, by decide, 23, 59, 60⟩ [2, 5]
    (.west 5 30) = "2016-12-31T23:59:60.25-05:30" := by decide +kernel

theorem exists_date (w : WallTime) :
    ∃ d : Date, d.chars = w.dayChars ∧ 0 ≤ d.civil.year ∧ d.civil.year ≤ 9999 := by
  have hnonneg := w.year_nonneg
  have hle := w.year_le
  have hfirst : (⟨-96465292, by decide, by decide⟩ : Date).civil.year = -262143 := by decide
  have hlast : Date.last.civil.year = 262142 := by decide
  obtain ⟨d, hd⟩ := @Date.exists_civil_eq w.day ⟨-96465292, by decide, by decide⟩ Date.last
    w.valid (by unfold Civil.Before; omega) (by unfold Civil.Before; omega)
  refine ⟨d, ?_, hd ▸ hnonneg, hd ▸ hle⟩
  rw [Date.chars, Date.charsWith, hd, Date.yearChars, if_pos ⟨hnonneg, hle⟩, dayChars]

/-- With a fraction and an offset behind it, the clock is read and shown as it is. -/
theorem clockAndOffset?_chars (w : WallTime) (d : Date) (fraction : List (Fin 10))
    (offset : Offset) :
    ∃ t seconds,
      Instant.clockAndOffset? d (w.clockChars ++ (fractionText fraction ++ offset.chars)) =
        some (t, seconds) ∧ t.displayChars = d.chars ++ ' ' :: w.clockChars := by
  obtain ⟨h1, h2, hhour, hhourRead⟩ := @Text.exists_padded_two w.hour (by omega)
  obtain ⟨m1, m2, hminute, hminuteRead⟩ := @Text.exists_padded_two w.minute (by omega)
  obtain ⟨s1, s2, hsecond, hsecondRead⟩ := @Text.exists_padded_two w.second (by omega)
  have hclock : w.clockChars = [h1, h2, ':', m1, m2, ':', s1, s2] := by
    simp [clockChars, Instant.clockText, hhour, hminute, hsecond]
  have hshown := fun nanos (hnanos : nanos < Instant.nanosPerSecond) =>
    Instant.displayChars_of_ofClock? d w.hour.isLt w.minute.isLt
      (Nat.le_of_lt_succ w.second.isLt) hnanos
  obtain ⟨seconds, hoffset⟩ := offset.exists_offset?
  obtain ⟨hdigit, hpoint⟩ := offset.first_char
  by_cases hempty : fraction = []
  · obtain ⟨t, ht, hdisplay⟩ := hshown 0 (by decide)
    refine ⟨t, seconds, ?_, hdisplay⟩
    simp [hclock, hempty, fractionText, Instant.clockAndOffset?, hhourRead, hminuteRead,
      hsecondRead, hoffset, ht]
  · have hdigits : ∀ e : Fin 10, (Nat.digitChar e.val).isDigit = true := by decide
    obtain ⟨nanos, hnanos, hfraction⟩ := @Instant.fraction?_append
      (fraction.map fun d => Nat.digitChar d.val) offset.chars (by
        simp only [List.mem_map]
        rintro _ ⟨e, -, rfl⟩
        exact hdigits e) (by simpa using hempty) hdigit
    obtain ⟨t, ht, hdisplay⟩ := hshown nanos hnanos
    refine ⟨t, seconds, ?_, hdisplay⟩
    simp [hclock, hempty, fractionText, Instant.clockAndOffset?, hhourRead, hminuteRead,
      hsecondRead, hfraction, hoffset, ht]

theorem displayTime_stamped (w : WallTime) (fraction : List (Fin 10)) (offset : Offset) :
    displayTime (w.stamped fraction offset) = w.shown := by
  obtain ⟨d, hday, hyear⟩ := w.exists_date
  obtain ⟨t, seconds, hread, hdisplay⟩ := w.clockAndOffset?_chars d fraction offset
  have htime : Instant.ofRfc3339? (w.stamped fraction offset).toList = some (t, seconds) := by
    rw [stamped, String.toList_ofList, ← hday, Instant.ofRfc3339?_text hyear, if_pos (.inl rfl),
      hread]
  simp only [displayTime, htime, Instant.display, hdisplay, hday, shown]

theorem displayTime_plain (w : WallTime) : displayTime w.plain = w.shown := by
  obtain ⟨d, hday, -⟩ := w.exists_date
  obtain ⟨t, ht, hdisplay⟩ := @Instant.displayChars_of_ofClock? d w.hour w.minute w.second 0
    w.hour.isLt w.minute.isLt (Nat.le_of_lt_succ w.second.isLt) (by decide)
  have hoffset : Instant.ofRfc3339? w.plain.toList = none := by
    rw [plain, String.toList_ofList, ← hday]
    exact Instant.ofRfc3339?_eq_none d 'T' Instant.isDigit_or_colon
  have htime : Instant.ofPlain? w.plain.toList = some t := by
    rw [plain, String.toList_ofList, ← hday, clockChars,
      Instant.ofPlain?_text d (by omega) (by omega) (by omega), ht]
  simp only [displayTime, hoffset, htime, Instant.display, hdisplay, hday, shown, clockChars]

end WallTime

theorem displayTime_displayTime (raw : String) :
    displayTime (displayTime raw) = displayTime raw := by
  have hcases : displayTime raw = raw ∨ ∃ t : Instant, displayTime raw = t.display := by
    unfold displayTime
    split
    · exact .inr ⟨_, rfl⟩
    · split
      · exact .inr ⟨_, rfl⟩
      · exact .inl rfl
  obtain h | ⟨t, h⟩ := hcases
  · rw [h, h]
  · rw [h, t.displayTime_display]

/-- A scheduled time is shown as its own day and clock, and what is shown stays as it is. -/
theorem scheduled_times_shown :
    (∀ (w : WallTime) (fraction : List (Fin 10)) (offset : Offset),
      displayTime (w.stamped fraction offset) = w.shown) ∧
    (∀ w : WallTime, displayTime w.plain = w.shown) ∧
    ∀ raw, displayTime (displayTime raw) = displayTime raw :=
  ⟨WallTime.displayTime_stamped, WallTime.displayTime_plain, displayTime_displayTime⟩

end LiveEvents
