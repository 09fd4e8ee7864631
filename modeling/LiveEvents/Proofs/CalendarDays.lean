import LiveEvents.Calendar
import Mathlib.Order.Monotone.Basic
import Mathlib.Tactic.IntervalCases
import Mathlib.Tactic.SplitIfs

/-!
# Days and their numbers

The days of the calendar are numbered in their order: each day that the calendar has is named by
one number, and each number names one day. Years are taken to begin in March here, so that a leap
day comes at the end of its year, and the years of a cycle of 400 are found by where they begin.
-/

namespace LiveEvents

namespace Civil

/-- By year, then by month, then by day of the month. -/
def Before (c c' : Civil) : Prop :=
  c.year < c'.year ∨ c.year = c'.year ∧
    (c.month < c'.month ∨ c.month = c'.month ∧ c.day < c'.day)

instance (c c' : Civil) : Decidable (c.Before c') :=
  inferInstanceAs (Decidable (_ ∨ _))

theorem before_or_before {c c' : Civil} (h : c ≠ c') : c.Before c' ∨ c'.Before c := by
  have hparts : ¬(c.year = c'.year ∧ c.month = c'.month ∧ c.day = c'.day) := by
    rintro ⟨hyear, hmonth, hday⟩
    exact h (by cases c; cases c'; simp_all)
  unfold Before
  omega

/-! ## Numbers of days -/

/-- The days before a year that begins in March. -/
def yearStart (year : Int) : Int := year * 365 + year / 4 - year / 100 + year / 400

/-- The days before a month in such a year. -/
def monthStart (month : Nat) : Nat := (153 * month + 2) / 5

/-- The year of a day, if years begin in March. -/
def marchYear (c : Civil) : Int := if c.month ≤ 2 then c.year - 1 else c.year

/-- The months from March to the month of a day. -/
def marchMonth (c : Civil) : Nat := if c.month ≤ 2 then c.month + 9 else c.month - 3

theorem dayNumber_eq {c : Civil} (h : 1 ≤ c.day) :
    c.dayNumber = yearStart c.marchYear + monthStart c.marchMonth + c.day - 719469 := by
  unfold dayNumber yearStart monthStart
  simp only [Int.fdiv_eq_ediv_of_nonneg _ (show (0 : Int) ≤ 400 by decide)]
  rw [← marchYear, ← marchMonth]
  omega

theorem yearStart_mono {year year' : Int} (h : year ≤ year') :
    yearStart year ≤ yearStart year' := by
  unfold yearStart
  omega

theorem isLeap_iff {year : Int} :
    isLeap year = true ↔ year % 4 = 0 ∧ (year % 100 ≠ 0 ∨ year % 400 = 0) := by
  simp [isLeap]

/-- The last day of a month comes right before the first day of the next one, and the last day of
February right before the next year. -/
theorem month_ends {c : Civil} (hfirst : 1 ≤ c.month) (hlast : c.month ≤ 12) :
    monthStart c.marchMonth + monthLength c.year c.month =
      if c.month = 2 then yearStart (c.marchYear + 1) - yearStart c.marchYear
      else monthStart (c.marchMonth + 1) := by
  obtain ⟨year, month, day⟩ := c
  dsimp only at hfirst hlast ⊢
  unfold monthStart marchMonth marchYear
  by_cases hmonth : month = 2
  · subst hmonth
    unfold monthLength yearStart
    simp only [if_true, Nat.le_refl]
    split_ifs with hleap
    · rw [isLeap_iff] at hleap
      omega
    · rw [isLeap_iff] at hleap
      omega
  · rw [if_neg hmonth, monthLength, if_neg hmonth]
    dsimp only
    interval_cases month <;> simp_all

/-- A day is within its month, and its month within its year. -/
theorem Valid.ends {c : Civil} (h : c.Valid) :
    monthStart c.marchMonth + c.day ≤ yearStart (c.marchYear + 1) - yearStart c.marchYear ∧
      (c.month ≠ 2 → monthStart c.marchMonth + c.day ≤ monthStart (c.marchMonth + 1)) := by
  obtain ⟨hfirst, hlast, -, hlength⟩ := h
  have hends := month_ends hfirst hlast
  split_ifs at hends with hmonth
  · exact ⟨by omega, fun hne => absurd hmonth hne⟩
  · have hyear : 365 ≤ yearStart (c.marchYear + 1) - yearStart c.marchYear := by
      unfold yearStart
      omega
    have hearly : monthStart (c.marchMonth + 1) ≤ 337 := by
      unfold monthStart marchMonth
      split_ifs <;> omega
    omega

/-- An earlier day has a smaller number. -/
theorem Before.dayNumber_lt {c c' : Civil} (hbefore : c.Before c') (h : c.Valid)
    (h' : c'.Valid) : c.dayNumber < c'.dayNumber := by
  obtain ⟨hyear, hmonth⟩ := h.ends
  obtain ⟨hfirst, hlast, hday, -⟩ := h
  obtain ⟨hfirst', hlast', hday', -⟩ := h'
  rw [dayNumber_eq hday, dayNumber_eq hday']
  have horder : c.marchYear < c'.marchYear ∨ c.marchYear = c'.marchYear ∧
      (c.marchMonth < c'.marchMonth ∧ c.month ≠ 2 ∨
        c.marchMonth = c'.marchMonth ∧ c.day < c'.day) := by
    unfold Before at hbefore
    unfold marchYear marchMonth
    split_ifs <;> omega
  rcases horder with hlt | ⟨hsame, ⟨hlt, hne⟩ | ⟨heq, hlt⟩⟩
  · have hnext := yearStart_mono (Int.add_one_le_of_lt hlt)
    omega
  · have hstart : monthStart (c.marchMonth + 1) ≤ monthStart c'.marchMonth := by
      unfold monthStart
      omega
    have hin := hmonth hne
    rw [hsame]
    omega
  · rw [hsame, heq]
    omega

theorem before_iff {c c' : Civil} (h : c.Valid) (h' : c'.Valid) :
    c.Before c' ↔ c.dayNumber < c'.dayNumber := by
  refine ⟨fun hbefore => hbefore.dayNumber_lt h h', fun hlt => ?_⟩
  have hne : c ≠ c' := by
    rintro rfl
    exact Int.lt_irrefl _ hlt
  rcases before_or_before hne with hbefore | hafter
  · exact hbefore
  · exact absurd (hafter.dayNumber_lt h' h) (Int.lt_asymm hlt)

theorem eq_of_dayNumber_eq {c c' : Civil} (h : c.Valid) (h' : c'.Valid)
    (heq : c.dayNumber = c'.dayNumber) : c = c' := by
  by_contra hne
  rcases before_or_before hne with hbefore | hafter
  · exact Int.ne_of_lt (hbefore.dayNumber_lt h h') heq
  · exact Int.ne_of_gt (hafter.dayNumber_lt h' h) heq

/-! ## Days of numbers -/

/-- The year of a cycle in which a day of the cycle is. -/
def yearOfCycle (day : Nat) : Nat := (day - day / 1460 + day / 36524 - day / 146096) / 365

theorem yearOfCycle_mono : Monotone yearOfCycle := by
  refine monotone_nat_of_le_succ fun day => ?_
  unfold yearOfCycle
  apply Nat.div_le_div_right
  omega

theorem yearOfCycle_ends : ∀ year : Nat, year < 400 →
    yearOfCycle (yearStart year).toNat = year ∧
      yearOfCycle ((yearStart (year + 1)).toNat - 1) = year := by
  decide +kernel

theorem exists_year {day k : Nat} (h : day < yearStart k) :
    ∃ year < k, yearStart year ≤ day ∧ day < yearStart (year + 1) := by
  induction k with
  | zero =>
    have hzero : yearStart (0 : Nat) = 0 := by decide
    omega
  | succ k ih =>
    by_cases hk : (day : Int) < yearStart k
    · obtain ⟨year, hyear, hin⟩ := ih hk
      exact ⟨year, Nat.lt_succ_of_lt hyear, hin⟩
    · exact ⟨k, Nat.lt_succ_self k, Int.not_lt.mp hk, by simpa using h⟩

/-- The formula for the year of a day is right at both ends of each year, and it never goes back,
so it is right everywhere. -/
theorem yearOfCycle_spec {day : Nat} (h : day < 146097) : yearOfCycle day < 400 ∧
    yearStart (yearOfCycle day) ≤ day ∧ day < yearStart (yearOfCycle day + 1) := by
  have hcycle : (day : Int) < yearStart (400 : Nat) := by
    have hlength : yearStart (400 : Nat) = 146097 := by decide
    omega
  obtain ⟨year, hyear, hstart, hend⟩ := exists_year hcycle
  obtain ⟨hfirst, hlast⟩ := yearOfCycle_ends year hyear
  have hlow := yearOfCycle_mono (show (yearStart year).toNat ≤ day by omega)
  have hhigh := yearOfCycle_mono (show day ≤ (yearStart (year + 1)).toNat - 1 by omega)
  obtain rfl : yearOfCycle day = year := by omega
  exact ⟨hyear, hstart, hend⟩

/-- The day that comes so many days after the beginning of a year. -/
def ofMarch (year : Int) (dayOfYear : Nat) : Civil :=
  let marchMonth := (5 * dayOfYear + 2) / 153
  let month := if marchMonth < 10 then marchMonth + 3 else marchMonth - 9
  { year := if month ≤ 2 then year + 1 else year
    month
    day := dayOfYear - monthStart marchMonth + 1 }

theorem ofMarch_spec {year : Int} {dayOfYear : Nat}
    (h : dayOfYear < yearStart (year + 1) - yearStart year) :
    (ofMarch year dayOfYear).Valid ∧
      (ofMarch year dayOfYear).dayNumber = yearStart year + dayOfYear - 719468 := by
  have hlength : dayOfYear ≤ 365 := by
    unfold yearStart at h
    omega
  have hmonth : 1 ≤ (ofMarch year dayOfYear).month ∧ (ofMarch year dayOfYear).month ≤ 12 := by
    unfold ofMarch
    dsimp only
    split_ifs <;> omega
  have hmarch : (ofMarch year dayOfYear).marchYear = year ∧
      (ofMarch year dayOfYear).marchMonth = (5 * dayOfYear + 2) / 153 := by
    unfold marchYear marchMonth ofMarch
    dsimp only
    split_ifs <;> omega
  have hstart : monthStart ((5 * dayOfYear + 2) / 153) ≤ dayOfYear := by
    unfold monthStart
    omega
  have hday : (ofMarch year dayOfYear).day =
      dayOfYear - monthStart ((5 * dayOfYear + 2) / 153) + 1 := rfl
  have hpos : 1 ≤ (ofMarch year dayOfYear).day := Nat.succ_pos _
  have hends := month_ends hmonth.1 hmonth.2
  have hnumber := dayNumber_eq hpos
  rw [hmarch.1, hmarch.2] at hends hnumber
  refine ⟨⟨hmonth.1, hmonth.2, hpos, ?_⟩, by omega⟩
  split_ifs at hends with htwo
  · omega
  · have hnext : dayOfYear + 1 ≤ monthStart ((5 * dayOfYear + 2) / 153 + 1) := by
      unfold monthStart
      omega
    omega

theorem yearStart_add_cycle (year cycle : Int) :
    yearStart (year + cycle * 400) = yearStart year + cycle * 146097 := by
  unfold yearStart
  omega

/-- Which year a number falls in, and how far into it. -/
theorem exists_ofMarch (number : Int) : ∃ (year : Int) (dayOfYear : Nat),
    dayOfYear < yearStart (year + 1) - yearStart year ∧
      number + 719468 = yearStart year + dayOfYear ∧
      ofDayNumber number = ofMarch year dayOfYear := by
  have hfdiv := Int.fdiv_eq_ediv_of_nonneg (number + 719468) (show (0 : Int) ≤ 146097 by decide)
  let cycle := Int.fdiv (number + 719468) 146097
  let day := (number + 719468 - cycle * 146097).toNat
  have hday : day < 146097 ∧ number + 719468 = cycle * 146097 + day := by omega
  obtain ⟨hyear, hstart, hend⟩ := yearOfCycle_spec hday.1
  have hnext := yearStart_add_cycle (yearOfCycle day + 1) cycle
  have hfirst := yearStart_add_cycle (yearOfCycle day) cycle
  refine ⟨yearOfCycle day + cycle * 400,
    day - (365 * yearOfCycle day + yearOfCycle day / 4 - yearOfCycle day / 100), ?_, ?_, rfl⟩
  · rw [show (yearOfCycle day : Int) + cycle * 400 + 1 = yearOfCycle day + 1 + cycle * 400 by omega,
      hnext, hfirst]
    unfold yearStart at *
    omega
  · rw [hfirst]
    unfold yearStart at *
    omega

theorem valid_ofDayNumber (number : Int) : (ofDayNumber number).Valid := by
  obtain ⟨year, dayOfYear, hin, -, heq⟩ := exists_ofMarch number
  rw [heq]
  exact (ofMarch_spec hin).1

theorem dayNumber_ofDayNumber (number : Int) : (ofDayNumber number).dayNumber = number := by
  obtain ⟨year, dayOfYear, hin, hnumber, heq⟩ := exists_ofMarch number
  rw [heq, (ofMarch_spec hin).2]
  omega

theorem ofDayNumber_dayNumber {c : Civil} (h : c.Valid) : ofDayNumber c.dayNumber = c :=
  eq_of_dayNumber_eq (valid_ofDayNumber _) h (dayNumber_ofDayNumber _)

end Civil

namespace Date

theorem civil_valid (d : Date) : d.civil.Valid := Civil.valid_ofDayNumber d.day

theorem dayNumber_civil (d : Date) : d.civil.dayNumber = d.day := Civil.dayNumber_ofDayNumber d.day

theorem before_civil_iff {d d' : Date} : d.civil.Before d'.civil ↔ d.day < d'.day := by
  rw [Civil.before_iff d.civil_valid d'.civil_valid, dayNumber_civil, dayNumber_civil]

/-- Every day between two others that can be named can be named. -/
theorem exists_civil_eq {c : Civil} {first final : Date} (h : c.Valid)
    (hfirst : ¬c.Before first.civil) (hfinal : ¬final.civil.Before c) :
    ∃ d : Date, d.civil = c := by
  have hlow := first.first_le
  have hhigh := final.le_last
  rw [Civil.before_iff h first.civil_valid, dayNumber_civil] at hfirst
  rw [Civil.before_iff final.civil_valid h, dayNumber_civil] at hfinal
  exact ⟨⟨c.dayNumber, by omega, by omega⟩, Civil.ofDayNumber_dayNumber h⟩

theorem eq_iff_day {d d' : Date} : d = d' ↔ d.day = d'.day := by
  cases d
  cases d'
  simp

theorem civil_inj {d d' : Date} : d.civil = d'.civil ↔ d = d' := by
  constructor
  · intro h
    rw [eq_iff_day, ← dayNumber_civil, h, dayNumber_civil]
  · rintro rfl
    rfl

/-! ## Days on end -/

theorem addDays?_eq_some_iff {d e : Date} {n : Nat} :
    d.addDays? n = some e ↔ e.day = d.day + n := by
  have hlow := e.first_le
  have hhigh := e.le_last
  unfold addDays? ofDay?
  split_ifs with h
  · rw [Option.some.injEq, eq_iff_day]
    exact eq_comm
  · simp only [false_iff]
    omega

@[simp] theorem last_day : last.day = 95026236 := rfl

/-- Days on end stop before the last day of the calendar. -/
theorem map_day_daysFrom (n : Nat) (d : Date) : (daysFrom n d).map Date.day =
    (List.range (min n (last.day - d.day).toNat)).map (fun i : Nat => d.day + i) := by
  induction n generalizing d with
  | zero => simp [daysFrom]
  | succ n ih =>
    have hlast := d.le_last
    unfold daysFrom
    cases hnext : d.next? with
    | none =>
      have hend : (last.day - d.day).toNat = 0 := by
        unfold next? addDays? ofDay? at hnext
        split_ifs at hnext with h
        have hfirst := d.first_le
        rw [last_day]
        omega
      rw [hend]
      rfl
    | some e =>
      have hday : e.day = d.day + 1 := addDays?_eq_some_iff.mp hnext
      have hmin : min (n + 1) (last.day - d.day).toNat =
          min n (last.day - e.day).toNat + 1 := by
        have hle := e.le_last
        rw [last_day]
        omega
      rw [hmin, List.range_succ_eq_map, List.map_cons, List.map_cons, List.map_map, ih, hday]
      congr 1
      · simp
      · refine List.map_congr_left fun i _ => ?_
        simp only [Function.comp, Nat.cast_succ]
        omega

theorem mem_through_iff {first final d : Date} :
    d ∈ first.through final ↔ first.day ≤ d.day ∧ d.day ≤ final.day ∧ d ≠ last := by
  have hmem : d ∈ first.through final ↔ d.day ∈ (first.through final).map Date.day := by
    rw [List.mem_map]
    exact ⟨fun h => ⟨d, h, rfl⟩, fun ⟨e, he, heq⟩ => eq_iff_day.mpr heq ▸ he⟩
  have hle := d.le_last
  rw [hmem, through, map_day_daysFrom, List.mem_map, ne_eq, eq_iff_day, last_day]
  simp only [List.mem_range]
  constructor
  · rintro ⟨n, hn, heq⟩
    omega
  · intro h
    exact ⟨(d.day - first.day).toNat, by omega, by omega⟩

theorem mem_map_civil_through {first final : Date} {c : Civil} :
    c ∈ (first.through final).map civil ↔
      c.Valid ∧ ¬c.Before first.civil ∧ ¬final.civil.Before c ∧ c ≠ last.civil := by
  rw [List.mem_map]
  constructor
  · rintro ⟨d, hd, rfl⟩
    obtain ⟨hfirst, hfinal, hlast⟩ := mem_through_iff.mp hd
    rw [before_civil_iff, before_civil_iff, ne_eq, civil_inj]
    exact ⟨d.civil_valid, Int.not_lt.mpr hfirst, Int.not_lt.mpr hfinal, hlast⟩
  · rintro ⟨hvalid, hfirst, hfinal, hlast⟩
    obtain ⟨d, rfl⟩ := exists_civil_eq hvalid hfirst hfinal
    rw [before_civil_iff] at hfirst hfinal
    have hne : d ≠ last := fun h => hlast (congrArg civil h)
    exact ⟨d, mem_through_iff.mpr ⟨Int.not_lt.mp hfirst, Int.not_lt.mp hfinal, hne⟩, rfl⟩

theorem pairwise_before_through (first final : Date) :
    (first.through final).Pairwise fun d e => d.civil.Before e.civil := by
  have hdays : ((first.through final).map Date.day).Pairwise (· < ·) := by
    rw [through, map_day_daysFrom, List.pairwise_map]
    exact List.pairwise_lt_range.imp fun h => by omega
  rw [List.pairwise_map] at hdays
  exact hdays.imp before_civil_iff.mpr

end Date

end LiveEvents
