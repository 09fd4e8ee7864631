import LiveEvents.Binary64
import Mathlib.Algebra.Order.Field.Power
import Mathlib.Algebra.Order.Field.Rat
import Mathlib.Data.Rat.Floor
import Mathlib.Tactic.FieldSimp
import Mathlib.Tactic.GCongr
import Mathlib.Tactic.Linarith
import Mathlib.Tactic.Positivity
import Mathlib.Tactic.Ring

/-!
# How far rounding goes

A number rounded to 53 binary digits is off by no more than one part in `2 ^ 53`, whatever its size.
A duration times a factor is rounded four times on the way through seconds, and once more to whole
nanoseconds. That is little enough for a duration to get longer when it grows by half, also if it is
only two nanoseconds long.
-/

namespace LiveEvents.Binary64

variable {x : Rat}

theorem roundEven_error (hx : 0 ≤ x) : |(roundEven x : Rat) - x| ≤ 1 / 2 := by
  have hwhole : ((x.floor.toNat : Nat) : Rat) = (⌊x⌋ : Rat) := by
    have h : ((x.floor.toNat : Nat) : Int) = ⌊x⌋ := Int.toNat_of_nonneg (Int.floor_nonneg.mpr hx)
    exact_mod_cast h
  have hlo : (⌊x⌋ : Rat) ≤ x := Int.floor_le x
  have hhi : x < ⌊x⌋ + 1 := Int.lt_floor_add_one x
  unfold roundEven
  simp only
  rw [hwhole]
  split_ifs <;> push_cast <;> rw [hwhole, abs_le] <;> constructor <;> linarith

/-- A positive number is its numerator over its denominator. -/
theorem eq_num_div_den (hx : 0 < x) : x = (x.num.toNat : Rat) / (x.den : Rat) := by
  have hnum : ((x.num.toNat : Nat) : Int) = x.num :=
    Int.toNat_of_nonneg (Rat.num_pos.mpr hx).le
  have hcast : ((x.num.toNat : Nat) : Rat) = (x.num : Rat) := by exact_mod_cast hnum
  rw [hcast, Rat.num_div_den]

theorem two_zpow_exponent_le (hx : 0 < x) : (2 : Rat) ^ exponent x ≤ x := by
  have hpower : ∀ e : Int, (if 0 ≤ e then (2 : Rat) ^ e.toNat else 1 / (2 : Rat) ^ (-e).toNat) =
      2 ^ e := by
    intro e
    split_ifs with h
    · rw [← zpow_natCast, Int.toNat_of_nonneg h]
    · rw [← zpow_natCast, Int.toNat_of_nonneg (by omega), zpow_neg, one_div, inv_inv]
  unfold exponent
  simp only [hpower]
  split_ifs with h
  · exact h
  · have hpos : x.num.toNat ≠ 0 := by
      have hnum : 0 < x.num := Rat.num_pos.mpr hx
      omega
    have hnum : (2 : Rat) ^ x.num.toNat.log2 ≤ x.num.toNat := by
      exact_mod_cast Nat.log2_self_le hpos
    have hden : (x.den : Rat) ≤ 2 ^ (x.den.log2 + 1) := by
      exact_mod_cast (Nat.lt_log2_self (n := x.den)).le
    have hden0 : (0 : Rat) < x.den := by exact_mod_cast x.den_pos
    calc (2 : Rat) ^ ((x.num.toNat.log2 : Int) - x.den.log2 - 1)
        = 2 ^ x.num.toNat.log2 / 2 ^ (x.den.log2 + 1) := by
          rw [sub_sub, zpow_sub₀ two_ne_zero, zpow_natCast]
          norm_cast
      _ ≤ x.num.toNat / x.den := by gcongr
      _ = x := (eq_num_div_den hx).symm

theorem round_eq (hx : 0 < x) : round x =
    roundEven (x * 2 ^ (52 - exponent x)) / 2 ^ (52 - exponent x) := by
  unfold round
  simp only [not_le.mpr hx, if_false]
  split_ifs with hshift
  · rw [← zpow_natCast, Int.toNat_of_nonneg hshift]
  · have hback : (2 : Rat) ^ (-(52 - exponent x)).toNat = (2 ^ (52 - exponent x))⁻¹ := by
      rw [← zpow_natCast, Int.toNat_of_nonneg (by omega), zpow_neg]
    rw [hback, div_inv_eq_mul, div_eq_mul_inv]

/-- Rounding moves a number by less than one in as many binary digits as are kept. -/
theorem round_error (hx : 0 ≤ x) : |round x - x| ≤ x / 2 ^ 53 := by
  rcases hx.eq_or_lt with rfl | hpos
  · simp [round]
  · have hunit : (0 : Rat) < 2 ^ (52 - exponent x) := by positivity
    have hscaled : (2 : Rat) ^ 52 ≤ x * 2 ^ (52 - exponent x) := by
      calc (2 : Rat) ^ 52 = 2 ^ exponent x * 2 ^ (52 - exponent x) := by
            rw [← zpow_add₀ two_ne_zero, add_sub_cancel]
            norm_num
        _ ≤ x * 2 ^ (52 - exponent x) := by
            gcongr
            exact two_zpow_exponent_le hpos
    have herror := roundEven_error (x := x * 2 ^ (52 - exponent x)) (by positivity)
    rw [round_eq hpos]
    calc |(roundEven (x * 2 ^ (52 - exponent x)) : Rat) / 2 ^ (52 - exponent x) - x|
        = |(roundEven (x * 2 ^ (52 - exponent x)) : Rat) - x * 2 ^ (52 - exponent x)| /
            2 ^ (52 - exponent x) := by
          rw [← abs_of_pos hunit, ← abs_div, abs_of_pos hunit, sub_div, mul_div_assoc,
            div_self hunit.ne', mul_one]
      _ ≤ (x * 2 ^ (52 - exponent x) / 2 ^ 53) / 2 ^ (52 - exponent x) := by
          gcongr
          linarith
      _ = x / 2 ^ 53 := by field_simp

/-- The greatest error of rounding, as a part of the number. -/
def unit : Rat := 1 / 2 ^ 53

theorem round_bounds (hx : 0 ≤ x) : (1 - unit) * x ≤ round x ∧ round x ≤ (1 + unit) * x := by
  have h := abs_le.mp (round_error hx)
  have hunit : x / 2 ^ 53 = unit * x := by rw [unit]; ring
  rw [hunit] at h
  constructor <;> linarith [h.1, h.2]

/-- A duration in seconds. -/
def exactSeconds (d : Duration) : Rat := d.nanos / 1000000000

theorem seconds_add_subsecond (d : Duration) :
    (d.seconds : Rat) + (d.subsecond : Rat) / 1000000000 = exactSeconds d := by
  have hsplit : d.seconds * 1000000000 + d.subsecond = d.nanos := Nat.div_add_mod' d.nanos _
  have hcast : (d.seconds : Rat) * 1000000000 + d.subsecond = d.nanos := by exact_mod_cast hsplit
  rw [exactSeconds, ← hcast]
  ring

theorem seconds_bounds (d : Duration) :
    (1 - unit) ^ 2 * exactSeconds d ≤ seconds d ∧ seconds d ≤ (1 + unit) ^ 2 * exactSeconds d := by
  have hunit : 0 ≤ 1 - unit := by norm_num [unit]
  have hunit' : 0 ≤ 1 + unit := by norm_num [unit]
  have hwhole := round_bounds (x := d.seconds) (by positivity)
  have hrest := round_bounds (x := (d.subsecond : Rat) / 1000000000) (by positivity)
  have hsum := seconds_add_subsecond d
  have hexact : 0 ≤ exactSeconds d := by unfold exactSeconds; positivity
  have hlow : (1 - unit) * exactSeconds d ≤
      round d.seconds + round ((d.subsecond : Rat) / 1000000000) := by
    rw [← hsum, mul_add]
    exact add_le_add hwhole.1 hrest.1
  have hhigh : round d.seconds + round ((d.subsecond : Rat) / 1000000000) ≤
      (1 + unit) * exactSeconds d := by
    rw [← hsum, mul_add]
    exact add_le_add hwhole.2 hrest.2
  have hround := round_bounds ((mul_nonneg hunit hexact).trans hlow)
  constructor
  · calc (1 - unit) ^ 2 * exactSeconds d = (1 - unit) * ((1 - unit) * exactSeconds d) := by ring
      _ ≤ (1 - unit) * (round d.seconds + round ((d.subsecond : Rat) / 1000000000)) := by gcongr
      _ ≤ seconds d := hround.1
  · calc seconds d ≤ (1 + unit) * (round d.seconds + round ((d.subsecond : Rat) / 1000000000)) :=
        hround.2
      _ ≤ (1 + unit) * ((1 + unit) * exactSeconds d) := by gcongr
      _ = (1 + unit) ^ 2 * exactSeconds d := by ring

theorem product_bounds (d : Duration) (factor : Rat) (hf : 0 ≤ factor) :
    (1 - unit) ^ 3 * (exactSeconds d * factor) ≤ round (seconds d * factor) ∧
      round (seconds d * factor) ≤ (1 + unit) ^ 3 * (exactSeconds d * factor) := by
  have hunit : 0 ≤ 1 - unit := by norm_num [unit]
  have hunit' : 0 ≤ 1 + unit := by norm_num [unit]
  have hexact : 0 ≤ exactSeconds d := by unfold exactSeconds; positivity
  obtain ⟨hlow, hhigh⟩ := seconds_bounds d
  have hseconds : 0 ≤ seconds d := (mul_nonneg (pow_nonneg hunit 2) hexact).trans hlow
  have hround := round_bounds (mul_nonneg hseconds hf)
  constructor
  · calc (1 - unit) ^ 3 * (exactSeconds d * factor)
        = (1 - unit) * ((1 - unit) ^ 2 * exactSeconds d * factor) := by ring
      _ ≤ (1 - unit) * (seconds d * factor) := by gcongr
      _ ≤ round (seconds d * factor) := hround.1
  · calc round (seconds d * factor) ≤ (1 + unit) * (seconds d * factor) := hround.2
      _ ≤ (1 + unit) * ((1 + unit) ^ 2 * exactSeconds d * factor) := by gcongr
      _ = (1 + unit) ^ 3 * (exactSeconds d * factor) := by ring

/-- Half as much again is longer, and still a duration. -/
theorem scale?_grows {d : Duration} (hmin : 2 ≤ d.nanos)
    (hmax : d.nanos ≤ 18446744073709551615 * 1000000) :
    ∃ d', scale? d (3 / 2) = some d' ∧ d.nanos < d'.nanos := by
  obtain ⟨hlow, hhigh⟩ := product_bounds d (3 / 2) (by norm_num)
  have hmin' : (2 : Rat) ≤ d.nanos := by exact_mod_cast hmin
  have hmax' : (d.nanos : Rat) ≤ 18446744073709551615 * 1000000 := by exact_mod_cast hmax
  have hsmall : round (seconds d * (3 / 2)) < 18446744073709551616 := by
    refine hhigh.trans_lt ?_
    have hfactor : (1 + unit) ^ 3 * (3 / 2) ≤ 2 := by norm_num [unit]
    have hexact : exactSeconds d ≤ 18446744073709551615 / 1000 := by
      unfold exactSeconds
      linarith
    have hpos : 0 ≤ exactSeconds d := by unfold exactSeconds; positivity
    nlinarith
  have hexact : exactSeconds d * 1000000000 = d.nanos := by
    unfold exactSeconds
    field_simp
  have hgrown : (14 / 10 : Rat) * d.nanos ≤ round (seconds d * (3 / 2)) * 1000000000 := by
    have hfactor : (14 / 10 : Rat) ≤ (1 - unit) ^ 3 * (3 / 2) := by norm_num [unit]
    nlinarith
  have hpos : 0 ≤ round (seconds d * (3 / 2)) * 1000000000 := by linarith
  have herror := (abs_le.mp (roundEven_error hpos)).1
  have hlonger : d.nanos < roundEven (round (seconds d * (3 / 2)) * 1000000000) := by
    have hcast : (d.nanos : Rat) < roundEven (round (seconds d * (3 / 2)) * 1000000000) := by
      linarith
    exact_mod_cast hcast
  refine ⟨_, if_pos hsmall, ?_⟩
  have hless : d.nanos < Duration.greatest := by
    unfold Duration.greatest
    omega
  exact lt_min hlonger hless

end LiveEvents.Binary64
