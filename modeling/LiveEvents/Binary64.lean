import LiveEvents.Duration

/-!
# Rounding to double precision

Non-negative numbers rounded to the nearest of 53 binary digits, ties to even, and the product
of a duration with such a number. The exponent is not bounded, which is exact for every
duration and every factor from one upwards.
-/

namespace LiveEvents.Binary64

def roundEven (x : Rat) : Nat :=
  let whole := x.floor.toNat
  let rest := x - whole
  if rest < 1 / 2 then whole
  else if 1 / 2 < rest then whole + 1
  else if whole % 2 = 0 then whole else whole + 1

/-- The exponent `e` with `2 ^ e ≤ x < 2 ^ (e + 1)`. -/
def exponent (x : Rat) : Int :=
  let guess : Int := (Nat.log2 x.num.toNat : Int) - (Nat.log2 x.den : Int)
  let power : Rat := if 0 ≤ guess then (2 : Rat) ^ guess.toNat else 1 / (2 : Rat) ^ (-guess).toNat
  if power ≤ x then guess else guess - 1

/-- The nearest number of 53 binary digits. -/
def round (x : Rat) : Rat :=
  if x ≤ 0 then 0
  else
    let shift := 52 - exponent x
    if 0 ≤ shift then (roundEven (x * (2 : Rat) ^ shift.toNat) : Rat) / (2 : Rat) ^ shift.toNat
    else (roundEven (x / (2 : Rat) ^ (-shift).toNat) : Rat) * (2 : Rat) ^ (-shift).toNat

/-- Whole seconds and fraction are rounded each, then their sum. -/
def seconds (d : Duration) : Rat :=
  round (round d.seconds + round ((d.subsecond : Rat) / 1000000000))

/-- The duration times a factor; none if it exceeds every duration. -/
def scale? (d : Duration) (factor : Rat) : Option Duration :=
  let product := round (seconds d * factor)
  if product < 18446744073709551616 then some (.ofNanos (roundEven (product * 1000000000)))
  else none

def ofDecimal (negative : Bool) (digits : Nat) (exponent : Int) : Rat :=
  let size : Rat :=
    if 0 ≤ exponent then round ((digits : Rat) * (10 : Rat) ^ exponent.toNat)
    else round ((digits : Rat) / (10 : Rat) ^ (-exponent).toNat)
  if negative then -size else size

end LiveEvents.Binary64
