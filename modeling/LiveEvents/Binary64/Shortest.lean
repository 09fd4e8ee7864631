import LiveEvents.Binary64
import LiveEvents.Text.Digits

/-!
# The shortest decimal of a double float

A double float is written with the fewest digits that read back as it, and of those with the
nearest. It is always written out in full, without an exponent.
-/

namespace LiveEvents.Binary64

def tenTo (e : Int) : Rat :=
  if 0 ≤ e then (10 : Rat) ^ e.toNat else 1 / (10 : Rat) ^ (-e).toNat

/-- The exponent `e` with `10 ^ e ≤ x < 10 ^ (e + 1)`. -/
def decimalExponent (x : Rat) : Int :=
  let guess : Int :=
    ((Text.decimal x.num.toNat).length : Int) - ((Text.decimal x.den).length : Int)
  if tenTo guess ≤ x then guess else guess - 1

/-- The multiple of a unit that is next to `x` and reads back as `x`. -/
def onGrid? (x unit : Rat) : Option Nat :=
  let below := (x / unit).floor.toNat
  let reads (n : Nat) : Bool := round ((n : Rat) * unit) == x
  let nearest := if x / unit - below < 1 / 2 then below else below + 1
  let farther := if nearest = below then below + 1 else below
  if reads nearest then some nearest else if reads farther then some farther else none

/-- Tries numbers of digits from `digits` on; the result is a multiple of a power of ten. -/
def shortestFrom (x : Rat) (leading : Int) (digits : Nat) : (tries : Nat) → Nat × Int
  | 0 => ((x / tenTo (leading + 1 - digits)).floor.toNat, leading + 1 - digits)
  | tries + 1 =>
    let unit := leading + 1 - digits
    match onGrid? x (tenTo unit) with
    | some n => (n, unit)
    | none => shortestFrom x leading (digits + 1) tries

/-- Seventeen digits are enough for every double float. -/
def shortest (x : Rat) : Nat × Int :=
  shortestFrom x (decimalExponent x) 1 17

def positional (n : Nat) (e : Int) : List Char :=
  if 0 ≤ e then Text.decimal (n * Nat.pow 10 e.toNat)
  else
    let places := (-e).toNat
    let unit := Nat.pow 10 places
    Text.decimal (n / unit) ++ '.' :: Text.padded places (n % unit)

def text (x : Rat) : String :=
  if x ≤ 0 then "0"
  else
    let (n, e) := shortest x
    String.ofList (positional n e)

end LiveEvents.Binary64
