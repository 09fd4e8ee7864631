import LiveEvents.Json.Basic

/-!
# Numbers as written

A numeral keeps the digits, the places after the point and the exponent of a written number.
It is a whole number only if it is written plainly, and a number at all only if a double
float can hold its size.
-/

namespace LiveEvents.Json

structure Numeral where
  negative : Bool := false
  digits : Nat := 0
  places : Nat := 0
  exponent : Int := 0
  /-- Written without a point and without an exponent. -/
  plain : Bool := true
  deriving DecidableEq, Repr

namespace Numeral

/-- The whole number written, of any size; minus zero is a fraction. -/
def integer? (n : Numeral) : Option Int :=
  if !n.plain || (n.negative && n.digits == 0) then none
  else some (if n.negative then -n.digits else n.digits)

/-- The least number that rounds beyond every finite double float. -/
def doubleBound : Nat :=
  Nat.pow 2 1024 - Nat.pow 2 970

def decimalLength (n : Nat) : Nat :=
  (Nat.toDigits 10 n).length

def inRange (n : Numeral) : Bool :=
  let shift := n.exponent - n.places
  let size := shift + decimalLength n.digits
  if n.digits = 0 || size < 300 then true
  else if 310 < size then false
  else if 0 ≤ shift then n.digits * Nat.pow 10 shift.toNat < doubleBound
  else n.digits < doubleBound * Nat.pow 10 (-shift).toNat

def number? (n : Numeral) : Option Number :=
  match n.integer? with
  | some i =>
    if -9223372036854775808 ≤ i && i < 18446744073709551616 then some (.whole i)
    else if n.inRange then some (.decimal n.negative n.digits 0) else none
  | none =>
    if n.inRange then some (.decimal n.negative n.digits (n.exponent - n.places)) else none

end Numeral

end LiveEvents.Json
