import LiveEvents.Text.Digits

/-!
# Durations

A whole number of nanoseconds up to a fixed greatest duration. Sums and products stop at the
greatest duration. A duration is shown in the largest unit that gives it a whole part.
-/

namespace LiveEvents

structure Duration where
  nanos : Nat
  le_greatest : nanos ≤ 18446744073709551615999999999
  deriving DecidableEq, Repr

namespace Duration

/-- The greatest duration in nanoseconds: `2 ^ 64` seconds less one nanosecond. -/
def greatest : Nat := 18446744073709551615999999999

/-- The duration of so many nanoseconds, or the greatest if there are more. -/
def ofNanos (n : Nat) : Duration :=
  ⟨min n greatest, Nat.min_le_right _ _⟩

def zero : Duration := ⟨0, by decide⟩

instance : Inhabited Duration := ⟨zero⟩

def ofSeconds (n : Nat) : Duration := ofNanos (n * 1000000000)

def ofMillis (n : Nat) : Duration := ofNanos (n * 1000000)

def seconds (d : Duration) : Nat := d.nanos / 1000000000

def subsecond (d : Duration) : Nat := d.nanos % 1000000000

def millis (d : Duration) : Nat := d.nanos / 1000000

/-- Whole milliseconds of which a timer waits as many, so as not to end early. -/
def timerMillis (d : Duration) : Nat := (d.nanos + 999999) / 1000000

instance : LE Duration := ⟨fun a b => a.nanos ≤ b.nanos⟩

instance (a b : Duration) : Decidable (a ≤ b) :=
  inferInstanceAs (Decidable (a.nanos ≤ b.nanos))

instance : LT Duration := ⟨fun a b => a.nanos < b.nanos⟩

instance (a b : Duration) : Decidable (a < b) :=
  inferInstanceAs (Decidable (a.nanos < b.nanos))

instance : Min Duration := ⟨fun a b => if a ≤ b then a else b⟩

def add (a b : Duration) : Duration := ofNanos (a.nanos + b.nanos)

def mul (a : Duration) (n : Nat) : Duration := ofNanos (a.nanos * n)

theorem nanos_min (a b : Duration) : (Min.min a b).nanos = Min.min a.nanos b.nanos := by
  change (if a.nanos ≤ b.nanos then a else b).nanos = _
  split <;> omega

theorem nanos_add (a b : Duration) : (a.add b).nanos = Min.min (a.nanos + b.nanos) greatest := rfl

theorem nanos_mul (a : Duration) (n : Nat) : (a.mul n).nanos = Min.min (a.nanos * n) greatest := rfl

/-- The digits of a fraction of `width` places without the zeros that end it. -/
def fractionChars (width part : Nat) : List Char :=
  if part = 0 then []
  else '.' :: ((Text.padded width part).reverse.dropWhile (· = '0')).reverse

def inUnit (n places : Nat) (unit : String) : String :=
  let whole := Nat.pow 10 places
  String.ofList (Text.decimal (n / whole) ++ fractionChars places (n % whole)) ++ unit

def text (d : Duration) : String :=
  if 1000000000 ≤ d.nanos then inUnit d.nanos 9 "s"
  else if 1000000 ≤ d.nanos then inUnit d.nanos 6 "ms"
  else if 1000 ≤ d.nanos then inUnit d.nanos 3 "µs"
  else inUnit d.nanos 0 "ns"

end Duration

end LiveEvents
