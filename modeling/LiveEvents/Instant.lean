import LiveEvents.Calendar
import LiveEvents.Text.Blank

/-!
# Points in time

A day, the second within it and the nanoseconds within that second. A leap second is the
second before it with a thousand million nanoseconds more. Times are read from RFC 3339 text
and from the plain form without an offset, and written in three shapes.
-/

namespace LiveEvents

structure Instant where
  date : Date
  /-- Second of the day, below 86400. -/
  second : Nat
  /-- Below 1000000000, and above only within a leap second. -/
  nanos : Nat
  deriving DecidableEq, Repr

namespace Instant

def nanosPerSecond : Nat := 1000000000

def unixSeconds (t : Instant) : Int :=
  t.date.day * 86400 + t.second

def ofUnix? (seconds : Int) (nanos : Nat) : Option Instant := do
  let second := (seconds % 86400).toNat
  if 2 * nanosPerSecond ≤ nanos || (nanosPerSecond ≤ nanos && second % 60 != 59) then none
  else
    let date ← Date.ofDay? (Int.fdiv seconds 86400)
    return ⟨date, second, nanos⟩

/-- Second shown on a clock, 60 within a leap second. -/
def clockSecond (t : Instant) : Nat :=
  t.second % 60 + t.nanos / nanosPerSecond

def clockChars (t : Instant) : List Char :=
  Text.padded 2 (t.second / 3600) ++ ':' :: (Text.padded 2 (t.second / 60 % 60) ++
    ':' :: Text.padded 2 t.clockSecond)

def displayChars (t : Instant) : List Char :=
  t.date.chars ++ ' ' :: t.clockChars

def display (t : Instant) : String :=
  String.ofList t.displayChars

/-- The fraction of a second in 0, 3, 6 or 9 digits, the fewest that are exact. -/
def fractionChars (t : Instant) : List Char :=
  let n := t.nanos % nanosPerSecond
  if n = 0 then []
  else if n % 1000000 = 0 then '.' :: Text.padded 3 (n / 1000000)
  else if n % 1000 = 0 then '.' :: Text.padded 6 (n / 1000)
  else '.' :: Text.padded 9 n

/-- RFC 3339 in universal time. -/
def text (t : Instant) : String :=
  String.ofList (t.date.chars ++ 'T' :: (t.clockChars ++ t.fractionChars ++ ['Z']))

/-- RFC 3339 in universal time with exactly six digits of fraction. -/
def microsText (t : Instant) : String :=
  String.ofList (t.date.chars ++ 'T' :: (t.clockChars ++
    '.' :: (Text.padded 6 (t.nanos % nanosPerSecond / 1000) ++ ['Z'])))

/-- The time of a date and a clock, whose second may be 60. -/
def ofClock? (date : Date) (hour minute second nanos : Nat) : Option Instant :=
  if 24 ≤ hour || 60 ≤ minute || 60 < second then none
  else if second = 60 then some ⟨date, hour * 3600 + minute * 60 + 59, nanos + nanosPerSecond⟩
  else some ⟨date, hour * 3600 + minute * 60 + second, nanos⟩

/-- Nanoseconds from the digits of a fraction; digits after the ninth do not count. -/
def fraction? (cs : List Char) : Option (Nat × List Char) :=
  let ds := cs.takeWhile Char.isDigit
  if ds.isEmpty then none
  else some (Text.decimalValue (ds.take 9) * Nat.pow 10 (9 - ds.length), cs.drop ds.length)

/-- Seconds east of universal time. -/
def offset? (cs : List Char) : Option Int :=
  match cs with
  | ['Z'] | ['z'] => some 0
  | [sign, h1, h2, ':', m1, m2] => do
    let hours ← Text.twoDigits? h1 h2
    let minutes ← Text.twoDigits? m1 m2
    if 24 ≤ hours || 60 ≤ minutes then none
    else match sign with
      | '+' => some ((hours * 60 + minutes) * 60)
      | '-' | '\u2212' => some (-((hours * 60 + minutes) * 60))
      | _ => none
  | _ => none

/-- A clock, perhaps with a fraction, and an offset that ends the text. -/
def clockAndOffset? (date : Date) (cs : List Char) : Option (Instant × Int) :=
  match cs with
  | h1 :: h2 :: ':' :: m1 :: m2 :: ':' :: s1 :: s2 :: rest => do
    let hour ← Text.twoDigits? h1 h2
    let minute ← Text.twoDigits? m1 m2
    let second ← Text.twoDigits? s1 s2
    let (nanos, rest) ← match rest with
      | '.' :: rest => fraction? rest
      | rest => some (0, rest)
    let offset ← offset? rest
    let local_ ← ofClock? date hour minute second nanos
    return (local_, offset)
  | _ => none

/-- The local time of an RFC 3339 text and its offset. -/
def ofRfc3339? (cs : List Char) : Option (Instant × Int) :=
  match cs with
  | y1 :: y2 :: y3 :: y4 :: '-' :: m1 :: m2 :: '-' :: d1 :: d2 :: separator :: rest => do
    let century ← Text.twoDigits? y1 y2
    let year ← Text.twoDigits? y3 y4
    let month ← Text.twoDigits? m1 m2
    let day ← Text.twoDigits? d1 d2
    let date ← Date.ofCivil? ⟨century * 100 + year, month, day⟩
    if separator = 'T' ∨ separator = 't' ∨ separator = ' ' then clockAndOffset? date rest
    else none
  | _ => none

/-- The same point in time on the clock that is `offset` seconds behind. -/
def behind? (t : Instant) (offset : Int) : Option Instant := do
  let seconds := t.unixSeconds - offset
  let date ← Date.ofDay? (Int.fdiv seconds 86400)
  return ⟨date, (seconds % 86400).toNat, t.nanos⟩

/-- Reads a time with any offset, its year written as `Date.chars` writes it. -/
def ofText? (s : String) : Option Instant := do
  let (year, rest) ← Date.year? s.toList
  match rest with
  | '-' :: m1 :: m2 :: '-' :: d1 :: d2 :: separator :: rest =>
    let month ← Text.twoDigits? m1 m2
    let day ← Text.twoDigits? d1 d2
    let date ← Date.ofCivil? ⟨year, month, day⟩
    if separator = 'T' ∨ separator = 't' ∨ separator = ' ' then
      let (t, offset) ← clockAndOffset? date rest
      t.behind? offset
    else none
  | _ => none

/-- A number after optional blanks, followed by a fixed character. -/
def field? (limit : Nat) (close : Char) (cs : List Char) : Option (Nat × List Char) := do
  let (n, rest) ← Text.number? limit (Text.dropBlanks cs)
  match rest with
  | c :: rest => if c = close then some (n, rest) else none
  | [] => none

/-- Reads a date and a clock without an offset; blanks may stand before each number. -/
def ofPlain? (cs : List Char) : Option Instant := do
  let (year, rest) ← Date.year? (Text.dropBlanks cs)
  match rest with
  | '-' :: rest =>
    let (month, rest) ← field? 2 '-' rest
    let (day, rest) ← field? 2 'T' rest
    let (hour, rest) ← field? 2 ':' rest
    let (minute, rest) ← field? 2 ':' rest
    let (second, rest) ← Text.number? 2 (Text.dropBlanks rest)
    if rest.isEmpty then
      let date ← Date.ofCivil? ⟨year, month, day⟩
      ofClock? date hour minute second 0
    else none
  | _ => none

end Instant

end LiveEvents
