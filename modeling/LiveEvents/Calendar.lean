import LiveEvents.Text.Digits

/-!
# Calendar days

A day of the proleptic Gregorian calendar is its number, day 0 being 1970-01-01, within the
years -262143 to 262142. Years are counted in cycles of 400 that begin on the first of March,
so that a leap day is the last day of its year.
-/

namespace LiveEvents

structure Civil where
  year : Int
  month : Nat
  day : Nat
  deriving DecidableEq, Repr

namespace Civil

def isLeap (year : Int) : Bool :=
  year % 4 == 0 && (year % 100 != 0 || year % 400 == 0)

def monthLength (year : Int) (month : Nat) : Nat :=
  if month = 2 then (if isLeap year then 29 else 28)
  else if month = 4 ∨ month = 6 ∨ month = 9 ∨ month = 11 then 30
  else 31

def Valid (c : Civil) : Prop :=
  1 ≤ c.month ∧ c.month ≤ 12 ∧ 1 ≤ c.day ∧ c.day ≤ monthLength c.year c.month

instance (c : Civil) : Decidable c.Valid :=
  inferInstanceAs (Decidable (_ ∧ _ ∧ _ ∧ _))

def dayNumber (c : Civil) : Int :=
  let year := if c.month ≤ 2 then c.year - 1 else c.year
  let cycle := Int.fdiv year 400
  let yearOfCycle := (year - cycle * 400).toNat
  let monthFromMarch := if c.month ≤ 2 then c.month + 9 else c.month - 3
  let dayOfYear := (153 * monthFromMarch + 2) / 5 + c.day - 1
  let dayOfCycle := yearOfCycle * 365 + yearOfCycle / 4 - yearOfCycle / 100 + dayOfYear
  cycle * 146097 + dayOfCycle - 719468

def ofDayNumber (day : Int) : Civil :=
  let fromMarch := day + 719468
  let cycle := Int.fdiv fromMarch 146097
  let dayOfCycle := (fromMarch - cycle * 146097).toNat
  let yearOfCycle :=
    (dayOfCycle - dayOfCycle / 1460 + dayOfCycle / 36524 - dayOfCycle / 146096) / 365
  let dayOfYear := dayOfCycle - (365 * yearOfCycle + yearOfCycle / 4 - yearOfCycle / 100)
  let monthFromMarch := (5 * dayOfYear + 2) / 153
  let month := if monthFromMarch < 10 then monthFromMarch + 3 else monthFromMarch - 9
  let year := yearOfCycle + cycle * 400
  { year := if month ≤ 2 then year + 1 else year
    month
    day := dayOfYear - (153 * monthFromMarch + 2) / 5 + 1 }

end Civil

structure Date where
  day : Int
  first_le : -96465292 ≤ day
  le_last : day ≤ 95026236
  deriving DecidableEq, Repr

namespace Date

def ofDay? (day : Int) : Option Date :=
  if h : -96465292 ≤ day ∧ day ≤ 95026236 then some ⟨day, h.1, h.2⟩ else none

instance : LE Date := ⟨fun a b => a.day ≤ b.day⟩

instance (a b : Date) : Decidable (a ≤ b) :=
  inferInstanceAs (Decidable (a.day ≤ b.day))

def epoch : Date :=
  ⟨0, by decide, by decide⟩

def last : Date :=
  ⟨95026236, by decide, by decide⟩

def civil (d : Date) : Civil :=
  .ofDayNumber d.day

def ofCivil? (c : Civil) : Option Date :=
  if c.Valid then ofDay? c.dayNumber else none

def addDays? (d : Date) (n : Nat) : Option Date :=
  ofDay? (d.day + n)

def next? (d : Date) : Option Date :=
  d.addDays? 1

/-- At most `n` days on end. The last day of the calendar, which no day follows, is not
among them. -/
def daysFrom : (n : Nat) → Date → List Date
  | 0, _ => []
  | n + 1, d =>
    match d.next? with
    | some e => d :: daysFrom n e
    | none => []

def through (first final : Date) : List Date :=
  daysFrom (final.day - first.day + 1).toNat first

/-- Four digits, with a sign outside the years 0 to 9999. -/
def yearChars (year : Int) : List Char :=
  if 0 ≤ year ∧ year ≤ 9999 then Text.padded 4 year.natAbs
  else (if year < 0 then '-' else '+') :: Text.padded 4 year.natAbs

def charsWith (separator : Char) (d : Date) : List Char :=
  let c := d.civil
  yearChars c.year ++ separator :: (Text.padded 2 c.month ++ separator :: Text.padded 2 c.day)

def chars (d : Date) : List Char :=
  d.charsWith '-'

def text (d : Date) : String :=
  String.ofList d.chars

/-- Reads the year of a date, which may carry a sign. -/
def year? (cs : List Char) : Option (Int × List Char) :=
  match cs with
  | '-' :: rest => do
    let (n, rest) ← Text.number? rest.length rest
    return (-n, rest)
  | '+' :: rest => do
    let (n, rest) ← Text.number? rest.length rest
    return (n, rest)
  | cs => do
    let (n, rest) ← Text.number? 4 cs
    return (n, rest)

def ofChars? (cs : List Char) : Option Date := do
  let (year, rest) ← year? cs
  match rest with
  | ['-', m1, m2, '-', d1, d2] =>
    let month ← Text.twoDigits? m1 m2
    let day ← Text.twoDigits? d1 d2
    ofCivil? ⟨year, month, day⟩
  | _ => none

end Date

end LiveEvents
