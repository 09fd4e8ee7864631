import LiveEvents.Text.Digits

/-!
# Decimal numbers

A decimal is a mantissa of 96 bits, at most 28 places and a sign. Reading keeps the places that
are written; where digits no longer fit, the first digit left out rounds the number, a half
going away from zero, and the others do not count.
-/

namespace LiveEvents

/-- The first number of more than 96 bits. -/
def Decimal.mantissaBound : Nat := 79228162514264337593543950336

structure Decimal where
  negative : Bool
  mantissa : Nat
  places : Nat
  mantissa_lt : mantissa < Decimal.mantissaBound
  places_le : places ≤ 28
  deriving DecidableEq, Repr

namespace Decimal

def zero : Decimal := ⟨false, 0, 0, by decide, by decide⟩

def ofParts? (negative : Bool) (mantissa places : Nat) : Option Decimal :=
  if h : mantissa < mantissaBound ∧ places ≤ 28 then some ⟨negative, mantissa, places, h.1, h.2⟩
  else none

/-- Mantissa and places. -/
abbrev Magnitude := Nat × Nat

/-- Rounds by the first digit that is left out. -/
def roundUp? (mantissa places digit : Nat) : Option Magnitude :=
  if digit < 5 then some (mantissa, places)
  else if mantissa + 1 < mantissaBound then some (mantissa + 1, places)
  else if places = 0 then none
  else some ((mantissa + 5) / 10, places - 1)

/-- What may follow a digit that was left out. -/
def isTail (cs : List Char) : Bool :=
  cs.all fun c => c.isDigit || c == '_'

/-- Reads the digits of a number. `point` tells that the decimal point was read, `any` that a
digit was. -/
def digits? (point any : Bool) (mantissa places : Nat) : List Char → Option Magnitude
  | [] => if any then some (mantissa, places) else none
  | c :: cs =>
    match Text.digit? c with
    | some d =>
      if point && 28 ≤ places then
        if isTail cs then roundUp? mantissa places d else none
      else if mantissa * 10 + d < mantissaBound then
        digits? point true (mantissa * 10 + d) (if point then places + 1 else 0) cs
      else if point && isTail cs then roundUp? mantissa places d
      else none
    | none =>
      if c = '.' ∧ !point then digits? true any mantissa places cs
      else if c = '_' ∧ any then
        if point && 28 ≤ places then (if isTail cs then some (mantissa, places) else none)
        else digits? point any mantissa places cs
      else none

def normalized (mantissa : Nat) : Nat → Magnitude
  | 0 => (mantissa, 0)
  | places + 1 =>
    if mantissa % 10 = 0 then normalized (mantissa / 10) places else (mantissa, places + 1)

/-- The quotient by a power of ten, a half going to the even neighbour. -/
def roundPlaces (mantissa drop : Nat) : Nat :=
  let unit := Nat.pow 10 drop
  let whole := mantissa / unit
  let rest := mantissa % unit
  if 2 * rest < unit then whole
  else if unit < 2 * rest then whole + 1
  else if whole % 2 = 0 then whole else whole + 1

/-- The most places with which a magnitude fits, rounding those that are dropped. -/
def fit? (mantissa places : Nat) : Nat → Option Magnitude
  | 0 => if mantissa < mantissaBound then some (mantissa, places) else none
  | drop + 1 =>
    match fit? mantissa places drop with
    | some m => some m
    | none =>
      if drop < places then
        let rounded := roundPlaces mantissa (drop + 1)
        if rounded < mantissaBound then some (rounded, places - (drop + 1)) else none
      else none

def withExponent? (m : Magnitude) (exponent : List Char) : Option Magnitude :=
  let (mantissa, places) := m
  let (negative, ds) := match exponent with
    | '-' :: rest => (true, rest)
    | cs => (false, cs)
  let ds := match ds with
    | '+' :: rest => rest
    | cs => cs
  if ds.isEmpty || !ds.all Char.isDigit then none
  else
    let e := Text.decimalValue ds
    if 28 < e then (if !negative && e ≤ places then some (mantissa, places - e) else none)
    else if negative then
      if places + e ≤ 28 then some (mantissa, places + e)
      else some (roundPlaces mantissa (places + e - 28), 28)
    else if e ≤ places then some (mantissa, places - e)
    else (fit? (mantissa * Nat.pow 10 e) places places).map fun (m, p) => normalized m p

def magnitude? (cs : List Char) : Option Magnitude :=
  match cs.span (fun c => c != 'e' && c != 'E') with
  | (ds, []) => digits? false false 0 0 ds
  | (ds, _ :: exponent) => digits? false false 0 0 ds >>= (withExponent? · exponent)

def ofChars? (cs : List Char) : Option Decimal := do
  let (negative, rest) := match cs with
    | '-' :: rest => (true, rest)
    | '+' :: rest => (false, rest)
    | cs => (false, cs)
  let (mantissa, places) ← magnitude? rest
  ofParts? negative mantissa places

def ofString? (s : String) : Option Decimal :=
  ofChars? s.toList

/-- All places are written; zero has no sign. -/
def text (d : Decimal) : String :=
  let sign := if d.negative && d.mantissa != 0 then ['-'] else []
  let ds := Text.padded (d.places + 1) d.mantissa
  let whole := ds.take (ds.length - d.places)
  let fraction := ds.drop (ds.length - d.places)
  String.ofList (sign ++ whole ++ (if d.places = 0 then [] else '.' :: fraction))

end Decimal

end LiveEvents
