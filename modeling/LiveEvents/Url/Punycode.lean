/-!
# Names in ASCII disguise

A label of a domain name that holds other than ASCII characters is disguised: the ASCII
characters come first, and after a hyphen the others follow as numbers that tell each character
and its place.
-/

namespace LiveEvents.Url.Punycode

structure State where
  /-- The character that is placed next. -/
  code : Nat := 128
  place : Nat := 0
  bias : Nat := 72
  /-- Where the number under way began, its weight and its digit. -/
  start : Nat := 0
  weight : Nat := 1
  digit : Nat := 1
  chars : List Char
  deriving Repr

def digit? (c : Char) : Option Nat :=
  if 'a' ≤ c && c ≤ 'z' then some (c.toNat - 97)
  else if c.isDigit then some (c.toNat - 48 + 26)
  else none

def settle : (fuel : Nat) → (delta k : Nat) → Nat
  | 0, delta, k => k + 36 * delta / (delta + 38)
  | fuel + 1, delta, k =>
    if 455 < delta then settle fuel (delta / 35) (k + 36) else k + 36 * delta / (delta + 38)

def adapt (delta count : Nat) (isFirst : Bool) : Nat :=
  let delta := if isFirst then delta / 700 else delta / 2
  settle 32 (delta + delta / count) 0

def insertAt (cs : List Char) (place : Nat) (c : Char) : List Char :=
  cs.take place ++ c :: cs.drop place

def step (s : State) (c : Char) : Option State := do
  let d ← digit? c
  let place := s.place + d * s.weight
  let threshold := min 26 (max 1 (36 * s.digit - s.bias))
  if d < threshold then
    let count := s.chars.length + 1
    let code := s.code + place / count
    if code < 0x110000 && !(0xD800 ≤ code && code < 0xE000) then
      let at_ := place % count
      return {
        code
        place := at_ + 1
        bias := adapt (place - s.start) count (s.start == 0)
        start := at_ + 1
        chars := insertAt s.chars at_ (Char.ofNat code) }
    else none
  else return { s with place, weight := s.weight * (36 - threshold), digit := s.digit + 1 }

/-- The label that was disguised; there is none if it needed no disguise. -/
def decode? (label : List Char) : Option (List Char) := do
  let hidden := (label.reverse.takeWhile (· ≠ '-')).reverse
  let plain := label.take (label.length - hidden.length - 1)
  if hidden.isEmpty then none
  else
    let s ← hidden.foldlM step { chars := plain }
    if s.weight = 1 && s.digit = 1 then some s.chars else none

end LiveEvents.Url.Punycode
