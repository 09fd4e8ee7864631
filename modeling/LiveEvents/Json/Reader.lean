import LiveEvents.Json.Node

/-!
# Reading JSON documents

The reader is one automaton over the characters of a document. `Scan` is what it is in the
middle of on the level of characters, `Stack` and `Want` say where it stands between the
brackets. A character may also be missing: bytes that are no text are accepted inside a
string, which then has no value.
-/

namespace LiveEvents.Json

namespace Reader

/-- A container that is still open, its parts in reverse. -/
inductive Frame where
  | array (items : List Node)
  | object (members : List (Option String × Node))
  /-- An object whose member `key` waits for its value. -/
  | member (key : Option String) (members : List (Option String × Node))

inductive Want where
  | value
  | firstItem
  | firstKey
  | key
  | colon (key : Option String)
  | separator
  | nothing (root : Node)

structure Place where
  stack : List Frame := []
  want : Want := .value

namespace Place

def put (p : Place) (n : Node) : Option Place :=
  match p.stack with
  | [] => some ⟨[], .nothing n⟩
  | .array items :: rest => some ⟨.array (n :: items) :: rest, .separator⟩
  | .member key members :: rest => some ⟨.object ((key, n) :: members) :: rest, .separator⟩
  | .object _ :: _ => none

def scalar (p : Place) (n : Node) : Option Place :=
  match p.want, n with
  | .value, n | .firstItem, n => p.put n
  | .firstKey, .string s | .key, .string s => some { p with want := .colon s }
  | _, _ => none

def mark (p : Place) (c : Char) : Option Place :=
  match c, p.want, p.stack with
  | '[', .value, stack | '[', .firstItem, stack => some ⟨.array [] :: stack, .firstItem⟩
  | '\x7b', .value, stack | '\x7b', .firstItem, stack => some ⟨.object [] :: stack, .firstKey⟩
  | ':', .colon key, .object members :: rest => some ⟨.member key members :: rest, .value⟩
  | ',', .separator, .array items :: rest => some ⟨.array items :: rest, .value⟩
  | ',', .separator, .object members :: rest => some ⟨.object members :: rest, .key⟩
  | ']', .separator, .array items :: rest | ']', .firstItem, .array items :: rest =>
    put ⟨rest, .value⟩ (.array items.reverse)
  | '\x7d', .separator, .object members :: rest | '\x7d', .firstKey, .object members :: rest =>
    put ⟨rest, .value⟩ (.object members.reverse)
  | _, _, _ => none

end Place

inductive NumeralPart where
  | sign
  | zero
  | whole
  | point
  | places
  | exponentMark
  | exponentSign
  | exponent
  deriving DecidableEq

/-- A string so far, in reverse, and whether it still has a value. -/
structure Letters where
  reversed : List Char := []
  sound : Bool := true
  /-- The first half of a surrogate pair that waits for the second. -/
  half : Option Nat := none

namespace Letters

def add (l : Letters) (c : Char) : Letters :=
  { reversed := c :: l.reversed, sound := l.sound && l.half.isNone }

/-- Adds the UTF-16 unit that an escape names. -/
def addUnit (l : Letters) (unit : Nat) : Letters :=
  match l.half with
  | some high =>
    if 0xDC00 ≤ unit && unit < 0xE000 then
      { l with
        reversed := Char.ofNat (0x10000 + (high - 0xD800) * 0x400 + (unit - 0xDC00)) :: l.reversed
        half := none }
    else { l with sound := false, half := none }
  | none =>
    if 0xD800 ≤ unit && unit < 0xDC00 then { l with half := some unit }
    else if 0xDC00 ≤ unit && unit < 0xE000 then { l with sound := false }
    else { l with reversed := Char.ofNat unit :: l.reversed }

def text? (l : Letters) : Option String :=
  if l.sound && l.half.isNone then some (String.ofList l.reversed.reverse) else none

end Letters

inductive Scan where
  | between
  /-- A word of which `rest` is still to come. -/
  | word (rest : List Char) (value : Node)
  | numeral (part : NumeralPart) (read : Numeral) (exponentNegative : Bool)
  | string (letters : Letters)
  | escape (letters : Letters)
  | hex (letters : Letters) (missing : Nat) (unit : Nat)

structure State where
  scan : Scan := .between
  place : Place := {}

def digit? (c : Char) : Option Nat :=
  if c.isDigit then some (c.toNat - '0'.toNat) else none

def hexDigit? (c : Char) : Option Nat :=
  if c.isDigit then some (c.toNat - '0'.toNat)
  else if 'a' ≤ c && c ≤ 'f' then some (c.toNat - 'a'.toNat + 10)
  else if 'A' ≤ c && c ≤ 'F' then some (c.toNat - 'A'.toNat + 10)
  else none

def between (p : Place) (c : Char) : Option State :=
  match c with
  | ' ' | '\t' | '\n' | '\r' => some ⟨.between, p⟩
  | '"' => some ⟨.string {}, p⟩
  | 'n' => some ⟨.word ['u', 'l', 'l'] .null, p⟩
  | 't' => some ⟨.word ['r', 'u', 'e'] (.bool true), p⟩
  | 'f' => some ⟨.word ['a', 'l', 's', 'e'] (.bool false), p⟩
  | '-' => some ⟨.numeral .sign { negative := true } false, p⟩
  | '0' => some ⟨.numeral .zero {} false, p⟩
  | c =>
    match digit? c with
    | some d => some ⟨.numeral .whole { digits := d } false, p⟩
    | none => (p.mark c).map fun q => ⟨.between, q⟩

/-- Ends a numeral that may end where it stands. -/
def endNumeral (p : Place) (part : NumeralPart) (n : Numeral) (exponentNegative : Bool) :
    Option Place :=
  match part with
  | .zero | .whole | .places => p.scalar (.number n)
  | .exponent =>
    p.scalar (.number (if exponentNegative then { n with exponent := -n.exponent } else n))
  | _ => none

def addExponentDigit (n : Numeral) (d : Nat) : Numeral :=
  { n with exponent := n.exponent * 10 + d, plain := false }

def addDigit (n : Numeral) (d : Nat) : Numeral :=
  { n with digits := n.digits * 10 + d }

def addPlace (n : Numeral) (d : Nat) : Numeral :=
  { n with digits := n.digits * 10 + d, places := n.places + 1, plain := false }

def numeralStep (part : NumeralPart) (n : Numeral) (exponentNegative : Bool) (c : Char) :
    Option Scan :=
  match part, c, digit? c with
  | .sign, '0', _ => some (.numeral .zero n exponentNegative)
  | .sign, _, some d | .whole, _, some d => some (.numeral .whole (addDigit n d) exponentNegative)
  | .zero, '.', _ | .whole, '.', _ => some (.numeral .point n exponentNegative)
  | .point, _, some d | .places, _, some d =>
    some (.numeral .places (addPlace n d) exponentNegative)
  | .zero, 'e', _ | .whole, 'e', _ | .places, 'e', _
  | .zero, 'E', _ | .whole, 'E', _ | .places, 'E', _ =>
    some (.numeral .exponentMark n exponentNegative)
  | .exponentMark, '+', _ => some (.numeral .exponentSign n false)
  | .exponentMark, '-', _ => some (.numeral .exponentSign n true)
  | .exponentMark, _, some d | .exponentSign, _, some d | .exponent, _, some d =>
    some (.numeral .exponent (addExponentDigit n d) exponentNegative)
  | _, _, _ => none

def escapeStep (l : Letters) (c : Char) : Option Scan :=
  match c with
  | '"' | '\\' | '/' => some (.string (l.add c))
  | 'b' => some (.string (l.add '\x08'))
  | 'f' => some (.string (l.add '\x0c'))
  | 'n' => some (.string (l.add '\n'))
  | 'r' => some (.string (l.add '\r'))
  | 't' => some (.string (l.add '\t'))
  | 'u' => some (.hex l 4 0)
  | _ => none

def step (s : State) (c : Char) : Option State :=
  match s.scan with
  | .between => between s.place c
  | .word [] _ => none
  | .word [last] value =>
    if c = last then (s.place.scalar value).map fun p => ⟨.between, p⟩ else none
  | .word (next :: rest) value =>
    if c = next then some { s with scan := .word rest value } else none
  | .numeral part n exponentNegative =>
    match numeralStep part n exponentNegative c with
    | some scan => some { s with scan }
    | none =>
      -- A digit after a leading zero neither continues nor follows a number.
      if (digit? c).isSome then none
      else do between (← endNumeral s.place part n exponentNegative) c
  | .string l =>
    if c = '"' then (s.place.scalar (.string l.text?)).map fun p => ⟨.between, p⟩
    else if c = '\\' then some { s with scan := .escape l }
    else if c.toNat < 0x20 then none
    else some { s with scan := .string (l.add c) }
  | .escape l => (escapeStep l c).map fun scan => { s with scan }
  | .hex l missing unit =>
    match hexDigit? c, missing with
    | some d, 1 => some { s with scan := .string (l.addUnit (unit * 16 + d)) }
    | some d, m + 1 => some { s with scan := .hex l m (unit * 16 + d) }
    | _, _ => none

/-- Bytes that are no text are let pass inside a string only. -/
def stepBroken (s : State) : Option State :=
  match s.scan with
  | .string l => some { s with scan := .string { l with sound := false } }
  | _ => none

def finish (s : State) : Option Node := do
  let place ← match s.scan with
    | .between => some s.place
    | .numeral part n exponentNegative => endNumeral s.place part n exponentNegative
    | _ => none
  match place.want with
  | .nothing root => some root
  | _ => none

end Reader

def Node.ofChars? (cs : List Char) : Option Node :=
  cs.foldlM Reader.step {} >>= Reader.finish

def Node.ofString? (text : String) : Option Node :=
  Node.ofChars? text.toList

/-- Reads characters among which a missing one stands for bytes that are no text. -/
def Node.ofSegments? (cs : List (Option Char)) : Option Node :=
  cs.foldlM (fun s c => c.elim (Reader.stepBroken s) (Reader.step s)) {} >>= Reader.finish

def maxDepth : Nat := 127

def ofString? (text : String) : Option Json :=
  Node.ofString? text >>= Node.toJson? maxDepth

end LiveEvents.Json
