import LiveEvents.Text.Digits

/-!
# Internet addresses in URLs

An address of version 4 has up to four numbers, each decimal, octal or hexadecimal, of which
the last fills all bytes that are left. An address of version 6 has eight pieces of up to four
hexadecimal digits, of which two colons may stand for any number that are zero, and the last
two may be written as four decimal numbers.
-/

namespace LiveEvents.Url

def isHexDigit (c : Char) : Bool :=
  c.isDigit || ('a' ≤ c && c ≤ 'f') || ('A' ≤ c && c ≤ 'F')

def hexValue (ds : List Char) : Nat :=
  ds.foldl (fun n c => n * 16 + (if c.isDigit then c.toNat - 48 else c.toLower.toNat - 87)) 0

def octalValue (ds : List Char) : Nat :=
  ds.foldl (fun n c => n * 8 + (c.toNat - 48)) 0

def splitAtDots (cs : List Char) : List (List Char) :=
  ((String.ofList cs).splitOn ".").map (·.toList)

/-- A number of an address of version 4, of any size. -/
def ipv4Number? (cs : List Char) : Option Nat :=
  match cs with
  | [] => none
  | '0' :: 'x' :: ds | '0' :: 'X' :: ds => if ds.all isHexDigit then some (hexValue ds) else none
  | '0' :: d :: ds =>
    if (d :: ds).all fun c => '0' ≤ c && c ≤ '7' then some (octalValue (d :: ds)) else none
  | ds => if ds.all Char.isDigit then some (Text.decimalValue ds) else none

/-- The parts of a host, without the empty one after a dot at its end. -/
def hostParts (cs : List Char) : List (List Char) :=
  let parts := splitAtDots cs
  if parts.getLast? = some [] then parts.dropLast else parts

def endsInNumber (cs : List Char) : Bool :=
  match (hostParts cs).getLast? with
  | none => false
  | some last => (!last.isEmpty && last.all Char.isDigit) || (ipv4Number? last).isSome

def isIpv4 (cs : List Char) : Bool :=
  let parts := hostParts cs
  match parts.mapM ipv4Number? with
  | none => false
  | some numbers =>
    match numbers.getLast? with
    | none => false
    | some last =>
      decide (numbers.length ≤ 4) && numbers.dropLast.all (· ≤ 255) &&
        decide (last < Nat.pow 256 (5 - numbers.length))

def isPlainByte (cs : List Char) : Bool :=
  !cs.isEmpty && cs.all Char.isDigit && (cs.head? != some '0' || cs.length == 1) &&
    decide (Text.decimalValue cs ≤ 255)

def isDottedQuad (cs : List Char) : Bool :=
  let parts := splitAtDots cs
  parts.length == 4 && parts.all isPlainByte

/-- The pieces that follow `count` pieces, of which some were left out or not. -/
def arePieces (count : Nat) (shortened : Bool) (cs : List Char) : Bool :=
  if count = 8 then cs.isEmpty
  else
    match cs with
    | [] => shortened
    | ':' :: rest => !shortened && arePieces (count + 1) true rest
    | c :: rest =>
      let digits := ((c :: rest).take 4).takeWhile isHexDigit
      match h : (c :: rest).drop digits.length with
      | [] => shortened || count == 7
      | '.' :: _ =>
        !digits.isEmpty && decide (count ≤ 6) && isDottedQuad (c :: rest) &&
          (shortened || count == 6)
      | ':' :: next => !next.isEmpty && arePieces (count + 1) shortened next
      | _ => false
termination_by cs.length
decreasing_by
  · simp
  · have := congrArg List.length h
    simp at this
    simp
    omega

def isIpv6 : List Char → Bool
  | ':' :: ':' :: rest => arePieces 1 true rest
  | ':' :: _ => false
  | cs => decide (2 ≤ cs.length) && arePieces 0 false cs

end LiveEvents.Url
