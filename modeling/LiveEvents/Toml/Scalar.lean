import LiveEvents.Calendar
import LiveEvents.Json.Numeral

/-!
# TOML strings, numbers and times

Readers of the smallest parts of a document. Each takes the characters from where the part
begins and gives the part and what follows it.
-/

namespace LiveEvents.Toml

abbrev Read (α : Type) := List Char → Option (α × List Char)

def isBare (c : Char) : Bool :=
  c.isAlphanum || c == '-' || c == '_'

/-- A character that may stand in a comment. -/
def isPrintable (c : Char) : Bool :=
  c == '\t' || (0x20 ≤ c.toNat && c.toNat != 0x7F)

def isSpace (c : Char) : Bool :=
  c == ' ' || c == '\t'

def dropSpaces (cs : List Char) : List Char :=
  cs.dropWhile isSpace

def hexValue? (c : Char) : Option Nat :=
  if c.isDigit then some (c.toNat - '0'.toNat)
  else if 'a' ≤ c && c ≤ 'f' then some (c.toNat - 'a'.toNat + 10)
  else if 'A' ≤ c && c ≤ 'F' then some (c.toNat - 'A'.toNat + 10)
  else none

def codePoint : (digits : Nat) → (code : Nat) → Read Char
  | 0, code, cs =>
    if code < 0xD800 ∨ (0xE000 ≤ code ∧ code < 0x110000) then some (Char.ofNat code, cs)
    else none
  | n + 1, code, c :: cs => do codePoint n (code * 16 + (← hexValue? c)) cs
  | _ + 1, _, [] => none

def escape : Read Char
  | 'b' :: cs => some ('\x08', cs)
  | 't' :: cs => some ('\t', cs)
  | 'n' :: cs => some ('\n', cs)
  | 'f' :: cs => some ('\x0c', cs)
  | 'r' :: cs => some ('\r', cs)
  | '"' :: cs => some ('"', cs)
  | '\\' :: cs => some ('\\', cs)
  | 'u' :: cs => codePoint 4 0 cs
  | 'U' :: cs => codePoint 8 0 cs
  | _ => none

def lineBreak? : List Char → Option (List Char)
  | '\n' :: cs | '\r' :: '\n' :: cs => some cs
  | _ => none

/-- A string in double quotes on one line, after its opening quote. -/
def basic (fuel : Nat) (acc : List Char) : Read String
  | [] => none
  | '"' :: cs => some (String.ofList acc.reverse, cs)
  | '\\' :: cs =>
    match fuel with
    | 0 => none
    | n + 1 => do
      let (c, cs) ← escape cs
      basic n (c :: acc) cs
  | c :: cs =>
    match fuel with
    | 0 => none
    | n + 1 => if isPrintable c then basic n (c :: acc) cs else none

def literal (cs : List Char) : Option (String × List Char) :=
  let text := cs.takeWhile fun c => isPrintable c && c != '\''
  match cs.drop text.length with
  | '\'' :: rest => some (String.ofList text, rest)
  | _ => none

/-- Closes a string of several lines: up to two quotes may stand before the closing three. -/
def closing? (quote : Char) : List Char → Option (List Char × List Char)
  | a :: b :: c :: cs =>
    if a = quote ∧ b = quote ∧ c = quote then
      match cs with
      | d :: e :: rest =>
        if d = quote ∧ e = quote then some ([quote, quote], rest)
        else if d = quote then some ([quote], e :: rest)
        else some ([], cs)
      | [d] => if d = quote then some ([quote], []) else some ([], cs)
      | [] => some ([], [])
    else none
  | _ => none

def dropBlankLines : List Char → List Char
  | '\r' :: '\n' :: cs => dropBlankLines cs
  | c :: cs => if isSpace c || c == '\n' then dropBlankLines cs else c :: cs
  | [] => []

/-- A string of several lines, after its opening quotes; backslashes count if `escapes`. -/
def multiline (quote : Char) (escapes : Bool) : (fuel : Nat) → (acc : List Char) → Read String
  | 0, _, _ => none
  | n + 1, acc, cs =>
    match closing? quote cs with
    | some (quotes, rest) => some (String.ofList (quotes ++ acc).reverse, rest)
    | none =>
      match lineBreak? cs with
      | some rest => multiline quote escapes n ('\n' :: acc) rest
      | none =>
        match cs with
        | [] => none
        | c :: cs =>
          if escapes && c == '\\' then
            match lineBreak? (dropSpaces cs) with
            | some rest => multiline quote escapes n acc (dropBlankLines rest)
            | none => do
              let (c, cs) ← escape cs
              multiline quote escapes n (c :: acc) cs
          else if isPrintable c then multiline quote escapes n (c :: acc) cs
          else none

/-- A line break right after the opening quotes does not belong to the string. -/
def afterOpening (cs : List Char) : List Char :=
  (lineBreak? cs).getD cs

def string : Read String
  | '"' :: '"' :: '"' :: cs => multiline '"' true (cs.length + 1) [] (afterOpening cs)
  | '\'' :: '\'' :: '\'' :: cs => multiline '\'' false (cs.length + 1) [] (afterOpening cs)
  | '"' :: cs => basic cs.length [] cs
  | '\'' :: cs => literal cs
  | _ => none

def simpleKey : Read String
  | '"' :: cs => basic cs.length [] cs
  | '\'' :: cs => literal cs
  | cs =>
    let name := cs.takeWhile isBare
    if name.isEmpty then none else some (String.ofList name, cs.drop name.length)

/-- Digits that single underscores may separate, without the underscores. -/
def digitRun (ok : Char → Bool) : List Char → Option (List Char × List Char)
  | [] => none
  | c :: cs =>
    if !ok c then none
    else
      match cs with
      | '_' :: d :: rest =>
        if ok d then (digitRun ok (d :: rest)).map fun (ds, rest) => (c :: ds, rest)
        else some ([c], cs)
      | d :: rest =>
        if ok d then (digitRun ok (d :: rest)).map fun (ds, rest) => (c :: ds, rest)
        else some ([c], cs)
      | [] => some ([c], [])

def radixValue (radix : Nat) (ds : List Char) : Nat :=
  ds.foldl (fun n c => n * radix + (hexValue? c).getD 0) 0

/-- Whole numbers have 64 bits with a sign. -/
def integerBound : Nat := 9223372036854775808

def radixInteger (radix : Nat) (ok : Char → Bool) (cs : List Char) :
    Option (Int × List Char) := do
  let (ds, rest) ← digitRun ok cs
  let n := radixValue radix ds
  if n < integerBound then some (n, rest) else none

def sign : List Char → Bool × List Char
  | '-' :: cs => (true, cs)
  | '+' :: cs => (false, cs)
  | cs => (false, cs)

/-- The digits of a decimal number, which begin with zero only if zero is all of them. -/
def wholeDigits : Read (List Char)
  | '0' :: cs => some (['0'], cs)
  | cs => digitRun Char.isDigit cs

def exponentPart (cs : List Char) : Option (Int × List Char) :=
  match cs with
  | 'e' :: cs | 'E' :: cs => do
    let (negative, cs) := sign cs
    let (ds, rest) ← digitRun Char.isDigit cs
    let n : Int := Text.decimalValue ds
    return (if negative then -n else n, rest)
  | _ => none

/-- A float, refused if it is too large for a double. -/
def float (cs : List Char) : Option (Unit × List Char) := do
  let (negative, cs) := sign cs
  match cs with
  | 'i' :: 'n' :: 'f' :: rest => return ((), rest)
  | 'n' :: 'a' :: 'n' :: rest => return ((), rest)
  | cs =>
    let (whole, cs) ← wholeDigits cs
    let finish (places : List Char) (exponent : Int) (rest : List Char) :=
      let n : Json.Numeral :=
        { digits := Text.decimalValue (whole ++ places), places := places.length, exponent }
      if negative || n.inRange then some ((), rest) else none
    match cs with
    | '.' :: cs => do
      let (places, cs) ← digitRun Char.isDigit cs
      match exponentPart cs with
      | some (e, rest) => finish places e rest
      | none => finish places 0 cs
    | cs => do
      let (e, rest) ← exponentPart cs
      finish [] e rest

def integer (cs : List Char) : Option (Int × List Char) :=
  match cs with
  | '0' :: 'x' :: cs => radixInteger 16 (fun c => (hexValue? c).isSome) cs
  | '0' :: 'o' :: cs => radixInteger 8 (fun c => '0' ≤ c && c ≤ '7') cs
  | '0' :: 'b' :: cs => radixInteger 2 (fun c => c == '0' || c == '1') cs
  | cs => do
    let (negative, cs) := sign cs
    let (ds, rest) ← wholeDigits cs
    let n : Int := Text.decimalValue ds
    let value := if negative then -n else n
    if -(integerBound : Int) ≤ value ∧ value < integerBound then some (value, rest) else none

def fullDate : List Char → Option (List Char)
  | y1 :: y2 :: y3 :: y4 :: '-' :: m1 :: m2 :: '-' :: d1 :: d2 :: rest => do
    let century ← Text.twoDigits? y1 y2
    let year ← Text.twoDigits? y3 y4
    let month ← Text.twoDigits? m1 m2
    let day ← Text.twoDigits? d1 d2
    if Civil.Valid ⟨century * 100 + year, month, day⟩ then some rest else none
  | _ => none

def clock : List Char → Option (List Char)
  | h1 :: h2 :: ':' :: m1 :: m2 :: ':' :: s1 :: s2 :: rest => do
    let hour ← Text.twoDigits? h1 h2
    let minute ← Text.twoDigits? m1 m2
    let second ← Text.twoDigits? s1 s2
    if hour < 24 && minute < 60 && second ≤ 60 then
      match rest with
      | '.' :: d :: rest =>
        some (if d.isDigit then rest.dropWhile Char.isDigit else '.' :: d :: rest)
      | rest => some rest
    else none
  | _ => none

def dropOffset (cs : List Char) : List Char :=
  match cs with
  | 'Z' :: rest | 'z' :: rest => rest
  | s :: h1 :: h2 :: ':' :: m1 :: m2 :: rest =>
    match Text.twoDigits? h1 h2, Text.twoDigits? m1 m2 with
    | some hour, some minute =>
      if (s = '+' ∨ s = '-') ∧ hour < 24 ∧ minute < 60 then rest else cs
    | _, _ => cs
  | cs => cs

/-- A date, a clock or both; an offset stands only after both. -/
def time (cs : List Char) : Option (Unit × List Char) :=
  match fullDate cs with
  | none => (clock cs).map ((), ·)
  | some rest =>
    match rest with
    | separator :: after =>
      if separator = 'T' ∨ separator = 't' ∨ separator = ' ' then
        match clock after with
        | some rest => some ((), dropOffset rest)
        | none => some ((), rest)
      else some ((), rest)
    | [] => some ((), [])

end LiveEvents.Toml
