import LiveEvents.Toml.Scalar
import LiveEvents.Toml.Value

/-!
# Reading TOML documents

A document is read statement by statement: headers, headers with double brackets, and pairs of
a key and a value. Arrays and tables in braces may be nested less than eighty levels deep, and a
key may have less than eighty parts.
-/

namespace LiveEvents.Toml

def maxNesting : Nat := 79

/-- Keys separated by dots, blanks being allowed around each. -/
def keys : (fuel : Nat) → Read (List String)
  | 0, _ => none
  | n + 1, cs => do
    let (key, cs) ← simpleKey (dropSpaces cs)
    match dropSpaces cs with
    | '.' :: cs => do
      let (rest, cs) ← keys n cs
      return (key :: rest, cs)
    | cs => return ([key], cs)

def path (cs : List Char) : Option (Path × List Char) := do
  let (names, rest) ← keys maxNesting cs
  match names.reverse with
  | last :: way => return (⟨way.reverse, last⟩, rest)
  | [] => none

/-- Drops a comment, if one stands here; it must be printable up to the end of its line. -/
def dropComment (cs : List Char) : Option (List Char) :=
  match cs with
  | '#' :: cs =>
    let rest := cs.dropWhile isPrintable
    if rest.isEmpty || (lineBreak? rest).isSome then some rest else none
  | cs => some cs

def dropIgnored : (fuel : Nat) → List Char → Option (List Char)
  | 0, cs => some cs
  | n + 1, cs => do
    let cs ← dropComment (dropBlankLines cs)
    match cs with
    | '\n' :: _ | '\r' :: '\n' :: _ => dropIgnored n cs
    | cs => return cs

def ignored (cs : List Char) : Option (List Char) :=
  dropIgnored (cs.length + 1) cs

def scalar (cs : List Char) : Option (Value × List Char) :=
  match cs with
  | '"' :: _ | '\'' :: _ => (string cs).map fun (s, rest) => (.string s, rest)
  | 't' :: 'r' :: 'u' :: 'e' :: rest => some (.bool true, rest)
  | 'f' :: 'a' :: 'l' :: 's' :: 'e' :: rest => some (.bool false, rest)
  | cs =>
    match time cs with
    | some (_, rest) => some (.other, rest)
    | none =>
      match float cs with
      | some (_, rest) => some (.other, rest)
      | none => (integer cs).map fun (i, rest) => (.integer i, rest)

mutual

def value (fuel depth : Nat) (cs : List Char) : Option (Value × List Char) :=
  match fuel, depth, cs with
  | n + 1, d + 1, '[' :: cs => do
    let (items, rest) ← items n d cs
    return (.array items, rest)
  | n + 1, d + 1, '\x7b' :: cs =>
    match dropSpaces cs with
    | '\x7d' :: rest => some (.table .inline [], rest)
    | cs => do
      let ((_, members), rest) ← pairs n d (.implied, []) cs
      return (.table .inline members, rest)
  | _, _, cs => scalar cs

def items (fuel depth : Nat) (cs : List Char) : Option (List Value × List Char) :=
  match fuel with
  | 0 => none
  | n + 1 => do
    match ← ignored cs with
    | ']' :: rest => return ([], rest)
    | cs =>
      let (item, cs) ← value n depth cs
      match ← ignored cs with
      | ',' :: cs =>
        let (more, rest) ← items n depth cs
        return (item :: more, rest)
      | ']' :: rest => return ([item], rest)
      | _ => none

def pairs (fuel depth : Nat) (draft : Draft) (cs : List Char) : Option (Draft × List Char) :=
  match fuel with
  | 0 => none
  | n + 1 => do
    let (path, cs) ← path cs
    match cs with
    | '=' :: cs =>
      let (value, cs) ← value n depth (dropSpaces cs)
      let draft ← setPath path value draft
      match dropSpaces cs with
      | ',' :: cs => pairs n depth draft cs
      | '\x7d' :: rest => return (draft, rest)
      | _ => none
    | _ => none

end

/-- The end of a line: blanks, perhaps a comment, and a line break or the end of the text. -/
def lineEnd (cs : List Char) : Option (List Char) := do
  let cs ← dropComment (dropSpaces cs)
  if cs.isEmpty then return [] else lineBreak? cs

def statement (cs : List Char) : Option (Statement × List Char) :=
  match cs with
  | '[' :: '[' :: cs => do
    let (path, cs) ← path cs
    match cs with
    | ']' :: ']' :: rest => return (.element path, rest)
    | _ => none
  | '[' :: cs => do
    let (path, cs) ← path cs
    match cs with
    | ']' :: rest => return (.header path, rest)
    | _ => none
  | cs => do
    let (path, cs) ← path cs
    match cs with
    | '=' :: cs =>
      let (value, rest) ← value (cs.length + 1) maxNesting (dropSpaces cs)
      return (.pair path value, rest)
    | _ => none

def statements : (fuel : Nat) → Document → List Char → Option Document
  | 0, _, _ => none
  | n + 1, d, cs => do
    match ← ignored cs with
    | [] => return d
    | cs =>
      let (s, cs) ← statement cs
      let d ← d.add s
      statements n d (← lineEnd cs)

/-- The members of a document; a byte order mark may stand first. -/
def Members.ofString? (text : String) : Option Members := do
  let cs := match text.toList with
    | '\uFEFF' :: cs => cs
    | cs => cs
  return (← statements (cs.length + 1) {} cs).root.2

end LiveEvents.Toml
