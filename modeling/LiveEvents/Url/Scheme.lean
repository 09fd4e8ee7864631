import LiveEvents.Url.Host

/-!
# Well-formed URLs

A URL is read as browsers do: blanks around it and line breaks in it do not count, well-known
schemes may go without slashes, and back slashes count as slashes in them. Checking a URL gives
its scheme.
-/

namespace LiveEvents.Url

def significant (text : String) : List Char :=
  let blank (c : Char) : Bool := c ≤ ' '
  let inner := ((text.toList.dropWhile blank).reverse.dropWhile blank).reverse
  inner.filter fun c => c ≠ '\t' && c ≠ '\n' && c ≠ '\r'

def isSchemeChar (c : Char) : Bool :=
  c.isAlphanum || c == '+' || c == '-' || c == '.'

def scheme? (cs : List Char) : Option (String × List Char) :=
  match cs.dropWhile isSchemeChar with
  | ':' :: rest =>
    if (cs.head?.any Char.isAlpha) then
      some (String.ofList ((cs.takeWhile isSchemeChar).map Char.toLower), rest)
    else none
  | _ => none

/-- Schemes whose URLs must have a host. -/
def hostedSchemes : List String := ["http", "https", "ws", "wss", "ftp"]

def isSlash (c : Char) : Bool := c == '/' || c == '\\'

/-- Where the host of a URL ends at the latest. -/
def endsAuthority (hosted : Bool) (c : Char) : Bool :=
  c == '/' || c == '?' || c == '#' || (hosted && c == '\\')

/-- What stands before a port: everything up to a colon outside square brackets. -/
def hostLength (inBrackets : Bool) : List Char → Nat
  | [] => 0
  | ':' :: rest => if inBrackets then hostLength inBrackets rest + 1 else 0
  | '[' :: rest => hostLength true rest + 1
  | ']' :: rest => hostLength false rest + 1
  | _ :: rest => hostLength inBrackets rest + 1

def checkPort (cs : List Char) : Except UrlError Unit :=
  let ds := cs.takeWhile (· ≠ '\\')
  if ds.all Char.isDigit && decide (Text.decimalValue ds ≤ 65535) then .ok () else .error .badPort

def checkAuthority (hosted : Bool) (cs : List Char) (followed : Bool) : Except UrlError Unit := do
  let address := (cs.reverse.takeWhile (· ≠ '@')).reverse
  let user := cs.take (cs.length - address.length - 1)
  if user.isEmpty && address.length < cs.length && address.isEmpty && followed then
    throw .emptyHost
  let length := hostLength false address
  let host := address.take length
  let port := address.drop length
  if hosted then
    if host.isEmpty then throw .emptyHost
    checkNamedHost host
  else
    checkOtherHost host
    if host.isEmpty && !port.isEmpty then throw .emptyHost
  checkPort (port.drop 1)
  if host.isEmpty && !user.isEmpty && user ≠ [':'] then throw .emptyHost

def checkAfterSlashes (hosted : Bool) (cs : List Char) : Except UrlError Unit :=
  let authority := cs.takeWhile (!endsAuthority hosted ·)
  checkAuthority hosted authority (authority.length < cs.length)

/-- The letter of a drive is no host. -/
def isDrive : List Char → Bool
  | [letter, mark] => letter.isAlpha && (mark == ':' || mark == '|')
  | _ => false

def checkFile : List Char → Except UrlError Unit
  | a :: b :: rest =>
    let host := rest.takeWhile (!endsAuthority true ·)
    if isSlash a && isSlash b && !isDrive host && !host.isEmpty then checkNamedHost host else .ok ()
  | _ => .ok ()

def check (text : String) : Except UrlError String :=
  match scheme? (significant text) with
  | none => .error .relative
  | some (scheme, rest) => do
    if scheme ∈ hostedSchemes then checkAfterSlashes true (rest.dropWhile isSlash)
    else if scheme = "file" then checkFile rest
    else
      match rest with
      | '/' :: '/' :: rest => checkAfterSlashes false rest
      | _ => pure ()
    return scheme

end LiveEvents.Url
