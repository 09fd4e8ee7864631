import LiveEvents.Text.Case
import LiveEvents.Text.Utf8
import LiveEvents.Url.Address
import LiveEvents.Url.Error
import LiveEvents.Url.NameTable
import LiveEvents.Url.Punycode

/-!
# Hosts of URLs

The host of a URL of a well-known scheme is an address or a domain name, written with percent
signs for bytes. The host of any other URL is taken as it is, if no character in it separates
the parts of a URL.
-/

namespace LiveEvents.Url

/-- ASCII characters that no domain name may hold. -/
def isForbidden (c : Char) : Bool :=
  c ≤ ' ' || c == '\x7f' || "%#/:<>?@[\\]^|".contains c

/-- Characters that no host taken as it is may hold. -/
def isSeparator (c : Char) : Bool :=
  "\x00\t\n\r #/:<>?@[\\]^|".contains c

def percentDecoded : List Char → List UInt8
  | '%' :: a :: b :: rest =>
    if isHexDigit a && isHexDigit b then UInt8.ofNat (hexValue [a, b]) :: percentDecoded rest
    else '%'.toUInt8 :: percentDecoded (a :: b :: rest)
  | c :: rest => Text.Utf8.encode c.toString ++ percentDecoded rest
  | [] => []

/-- A disguised label must hide a name in its final spelling. -/
def isLabel (label : List Char) : Bool :=
  match label with
  | 'x' :: 'n' :: '-' :: '-' :: disguised =>
    match Punycode.decode? disguised with
    | none => false
    | some hidden =>
      hidden.all fun c => c.toNat < 0x80 ||
        (!Text.inRanges barredRanges c && !Text.inRanges passedOverRanges c &&
          Text.lowerChar c == [c])
  | _ => true

def domain? (cs : List Char) : Option (List Char) :=
  let name := (Text.Utf8.lossy (percentDecoded cs)).filter (!Text.inRanges passedOverRanges ·)
  let lower := name.flatMap Text.lowerChar
  if lower.any fun c => isForbidden c || Text.inRanges barredRanges c then none
  else if (splitAtDots lower).all isLabel then some lower
  else none

def bracketed? (cs : List Char) : Option (List Char) :=
  if cs.getLast? = some ']' then some (cs.drop 1).dropLast else none

def checkIpv6 (cs : List Char) : Except UrlError Unit :=
  if (bracketed? cs).any isIpv6 then .ok () else .error .badIpv6

/-- The host of a URL of a well-known scheme. -/
def checkNamedHost (cs : List Char) : Except UrlError Unit :=
  if cs.head? = some '[' then checkIpv6 cs
  else
    match domain? cs with
    | none => .error .badName
    | some name =>
      if name.isEmpty then .error .emptyHost
      else if endsInNumber name && !isIpv4 name then .error .badIpv4
      else .ok ()

def checkOtherHost (cs : List Char) : Except UrlError Unit :=
  if cs.head? = some '[' then checkIpv6 cs
  else if cs.any isSeparator then .error .badHostCharacter
  else .ok ()

end LiveEvents.Url
