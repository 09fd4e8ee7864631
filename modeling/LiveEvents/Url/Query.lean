import LiveEvents.Text.Utf8
import LiveEvents.Url.Scheme

/-!
# Queries of URLs

What follows the question mark of a URL is sent with percent signs for the bytes of characters
that may not stand there. What follows a number sign is not sent.
-/

namespace LiveEvents.Url

def hexDigit (n : Nat) : Char :=
  "0123456789ABCDEF".toList.getD n '0'

def percentEncoded (b : UInt8) : List Char :=
  ['%', hexDigit (b.toNat / 16), hexDigit (b.toNat % 16)]

/-- Whether a character may stand in the query of a URL of a well-known scheme. -/
def standsInQuery (c : Char) : Bool :=
  '!' ≤ c && c ≤ '~' && c ≠ '\x22' && c ≠ '#' && c ≠ '<' && c ≠ '>' && c ≠ '\x27'

def queryChar (c : Char) : List Char :=
  if standsInQuery c then [c] else (Text.Utf8.encode c.toString).flatMap percentEncoded

/-- A URL as it is sent, if all before its query can be sent as it is. -/
def sent (text : String) : String :=
  let cs := (significant text).takeWhile (· ≠ '#')
  let path := cs.takeWhile (· ≠ '?')
  String.ofList (path ++ (cs.drop path.length).flatMap queryChar)

end LiveEvents.Url
