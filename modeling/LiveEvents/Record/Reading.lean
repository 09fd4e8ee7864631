import LiveEvents.Duration
import LiveEvents.Json.Basic

/-!
# Reading records

A record is a JSON object read field by field; the first field that cannot be read is told.
-/

namespace LiveEvents.Record

abbrev Read := Except String

def need (what : String) : Option α → Read α
  | some a => .ok a
  | none => .error what

def field (j : Json) (key : String) : Read Json :=
  match j.get? key with
  | some v => .ok v
  | none => .ok .null

def asString : Json → Read String
  | .string s => .ok s
  | _ => .error "string"

def asInt : Json → Read Int
  | .number (.whole i) => .ok i
  | _ => .error "integer"

def asNat (j : Json) : Read Nat := do
  let i ← asInt j
  if i < 0 then throw "natural" else return i.toNat

def asBool : Json → Read Bool
  | .bool b => .ok b
  | _ => .error "bool"

def asList : Json → Read (List Json)
  | .array items => .ok items
  | _ => .error "list"

def asMembers : Json → Read (List (String × Json))
  | .object ms => .ok ms
  | _ => .error "object"

def asOption (f : Json → Read α) : Json → Read (Option α)
  | .null => .ok none
  | j => some <$> f j

def get (f : Json → Read α) (j : Json) (key : String) : Read α := do
  match f (← field j key) with
  | .ok a => return a
  | .error e => throw (key ++ ": " ++ e)

def getD (f : Json → Read α) (j : Json) (key : String) (fallback : α) : Read α := do
  return (← get (asOption f) j key).getD fallback

def getString (j : Json) (key : String) : Read String := get asString j key

def getOptString (j : Json) (key : String) : Read (Option String) := get (asOption asString) j key

def getInt (j : Json) (key : String) : Read Int := get asInt j key

def getNat (j : Json) (key : String) : Read Nat := get asNat j key

def getBool (j : Json) (key : String) : Read Bool := get asBool j key

def getList (f : Json → Read α) (j : Json) (key : String) : Read (List α) := do
  (← get asList j key).mapM f

def asDuration (j : Json) : Read Duration := do
  match j with
  | .array [s, n] => return .ofNanos ((← asNat s) * 1000000000 + (← asNat n))
  | _ => throw "duration"

def getDuration (j : Json) (key : String) : Read Duration := get asDuration j key

end LiveEvents.Record
