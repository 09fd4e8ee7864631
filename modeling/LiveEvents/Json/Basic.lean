/-!
# JSON values

A value as the library keeps it: whole numbers of 64 bits exactly, every other number as the
decimal that was written, objects as members in order with one member to a key.
-/

namespace LiveEvents

inductive Json.Number where
  | whole (value : Int)
  /-- The decimal `digits * 10 ^ exponent`, with its sign. -/
  | decimal (negative : Bool) (digits : Nat) (exponent : Int)
  deriving DecidableEq, Repr

inductive Json where
  | null
  | bool (value : Bool)
  | number (value : Json.Number)
  | string (value : String)
  | array (items : List Json)
  | object (members : List (String × Json))
  deriving Repr

namespace Json

instance : Inhabited Json := ⟨null⟩

def ofInt (value : Int) : Json :=
  number (.whole value)

def ofOption (f : α → Json) : Option α → Json
  | none => null
  | some a => f a

def ofOptionString : Option String → Json :=
  ofOption string

/-- The value of a key; what is not an object has no members. -/
def get? (key : String) : Json → Option Json
  | object members => members.lookup key
  | _ => none

/-- Gives a key its value, in place if the key is there and at the end if it is not. -/
def setMember (key : String) (value : Json) : List (String × Json) → List (String × Json)
  | [] => [(key, value)]
  | (k, v) :: rest => if k = key then (key, value) :: rest else (k, v) :: setMember key value rest

/-- Adds the members of `extra` whose key is not yet taken. -/
def addMissing (members extra : List (String × Json)) : List (String × Json) :=
  extra.foldl (fun ms (key, value) => if (ms.lookup key).isSome then ms else ms ++ [(key, value)])
    members

end Json

end LiveEvents
