import LiveEvents.Json.Reader

/-!
# Records in JSON documents

A record with known fields is written as an object, where other keys are passed over and a
known key may stand only once, or as an array of its fields in their order. A field that may
be missing from an array needs a fallback.
-/

namespace LiveEvents.Json

structure Fields where
  values : List (String × Node)
  /-- Read from an array. -/
  byPlace : Bool
  deriving Repr

namespace Fields

/-- The members with a known key; none if one of them stands twice or a key has no value. -/
def collect? (names : List String) (done : List (String × Node)) :
    List (Option String × Node) → Option (List (String × Node))
  | [] => some done
  | (none, _) :: _ => none
  | (some key, node) :: rest =>
    if key ∈ names then
      if (done.lookup key).isSome then none else collect? names (done ++ [(key, node)]) rest
    else collect? names done rest

def ofMembers? (names : List String) (members : List (Option String × Node)) : Option Fields :=
  (collect? names [] members).map (⟨·, false⟩)

def ofNode? (names : List String) : Node → Option Fields
  | .object members => ofMembers? names members
  | .array items =>
    if items.length ≤ names.length then some ⟨names.zip items, true⟩ else none
  | _ => none

variable (f : Fields)

def required? (name : String) (read : Node → Option α) : Option α :=
  f.values.lookup name >>= read

def orElse? (name : String) (fallback : α) (read : Node → Option α) : Option α :=
  match f.values.lookup name with
  | none => some fallback
  | some n => read n

/-- A field that is missing or null has no value. -/
def optional? (name : String) (read : Node → Option α) : Option (Option α) :=
  match f.values.lookup name with
  | none => if f.byPlace then none else some none
  | some .null => some none
  | some n => (read n).map some

end Fields

namespace Node

def text? : Node → Option String
  | string s => s
  | _ => none

def bool? : Node → Option Bool
  | bool b => some b
  | _ => none

def int? (bits : Nat) : Node → Option Int
  | number n => do
    let i ← n.integer?
    let bound : Int := Nat.pow 2 (bits - 1)
    if -bound ≤ i && i < bound then some i else none
  | _ => none

def list? (read : Node → Option α) : Node → Option (List α)
  | array items => items.mapM read
  | _ => none

end Node

end LiveEvents.Json
