import LiveEvents.Json.Numeral

/-!
# JSON documents as written

A node is a document before its values are settled: repeated keys are all there, numbers are
numerals, and a text is missing when it names half of a surrogate pair or holds bytes that are
no text. `Node.toJson?` settles a node completely and fails where that cannot be done.
-/

namespace LiveEvents.Json

inductive Node where
  | null
  | bool (value : Bool)
  | number (value : Numeral)
  | string (value : Option String)
  | array (items : List Node)
  | object (members : List (Option String × Node))
  deriving Repr

namespace Node

instance : Inhabited Node := ⟨null⟩

mutual

def toJson? (depth : Nat) : Node → Option Json
  | null => some .null
  | bool b => some (.bool b)
  | number n => n.number?.map .number
  | string s => s.map .string
  | array items =>
    match depth with
    | 0 => none
    | d + 1 => (itemsToJson? d items).map .array
  | object members =>
    match depth with
    | 0 => none
    | d + 1 => (membersToJson? d [] members).map .object

def itemsToJson? (depth : Nat) : List Node → Option (List Json)
  | [] => some []
  | item :: rest => do
    let value ← toJson? depth item
    let values ← itemsToJson? depth rest
    return value :: values

/-- Of a repeated key the last value counts. -/
def membersToJson? (depth : Nat) (done : List (String × Json)) :
    List (Option String × Node) → Option (List (String × Json))
  | [] => some done
  | (none, _) :: _ => none
  | (some key, node) :: rest => do
    let value ← toJson? depth node
    membersToJson? depth (setMember key value done) rest

end

def isNull : Node → Bool
  | null => true
  | _ => false

end Node

end LiveEvents.Json
