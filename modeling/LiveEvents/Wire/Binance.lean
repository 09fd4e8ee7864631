import LiveEvents.Json.Fields
import LiveEvents.Json.Printer
import LiveEvents.Text.Case
import LiveEvents.Wire.Frame

/-!
# Messages of Binance

A ticker stands in the message itself or under `data`. Every other top key is read completely,
so that a message with an unsound value anywhere on top is no message.
-/

namespace LiveEvents.Binance

open Json

structure Ticker where
  event : Option String
  symbol : Option String
  lastPrice : Option String
  deriving DecidableEq, Repr

namespace Ticker

def fieldNames : List String := ["e", "s", "c"]

def ofFields? (f : Fields) : Option Ticker := do
  return {
    event := ← f.optional? "e" Node.text?
    symbol := ← f.optional? "s" Node.text?
    lastPrice := ← f.optional? "c" Node.text? }

def ofNode? (n : Node) : Option Ticker :=
  Fields.ofNode? fieldNames n >>= ofFields?

def frame (t : Ticker) : Except DecodeError Frame :=
  if t.event = some "24hrTicker" then Frame.ofTick (t.symbol.getD "") (t.lastPrice.getD "")
  else .ok .control

end Ticker

structure Refusal where
  code : Int
  msg : String
  deriving DecidableEq, Repr

def Refusal.ofNode? (n : Node) : Option Refusal := do
  let f ← Fields.ofNode? ["code", "msg"] n
  return { code := ← f.orElse? "code" 0 (Node.int? 64), msg := ← f.orElse? "msg" "" Node.text? }

structure Message where
  data : Option Ticker
  top : Ticker
  id : Option Json
  error : Option Refusal
  deriving Repr

namespace Message

def ownNames : List String := ["data", "id", "error"]

def isOwn : Option String → Bool
  | some key => ownNames.contains key
  | none => false

def ofNode? : Node → Option Message
  | .object members => do
    let own ← Fields.ofMembers? ownNames members
    let others := members.filter fun (key, _) => !isOwn key
    -- One level of nesting is the message itself.
    let _ ← Node.membersToJson? (maxDepth - 1) [] others
    let top ← Fields.ofMembers? Ticker.fieldNames others >>= Ticker.ofFields?
    return {
      data := ← own.optional? "data" Ticker.ofNode?
      top
      id := ← own.optional? "id" (Node.toJson? (maxDepth - 1))
      error := ← own.optional? "error" Refusal.ofNode? }
  | _ => none

/-- A refusal counts first, then a ticker under `data`, then one on top, then a confirmation. -/
def frame (m : Message) : Except DecodeError Frame :=
  match m.error, m.data with
  | some e, _ => .ok (.rejected (String.ofList (Text.decimalInt e.code) ++ " " ++ e.msg))
  | none, some t => t.frame
  | none, none =>
    if m.top.event.isSome then m.top.frame
    else if m.id.isSome then .ok .ack
    else .ok .control

end Message

def decode (text : String) : Except DecodeError Frame :=
  match Node.ofString? text >>= Message.ofNode? with
  | some m => m.frame
  | none => .error .json

def streamName (symbol : String) : String :=
  Text.lower symbol ++ "@ticker"

def subscription (symbols : List String) : Json :=
  .object [
    ("id", .ofInt 1),
    ("method", .string "SUBSCRIBE"),
    ("params", .array (symbols.map fun s => .string (streamName s)))]

end LiveEvents.Binance
