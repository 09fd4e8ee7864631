import LiveEvents.Json.Fields
import LiveEvents.Json.Printer
import LiveEvents.Text.Affix
import LiveEvents.Text.Case
import LiveEvents.Wire.Frame

/-!
# Messages of Bybit

The topic tells a ticker from other messages and names its symbol where the data does not. The
price has two spellings; the newer one counts unless it is empty.
-/

namespace LiveEvents.Bybit

open Json

structure Ticker where
  symbol : String
  lastPrice : String
  olderLastPrice : String
  deriving DecidableEq, Repr

namespace Ticker

def empty : Ticker := ⟨"", "", ""⟩

def ofNode? (n : Node) : Option Ticker := do
  let f ← Fields.ofNode? ["symbol", "lastPrice", "last_price"] n
  return {
    symbol := ← f.orElse? "symbol" "" Node.text?
    lastPrice := ← f.orElse? "lastPrice" "" Node.text?
    olderLastPrice := ← f.orElse? "last_price" "" Node.text? }

def price (t : Ticker) : String :=
  if t.lastPrice = "" then t.olderLastPrice else t.lastPrice

end Ticker

structure Message where
  topic : Option String
  data : Option Ticker
  op : Option String
  success : Option Bool
  retMsg : String
  deriving DecidableEq, Repr

namespace Message

def ofNode? (n : Node) : Option Message := do
  let f ← Fields.ofNode? ["topic", "data", "op", "success", "ret_msg"] n
  return {
    topic := ← f.optional? "topic" Node.text?
    data := ← f.optional? "data" Ticker.ofNode?
    op := ← f.optional? "op" Node.text?
    success := ← f.optional? "success" Node.bool?
    retMsg := ← f.orElse? "ret_msg" "" Node.text? }

def topicStart : String := "tickers."

def frame (m : Message) : Except DecodeError Frame :=
  if m.op = some "subscribe" then
    .ok (if m.success = some true then .ack else .rejected m.retMsg)
  else
    match m.topic >>= Text.withoutStart? topicStart with
    | none => .ok .control
    | some named =>
      let t := m.data.getD .empty
      Frame.ofTick (if t.symbol = "" then named else t.symbol) t.price

end Message

def decode (text : String) : Except DecodeError Frame :=
  match Node.ofString? text >>= Message.ofNode? with
  | some m => m.frame
  | none => .error .json

def topic (symbol : String) : String :=
  Message.topicStart ++ Text.upper symbol

def subscription (symbols : List String) : Json :=
  .object [
    ("args", .array (symbols.map fun s => .string (topic s))),
    ("op", .string "subscribe")]

def ping : Json :=
  .object [("op", .string "ping")]

end LiveEvents.Bybit
