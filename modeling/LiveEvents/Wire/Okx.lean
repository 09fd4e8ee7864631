import LiveEvents.Json.Fields
import LiveEvents.Json.Printer
import LiveEvents.Text.Affix
import LiveEvents.Text.Case
import LiveEvents.Wire.Frame

/-!
# Messages of OKX

Instruments are written base, dash, quote: a symbol is split before a known quote currency, and
ticks are reported without dashes.
-/

namespace LiveEvents.Okx

open Json

/-- Quote currencies in the order in which they are tried. -/
def quotes : List String := ["USDT", "USDC", "BTC", "ETH", "BNB", "USD"]

def instrument (symbol : String) : String :=
  let upper := Text.upper symbol
  (quotes.findSome? fun quote => (Text.withoutEnd? quote upper).map (· ++ "-" ++ quote)).getD upper

structure Argument where
  channel : String
  instrument : String
  deriving DecidableEq, Repr

namespace Argument

def empty : Argument := ⟨"", ""⟩

def ofNode? (n : Node) : Option Argument := do
  let f ← Fields.ofNode? ["channel", "instId"] n
  return {
    channel := ← f.orElse? "channel" "" Node.text?
    instrument := ← f.orElse? "instId" "" Node.text? }

end Argument

structure Ticker where
  instrument : String
  last : String
  deriving DecidableEq, Repr

def Ticker.ofNode? (n : Node) : Option Ticker := do
  let f ← Fields.ofNode? ["instId", "last"] n
  return {
    instrument := ← f.orElse? "instId" "" Node.text?
    last := ← f.orElse? "last" "" Node.text? }

structure Message where
  event : Option String
  code : String
  msg : String
  argument : Argument
  data : List Ticker
  deriving DecidableEq, Repr

namespace Message

def ofNode? (n : Node) : Option Message := do
  let f ← Fields.ofNode? ["event", "code", "msg", "arg", "data"] n
  return {
    event := ← f.optional? "event" Node.text?
    code := ← f.orElse? "code" "" Node.text?
    msg := ← f.orElse? "msg" "" Node.text?
    argument := ← f.orElse? "arg" .empty Argument.ofNode?
    data := ← f.orElse? "data" [] (Node.list? Ticker.ofNode?) }

def frame (m : Message) : Except DecodeError Frame :=
  match m.event with
  | some "subscribe" => .ok .ack
  | some "error" => .ok (.rejected (m.code ++ " " ++ m.msg))
  | some _ => .ok .control
  | none =>
    match m.data with
    | [] => .ok .control
    | t :: _ =>
      if m.argument.channel = "tickers" then
        let name := if t.instrument = "" then m.argument.instrument else t.instrument
        Frame.ofTick (Text.without '-' name) t.last
      else .ok .control

end Message

def decode (text : String) : Except DecodeError Frame :=
  if text = "pong" then .ok .control
  else match Node.ofString? text >>= Message.ofNode? with
    | some m => m.frame
    | none => .error .json

def subscription (symbols : List String) : Json :=
  .object [
    ("args", .array (symbols.map fun s => .object [
      ("channel", .string "tickers"), ("instId", .string (instrument s))])),
    ("op", .string "subscribe")]

end LiveEvents.Okx
