import LiveEvents.Exchange
import LiveEvents.Wire.Binance
import LiveEvents.Wire.Bybit
import LiveEvents.Wire.Okx

/-!
# What is said on the wire

For each exchange: reading its messages, the request that subscribes to the tickers of symbols,
how many confirmations it brings, and the heartbeat.
-/

namespace LiveEvents.Exchange

def decode : Exchange → String → Except DecodeError Frame
  | binance => Binance.decode
  | bybit => Bybit.decode
  | okx => Okx.decode

def subscription : Exchange → List String → Json
  | binance => Binance.subscription
  | bybit => Bybit.subscription
  | okx => Okx.subscription

def subscribeRequests (x : Exchange) (symbols : List String) : List String :=
  [(x.subscription symbols).compact]

/-- OKX confirms every symbol on its own. -/
def expectedAcks : Exchange → List String → Nat
  | binance, _ | bybit, _ => 1
  | okx, symbols => symbols.length

def heartbeat : Exchange → Heartbeat
  | binance => .pong 0
  | bybit => .text Bybit.ping.compact
  | okx => .text "ping"

end LiveEvents.Exchange
