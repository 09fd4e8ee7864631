import LiveEvents.Instant

/-!
# Exchanges

The exchanges whose prices are followed, their three spellings, and the keys under which a
symbol and a day of an exchange are stored.
-/

namespace LiveEvents

inductive Exchange where
  | binance
  | bybit
  | okx
  deriving DecidableEq, Repr

namespace Exchange

def all : List Exchange := [binance, bybit, okx]

def displayName : Exchange → String
  | binance => "Binance"
  | bybit => "Bybit"
  | okx => "OKX"

def label : Exchange → String
  | binance => "binance"
  | bybit => "bybit"
  | okx => "okx"

def code : Exchange → String
  | binance => "BINANCE"
  | bybit => "BYBIT"
  | okx => "OKX"

def externalId (x : Exchange) (symbol : String) : String :=
  x.code ++ "_" ++ symbol

/-- Key of the period of one day, the same for all symbols of the exchange. -/
def periodCode (x : Exchange) (at_ : Instant) : String :=
  "CRYPTO_" ++ x.code ++ "__" ++ at_.date.text

end Exchange

end LiveEvents
