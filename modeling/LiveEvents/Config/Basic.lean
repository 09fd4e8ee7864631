/-!
# Configuration

The settings of a crawler as its operator writes them: one section for the service, its store,
its catalogue, each source and the metrics. Lengths of time are whole seconds or milliseconds.
-/

namespace LiveEvents

namespace Config

structure Service where
  name : String
  logLevel : String
  deriving DecidableEq, Repr

inductive StoreKind where
  | memory
  | postgres
  deriving DecidableEq, Repr

structure Database where
  backend : StoreKind
  url : String
  maxConnections : Nat
  upsertTimeoutSeconds : Nat
  deriving DecidableEq, Repr

structure Catalog where
  language : String
  cryptoCategory : String
  sportCategory : String
  deriving DecidableEq, Repr

structure Stream where
  enabled : Bool
  symbols : List String
  wsUrl : String
  ecosystem : String
  heartbeatSeconds : Nat
  idleTimeoutSeconds : Nat
  handshakeTimeoutSeconds : Nat
  subscribeTimeoutSeconds : Nat
  reconnectInitialMillis : Nat
  reconnectMaxMillis : Nat
  deriving DecidableEq, Repr

inductive BinanceMode where
  | stream
  | rest
  deriving DecidableEq, Repr

structure Binance where
  stream : Stream
  mode : BinanceMode
  apiUrl : String
  restFallback : Bool
  restPollSeconds : Nat
  restTimeoutSeconds : Nat
  deriving DecidableEq, Repr

structure Nba where
  enabled : Bool
  apiKey : String
  accessLevel : String
  languageCode : String
  baseUrl : String
  ecosystem : String
  pollSeconds : Nat
  lookaheadDays : Nat
  timeoutSeconds : Nat
  deriving DecidableEq, Repr

structure Metrics where
  enabled : Bool
  bindAddress : String
  healthPort : Nat
  deriving DecidableEq, Repr

end Config

structure Config where
  service : Config.Service
  database : Config.Database
  catalog : Config.Catalog
  binance : Config.Binance
  bybit : Config.Stream
  okx : Config.Stream
  nba : Config.Nba
  metrics : Config.Metrics
  deriving DecidableEq, Repr

end LiveEvents
