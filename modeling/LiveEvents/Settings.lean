import LiveEvents.Backoff
import LiveEvents.Config.Basic
import LiveEvents.Text.Affix

/-!
# Settings of the sources

What each source is run with, derived from its section of the configuration.
-/

namespace LiveEvents

def Config.Database.upsertTimeout (c : Config.Database) : Duration :=
  .ofSeconds c.upsertTimeoutSeconds

structure FeedSettings where
  wsUrl : String
  symbols : List String
  handshakeTimeout : Duration
  subscribeTimeout : Duration
  heartbeatInterval : Duration
  idleTimeout : Duration
  reconnectInitial : Duration
  reconnectMax : Duration
  deriving DecidableEq, Repr

def Config.Stream.settings (c : Config.Stream) : FeedSettings where
  wsUrl := c.wsUrl
  symbols := c.symbols
  handshakeTimeout := .ofSeconds c.handshakeTimeoutSeconds
  subscribeTimeout := .ofSeconds c.subscribeTimeoutSeconds
  heartbeatInterval := .ofSeconds c.heartbeatSeconds
  idleTimeout := .ofSeconds c.idleTimeoutSeconds
  reconnectInitial := .ofMillis c.reconnectInitialMillis
  reconnectMax := .ofMillis c.reconnectMaxMillis

structure PricePollSettings where
  apiUrl : String
  symbols : List String
  pollInterval : Duration
  requestTimeout : Duration
  maxAttempts : Nat
  backoff : RetryBackoff
  deriving DecidableEq, Repr

def Config.Binance.pollSettings (c : Config.Binance) : PricePollSettings where
  apiUrl := Text.trimEnd '/' c.apiUrl
  symbols := c.stream.symbols
  pollInterval := .ofSeconds c.restPollSeconds
  requestTimeout := .ofSeconds c.restTimeoutSeconds
  maxAttempts := 3
  backoff := { min := .ofSeconds 3, max := .ofSeconds 30, maxJitter := .ofSeconds 2 }

structure SchedulePollSettings where
  baseUrl : String
  apiKey : String
  accessLevel : String
  languageCode : String
  pollInterval : Duration
  lookaheadDays : Nat
  requestTimeout : Duration
  maxAttempts : Nat
  backoff : RetryBackoff
  deriving DecidableEq, Repr

def Config.Nba.settings (c : Config.Nba) : SchedulePollSettings where
  baseUrl := Text.trimEnd '/' c.baseUrl
  apiKey := c.apiKey
  accessLevel := c.accessLevel
  languageCode := c.languageCode
  pollInterval := .ofSeconds c.pollSeconds
  lookaheadDays := c.lookaheadDays
  requestTimeout := .ofSeconds c.timeoutSeconds
  maxAttempts := 3
  backoff := { min := .ofSeconds 1, max := .ofSeconds 10, maxJitter := .ofMillis 500 }

end LiveEvents
