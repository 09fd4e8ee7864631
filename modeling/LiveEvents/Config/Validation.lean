import LiveEvents.Config.Basic
import LiveEvents.Text.Affix
import LiveEvents.Text.Quoted

/-!
# Valid configurations

The rules that a configuration must keep before anything is built from it. They are tried in
order and the first that is broken is reported. Sections that are switched off keep no rules.
-/

namespace LiveEvents.Config

def maxLookaheadDays : Nat := 14

inductive Fault where
  | emptyServiceName
  | missingDatabaseUrl
  | noConnections
  | noUpsertTimeout
  | emptyLanguage
  | noSymbols (stream : String)
  | badWsUrl (stream url : String)
  | emptyEcosystem (stream : String)
  | idleTooShort (stream : String) (idle heartbeat : Nat)
  | noStreamTimeouts (stream : String)
  | badReconnectDelays (stream : String)
  | missingCryptoCategory (stream : String)
  | badApiUrl (url : String)
  | noRestTimes
  | missingApiKey
  | emptyNbaEcosystem
  | missingSportCategory
  | noNbaTimes
  | lookaheadTooLong (days : Nat)
  deriving DecidableEq, Repr

namespace Fault

def message : Fault → String
  | emptyServiceName => "service.name must not be empty"
  | missingDatabaseUrl => "database.url (or DATABASE_URL) is required for the postgres backend"
  | noConnections => "database.max_connections must be positive"
  | noUpsertTimeout => "database.upsert_timeout_secs must be positive"
  | emptyLanguage => "catalog.language_guid must not be empty"
  | noSymbols stream => stream ++ ".symbols must not be empty"
  | badWsUrl stream url => stream ++ ".ws_url must be a ws(s) URL, got " ++ Text.quoted url
  | emptyEcosystem stream => stream ++ ".ecosystem_guid must not be empty"
  | idleTooShort stream idle heartbeat =>
    stream ++ ": idle_timeout_secs (" ++ toString idle ++ ") must exceed heartbeat_secs (" ++
      toString heartbeat ++ ")"
  | noStreamTimeouts stream => stream ++ ": handshake and subscribe timeouts must be positive"
  | badReconnectDelays stream => stream ++ ": reconnect delays must satisfy 0 < initial <= max"
  | missingCryptoCategory stream =>
    "catalog.crypto_category_guid is required when " ++ stream ++ " is enabled"
  | badApiUrl url => "binance.api_url must be an http(s) URL, got " ++ Text.quoted url
  | noRestTimes => "binance REST interval and timeout must be positive"
  | missingApiKey => "nba.api_key (or SPORTRADAR_API_KEY) is required when nba is enabled"
  | emptyNbaEcosystem => "nba.ecosystem_guid must not be empty"
  | missingSportCategory => "catalog.sport_category_guid is required when nba is enabled"
  | noNbaTimes => "nba poll interval and timeout must be positive"
  | lookaheadTooLong days =>
    "nba.lookahead_days must be at most " ++ toString maxLookaheadDays ++ ", got " ++ toString days

end Fault

structure Rule where
  holds : Bool
  fault : Fault

def startsWithOneOf (starts : List String) (s : String) : Bool :=
  starts.any fun start => (Text.withoutStart? start s).isSome

def Stream.rules (s : Stream) (name : String) : List Rule :=
  [
    ⟨!s.symbols.isEmpty, .noSymbols name⟩,
    ⟨startsWithOneOf ["ws://", "wss://"] s.wsUrl, .badWsUrl name s.wsUrl⟩,
    ⟨s.ecosystem != "", .emptyEcosystem name⟩,
    ⟨0 < s.heartbeatSeconds && s.heartbeatSeconds < s.idleTimeoutSeconds,
      .idleTooShort name s.idleTimeoutSeconds s.heartbeatSeconds⟩,
    ⟨0 < s.handshakeTimeoutSeconds && 0 < s.subscribeTimeoutSeconds, .noStreamTimeouts name⟩,
    ⟨0 < s.reconnectInitialMillis && s.reconnectInitialMillis ≤ s.reconnectMaxMillis,
      .badReconnectDelays name⟩]

def Binance.usesRest (b : Binance) : Bool :=
  b.stream.enabled && (b.mode == .rest || b.restFallback)

def streams (c : Config) : List (String × Stream) :=
  [("binance", c.binance.stream), ("bybit", c.bybit), ("okx", c.okx)]

def databaseRules (c : Config) : List Rule :=
  [
    ⟨c.service.name != "", .emptyServiceName⟩,
    ⟨c.database.backend != .postgres || c.database.url != "", .missingDatabaseUrl⟩,
    ⟨0 < c.database.maxConnections, .noConnections⟩,
    ⟨0 < c.database.upsertTimeoutSeconds, .noUpsertTimeout⟩,
    ⟨c.catalog.language != "", .emptyLanguage⟩]

def streamRules (c : Config) : List Rule :=
  c.streams.flatMap fun (name, s) =>
    if s.enabled then
      s.rules name ++ [⟨c.catalog.cryptoCategory != "", .missingCryptoCategory name⟩]
    else []

def restRules (c : Config) : List Rule :=
  if c.binance.usesRest then
    [
      ⟨startsWithOneOf ["http://", "https://"] c.binance.apiUrl, .badApiUrl c.binance.apiUrl⟩,
      ⟨0 < c.binance.restPollSeconds && 0 < c.binance.restTimeoutSeconds, .noRestTimes⟩]
  else []

def nbaRules (c : Config) : List Rule :=
  if c.nba.enabled then
    [
      ⟨c.nba.apiKey != "", .missingApiKey⟩,
      ⟨c.nba.ecosystem != "", .emptyNbaEcosystem⟩,
      ⟨c.catalog.sportCategory != "", .missingSportCategory⟩,
      ⟨0 < c.nba.pollSeconds && 0 < c.nba.timeoutSeconds, .noNbaTimes⟩,
      ⟨c.nba.lookaheadDays ≤ maxLookaheadDays, .lookaheadTooLong c.nba.lookaheadDays⟩]
  else []

def rules (c : Config) : List Rule :=
  c.databaseRules ++ c.streamRules ++ c.restRules ++ c.nbaRules

/-- The first rule that a configuration breaks. -/
def fault? (c : Config) : Option Fault :=
  (c.rules.find? (!·.holds)).map (·.fault)

def Valid (c : Config) : Prop :=
  ∀ r ∈ c.rules, r.holds = true

instance (c : Config) : Decidable c.Valid :=
  inferInstanceAs (Decidable (∀ r ∈ c.rules, r.holds = true))

theorem fault?_eq_none_iff (c : Config) : c.fault? = none ↔ c.Valid := by
  simp [fault?, Valid]

end LiveEvents.Config
