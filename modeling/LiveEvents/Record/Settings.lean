import LiveEvents.Record.Observations
import LiveEvents.Settings

/-!
# Records of the configuration

The configuration and the settings derived from it as JSON records.
-/

namespace LiveEvents.Record

def streamFields (s : Config.Stream) : List (String × Json) :=
  [
    ("enabled", .bool s.enabled),
    ("symbols", .array (s.symbols.map .string)),
    ("ws_url", .string s.wsUrl),
    ("ecosystem_guid", .string s.ecosystem),
    ("heartbeat_secs", ofNat s.heartbeatSeconds),
    ("idle_timeout_secs", ofNat s.idleTimeoutSeconds),
    ("handshake_timeout_secs", ofNat s.handshakeTimeoutSeconds),
    ("subscribe_timeout_secs", ofNat s.subscribeTimeoutSeconds),
    ("reconnect_initial_ms", ofNat s.reconnectInitialMillis),
    ("reconnect_max_ms", ofNat s.reconnectMaxMillis)]

def ofConfig (c : Config) : Json :=
  .object [
    ("service", .object [
      ("name", .string c.service.name), ("log_level", .string c.service.logLevel)]),
    ("database", .object [
      ("backend", .string (match c.database.backend with
        | .memory => "memory"
        | .postgres => "postgres")),
      ("url", .string c.database.url),
      ("max_connections", ofNat c.database.maxConnections),
      ("upsert_timeout_secs", ofNat c.database.upsertTimeoutSeconds)]),
    ("catalog", .object [
      ("language_guid", .string c.catalog.language),
      ("crypto_category_guid", .string c.catalog.cryptoCategory),
      ("sport_category_guid", .string c.catalog.sportCategory)]),
    ("binance", .object (streamFields c.binance.stream ++ [
      ("mode", .string (match c.binance.mode with | .stream => "stream" | .rest => "rest")),
      ("api_url", .string c.binance.apiUrl),
      ("rest_fallback", .bool c.binance.restFallback),
      ("rest_poll_interval_secs", ofNat c.binance.restPollSeconds),
      ("rest_timeout_secs", ofNat c.binance.restTimeoutSeconds)])),
    ("bybit", .object (streamFields c.bybit)),
    ("okx", .object (streamFields c.okx)),
    ("nba", .object [
      ("enabled", .bool c.nba.enabled),
      ("api_key", .string c.nba.apiKey),
      ("access_level", .string c.nba.accessLevel),
      ("language_code", .string c.nba.languageCode),
      ("base_url", .string c.nba.baseUrl),
      ("ecosystem_guid", .string c.nba.ecosystem),
      ("poll_interval_secs", ofNat c.nba.pollSeconds),
      ("lookahead_days", ofNat c.nba.lookaheadDays),
      ("timeout_secs", ofNat c.nba.timeoutSeconds)]),
    ("metrics", .object [
      ("enabled", .bool c.metrics.enabled),
      ("bind_address", .string c.metrics.bindAddress),
      ("health_port", ofNat c.metrics.healthPort)])]

def ofBackoff (b : RetryBackoff) : Json :=
  .object [
    ("min", ofDuration b.min), ("max", ofDuration b.max), ("max_jitter", ofDuration b.maxJitter)]

def ofFeedSettings (s : FeedSettings) : Json :=
  .object [
    ("ws_url", .string s.wsUrl),
    ("symbols", .array (s.symbols.map .string)),
    ("handshake_timeout", ofDuration s.handshakeTimeout),
    ("subscribe_timeout", ofDuration s.subscribeTimeout),
    ("heartbeat_interval", ofDuration s.heartbeatInterval),
    ("idle_timeout", ofDuration s.idleTimeout),
    ("reconnect_initial", ofDuration s.reconnectInitial),
    ("reconnect_max", ofDuration s.reconnectMax)]

def ofPricePoll (s : PricePollSettings) : Json :=
  .object [
    ("api_url", .string s.apiUrl),
    ("symbols", .array (s.symbols.map .string)),
    ("poll_interval", ofDuration s.pollInterval),
    ("request_timeout", ofDuration s.requestTimeout),
    ("max_attempts", ofNat s.maxAttempts),
    ("backoff", ofBackoff s.backoff)]

def ofSchedulePoll (s : SchedulePollSettings) : Json :=
  .object [
    ("base_url", .string s.baseUrl),
    ("api_key", .string s.apiKey),
    ("access_level", .string s.accessLevel),
    ("language_code", .string s.languageCode),
    ("poll_interval", ofDuration s.pollInterval),
    ("lookahead_days", ofNat s.lookaheadDays),
    ("request_timeout", ofDuration s.requestTimeout),
    ("max_attempts", ofNat s.maxAttempts),
    ("backoff", ofBackoff s.backoff)]

end LiveEvents.Record
