import LiveEvents.Config.Basic
import LiveEvents.Toml.Reader

/-!
# Reading a configuration

Every section must be there. A field that is missing takes its fallback if it has one; unknown
fields are passed over. A section may also be an array of its fields in their order, except
that of Binance, whose fields come from two places.
-/

namespace LiveEvents.Config

open Toml (Value Members)

abbrev Fields := Members

def fields? (names : List String) : Value → Option Fields
  | .table _ members => some members
  | .array items => some (names.zip items)
  | .tables reversed => some (names.zip reversed.reverse)
  | _ => none

variable (f : Fields)

def required? (name : String) (read : Value → Option α) : Option α :=
  f.lookup name >>= read

def orElse? (name : String) (fallback : α) (read : Value → Option α) : Option α :=
  match f.lookup name with
  | none => some fallback
  | some v => read v

def text? : Value → Option String
  | .string s => some s
  | _ => none

def flag? : Value → Option Bool
  | .bool b => some b
  | _ => none

/-- A whole number that is not negative and has at most `bits` bits. -/
def count? (bits : Nat) : Value → Option Nat
  | .integer i => if 0 ≤ i ∧ i.toNat < Nat.pow 2 bits then some i.toNat else none
  | _ => none

def texts? : Value → Option (List String)
  | .array items => items.mapM text?
  | _ => none

/-- One of several words, also written as a table that has the word as its only key. -/
def word? (words : List (String × α)) : Value → Option α
  | .string s => words.lookup s
  | .table _ [(key, .table _ [])] | .table _ [(key, .array [])] => words.lookup key
  | _ => none

def service? (v : Value) : Option Service := do
  let f ← fields? ["name", "log_level"] v
  return {
    name := ← required? f "name" text?
    logLevel := ← orElse? f "log_level" "info" text? }

def database? (v : Value) : Option Database := do
  let f ← fields? ["backend", "url", "max_connections", "upsert_timeout_secs"] v
  return {
    backend := ← orElse? f "backend" .postgres
      (word? [("memory", .memory), ("postgres", .postgres)])
    url := ← orElse? f "url" "" text?
    maxConnections := ← orElse? f "max_connections" 10 (count? 32)
    upsertTimeoutSeconds := ← orElse? f "upsert_timeout_secs" 15 (count? 64) }

def catalog? (v : Value) : Option Catalog := do
  let f ← fields? ["language_guid", "crypto_category_guid", "sport_category_guid"] v
  return {
    language := ← required? f "language_guid" text?
    cryptoCategory := ← required? f "crypto_category_guid" text?
    sportCategory := ← required? f "sport_category_guid" text? }

def streamOfFields? (f : Fields) : Option Stream := do
  return {
    enabled := ← orElse? f "enabled" true flag?
    symbols := ← orElse? f "symbols" [] texts?
    wsUrl := ← orElse? f "ws_url" "" text?
    ecosystem := ← orElse? f "ecosystem_guid" "" text?
    heartbeatSeconds := ← orElse? f "heartbeat_secs" 20 (count? 64)
    idleTimeoutSeconds := ← orElse? f "idle_timeout_secs" 60 (count? 64)
    handshakeTimeoutSeconds := ← orElse? f "handshake_timeout_secs" 30 (count? 64)
    subscribeTimeoutSeconds := ← orElse? f "subscribe_timeout_secs" 10 (count? 64)
    reconnectInitialMillis := ← orElse? f "reconnect_initial_ms" 5000 (count? 64)
    reconnectMaxMillis := ← orElse? f "reconnect_max_ms" 60000 (count? 64) }

def stream? (v : Value) : Option Stream :=
  fields? ["enabled", "symbols", "ws_url", "ecosystem_guid", "heartbeat_secs",
    "idle_timeout_secs", "handshake_timeout_secs", "subscribe_timeout_secs",
    "reconnect_initial_ms", "reconnect_max_ms"] v >>= streamOfFields?

def binance? : Value → Option Binance
  | .table _ f => do
    return {
      stream := ← streamOfFields? f
      mode := ← orElse? f "mode" .stream (word? [("stream", .stream), ("rest", .rest)])
      apiUrl := ← orElse? f "api_url" "https://api.binance.com/api/v3" text?
      restFallback := ← orElse? f "rest_fallback" true flag?
      restPollSeconds := ← orElse? f "rest_poll_interval_secs" 30 (count? 64)
      restTimeoutSeconds := ← orElse? f "rest_timeout_secs" 90 (count? 64) }
  | _ => none

def nba? (v : Value) : Option Nba := do
  let f ← fields? ["enabled", "api_key", "access_level", "language_code", "base_url",
    "ecosystem_guid", "poll_interval_secs", "lookahead_days", "timeout_secs"] v
  return {
    enabled := ← orElse? f "enabled" false flag?
    apiKey := ← orElse? f "api_key" "" text?
    accessLevel := ← orElse? f "access_level" "trial" text?
    languageCode := ← orElse? f "language_code" "en" text?
    baseUrl := ← orElse? f "base_url" "https://api.sportradar.com" text?
    ecosystem := ← orElse? f "ecosystem_guid" "" text?
    pollSeconds := ← orElse? f "poll_interval_secs" 300 (count? 64)
    lookaheadDays := ← orElse? f "lookahead_days" 0 (count? 32)
    timeoutSeconds := ← orElse? f "timeout_secs" 30 (count? 64) }

def metrics? (v : Value) : Option Metrics := do
  let f ← fields? ["enabled", "bind_address", "health_port"] v
  return {
    enabled := ← orElse? f "enabled" true flag?
    bindAddress := ← orElse? f "bind_address" "0.0.0.0:9090" text?
    healthPort := ← orElse? f "health_port" 8080 (count? 16) }

def ofMembers? (f : Members) : Option Config := do
  return {
    service := ← required? f "service" service?
    database := ← required? f "database" database?
    catalog := ← required? f "catalog" catalog?
    binance := ← required? f "binance" binance?
    bybit := ← required? f "bybit" stream?
    okx := ← required? f "okx" stream?
    nba := ← required? f "nba" nba?
    metrics := ← required? f "metrics" metrics? }

def ofToml? (text : String) : Option Config :=
  Toml.Members.ofString? text >>= ofMembers?

end LiveEvents.Config
