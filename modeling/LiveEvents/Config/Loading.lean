import LiveEvents.Config.Reader
import LiveEvents.Config.Validation

/-!
# Loading a configuration

A text is read and its configuration must be valid. The environment may replace two secrets;
where it does, they are replaced before the rules are tried.
-/

namespace LiveEvents

inductive ConfigError where
  | unreadable (path : String)
  /-- A text that is no configuration, and the path it came from if it had one. -/
  | unparsable (path : Option String)
  | invalid (fault : Config.Fault)
  deriving DecidableEq, Repr

def ConfigError.message : ConfigError → String
  | unreadable path => "Failed to read config file: " ++ path
  | unparsable none => "Failed to parse configuration"
  | unparsable (some path) => "Failed to parse " ++ path
  | invalid fault => fault.message

abbrev Environment := String → Option String

namespace Config

def check (c : Config) : Except ConfigError Config :=
  match c.fault? with
  | none => .ok c
  | some fault => .error (.invalid fault)

def parse (text : String) : Except ConfigError Config :=
  match ofToml? text with
  | none => .error (.unparsable none)
  | some c => c.check

/-- A variable that is set to the empty text counts as not set. -/
def nonEmpty (env : Environment) (name : String) : Option String :=
  (env name).filter (· ≠ "")

def withEnvironment (c : Config) (env : Environment) : Config :=
  { c with
    database := { c.database with
      url := (nonEmpty env "DATABASE_URL").getD c.database.url }
    nba := { c.nba with
      apiKey := (nonEmpty env "SPORTRADAR_API_KEY").getD c.nba.apiKey } }

/-- Loads the text of a file; a file that cannot be read has none. -/
def load (path : String) (text : Option String) (env : Environment) : Except ConfigError Config :=
  match text with
  | none => .error (.unreadable path)
  | some text =>
    match ofToml? text with
    | none => .error (.unparsable (some path))
    | some c => (c.withEnvironment env).check

end Config

end LiveEvents
