import LiveEvents.Config.Loading
import LiveEvents.Json.Printer
import LiveEvents.LogFilter
import LiveEvents.Store.Call
import LiveEvents.Supervisor

/-!
# The service

From its configuration to its end: the service opens its store, starts the crawlers, and runs
until it is told to terminate or a critical error comes up. Then it shuts everything down.
-/

namespace LiveEvents

inductive Notice where
  | starting
  | memoryStore
  | running
  | terminating
  | complete
  deriving DecidableEq, Repr

namespace Notice

def message : Notice → String
  | starting => "Starting Event Pod Crawler"
  | memoryStore => "Using in-memory event store"
  | running => "All tasks spawned — crawler is running"
  | terminating => "Termination signal received, initiating graceful shutdown"
  | complete => "Shutdown complete"

def level (_ : Notice) : LogLevel := .info

end Notice

inductive Failure where
  | configuration (error : ConfigError)
  | store (error : Store.StoreError)
  | critical (error : CriticalError)
  deriving DecidableEq, Repr

namespace Failure

def message : Failure → String
  | configuration _ => "Failed to load configuration"
  | store _ => "Failed to connect to PostgreSQL"
  | critical e => e.message

def cause? : Failure → Option String
  | configuration e => some e.message
  | store e => some e.message
  | critical _ => none

def text (f : Failure) : String :=
  "Error: " ++ f.message ++ (f.cause?.elim "" fun cause => "\n\nCaused by:\n    " ++ cause)

end Failure

structure Run where
  notices : List Notice := []
  failure : Option Failure := none
  deriving DecidableEq, Repr

namespace Run

def exitCode (r : Run) : Nat := if r.failure.isSome then 1 else 0

def isUp (r : Run) : Bool := .running ∈ r.notices

end Run

namespace Service

def logTarget : String := "event_pod_crawler"

def logged (c : Config) (notices : List Notice) : List Notice :=
  let filter := LogFilter.ofText c.service.logLevel
  notices.filter fun n => filter.allows n.level logTarget

def logLine (n : Notice) : String :=
  (Json.object [
    ("level", .string n.level.name), ("fields", .object [("message", .string n.message)]),
    ("target", .string logTarget)]).compact

/-- How the opening of the store begins, or why it fails. Only a database can be out of reach. -/
def openStore (c : Config) (database : Except Store.StoreError Unit) :
    List Notice × Option Failure :=
  match c.database.backend, database with
  | .memory, _ => ([.starting, .memoryStore], none)
  | .postgres, .ok () => ([.starting], none)
  | .postgres, .error e => ([.starting], some (.store e))

def upTo : Verdict → Run
  | .shutdown => { notices := [.running, .terminating, .complete] }
  | .critical e => { notices := [.running, .complete], failure := some (.critical e) }

def run (loaded : Except ConfigError Config) (database : Except Store.StoreError Unit)
    (verdict : Verdict) : Run :=
  match loaded with
  | .error e => { failure := some (.configuration e) }
  | .ok c =>
    match openStore c database with
    | (notices, some e) => { notices, failure := some e }
    | (notices, none) =>
      let rest := upTo verdict
      { notices := notices ++ rest.notices, failure := rest.failure }

end Service

end LiveEvents
