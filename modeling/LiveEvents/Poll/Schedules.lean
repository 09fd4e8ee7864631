import LiveEvents.Poll.Task
import LiveEvents.Schedule.Document
import LiveEvents.Settings

/-!
# The poller of schedules

Each cycle fetches the schedule of every day from today as far as the poller looks ahead, and
writes each of its games. A day that cannot be fetched and a game that cannot be written are
left out, and then the cycle counts as partial.
-/

namespace LiveEvents.Poll

/-- What came of some days: games met, written and not written, and days not fetched. -/
structure SyncReport where
  games : Nat := 0
  upserted : Nat := 0
  failed : Nat := 0
  daysFailed : Nat := 0
  deriving DecidableEq, Repr

namespace SyncReport

def add (a b : SyncReport) : SyncReport where
  games := a.games + b.games
  upserted := a.upserted + b.upserted
  failed := a.failed + b.failed
  daysFailed := a.daysFailed + b.daysFailed

def ofGame (written : Bool) : SyncReport :=
  if written then { games := 1, upserted := 1 } else { games := 1, failed := 1 }

def ofFailedDay : SyncReport := { daysFailed := 1 }

def isComplete (r : SyncReport) : Bool := r.failed + r.daysFailed == 0

end SyncReport

namespace Schedules

def source : String := "nba"

variable (s : SchedulePollSettings) (identity : Identity)

def url (date : Date) : String :=
  s.baseUrl ++ "/nba/" ++ s.accessLevel ++ "/v8/" ++ s.languageCode ++ "/games/" ++
    String.ofList (date.charsWith '/') ++ "/schedule.json"

def request (date : Date) : Http.Request :=
  .get (url s date) [("x-api-key", s.apiKey)]

def fetch (date : Date) : Task (Except (Abandoned Http.FetchError) Schedule.Document) :=
  Task.fetch s.maxAttempts s.backoff (request s date) (Http.receive Schedule.Document.ofNode?)

def writeAll (report : SyncReport) : List Game → Task SyncReport
  | [] => return report
  | game :: rest => do
    let written ← Task.write source (Observation.ofGame identity identity.ecosystem game)
    writeAll (report.add (.ofGame written)) rest

def process (d : Schedule.Document) : Task SyncReport :=
  writeAll identity {} d.toGames

def syncDate (date : Date) : Task (Except (Abandoned Http.FetchError) SyncReport) := do
  match ← fetch s date with
  | .ok document => return .ok (← process identity document)
  | .error e => return .error e

def syncToday : Task (Except (Abandoned Http.FetchError) SyncReport) := do
  let now ← Task.act .clock
  syncDate s identity now.date

def syncAll (report : SyncReport) : List Date → Task SyncReport
  | [] => return report
  | date :: rest => do
    match ← syncDate s identity date with
    | .ok day => syncAll (report.add day) rest
    | .error _ => syncAll (report.add .ofFailedDay) rest

def syncRange (first final : Date) : Task SyncReport :=
  syncAll s identity {} (first.through final)

/-- Today and the last day to look ahead to, today again if that day cannot be named. -/
def window (today : Date) : Date × Date :=
  (today, (today.addDays? s.lookaheadDays).getD today)

/-- Tells whether the cycle was completed. -/
def cycle : Task Bool := do
  let now ← Task.act .clock
  let (first, final) := window s now.date
  match ← Task.interruptible (syncRange s identity first final) with
  | none => return false
  | some report =>
    Task.act (.count (.poll source (cycleLabel report.isComplete)))
    return true

def run (rounds : Nat) : Task Bool :=
  Task.repeated (cycle s identity) rounds

end Schedules

end LiveEvents.Poll
