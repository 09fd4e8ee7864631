import LiveEvents.Http.Fetch
import LiveEvents.Metrics.Basic
import LiveEvents.Program

/-!
# Tasks of pollers

A poller requests documents, pauses between attempts, writes observations and counts what it
did. It asks whether it may start another cycle, and within a cycle it may be stopped: before a
part that can be stopped begins, and whenever that part has waited for something, a stop that
was requested meanwhile ends it.
-/

namespace LiveEvents.Poll

inductive Action where
  | get (request : Http.Request)
  /-- A random number up to a greatest one. -/
  | draw (greatest : Nat)
  | pause (time : Duration)
  | write (observation : Observation)
  | clock
  | count (measurement : Measurement)
  | stopRequested
  /-- Waits until the next cycle is due; there is none once a stop is requested. -/
  | nextCycle

namespace Action

@[reducible] def Reply : Action → Type
  | get _ => Except String Http.Response
  | draw _ => Nat
  | pause _ => Unit
  | write _ => Except UpsertError Outcome × Duration
  | clock => Instant
  | count _ => Unit
  | stopRequested => Bool
  | nextCycle => Bool

/-- Whether the poller waits for a reply, so that a stop may come in between. -/
def waits : Action → Bool
  | get _ | pause _ | write _ | nextCycle => true
  | draw _ | clock | count _ | stopRequested => false

end Action

abbrev Task := Program Action Action.Reply

namespace Task

variable {α : Type}

def act (a : Action) : Task a.Reply :=
  Program.question a

/-- Goes on unless a stop is requested; no result if one is. -/
def unlessStopped (next : Task (Option α)) : Task (Option α) :=
  .ask .stopRequested fun
    | true => .done none
    | false => next

/-- A part under way that can be stopped wherever it has waited. -/
def guarded : Task α → Task (Option α)
  | .done a => .done (some a)
  | .ask a next =>
    .ask a fun r => if a.waits then unlessStopped (guarded (next r)) else guarded (next r)

def interruptible (t : Task α) : Task (Option α) :=
  unlessStopped (guarded t)

def pauseAfter (backoff : RetryBackoff) (retries : Nat) : Task Unit := do
  let draw ← act (.draw backoff.greatestDraw)
  act (.pause (backoff.delayDrawn retries draw))

def fetch (maxAttempts : Nat) (backoff : RetryBackoff) (request : Http.Request)
    (read : Except String Http.Response → Except Http.FetchError α) :
    Task (Except (Abandoned Http.FetchError) α) :=
  Retry.run maxAttempts (fun _ => read <$> act (.get request)) (pauseAfter backoff)

/-- Writes an observation made now and counts it for its source; tells whether it was written. -/
def write (source : String) (observe : Instant → Observation) : Task Bool := do
  act (.count (.tick source))
  let now ← act .clock
  let (result, elapsed) ← act (.write (observe now))
  act (.count (.upsert source result elapsed))
  return result.isOk

/-- Repeats a cycle while another is due, for at most so many rounds. A cycle tells whether it
was completed. The result tells whether the poller has ended. -/
def repeated (cycle : Task Bool) : (rounds : Nat) → Task Bool
  | 0 => return false
  | rounds + 1 => do
    if ← act .nextCycle then
      if ← cycle then repeated cycle rounds else return true
    else return true

end Task

def cycleLabel (complete : Bool) : String :=
  if complete then "ok" else "partial"

end LiveEvents.Poll
