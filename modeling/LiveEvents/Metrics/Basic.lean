import LiveEvents.Binary64
import LiveEvents.Upsert

/-!
# Metrics

Counts of what each source received, handled and wrote. A tally keeps its labels in order and
has an entry only for labels that were ever counted.
-/

namespace LiveEvents

/-- Counts by label, in the order of the labels. -/
abbrev Tally := List (List String × Nat)

namespace Tally

def get (t : Tally) (labels : List String) : Nat :=
  (t.lookup labels).getD 0

def bump (labels : List String) : Tally → Tally
  | [] => [(labels, 1)]
  | (l, n) :: rest =>
    if l = labels then (l, n + 1) :: rest
    else if labels < l then (labels, 1) :: (l, n) :: rest
    else (l, n) :: bump labels rest

end Tally

/-- Values by source, in the order of the sources. -/
abbrev PerSource (α : Type) := List (String × α)

namespace PerSource

variable {α : Type}

def update (source : String) (f : Option α → α) : PerSource α → PerSource α
  | [] => [(source, f none)]
  | (s, a) :: rest =>
    if s = source then (s, f (some a)) :: rest
    else if source < s then (source, f none) :: (s, a) :: rest
    else (s, a) :: update source f rest

end PerSource

/-- How long upserts took: how many, how many within each bound, and all together. -/
structure Latency where
  count : Nat := 0
  within : List Nat
  sum : Rat := 0
  deriving DecidableEq, Repr

namespace Latency

/-- The bounds in thousandths of a second. -/
def bounds : List Nat := [1, 5, 10, 50, 100, 500, 1000, 5000]

def none : Latency := { within := bounds.map fun _ => 0 }

/-- Seconds and bounds are compared, and seconds summed, as double floats. -/
def observe (l : Latency) (elapsed : Duration) : Latency :=
  let seconds := Binary64.seconds elapsed
  { count := l.count + 1
    within := (bounds.zip l.within).map fun (bound, n) =>
      if seconds ≤ Binary64.round ((bound : Rat) / 1000) then n + 1 else n
    sum := Binary64.round (l.sum + seconds) }

end Latency

def upsertLabel : Except UpsertError Outcome → String
  | .ok outcome => outcome.label
  | .error (.timedOut _ _) => "timeout"
  | .error _ => "failed"

inductive Measurement where
  | frame (source : String)
  | tick (source : String)
  | decodeError (source : String)
  | reconnect (source : String)
  | upsert (source : String) (result : Except UpsertError Outcome) (elapsed : Duration)
  | connected (source : String) (value : Bool)
  | poll (source result : String)

structure Metrics where
  frames : Tally := []
  ticks : Tally := []
  decodeErrors : Tally := []
  reconnects : Tally := []
  /-- By outcome and source. -/
  upserts : Tally := []
  latency : PerSource Latency := []
  connected : PerSource Bool := []
  /-- By result and source. -/
  polls : Tally := []
  deriving DecidableEq, Repr

namespace Metrics

def record (m : Metrics) : Measurement → Metrics
  | .frame source => { m with frames := m.frames.bump [source] }
  | .tick source => { m with ticks := m.ticks.bump [source] }
  | .decodeError source => { m with decodeErrors := m.decodeErrors.bump [source] }
  | .reconnect source => { m with reconnects := m.reconnects.bump [source] }
  | .upsert source result elapsed =>
    { m with
      upserts := m.upserts.bump [upsertLabel result, source]
      latency := m.latency.update source fun l => (l.getD .none).observe elapsed }
  | .connected source value =>
    { m with connected := m.connected.update source fun _ => value }
  | .poll source result => { m with polls := m.polls.bump [result, source] }

end Metrics

end LiveEvents
