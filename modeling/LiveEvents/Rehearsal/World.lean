import LiveEvents.Metrics.Basic
import LiveEvents.Store.Memory

/-!
# Worlds for rehearsals

A rehearsal runs the service against a world that is written down beforehand: a memory store
that refuses some events, and a clock that stands still.
-/

namespace LiveEvents.Rehearsal

structure World where
  memory : Store.Memory := {}
  metrics : Metrics := {}
  /-- Events whose upserts fail. -/
  refused : List String := []
  now : Instant
  deriving Repr

namespace World

def count (w : World) (m : Measurement) : World :=
  { w with metrics := w.metrics.record m }

def write (w : World) (o : Observation) : Except UpsertError Outcome × World :=
  if o.externalId ∈ w.refused then (.error (.store (.backend "refused")), w)
  else
    let (result, memory, _) := w.memory.run .serial {} (Upsert.program o)
    (result, { w with memory })

end World

end LiveEvents.Rehearsal
