import LiveEvents.Poll.Prices
import LiveEvents.Poll.Schedules
import LiveEvents.Rehearsal.World
import LiveEvents.Url.Query

/-!
# Rehearsing pollers

Requests are answered in turn from a list of responses, and not found after its end. A poller is
stopped when its cycles are used up, and never within one.
-/

namespace LiveEvents.Rehearsal

structure PollWorld extends World where
  /-- Without a network no request gets through. -/
  connected : Bool := true
  /-- Responses to come; the connection is cut where there is none. -/
  responses : List (Option Http.Response) := []
  /-- Requests that got through, the last one first. -/
  requests : List Http.Request := []
  cyclesLeft : Nat := 1

namespace PollWorld

def notFound : Http.Response := ⟨.notFound, []⟩

def get (w : PollWorld) (request : Http.Request) : Except String Http.Response × PollWorld :=
  if w.connected then
    let w := { w with requests := { request with url := Url.sent request.url } :: w.requests }
    match w.responses with
    | [] => (.ok notFound, w)
    | some r :: responses =>
      (.ok (if r.status.isBodyless then { r with body := [] } else r), { w with responses })
    | none :: responses => (.error "connection closed", { w with responses })
  else (.error "network is unreachable", w)

def answer : (a : Poll.Action) → PollWorld → a.Reply × PollWorld
  | .get request, w => w.get request
  | .draw _, w => (0, w)
  | .pause _, w => ((), w)
  | .write o, w =>
    let (result, world) := w.toWorld.write o
    ((result, .zero), { w with toWorld := world })
  | .clock, w => (w.now, w)
  | .count m, w => ((), { w with toWorld := w.toWorld.count m })
  | .stopRequested, w => (false, w)
  | .nextCycle, w =>
    match w.cyclesLeft with
    | 0 => (false, w)
    | n + 1 => (true, { w with cyclesLeft := n })

def run (t : Poll.Task α) (w : PollWorld) : α × PollWorld :=
  Program.runWith answer t w

end PollWorld

end LiveEvents.Rehearsal
