import LiveEvents.Rehearsal.Poll
import LiveEvents.Supervisor

/-!
# Rehearsing the supervisor

The tasks of a supervisor run only while someone waits, and a wait is given up after some time.
Feeds reach nobody and go on dialing until they are stopped. Pollers run as far as the time
allows; a poller without time between its cycles panics, and so may the writing of events.
-/

namespace LiveEvents.Rehearsal

structure Sleeper where
  rest : Poll.Task Bool
  wakesAt : Nat
  /-- When the next cycle may begin. -/
  dueAt : Nat

inductive Progress where
  | asleep (poller : Sleeper)
  | over (ending : Ending)

structure Stage where
  /-- Nanoseconds between two cycles. -/
  interval : Nat
  /-- How far time may pass. -/
  until_ : Nat
  writesPanic : Bool

namespace Stage

/-- Runs a poller until it ends or sleeps for too long. -/
def drive (s : Stage) : Poll.Task Bool → (now dueAt : Nat) → PollWorld → Progress × PollWorld
  | .done _, _, _, w => (.over .finished, w)
  | .ask (.pause d) next, now, dueAt, w =>
    let wakesAt := now + d.nanos
    if wakesAt ≤ s.until_ then s.drive (next ()) wakesAt dueAt w
    else (.asleep ⟨next (), wakesAt, dueAt⟩, w)
  | .ask .nextCycle next, now, dueAt, w =>
    let wakesAt := max now dueAt
    if wakesAt ≤ s.until_ then s.drive (next true) wakesAt (wakesAt + s.interval) w
    else (.asleep ⟨next true, wakesAt, wakesAt + s.interval⟩, w)
  | .ask (.write o) next, now, dueAt, w =>
    if s.writesPanic then (.over .panicked, w)
    else
      let (r, w) := w.answer (.write o)
      s.drive (next r) now dueAt w
  | .ask a next, now, dueAt, w =>
    let (r, w) := w.answer a
    s.drive (next r) now dueAt w

end Stage

inductive Work where
  | listening
  | polling (interval : Nat) (connected : Bool) (poller : Sleeper)

structure SupervisorWorld extends PollWorld where
  supervisor : Supervisor
  /-- Where the server is found, if there is a network. -/
  server : Option String
  writesPanic : Bool
  time : Nat := 0
  /-- For each task what it does. -/
  works : List Work := []
  /-- How many shutdown requests another receiver has taken. -/
  taken : Nat := 0

namespace SupervisorWorld

/-- More cycles than fit into a rehearsal. -/
def patience : Nat := 10000

/-- How long a wait may take in nanoseconds. -/
def waitingTime (w : SupervisorWorld) : Nat :=
  if w.server.isSome then 5000000000 else 30000000

def poller (w : SupervisorWorld) (baseUrl : String) (interval : Duration) (task : Poll.Task Bool) :
    Work :=
  let connected := w.server.any fun server => (Text.withoutStart? server baseUrl).isSome
  .polling interval.nanos connected ⟨task, w.time, w.time⟩

def work (w : SupervisorWorld) (c : Crawler) : Work :=
  let crawlers := w.supervisor.crawlers
  match c, crawlers.prices, crawlers.schedules with
  | .binanceRest, some p, _ =>
    w.poller p.settings.apiUrl p.settings.pollInterval
      (Poll.Prices.run p.settings p.identity patience)
  | .nba, _, some p =>
    w.poller p.settings.baseUrl p.settings.pollInterval
      (Poll.Schedules.run p.settings p.identity patience)
  | _, _, _ => .listening

def happen (w : SupervisorWorld) (e : Supervisor.Event) : Option Verdict × SupervisorWorld :=
  let (verdict, supervisor) := w.supervisor.step e
  (verdict, { w with supervisor })

def start (w : SupervisorWorld) : SupervisorWorld :=
  let w := (w.happen .start).2
  let fresh := w.supervisor.tasks.drop w.works.length
  { w with works := w.works ++ fresh.map fun t => w.work t.crawler }

/-- A task ends and its watcher runs, as far as the error can be reported. -/
def finish (w : SupervisorWorld) (id : Nat) (ending : Ending) : SupervisorWorld :=
  let w := (w.happen (.taskEnds id ending)).2
  let w := (w.happen (.watch id)).2
  (w.happen (.watch id)).2

def advanceTask (w : SupervisorWorld) (until_ : Nat) (id : Nat) (t : Supervised) :
    SupervisorWorld :=
  let stopped := t.signal.isStopped.1
  match w.works[id]? with
  | some (.polling interval connected p) =>
    if interval = 0 then w.finish id .panicked
    else if stopped then w.finish id .finished
    else
      let stage : Stage := { interval, until_, writesPanic := w.writesPanic }
      if p.wakesAt ≤ until_ then
        match stage.drive p.rest p.wakesAt p.dueAt { w.toPollWorld with connected } with
        | (.asleep p, world) =>
          { w with toPollWorld := world, works := w.works.set id (.polling interval connected p) }
        | (.over ending, world) => { w with toPollWorld := world }.finish id ending
      else w
  | some .listening | none => if stopped then w.finish id .finished else w

def advance (w : SupervisorWorld) (until_ : Nat) : SupervisorWorld :=
  (w.supervisor.tasks.zipIdx.filter fun (t, _) => !t.isOver).foldl
    (fun w (t, id) => w.advanceTask until_ id t) w

def wait (w : SupervisorWorld) : Option Verdict × SupervisorWorld :=
  match w.happen (.poll true) with
  | (some v, w) => (some v, w)
  | (none, w) =>
    let until_ := w.time + w.waitingTime
    { w.advance until_ with time := until_ }.happen (.poll true)

def shutdown (w : SupervisorWorld) : SupervisorWorld :=
  (w.happen .shutdown).2.advance w.time

def observe (w : SupervisorWorld) : Bool × SupervisorWorld :=
  if w.taken < w.supervisor.requests then (true, { w with taken := w.taken + 1 }) else (false, w)

end SupervisorWorld

end LiveEvents.Rehearsal
