import LiveEvents.Crawlers
import LiveEvents.Feed.Adapter
import LiveEvents.Stop

/-!
# The supervisor

The supervisor starts a task for each crawler and has each task watched. The watcher of a task
learns how it ended, and if the task panicked it reports a critical error. Whoever waits on the
supervisor waits for a shutdown to be requested or for a critical error, and the error then
requests a shutdown itself.

`Supervisor.step` is the whole of what can happen, one thing at a time: calls on the supervisor,
tasks that end, watchers that run, and others who request a shutdown or report an error.
-/

namespace LiveEvents

inductive Ending where
  | finished
  | cancelled
  | panicked
  deriving DecidableEq, Repr

/-- An error that ends the whole service. -/
inductive CriticalError where
  | panicked (crawler : Crawler)
  | reported (text : String)
  deriving DecidableEq, Repr

def CriticalError.message : CriticalError → String
  | panicked c => c.name ++ " task panicked"
  | reported text => text

inductive Watch where
  | watching
  /-- The task panicked, and the error is not reported yet. -/
  | reporting
  | done
  deriving DecidableEq, Repr

structure Supervised where
  crawler : Crawler
  signal : StopSignal
  ending : Option Ending := none
  watch : Watch := .watching
  deriving DecidableEq, Repr

namespace Supervised

def isOver (t : Supervised) : Bool := t.ending.isSome

/-- Whether the end of the task has not been noticed. -/
def isRunning (t : Supervised) : Bool := t.watch == .watching

def finish (t : Supervised) (ending : Ending) : Supervised :=
  { t with ending := t.ending.or (some ending) }

end Supervised

inductive Verdict where
  | shutdown
  | critical (error : CriticalError)
  deriving DecidableEq, Repr

structure Supervisor where
  crawlers : Crawlers
  /-- How many shutdown requests are kept for a receiver. -/
  capacity : Nat := 4
  /-- The tasks in the order in which they were started, numbered from zero. -/
  tasks : List Supervised := []
  /-- How many of the first tasks a shutdown has waited for and let go of. -/
  released : Nat := 0
  /-- The last stream of each exchange, as long as its handle is held. -/
  streams : List (Exchange × Nat) := []
  /-- What there is to hear for those who wait on the supervisor. -/
  heard : Subscription := { capacity }
  /-- How often a shutdown was requested. -/
  requests : Nat := 0
  /-- Errors that were reported and that nobody has taken yet. -/
  errors : List CriticalError := []
  deriving DecidableEq, Repr

namespace Supervisor

/-- How many errors may be waiting. -/
def errorRoom : Nat := 8

variable (s : Supervisor)

def held : Nat := s.tasks.length - s.released

def changeTask (id : Nat) (change : Supervised → Supervised) : Supervisor :=
  { s with tasks := s.tasks.modify id change }

/-! ### Starting -/

def isOver (id : Nat) : Bool :=
  (s.tasks[id]?).all (·.isOver)

def isStreaming (x : Exchange) : Bool :=
  (s.streams.lookup x).any fun id => !s.isOver id

def spawn (c : Crawler) (flag : Option Flag) : Supervisor :=
  let signal := { shutdown := { capacity := s.capacity }, flag }
  { s with tasks := s.tasks ++ [{ crawler := c, signal }] }

/-- Starts a stream; tells whether there is one now. -/
def startStream (c : Crawler) (p : Feed.Plan) : Bool × Supervisor :=
  match p.check (s.isStreaming p.exchange) with
  | .ok () =>
    let others := s.streams.filter (·.1 ≠ p.exchange)
    (true, { s.spawn c (some {}) with streams := (p.exchange, s.tasks.length) :: others })
  | .error (.alreadyRunning _) => (true, s)
  | .error _ => (false, s)

def startFeed (c : Crawler) (plan : Option Feed.Plan) : Supervisor :=
  match plan with
  | none => s
  | some p => (s.startStream c p).2

def startPrices : Supervisor :=
  if s.crawlers.prices.isSome then s.spawn .binanceRest none else s

/-- Prices are polled where that is asked for, and where the stream cannot be started. -/
def startBinance : Supervisor :=
  match s.crawlers.binance, s.crawlers.mode with
  | none, _ => s
  | some _, .rest => s.startPrices
  | some p, .stream =>
    let (streaming, s) := s.startStream .binance p
    if streaming then s else s.startPrices

def startSchedules : Supervisor :=
  if s.crawlers.schedules.isSome then s.spawn .nba none else s

def start : Supervisor :=
  let s := s.startBinance
  let s := s.startFeed .bybit s.crawlers.bybit
  let s := s.startFeed .okx s.crawlers.okx
  s.startSchedules

/-! ### Stopping -/

def request : Supervisor :=
  { s with
    tasks := s.tasks.map fun t => { t with signal := t.signal.change .shutdown }
    heard := s.heard.send
    requests := s.requests + 1 }

def raise (id : Nat) : Supervisor :=
  s.changeTask id fun t => { t with signal := (t.signal.change (.setFlag true)).change .dropFlag }

def raiseAll : List Nat → Supervisor → Supervisor
  | [], s => s
  | id :: rest, s => raiseAll rest (s.raise id)

/-- Requests a shutdown, stops all streams, and lets go of all tasks. How long it then waits for
them to end changes nothing. -/
def shutdown : Supervisor :=
  let s := raiseAll (s.streams.map (·.2)) s.request
  { s with streams := [], released := s.tasks.length }

/-! ### Watching -/

/-- Reports a critical error; it has to wait while there is no room. -/
def report (e : CriticalError) : Option Supervisor :=
  if s.errors.length < errorRoom then some { s with errors := s.errors ++ [e] } else none

/-- The watcher of a task runs as far as it can without waiting for another. -/
def watch (id : Nat) : Supervisor :=
  match s.tasks[id]? with
  | none => s
  | some t =>
    match t.watch, t.ending with
    | .watching, some .panicked => s.changeTask id fun t => { t with watch := .reporting }
    | .watching, some _ => s.changeTask id fun t => { t with watch := .done }
    | .reporting, _ =>
      match s.report (.panicked t.crawler) with
      | none => s
      | some s => s.changeTask id fun t => { t with watch := .done }
    | .watching, none | .done, _ => s

/-! ### Waiting -/

def hear : Option (Verdict × Supervisor) :=
  let (receipt, heard) := s.heard.receive
  if receipt = .nothing then none else some (.shutdown, { s with heard })

def take : Option (Verdict × Supervisor) :=
  match s.errors with
  | [] => none
  | e :: errors => some (.critical e, { s with errors }.request)

/-- One poll of a wait. Where a request and an error are both there, either may be looked at
first. -/
def poll (errorFirst : Bool) : Option (Verdict × Supervisor) :=
  if errorFirst then s.take.or s.hear else s.hear.or s.take

/-! ### Everything that can happen -/

inductive Event where
  | start
  | shutdown
  | poll (errorFirst : Bool)
  /-- Someone else requests a shutdown. -/
  | request
  /-- Someone else reports a critical error. -/
  | report (text : String)
  | taskEnds (id : Nat) (ending : Ending)
  /-- The watcher of a task runs. -/
  | watch (id : Nat)
  deriving DecidableEq, Repr

def step : Event → Option Verdict × Supervisor
  | .start => (none, s.start)
  | .shutdown => (none, s.shutdown)
  | .poll errorFirst =>
    match s.poll errorFirst with
    | none => (none, s)
    | some (v, s) => (some v, s)
  | .request => (none, s.request)
  | .report text => (none, (s.report (.reported text)).getD s)
  | .taskEnds id ending => (none, s.changeTask id (·.finish ending))
  | .watch id => (none, s.watch id)

def after : List Event → Supervisor → Supervisor
  | [], s => s
  | e :: rest, s => after rest (s.step e).2

/-! ### Looking at it -/

def status : List (String × Bool) :=
  s.tasks.map fun t => (t.crawler.name, t.isRunning)

def isHealthy : Bool :=
  s.tasks.any (·.isRunning)

end Supervisor

def Config.supervisor (c : Config) : Supervisor where
  crawlers := c.crawlers

end LiveEvents
