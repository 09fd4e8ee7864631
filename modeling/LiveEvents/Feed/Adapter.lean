import LiveEvents.Feed.Task
import LiveEvents.Stop
import LiveEvents.Url.Scheme

/-!
# Starting and stopping feeds

An adapter holds the handle of the stream it started last, and starts another only if that one
has come to its end. Stopping raises the flag of the stream and lets go of its handle, while the
stream itself ends when it next looks at its flag.
-/

namespace LiveEvents

inductive FeedError where
  | alreadyRunning (exchange : Exchange)
  | noSymbols (exchange : Exchange)
  | invalidUrl (url reason : String)
  deriving DecidableEq, Repr

def FeedError.message : FeedError → String
  | alreadyRunning x => x.displayName ++ " stream is already running"
  | noSymbols x => x.displayName ++ " stream has no symbols configured"
  | invalidUrl url reason => "invalid WebSocket URL " ++ Text.quoted url ++ ": " ++ reason

namespace Feed

def checkUrl (url : String) : Except FeedError Unit :=
  match Url.check url with
  | .error e => .error (.invalidUrl url e.message)
  | .ok scheme =>
    if scheme = "ws" ∨ scheme = "wss" then .ok ()
    else .error (.invalidUrl url ("unsupported scheme " ++ scheme))

/-- What must hold before a feed starts a stream, of which it may have one running. -/
def Plan.check (p : Plan) (running : Bool) : Except FeedError Unit := do
  if running then throw (.alreadyRunning p.exchange)
  if p.settings.symbols.isEmpty then throw (.noSymbols p.exchange)
  checkUrl p.settings.wsUrl

structure Stream where
  task : Task
  signal : StopSignal
  deriving DecidableEq, Repr

/-- A feed with all streams it ever started, numbered from zero. -/
structure Adapter where
  plan : Plan
  streams : List Stream := []
  /-- The stream whose handle is held. -/
  held : Option Nat := none
  deriving DecidableEq, Repr

namespace Adapter

def isLive (a : Adapter) (id : Nat) : Bool :=
  (a.streams[id]?).any fun s => !s.task.isOver

def isRunning (a : Adapter) : Bool :=
  a.held.any a.isLive

def start (a : Adapter) (shutdown : Subscription) (now : Time) : Except FeedError Adapter := do
  a.plan.check a.isRunning
  let stream : Stream := { task := .start a.plan now, signal := { shutdown, flag := some {} } }
  return { a with streams := a.streams ++ [stream], held := some a.streams.length }

def changeSignal (a : Adapter) (id : Nat) (change : StopSignal.Change) : Adapter :=
  { a with streams := a.streams.modify id fun s => { s with signal := s.signal.change change } }

/-- Stops the stream whose handle is held, and lets go of the handle. -/
def stop (a : Adapter) : Adapter :=
  match a.held with
  | none => a
  | some id => { (a.changeSignal id (.setFlag true)).changeSignal id .dropFlag with held := none }

def shutdown (a : Adapter) : Adapter :=
  { a with streams := a.streams.map fun s => { s with signal := s.signal.change .shutdown } }

def step (a : Adapter) (id : Nat) (m : Moment) : Adapter × List Action :=
  match a.streams[id]? with
  | none => (a, [])
  | some s =>
    let (stopped, signal) := s.signal.isStopped
    let done := s.task.step a.plan { m with stopped }
    ({ a with streams := a.streams.set id { task := done.task, signal } }, done.actions)

end Adapter

end Feed

end LiveEvents
