import LiveEvents.Metrics.Basic
import LiveEvents.Settings
import LiveEvents.Wire

/-!
# The task of a feed

A feed dials an exchange, subscribes to the tickers of its symbols, waits until that is
confirmed and then listens. It sends heartbeats on a timer, and it dials again, after a growing
delay, when the session breaks or nothing was heard for too long. Ticks are written one at a
time, and while one is being written nothing else happens.

`Task.step` is what a task does when it is woken. Of several things that are ready it always
takes the first in a fixed order: a requested stop, then its timers, then what there is to read.
-/

namespace LiveEvents.Feed

structure Plan where
  exchange : Exchange
  settings : FeedSettings
  identity : Identity
  deriving DecidableEq, Repr

inductive Incoming where
  | text (text : String)
  | ping
  | binary
  /-- The other side closes the connection. -/
  | closed
  | failed
  /-- Nothing will come any more. -/
  | ended
  deriving DecidableEq, Repr

inductive Break where
  | dialFailed
  | handshakeTimedOut
  | sendFailed
  | rejected (reason : String)
  | malformed (cause : DecodeError)
  | closed
  | readFailed
  | ended
  /-- No frames for too long. -/
  | idle
  deriving DecidableEq, Repr

/-- Points in time are nanoseconds on a clock that only goes forward. -/
abbrev Time := Nat

/-- The clock counts its seconds in 63 bits and can show no later point in time. A timer may be set
to a later one, it just never ends; to work one out in advance is a panic. -/
def lastTime : Time := 9223372036854775808 * 1000000000 - 1

inductive Phase where
  | dialing (until_ : Time)
  /-- So many confirmations have come. -/
  | subscribing (acks : Nat) (until_ : Time)
  | listening (beatAt idleAt : Time)
  | broken (cause : Break)
  /-- Waits before it dials again. -/
  | waiting (until_ : Time)
  | ended
  | panicked
  deriving DecidableEq, Repr

structure Task where
  phase : Phase
  /-- A tick is being written. -/
  writing : Bool := false
  backoff : ReconnectBackoff
  deriving DecidableEq, Repr

structure Moment where
  now : Time
  /-- Time of day. -/
  clock : Instant
  stopped : Bool := false
  /-- Whether dialing succeeded, once it is over. -/
  dialed : Option Bool := none
  /-- What is next to read, if anything. -/
  incoming : Option Incoming := none
  sendFails : Bool := false
  /-- What became of the tick that was being written, once that is over. -/
  written : Option (Except UpsertError Outcome × Duration) := none

inductive Action where
  | dial
  | subscribe (request : String)
  | beat (heartbeat : Heartbeat)
  | close
  | write (observation : Observation)
  | count (measurement : Measurement)

/-- A step of a task: what becomes of it, what it does, and what it read. -/
structure Step where
  task : Task
  actions : List Action := []
  read : Option Incoming := none

namespace Task

def isOver (t : Task) : Bool :=
  match t.phase with
  | .ended | .panicked => true
  | _ => false

def growth : Growth := .times (3 / 2)

section

variable (p : Plan)

def source : String := p.exchange.label

def dialingPhase (now : Time) : Phase :=
  .dialing (now + p.settings.handshakeTimeout.nanos)

def start (now : Time) : Task where
  phase := dialingPhase p now
  backoff := .start p.settings.reconnectInitial p.settings.reconnectMax growth

def disconnected : Action :=
  .count (.connected (source p) false)

def brokenBy (t : Task) (cause : Break) (before : List Action) (read : Option Incoming) : Step :=
  { task := { t with phase := .broken cause }, actions := before ++ [disconnected p], read }

def stopped (t : Task) (before : List Action) : Step :=
  { task := { t with phase := .ended }, actions := before ++ [disconnected p] }

/-- Subscribed; from now on the feed listens. It cannot without time between its heartbeats, nor if
the first one is due later than the clock can show. -/
def listen (t : Task) (now : Time) (read : Option Incoming) : Step :=
  let beat := p.settings.heartbeatInterval.nanos
  { task := {
      phase := if beat = 0 ∨ lastTime < now + beat then .panicked
        else .listening (now + beat) (now + p.settings.idleTimeout.nanos)
      backoff := t.backoff.reset }
    actions := [.count (.connected (source p) true)]
    read }

def write (t : Task) (before : List Action) (tick : Tick) (m : Moment) : Step :=
  { task := { t with writing := true }
    actions := before ++ [
      .count (.tick (source p)),
      .write (.ofTick p.exchange p.identity tick m.clock)]
    read := m.incoming }

def subscribe (t : Task) (m : Moment) : Step :=
  let requests := (p.exchange.subscribeRequests p.settings.symbols).map Action.subscribe
  if m.sendFails then brokenBy p t .sendFailed [] none
  else if p.exchange.expectedAcks p.settings.symbols = 0 then
    let s := listen p t m.now none
    { s with actions := requests ++ s.actions }
  else
    let phase := Phase.subscribing 0 (m.now + p.settings.subscribeTimeout.nanos)
    { task := { t with phase }, actions := requests }

/-- A text that comes before the subscription is confirmed. -/
def confirmBy (t : Task) (m : Moment) (acks : Nat) (until_ : Time) (text : String) : Step :=
  match p.exchange.decode text with
  | .ok .ack =>
    if acks + 1 < p.exchange.expectedAcks p.settings.symbols then
      { task := { t with phase := .subscribing (acks + 1) until_ }, read := m.incoming }
    else listen p t m.now m.incoming
  | .ok (.rejected reason) => brokenBy p t (.rejected reason) [] m.incoming
  | .ok (.tick tick) => write p t [] tick m
  | .ok .control => { task := t, read := m.incoming }
  | .error e => brokenBy p t (.malformed e) [] m.incoming

/-- A text that comes while the feed listens. -/
def hear (t : Task) (m : Moment) (text : String) : Step :=
  let received := [.count (.frame (source p))]
  match p.exchange.decode text with
  | .ok (.tick tick) => write p t received tick m
  | .ok _ => { task := t, actions := received, read := m.incoming }
  | .error _ =>
    { task := t, actions := received ++ [.count (.decodeError (source p))], read := m.incoming }

def breakBy? : Incoming → Option Break
  | .closed => some .closed
  | .failed => some .readFailed
  | .ended => some .ended
  | .text _ | .ping | .binary => none

def readSubscribing (t : Task) (m : Moment) (acks : Nat) (until_ : Time) : Step :=
  match m.incoming with
  | none => { task := t }
  | some (.text text) => confirmBy p t m acks until_ text
  | some i =>
    match breakBy? i with
    | some cause => brokenBy p t cause [] m.incoming
    | none => { task := t, read := m.incoming }

/-- What becomes of a feed that listens and has read something. -/
def receive (t : Task) (m : Moment) : Incoming → Step
  | .text text => hear p t m text
  | i =>
    match breakBy? i with
    | some cause => brokenBy p t cause [] m.incoming
    | none => { task := t, read := m.incoming }

/-- Reads what is next while the feed listens; whatever it is, the feed is not idle. When it will be
is worked out before anything becomes of what was read, so that is lost if the clock cannot show
it. -/
def readListening (t : Task) (m : Moment) (beatAt : Time) : Step :=
  match m.incoming with
  | none => { task := t }
  | some i =>
    let idleAt := m.now + p.settings.idleTimeout.nanos
    if lastTime < idleAt then { task := { t with phase := .panicked }, read := m.incoming }
    else receive p { t with phase := .listening beatAt idleAt } m i

def beat (t : Task) (m : Moment) (beatAt idleAt : Time) : Step :=
  if m.sendFails then brokenBy p t .sendFailed [] none
  else
    let phase := Phase.listening (beatAt + p.settings.heartbeatInterval.nanos) idleAt
    { task := { t with phase }, actions := [.beat p.exchange.heartbeat] }

def finishWrite (t : Task) (m : Moment) : Step :=
  match m.written with
  | none => { task := t }
  | some (result, elapsed) =>
    { task := { t with writing := false }
      actions := [.count (.upsert (source p) result elapsed)] }

def plan (t : Task) (now : Time) : Step :=
  match t.backoff.next with
  | .ok (delay, backoff) =>
    { task := { t with phase := .waiting (now + delay.nanos), backoff }
      actions := [.count (.reconnect (source p))] }
  | .error _ => { task := { t with phase := .panicked } }

def step (t : Task) (m : Moment) : Step :=
  if t.writing then finishWrite p t m
  else
    match t.phase with
    | .dialing until_ =>
      if m.stopped then stopped p t []
      else
        match m.dialed with
        | some true => subscribe p t m
        | some false => brokenBy p t .dialFailed [] none
        | none =>
          if until_ ≤ m.now then brokenBy p t .handshakeTimedOut [] none else { task := t }
    | .subscribing acks until_ =>
      if m.stopped then stopped p t [.close]
      else if until_ ≤ m.now then listen p t m.now none
      else readSubscribing p t m acks until_
    | .listening beatAt idleAt =>
      if m.stopped then stopped p t [.close]
      else if beatAt ≤ m.now then beat p t m beatAt idleAt
      else if idleAt ≤ m.now then brokenBy p t .idle [] none
      else readListening p t m beatAt
    | .broken _ =>
      if m.stopped then { task := { t with phase := .ended } } else plan p t m.now
    | .waiting until_ =>
      if m.stopped then { task := { t with phase := .ended } }
      else if until_ ≤ m.now then
        { task := { t with phase := dialingPhase p m.now }, actions := [.dial] }
      else { task := t }
    | .ended | .panicked => { task := t }

def steps (t : Task) : List Moment → List Step
  | [] => []
  | m :: rest =>
    let s := step p t m
    s :: steps s.task rest

end

/-- When the task wakes by itself, if it does. -/
def timer? (t : Task) : Option Time :=
  if t.writing then none
  else
    match t.phase with
    | .dialing until_ | .subscribing _ until_ | .waiting until_ => some until_
    | .listening beatAt idleAt => some (min beatAt idleAt)
    | .broken _ | .ended | .panicked => none

end Task

end LiveEvents.Feed
