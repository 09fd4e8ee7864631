import LiveEvents.Feed.Adapter
import LiveEvents.Rehearsal.World

/-!
# Rehearsing feeds

A feed is run against a peer that follows a script for each connection. Time passes only while
the peer waits, and then jumps to the next timer of the feed.
-/

namespace LiveEvents.Rehearsal

inductive PeerAction where
  | send (text : String)
  | binary
  | ping
  /-- Waits until the feed has handled everything. -/
  | settle
  | awaitSubscribed
  | awaitHeartbeat
  | awaitDisconnect
  | close
  | cut
  /-- Cuts the connection before the handshake. -/
  | refuse
  /-- Never answers the handshake. -/
  | stall
  deriving DecidableEq, Repr

inductive PeerNote where
  | subscription (request : String)
  | heartbeat (beat : Heartbeat)
  | refused
  | stalled
  deriving DecidableEq, Repr

structure FeedWorld extends World where
  feed : Feed.Adapter
  time : Feed.Time := 0
  /-- Messages of the feed that the peer has not yet read. -/
  unread : List PeerNote := []

namespace FeedWorld

def stream : Nat := 0

def task? (w : FeedWorld) : Option Feed.Task :=
  (w.feed.streams[stream]?).map (·.task)

def moment (w : FeedWorld) : Feed.Moment :=
  { now := w.time, clock := w.now }

/-- What an action does to the world, and the result of the write if it is one. -/
def perform (w : FeedWorld) : Feed.Action → FeedWorld × Option (Except UpsertError Outcome)
  | .dial | .close => (w, none)
  | .subscribe request => ({ w with unread := w.unread ++ [.subscription request] }, none)
  | .beat beat => ({ w with unread := w.unread ++ [.heartbeat beat] }, none)
  | .count m => ({ w with toWorld := w.toWorld.count m }, none)
  | .write o =>
    let (result, world) := w.toWorld.write o
    ({ w with toWorld := world }, some result)

def performAll (w : FeedWorld) :
    List Feed.Action → FeedWorld × Option (Except UpsertError Outcome)
  | [] => (w, none)
  | a :: rest =>
    let (w, here) := w.perform a
    let (w, later) := w.performAll rest
    (w, later.or here)

/-- One step of the feed, and a second one when it wrote something. -/
def wake (w : FeedWorld) (m : Feed.Moment) : FeedWorld :=
  let (feed, actions) := w.feed.step stream m
  let (w, result) := { w with feed }.performAll actions
  match result with
  | none => w
  | some result =>
    let (feed, actions) := w.feed.step stream { w.moment with written := some (result, .zero) }
    ({ w with feed }.performAll actions).1

/-- Lets time pass until the next timer of the feed. -/
def advance (w : FeedWorld) : FeedWorld :=
  let w := { w with time := max w.time ((w.task?.bind (·.timer?)).getD w.time) }
  w.wake w.moment

def advanceUntil (holds : FeedWorld → Bool) : (timers : Nat) → FeedWorld → FeedWorld
  | 0, w => w
  | timers + 1, w => if holds w then w else advanceUntil holds timers w.advance

/-- More timers than any wait of a peer sees. -/
def patience : Nat := 10000

def isDialing (w : FeedWorld) : Bool :=
  w.task?.any fun t => match t.phase with
    | .dialing _ => true
    | _ => false

def isListening (w : FeedWorld) : Bool :=
  w.task?.any fun t => match t.phase with
    | .listening _ _ => true
    | _ => false

def isConnected (w : FeedWorld) : Bool :=
  w.task?.any fun t => match t.phase with
    | .subscribing _ _ | .listening _ _ => true
    | _ => false

def isOver (w : FeedWorld) : Bool :=
  w.task?.all (·.isOver)

def deliver (w : FeedWorld) (i : Feed.Incoming) : FeedWorld :=
  if w.isConnected then w.wake { w.moment with incoming := some i } else w

def read (w : FeedWorld) : List PeerNote × FeedWorld :=
  (w.unread.take 1, { w with unread := w.unread.drop 1 })

def act (w : FeedWorld) : PeerAction → List PeerNote × FeedWorld
  | .send text => ([], w.deliver (.text text))
  | .binary => ([], w.deliver .binary)
  | .ping => ([], w.deliver .ping)
  | .close => ([], w.deliver .closed)
  | .cut => ([], w.deliver .failed)
  | .settle | .refuse | .stall => ([], w)
  | .awaitSubscribed => ([], w.advanceUntil (fun w => w.isListening || !w.isConnected) patience)
  | .awaitDisconnect => ([], w.advanceUntil (!·.isConnected) patience)
  | .awaitHeartbeat =>
    (w.advanceUntil (fun w => !w.unread.isEmpty || !w.isConnected) patience).read

def actAll (w : FeedWorld) : List PeerAction → List PeerNote × FeedWorld
  | [] => ([], w)
  | a :: rest =>
    let (here, w) := w.act a
    let (later, w) := w.actAll rest
    (here ++ later, w)

def connect (w : FeedWorld) (script : List PeerAction) : List PeerNote × FeedWorld :=
  let w := w.advanceUntil (fun w => w.isDialing || w.isOver) patience
  match script with
  | .refuse :: _ => ([.refused], w.wake { w.moment with dialed := some false })
  | .stall :: _ => ([.stalled], w.advance)
  | script =>
    let (first, w) := { w with unread := [] }.wake { w.moment with dialed := some true } |>.read
    let (rest, w) := w.actAll script
    (first ++ rest, w)

/-- The connections in turn. Each but the last is cut when its script ends. -/
def connectAll (w : FeedWorld) : List (List PeerAction) → List (List PeerNote) × FeedWorld
  | [] => ([], w)
  | [script] =>
    let (notes, w) := w.connect script
    ([notes], w)
  | script :: rest =>
    let (notes, w) := w.connect script
    let (others, w) := (w.deliver .ended).connectAll rest
    (notes :: others, w)

def finish (w : FeedWorld) (everything : Bool) : FeedWorld :=
  let feed := if everything then w.feed.shutdown else w.feed.stop
  { w with feed }.advanceUntil isOver patience

end FeedWorld

end LiveEvents.Rehearsal
