/-!
# Stop signals

A stop is requested for all by a message on the shutdown channel, or by nobody being left who
could send one, and for one stream alone by a flag. A signal that has fired stays fired.
`StopSignal.isStopped` looks without waiting; `StopSignal.poll` drives a wait, which may be
given up between two polls.
-/

namespace LiveEvents

/-- What a receiver has before it on a channel that keeps at most `capacity` messages for it. -/
structure Subscription where
  capacity : Nat
  unread : Nat := 0
  /-- Messages were dropped to make room. -/
  lagging : Bool := false
  closed : Bool := false
  deriving DecidableEq, Repr

inductive Receipt where
  | message
  | lagged
  | closed
  | nothing
  deriving DecidableEq, Repr

namespace Subscription

def send (s : Subscription) : Subscription :=
  if s.closed then s
  else if s.unread < s.capacity then { s with unread := s.unread + 1 }
  else { s with lagging := true }

def close (s : Subscription) : Subscription :=
  { s with closed := true }

def receive (s : Subscription) : Receipt × Subscription :=
  if s.lagging then (.lagged, { s with lagging := false })
  else if 0 < s.unread then (.message, { s with unread := s.unread - 1 })
  else (if s.closed then .closed else .nothing, s)

end Subscription

/-- A flag of which a reader sees the latest value only. -/
structure Flag where
  value : Bool := false
  /-- How often it was set. -/
  version : Nat := 0
  /-- The version that was looked at last. -/
  seen : Nat := 0
  /-- Someone is left who could set it. -/
  held : Bool := true
  deriving DecidableEq, Repr

namespace Flag

def set (f : Flag) (value : Bool) : Flag :=
  if f.held then { f with value, version := f.version + 1 } else f

def drop (f : Flag) : Flag :=
  { f with held := false }

/-- A wait for the flag: not begun, waiting for the next version, or without hope. -/
inductive Wait where
  | begun
  | watching
  | parked
  deriving DecidableEq, Repr

/-- Looks at the value; goes on waiting while someone could set it. -/
def look (f : Flag) : Bool × Flag × Wait :=
  (f.value, { f with seen := f.version }, if f.held then .watching else .parked)

/-- Whether the flag is up, as far as a wait for it notices. -/
def poll (f : Flag) : Wait → Bool × Flag × Wait
  | .begun => f.look
  | .watching =>
    if f.version ≠ f.seen then f.look
    else (false, f, if f.held then .watching else .parked)
  | .parked => (false, f, .parked)

end Flag

structure StopSignal where
  shutdown : Subscription
  flag : Option Flag := none
  fired : Bool := false
  deriving DecidableEq, Repr

namespace StopSignal

def isStopped (s : StopSignal) : Bool × StopSignal :=
  if s.fired then (true, s)
  else
    let (receipt, shutdown) := s.shutdown.receive
    let fired := receipt != .nothing || s.flag.any (·.value)
    (fired, { s with shutdown, fired })

/-- One poll of a wait: whether it is over, and how it goes on. -/
def poll (s : StopSignal) (wait : Flag.Wait) : Bool × StopSignal × Flag.Wait :=
  if s.fired then (true, s, wait)
  else
    let (receipt, shutdown) := s.shutdown.receive
    if receipt != .nothing then (true, { s with shutdown, fired := true }, wait)
    else
      match s.flag with
      | none => (false, { s with shutdown }, wait)
      | some f =>
        let (up, f, wait) := f.poll wait
        (up, { s with shutdown, flag := some f, fired := up }, wait)

inductive Change where
  | shutdown
  | dropShutdown
  | setFlag (value : Bool)
  | dropFlag
  deriving DecidableEq, Repr

def change (s : StopSignal) : Change → StopSignal
  | .shutdown => { s with shutdown := s.shutdown.send }
  | .dropShutdown => { s with shutdown := s.shutdown.close }
  | .setFlag value => { s with flag := s.flag.map (·.set value) }
  | .dropFlag => { s with flag := s.flag.map (·.drop) }

end StopSignal

end LiveEvents
