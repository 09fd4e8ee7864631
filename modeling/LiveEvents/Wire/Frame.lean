import LiveEvents.Tick

/-!
# Frames

What a message of an exchange means to a feed, and why a message has no meaning.
-/

namespace LiveEvents

inductive Frame where
  | tick (tick : Tick)
  /-- Confirms a subscription. -/
  | ack
  | rejected (reason : String)
  /-- Anything that asks for no action. -/
  | control
  deriving DecidableEq, Repr

inductive DecodeError where
  | json
  | tick (cause : TickError)
  deriving DecidableEq, Repr

def Frame.ofTick (symbol price : String) : Except DecodeError Frame :=
  match Tick.check symbol price with
  | .ok t => .ok (.tick t)
  | .error e => .error (.tick e)

inductive Heartbeat where
  | text (text : String)
  | pong (payload : Nat)
  deriving DecidableEq, Repr

end LiveEvents
