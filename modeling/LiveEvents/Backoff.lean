import LiveEvents.Binary64

/-!
# Waiting between attempts

The delay before a retry doubles from a least delay and is capped together with its jitter.
The delay before a reconnect grows by a factor from an initial delay up to a greatest one.
-/

namespace LiveEvents

structure RetryBackoff where
  min : Duration
  max : Duration
  maxJitter : Duration
  deriving DecidableEq, Repr

namespace RetryBackoff

/-- Delay after attempt number `attempt`, counted from zero. -/
def delay (b : RetryBackoff) (attempt : Nat) (jitter : Duration) : Duration :=
  Min.min ((b.min.mul (Nat.pow 2 (Min.min attempt 31))).add (Min.min jitter b.maxJitter)) b.max

/-- The greatest jitter that can be drawn, in milliseconds, of which 64 bits are counted. -/
def greatestDraw (b : RetryBackoff) : Nat := Min.min b.maxJitter.millis 18446744073709551615

def delayDrawn (b : RetryBackoff) (attempt draw : Nat) : Duration :=
  b.delay attempt (.ofMillis (Min.min draw b.greatestDraw))

end RetryBackoff

/-- A double float as a factor. -/
inductive Factor where
  | finite (value : Rat)
  | infinite (negative : Bool)
  | notANumber
  deriving DecidableEq, Repr

/-- What a reconnect delay is multiplied by, at least one. -/
inductive Growth where
  | times (factor : Rat)
  | unbounded
  deriving DecidableEq, Repr

/-- A factor below one, which would shrink the delay, counts as one, and so does no number. -/
def Growth.ofFactor : Factor → Growth
  | .finite value => .times (if value < 1 then 1 else value)
  | .infinite false => .unbounded
  | .infinite true | .notANumber => .times 1

inductive GrowthError where
  | tooLong
  deriving DecidableEq, Repr

def GrowthError.message : GrowthError → String
  | tooLong => "cannot convert float seconds to Duration: value is either too big or NaN"

structure ReconnectBackoff where
  initial : Duration
  max : Duration
  growth : Growth
  current : Duration
  deriving DecidableEq, Repr

namespace ReconnectBackoff

def start (initial max : Duration) (growth : Growth) : ReconnectBackoff :=
  { initial := Min.min initial max, max, growth, current := Min.min initial max }

def standard : ReconnectBackoff :=
  start (.ofSeconds 5) (.ofSeconds 60) (.times (3 / 2))

def grown? (d : Duration) : Growth → Option Duration
  | .times factor => Binary64.scale? d factor
  | .unbounded => none

/-- The delay to wait now; the next one is longer. -/
def next (b : ReconnectBackoff) : Except GrowthError (Duration × ReconnectBackoff) :=
  match grown? b.current b.growth with
  | some d => .ok (b.current, { b with current := Min.min d b.max })
  | none => .error .tooLong

def peek (b : ReconnectBackoff) : Duration := b.current

def reset (b : ReconnectBackoff) : ReconnectBackoff :=
  { b with current := b.initial }

end ReconnectBackoff

end LiveEvents
