import LiveEvents.Backoff
import LiveEvents.Text.Digits

/-!
# Repeated attempts

A call is made again while it fails in a way that may pass, up to a greatest number of attempts
and with a growing delay between them. A failure that will not pass ends the attempts at once.
-/

namespace LiveEvents

class Retryable (ε : Type) where
  isRetryable : ε → Bool

structure Abandoned (ε : Type) where
  attempts : Nat
  cause : ε
  deriving DecidableEq, Repr

namespace Abandoned

variable {ε : Type}

def isTerminal [Retryable ε] (a : Abandoned ε) : Bool :=
  !Retryable.isRetryable a.cause

def message (causeMessage : ε → String) (a : Abandoned ε) : String :=
  "gave up after " ++ String.ofList (Text.decimal a.attempts) ++ " attempt(s): " ++
    causeMessage a.cause

end Abandoned

namespace Retry

variable {m : Type → Type} [Monad m] {ε α : Type} [Retryable ε]

/-- Makes attempt number `attempt`, and up to `left` more after it. The pause after an attempt
is told how many retries came before. -/
def attempts (call : Nat → m (Except ε α)) (pause : Nat → m Unit) (attempt : Nat) :
    (left : Nat) → m (Except (Abandoned ε) α)
  | 0 => do return (← call attempt).mapError (⟨attempt, ·⟩)
  | left + 1 => do
    match ← call attempt with
    | .ok value => return .ok value
    | .error e =>
      if Retryable.isRetryable e then
        pause (attempt - 1)
        attempts call pause (attempt + 1) left
      else return .error ⟨attempt, e⟩

/-- There is always a first attempt. -/
def run (maxAttempts : Nat) (call : Nat → m (Except ε α)) (pause : Nat → m Unit) :
    m (Except (Abandoned ε) α) :=
  attempts call pause 1 (maxAttempts - 1)

end Retry

end LiveEvents
