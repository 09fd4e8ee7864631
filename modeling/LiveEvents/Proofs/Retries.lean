import LiveEvents.Retry
import Mathlib.Algebra.Group.Nat.Defs
import Mathlib.Order.Bounds.Basic
import Mathlib.Order.Monotone.Basic

/-!
# Repeated attempts and the delays between them

The delay before a retry is computed with a product and a sum that stop at the greatest duration.
Neither stop shows behind the cap; what shows is that the least delay doubles at most 31 times.

A call is made until an attempt ends it or the attempts are used up. The attempts are numbered from
one, and between two of them there is one pause, for the delay that belongs to the first of them.
-/

namespace LiveEvents

/-- A cap hides that doubling has stopped only where there is nothing to double or the cap has been
reached. -/
theorem capped_doubling_eq_iff (least jitter greatest times : ℕ) :
    min (least * 2 ^ min times 31 + jitter) greatest =
        min (least * 2 ^ times + jitter) greatest ↔
      times ≤ 31 ∨ least = 0 ∨ greatest ≤ least * 2 ^ 31 + jitter := by
  by_cases hle : times ≤ 31
  · rw [Nat.min_eq_left hle]
    simp [hle]
  · have hmin : min times 31 = 31 := by omega
    rw [hmin]
    by_cases hzero : least = 0
    · simp [hzero]
    · have hpow : 2 ^ 31 < 2 ^ times := Nat.pow_lt_pow_right (by decide) (by omega)
      have hlonger : least * 2 ^ 31 < least * 2 ^ times :=
        Nat.mul_lt_mul_of_pos_left hpow (by omega)
      omega

namespace RetryBackoff

/-- The delay in unbounded numbers. -/
theorem nanos_delay (b : RetryBackoff) (attempt : ℕ) (jitter : Duration) :
    (b.delay attempt jitter).nanos =
      Min.min (b.min.nanos * 2 ^ Min.min attempt 31 + Min.min jitter.nanos b.maxJitter.nanos)
        b.max.nanos := by
  have hmax := b.max.le_greatest
  unfold delay
  rw [Duration.nanos_min, Duration.nanos_add, Duration.nanos_mul, Duration.nanos_min, Nat.pow_eq]
  unfold Duration.greatest
  omega

theorem nanos_delay_mono (b : RetryBackoff) (jitter : Duration) :
    Monotone fun attempt => (b.delay attempt jitter).nanos := by
  intro early late hle
  have hpow : 2 ^ Min.min early 31 ≤ 2 ^ Min.min late 31 :=
    Nat.pow_le_pow_right (by decide) (by omega)
  have hbase : b.min.nanos * 2 ^ Min.min early 31 ≤ b.min.nanos * 2 ^ Min.min late 31 :=
    Nat.mul_le_mul_left _ hpow
  dsimp only
  rw [nanos_delay, nanos_delay]
  omega

/-- The delay is what unbounded numbers make of it, except that the least delay is doubled at most
31 times; it never exceeds the greatest delay and never decreases. That the doubling stops shows
only where the greatest delay has not been reached by then. -/
theorem delay_doubles_to_cap (b : RetryBackoff) (attempt : ℕ) (jitter : Duration) :
    (b.delay attempt jitter).nanos =
      Min.min (b.min.nanos * 2 ^ Min.min attempt 31 + Min.min jitter.nanos b.maxJitter.nanos)
        b.max.nanos ∧
    b.delay attempt jitter ≤ b.max ∧
    (Monotone fun attempt => (b.delay attempt jitter).nanos) ∧
    ((b.delay attempt jitter).nanos =
        Min.min (b.min.nanos * 2 ^ attempt + Min.min jitter.nanos b.maxJitter.nanos) b.max.nanos ↔
      attempt ≤ 31 ∨ b.min.nanos = 0 ∨
        b.max.nanos ≤ b.min.nanos * 2 ^ 31 + Min.min jitter.nanos b.maxJitter.nanos) := by
  have hnanos := b.nanos_delay attempt jitter
  have hle : (b.delay attempt jitter).nanos ≤ b.max.nanos := by
    rw [hnanos]
    exact Nat.min_le_right _ _
  have hiff := capped_doubling_eq_iff b.min.nanos (Min.min jitter.nanos b.maxJitter.nanos)
    b.max.nanos attempt
  rw [← hnanos] at hiff
  exact ⟨hnanos, hle, b.nanos_delay_mono jitter, hiff⟩

/-- After 32 attempts a nanosecond has been doubled only 31 times. -/
theorem delay_stops_doubling :
    let b : RetryBackoff := ⟨.ofNanos 1, .ofSeconds 10, .zero⟩
    (b.delay 32 .zero).nanos = 2147483648 ∧
      Min.min (b.min.nanos * 2 ^ 32 + Min.min Duration.zero.nanos b.maxJitter.nanos) b.max.nanos =
        4294967296 := by
  decide

end RetryBackoff

namespace Retry

variable {ε α : Type} [Retryable ε]

/-- What is seen of a call that is made again. -/
inductive Sight where
  | attempt (number : ℕ)
  | pause (time : Duration)
  deriving DecidableEq, Repr

/-- The attempt failed in a way that may pass. -/
def passing : Except ε α → Bool
  | .error e => Retryable.isRetryable e
  | .ok _ => false

/-- A call whose attempts end as they are fated to. -/
def seenCall (ending : ℕ → Except ε α) (number : ℕ) : StateM (List Sight) (Except ε α) :=
  fun seen => (ending number, seen ++ [.attempt number])

def seenPause (delay : ℕ → Duration) (retries : ℕ) : StateM (List Sight) Unit :=
  fun seen => ((), seen ++ [.pause (delay retries)])

/-- What is seen before an attempt: the attempts before it, each with its pause. -/
def seenBefore (delay : ℕ → Duration) (number : ℕ) : List Sight :=
  (List.range (number - 1)).flatMap fun i => [.attempt (i + 1), .pause (delay i)]

theorem seenBefore_succ (delay : ℕ → Duration) {number : ℕ} (h : 1 ≤ number) :
    seenBefore delay (number + 1) =
      seenBefore delay number ++ [.attempt number] ++ [.pause (delay (number - 1))] := by
  obtain ⟨before, rfl⟩ : ∃ before, number = before + 1 := ⟨number - 1, by omega⟩
  unfold seenBefore
  rw [Nat.add_sub_cancel, Nat.add_sub_cancel, List.range_succ, List.flatMap_append]
  simp

/-- The last attempt. -/
theorem attempts_last (ending : ℕ → Except ε α) (delay : ℕ → Duration) (number : ℕ)
    (seen : List Sight) :
    attempts (seenCall ending) (seenPause delay) number 0 seen =
      ((ending number).mapError (⟨number, ·⟩), seen ++ [.attempt number]) := rfl

/-- An attempt that is not followed by another one. -/
theorem attempts_ended {ending : ℕ → Except ε α} {number : ℕ}
    (h : passing (ending number) = false) (delay : ℕ → Duration) (left : ℕ) (seen : List Sight) :
    attempts (seenCall ending) (seenPause delay) number (left + 1) seen =
      ((ending number).mapError (⟨number, ·⟩), seen ++ [.attempt number]) := by
  simp only [attempts, seenCall, bind, StateT.bind]
  cases hending : ending number with
  | ok value => rfl
  | error e =>
    rw [hending] at h
    simp only [show Retryable.isRetryable e = false from h]
    rfl

theorem attempts_passing {ending : ℕ → Except ε α} {number : ℕ}
    (h : passing (ending number) = true) (delay : ℕ → Duration) (left : ℕ) (seen : List Sight) :
    attempts (seenCall ending) (seenPause delay) number (left + 1) seen =
      attempts (seenCall ending) (seenPause delay) (number + 1) left
        (seen ++ [.attempt number] ++ [.pause (delay (number - 1))]) := by
  simp only [attempts, seenCall, bind, StateT.bind]
  cases hending : ending number with
  | ok value =>
    rw [hending] at h
    cases h
  | error e =>
    rw [hending] at h
    simp only [show Retryable.isRetryable e = true from h]
    rfl

/-- The attempts from some number on, of which at most `left` follow the first one. -/
theorem attempts_seen (ending : ℕ → Except ε α) (delay : ℕ → Duration) (number left : ℕ)
    (h : 1 ≤ number) :
    ∃ k, IsLeast (insert (number + left) {n | number ≤ n ∧ passing (ending n) = false}) k ∧
      attempts (seenCall ending) (seenPause delay) number left (seenBefore delay number) =
        ((ending k).mapError (⟨k, ·⟩), seenBefore delay k ++ [.attempt k]) := by
  induction left generalizing number with
  | zero =>
    apply Exists.intro number
    constructor
    · constructor
      · exact Set.mem_insert _ _
      · rintro n (rfl | ⟨hle, -⟩)
        · exact Nat.le_refl _
        · exact hle
    · exact attempts_last ending delay number _
  | succ left ih =>
    by_cases hpassing : passing (ending number) = true
    -- The attempt hands on to the next one, and the least number is that of a later one.
    · obtain ⟨k, ⟨hmem, hleast⟩, hrun⟩ := ih (number + 1) (by omega)
      apply Exists.intro k
      constructor
      · constructor
        · rcases hmem with rfl | ⟨hle, hends⟩
          · exact Or.inl (by omega)
          · exact Or.inr ⟨by omega, hends⟩
        · rintro n (rfl | ⟨hle, hends⟩)
          · exact hleast (Or.inl (by omega))
          · have hne : n ≠ number := by
              rintro rfl
              rw [hpassing] at hends
              cases hends
            exact hleast (Or.inr ⟨by omega, hends⟩)
      · rw [attempts_passing hpassing, ← seenBefore_succ delay h]
        exact hrun
    · have hends : passing (ending number) = false := by simpa using hpassing
      apply Exists.intro number
      constructor
      · constructor
        · exact Or.inr ⟨Nat.le_refl _, hends⟩
        · rintro n (rfl | ⟨hle, -⟩)
          · omega
          · exact hle
      · exact attempts_ended hends delay left _

/-- Whatever a call comes to at each of its attempts and whichever jitters are drawn, it is made
with the numbers from one to `k`, where `k` is the greatest number of attempts or that of the
first attempt that does not fail in a way that may pass. After every attempt but the last one
there is one pause, for its delay. The last attempt decides the result. -/
theorem attempts_numbered (maxAttempts : ℕ) (b : RetryBackoff) (ending : ℕ → Except ε α)
    (draw : ℕ → ℕ) :
    ∃ k, IsLeast (insert (max 1 maxAttempts) {n | 1 ≤ n ∧ passing (ending n) = false}) k ∧
      Retry.run maxAttempts (seenCall ending)
          (seenPause fun retries => b.delayDrawn retries (draw retries)) [] =
        ((ending k).mapError (⟨k, ·⟩),
          ((List.range (k - 1)).flatMap fun i =>
            [.attempt (i + 1), .pause (b.delayDrawn i (draw i))]) ++ [.attempt k]) ∧
      ∀ e, ending k = .error e →
        ((⟨k, e⟩ : Abandoned ε).isTerminal = true ↔ passing (ending k) = false) := by
  obtain ⟨k, hleast, hrun⟩ := attempts_seen ending
    (fun retries => b.delayDrawn retries (draw retries)) 1 (maxAttempts - 1) (Nat.le_refl 1)
  have hmax : 1 + (maxAttempts - 1) = max 1 maxAttempts := by omega
  rw [hmax] at hleast
  apply Exists.intro k
  refine ⟨hleast, hrun, ?_⟩
  intro e he
  rw [he]
  simp [Abandoned.isTerminal, passing]

end Retry

end LiveEvents
