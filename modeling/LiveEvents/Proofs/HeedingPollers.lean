import LiveEvents.Poll.Prices
import LiveEvents.Poll.Schedules
import LiveEvents.Proofs.ProgramCourses
import Mathlib.Tactic.SplitIfs

/-!
# Pollers heed a stop, and nothing else ends them

A poller is told of a stop where it asks for one: before a part that can be stopped, wherever such a
part has waited, and before the next cycle. Whatever else it is told, be it failed requests,
documents that cannot be read or writes that went wrong, it goes on; and once it is told of a stop
it asks nothing more and ends.
-/

namespace LiveEvents.Poll

/-- A poller may ask as long as it was not told of a stop. -/
def heeding : Setting Action Action.Reply Bool where
  ready _ told := told = false
  moves
    | .stopRequested, told, stopped, told' => told' = (told || stopped)
    | .nextCycle, told, due, told' => told' = (told || !due)
    | _, told, _, told' => told' = told

/-- The action belongs to the work of a cycle: it looks neither for a stop nor for the next cycle,
and it counts no cycle. -/
def Action.isWork : Action → Bool
  | .stopRequested | .nextCycle | .count (.poll _ _) => false
  | _ => true

namespace Task

variable {α β : Type}

/-- The part does nothing but work, whatever comes of it. -/
def Works : Task α → Prop
  | .done _ => True
  | .ask a next => a.isWork = true ∧ ∀ r, Works (next r)

theorem works_bind {t : Task α} {f : α → Task β} (h : Works t) (hf : ∀ a, Works (f a)) :
    Works (t >>= f) := by
  induction t with
  | done a => exact hf a
  | ask a next ih => exact ⟨h.1, fun r => ih r (h.2 r)⟩

theorem works_act {a : Action} (h : a.isWork = true) : Works (act a) := ⟨h, fun _ => trivial⟩

/-- The part cannot be told of a stop. -/
def Oblivious (t : Task α) : Prop := t.Always heeding (fun _ told => told = false) false

/-- The cycle is broken off exactly if it is told of a stop. -/
def Heeds (cycle : Task Bool) : Prop :=
  cycle.Always heeding (fun complete told => complete = !told) false

theorem not_always_told (t : Task α) : ¬t.Always heeding (fun _ told => told = false) true := by
  cases t with
  | done a => exact nofun
  | ask a next => exact fun h => nomatch h.1

theorem oblivious_act {a : Action} (h : a ≠ .stopRequested) (h' : a ≠ .nextCycle) :
    Oblivious (act a) := by
  refine ⟨rfl, fun r told hmoves => ?_⟩
  cases a with
  | stopRequested => exact absurd rfl h
  | nextCycle => exact absurd rfl h'
  | get _ | draw _ | pause _ | write _ | clock | count _ => exact hmoves

theorem oblivious_of_works {t : Task α} (h : Works t) : Oblivious t := by
  induction t with
  | done a => rfl
  | ask a next ih =>
    refine ⟨rfl, fun r told hmoves => ?_⟩
    have htold : told = false := by
      cases a with
      | stopRequested | nextCycle => cases h.1
      | get _ | draw _ | pause _ | write _ | clock | count _ => exact hmoves
    subst htold
    exact ih r (h.2 r)

/-! ## Parts that can be stopped -/

/-- A part that can be stopped has no result exactly if it is told of a stop. -/
def Stoppable (t : Task (Option α)) : Prop :=
  t.Always heeding (fun result told => result.isNone = told) false

theorem stoppable_unlessStopped {t : Task (Option α)} (h : Stoppable t) :
    Stoppable (unlessStopped t) := by
  refine ⟨rfl, fun stopped told hmoves => ?_⟩
  obtain rfl : told = stopped := hmoves
  cases told with
  | true => exact rfl
  | false => exact h

theorem stoppable_guarded {t : Task α} (h : Oblivious t) : Stoppable (guarded t) := by
  induction t with
  | done a => exact rfl
  | ask a next ih =>
    refine ⟨rfl, fun r told hmoves => ?_⟩
    have hnext := h.2 r told hmoves
    cases told with
    | true => exact absurd hnext (not_always_told _)
    | false =>
      dsimp only
      split_ifs
      · exact stoppable_unlessStopped (ih r hnext)
      · exact ih r hnext

theorem stoppable_interruptible {t : Task α} (h : Oblivious t) : Stoppable (interruptible t) :=
  stoppable_unlessStopped (stoppable_guarded h)

/-! ## What pollers are made of -/

theorem works_attempts {ε : Type} [Retryable ε] {call : Nat → Task (Except ε α)}
    {pause : Nat → Task Unit} (hcall : ∀ n, Works (call n)) (hpause : ∀ n, Works (pause n))
    (attempt left : Nat) : Works (Retry.attempts call pause attempt left) := by
  induction left generalizing attempt with
  | zero => exact works_bind (hcall attempt) fun _ => trivial
  | succ left ih =>
    apply works_bind (hcall attempt)
    intro result
    cases result with
    | ok value => trivial
    | error e =>
      dsimp only
      split_ifs
      · exact works_bind (hpause _) fun _ => ih _
      · trivial

theorem works_fetch (maxAttempts : Nat) (backoff : RetryBackoff) (request : Http.Request)
    (read : Except String Http.Response → Except Http.FetchError α) :
    Works (fetch maxAttempts backoff request read) := by
  apply works_attempts
  · exact fun _ => works_bind (works_act rfl) fun _ => trivial
  · exact fun _ => works_bind (works_act rfl) fun _ => works_act rfl

theorem works_write (source : String) (observe : Instant → Observation) :
    Works (write source observe) := by
  apply works_bind (works_act rfl)
  intro _
  apply works_bind (works_act rfl)
  intro now
  apply works_bind (works_act rfl)
  intro result
  exact works_bind (works_act rfl) fun _ => trivial

theorem heeds_bind {t : Task α} {f : α → Task Bool} (h : Oblivious t) (hf : ∀ a, Heeds (f a)) :
    Heeds (t >>= f) := by
  refine (Program.always_bind ..).mpr (h.imp ?_)
  rintro a told rfl
  exact hf a

/-- A cycle goes on after a part that can be stopped, unless that part was. -/
theorem heeds_interruptible {t : Task α} {f : Option α → Task Bool} (h : Oblivious t)
    (hnone : f none = pure false) (hsome : ∀ a, Heeds (f (some a))) :
    Heeds (interruptible t >>= f) := by
  refine (Program.always_bind ..).mpr ((stoppable_interruptible h).imp ?_)
  rintro result told rfl
  cases result with
  | none =>
    rw [hnone]
    exact rfl
  | some a => exact hsome a

/-- A poller has ended exactly if it was told of a stop. -/
theorem ends_repeated {cycle : Task Bool} (h : Heeds cycle) (rounds : Nat) :
    (repeated cycle rounds).Always heeding (fun ended told => ended = told) false := by
  induction rounds with
  | zero => exact rfl
  | succ rounds ih =>
    refine ⟨rfl, fun due told hmoves => ?_⟩
    obtain rfl : told = !due := hmoves
    cases due with
    | false => exact rfl
    | true =>
      change (cycle >>= fun complete =>
        if complete then repeated cycle rounds else pure true).Always _ _ false
      refine (Program.always_bind ..).mpr (h.imp ?_)
      intro complete told hcomplete
      cases told with
      | true =>
        obtain rfl : complete = false := hcomplete
        exact rfl
      | false =>
        obtain rfl : complete = true := hcomplete
        exact ih

end Task

/-! ## The two pollers -/

open LiveEvents.Poll.Task

namespace Prices

variable (s : PricePollSettings) (identity : Identity)

theorem heeds_cycleFrom (complete : Bool) (symbols : List String) :
    Heeds (cycleFrom s identity complete symbols) := by
  induction symbols generalizing complete with
  | nil => exact heeds_bind (oblivious_act nofun nofun) fun _ => rfl
  | cons symbol rest ih =>
    refine heeds_interruptible (oblivious_of_works (works_fetch _ _ _ _)) rfl fun result => ?_
    cases result with
    | ok tick => exact heeds_bind (oblivious_of_works (works_write _ _)) fun _ => ih complete
    | error e => exact ih false

theorem ends_run (rounds : Nat) :
    (run s identity rounds).Always heeding (fun ended told => ended = told) false :=
  ends_repeated (heeds_cycleFrom s identity true s.symbols) rounds

end Prices

namespace Schedules

variable (s : SchedulePollSettings) (identity : Identity)

theorem works_writeAll (report : SyncReport) (games : List Game) :
    Works (writeAll identity report games) := by
  induction games generalizing report with
  | nil => trivial
  | cons game rest ih => exact works_bind (works_write _ _) fun _ => ih _

theorem works_syncDate (date : Date) : Works (syncDate s identity date) := by
  apply works_bind (works_fetch _ _ _ _)
  intro result
  cases result with
  | ok document => exact works_bind (works_writeAll identity _ _) fun _ => trivial
  | error e => trivial

theorem works_syncAll (report : SyncReport) (dates : List Date) :
    Works (syncAll s identity report dates) := by
  induction dates generalizing report with
  | nil => trivial
  | cons date rest ih =>
    apply works_bind (works_syncDate s identity date)
    intro result
    cases result with
    | ok day => exact ih _
    | error e => exact ih _

theorem heeds_cycle : Heeds (cycle s identity) := by
  refine heeds_bind (oblivious_act nofun nofun) fun now => ?_
  refine heeds_interruptible (oblivious_of_works (works_syncAll s identity _ _)) rfl
    fun report => ?_
  exact heeds_bind (oblivious_act nofun nofun) fun _ => rfl

theorem ends_run (rounds : Nat) :
    (run s identity rounds).Always heeding (fun ended told => ended = told) false :=
  ends_repeated (heeds_cycle s identity) rounds

end Schedules

end LiveEvents.Poll
