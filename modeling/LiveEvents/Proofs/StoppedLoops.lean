import LiveEvents.Proofs.HeedingPollers
import LiveEvents.Proofs.HeldStreams
import LiveEvents.Proofs.ReconnectWaits
import LiveEvents.Proofs.StopRequests
import LiveEvents.Supervisor

/-!
# What ends the loop of a crawler

The loop of a crawler is a feed that listens or a poller. It is woken again and again, finds
whatever there is to find, and looks at its stop signal where it waits. It may meet with any fault
and in any order; it finishes only when its signal has fired. It panics where it has no time between
heartbeats or cycles, or where its delay cannot grow, which the rules of a configuration rule out,
and where the clock cannot show when the feed would be idle, which they do not.
-/

namespace LiveEvents

namespace StopSignal

/-- A signal fires when it is looked at. -/
theorem fired_isStopped (s : StopSignal) : s.isStopped.2.fired = s.isStopped.1 :=
  Watched.fired_check { signal := s }

theorem isStopped_of_fired {s : StopSignal} (h : s.fired = true) : s.isStopped = (true, s) := by
  simp [isStopped, h]

theorem isStopped_of_idle {s : StopSignal} (h : s.isStopped.1 = false) : s.isStopped.2 = s := by
  have hdue : Watched.due { signal := s } = false :=
    (Watched.check_fst { signal := s }).symm.trans h
  exact congrArg Watched.signal (Watched.check_of_not_due hdue)

/-- To look at a signal does not change what it tells. -/
theorem isStopped_isStopped (s : StopSignal) : s.isStopped.2.isStopped.1 = s.isStopped.1 := by
  cases hstopped : s.isStopped.1 with
  | true => rw [isStopped_of_fired (s.fired_isStopped.trans hstopped)]
  | false => rw [isStopped_of_idle hstopped, hstopped]

theorem fired_change (s : StopSignal) (c : Change) : (s.change c).fired = s.fired := by
  cases c <;> rfl

end StopSignal

namespace Feed.Task

variable {p : Plan} {t : Task} {m : Moment} {s : Step}

/-- A feed comes to its end only where it finds itself stopped. -/
theorem Happens.ended (h : Happens p t m s) (hended : s.task.phase = .ended) :
    t.phase = .ended ∨ m.stopped = true := by
  cases h with
  | blocked | wrote | quiet => exact .inl hended
  | stops _ hstopped => exact .inr hstopped
  | breaks | subscribes | overruns | beats | plans | panics | redials => cases hended
  | listens =>
    simp only [listen] at hended
    split_ifs at hended
  | skips _ hreads | hands _ hreads => cases hreads <;> cases hended

/-- A feed panics only where it has no time between heartbeats, where its delay cannot grow or where
the clock runs out. -/
theorem Happens.panicked (h : Happens p t m s) (hpanicked : s.task.phase = .panicked) :
    t.phase = .panicked ∨ p.settings.heartbeatInterval.nanos = 0 ∨
      (∃ error, t.backoff.next = .error error) ∨
      lastTime < m.now + max p.settings.heartbeatInterval.nanos p.settings.idleTimeout.nanos := by
  cases h with
  | blocked | wrote | quiet => exact .inl hpanicked
  | panics _ _ hnext => exact .inr (.inr (.inl ⟨_, hnext⟩))
  | overruns _ _ _ hlate =>
    have hle := Nat.le_max_right p.settings.heartbeatInterval.nanos p.settings.idleTimeout.nanos
    exact .inr (.inr (.inr (Nat.lt_of_lt_of_le hlate (Nat.add_le_add_left hle _))))
  | stops | breaks | subscribes | beats | plans | redials => cases hpanicked
  | listens =>
    simp only [listen] at hpanicked
    split_ifs at hpanicked with hbeat
    rcases hbeat with hbeat | hlate
    · exact .inr (.inl hbeat)
    · have hle := Nat.le_max_left p.settings.heartbeatInterval.nanos p.settings.idleTimeout.nanos
      exact .inr (.inr (.inr (Nat.lt_of_lt_of_le hlate (Nat.add_le_add_left hle _))))
  | skips _ hreads | hands _ hreads => cases hreads <;> cases hpanicked

end Feed.Task

/-! ## Loops -/

inductive Loop where
  | listening (plan : Feed.Plan) (task : Feed.Task)
  | polling (interval : Duration) (rest : Poll.Task Bool)

/-- What a loop finds when it is woken. -/
structure Waking where
  moment : Feed.Moment
  /-- Whether the next cycle of a poller is due. -/
  due : Bool
  reply : (a : Poll.Action) → a.Reply

namespace Loop

def feed (p : Feed.Plan) (now : Feed.Time) : Loop := .listening p (.start p now)

/-- A poller of prices that was just started, for at most so many cycles. -/
def prices (p : PricePlan) (rounds : Nat) : Loop :=
  .polling p.settings.pollInterval (Poll.Prices.run p.settings p.identity rounds)

/-- A poller of schedules that was just started, for at most so many cycles. -/
def schedules (p : SchedulePlan) (rounds : Nat) : Loop :=
  .polling p.settings.pollInterval (Poll.Schedules.run p.settings p.identity rounds)

/-- How the loop has ended, if it has. A poller without time between its cycles panics at once; one
that has used up its rounds is not over. -/
def ending? : Loop → Option Ending
  | .listening _ t =>
    match t.phase with
    | .ended => some .finished
    | .panicked => some .panicked
    | _ => none
  | .polling interval rest =>
    if interval.nanos = 0 then some .panicked
    else
      match rest with
      | .done true => some .finished
      | _ => none

/-- The loop came to its end by itself. -/
def Finished : Loop → Prop
  | .listening _ t => t.phase = .ended
  | .polling _ rest => rest = .done true

end Loop

structure Runner where
  loop : Loop
  signal : StopSignal

namespace Runner

/-- What the task of a feed learns of its signal: nothing while it writes a tick. -/
def look (signal : StopSignal) (t : Feed.Task) : Bool × StopSignal :=
  if t.writing then (false, signal) else signal.isStopped

/-- One step of a poller. Where it asks for a stop it looks at its signal, and a stop comes before
the next cycle. -/
def wakePoller (signal : StopSignal) (w : Waking) : Poll.Task Bool → Poll.Task Bool × StopSignal
  | .done ended => (.done ended, signal)
  | .ask .stopRequested next =>
    let (stopped, signal) := signal.isStopped
    (next stopped, signal)
  | .ask .nextCycle next =>
    let (stopped, signal) := signal.isStopped
    (if stopped then next false else if w.due then next true else .ask .nextCycle next, signal)
  | .ask a next => (next (w.reply a), signal)

def wake (r : Runner) (w : Waking) : Runner :=
  match r.loop with
  | .listening p t =>
    let (stopped, signal) := look r.signal t
    { loop := .listening p (t.step p { w.moment with stopped }).task, signal }
  | .polling interval rest =>
    let (rest, signal) := wakePoller r.signal w rest
    { loop := .polling interval rest, signal }

/-- Others change what the signal listens to, or the loop is woken. -/
inductive Event where
  | change (c : StopSignal.Change)
  | wake (w : Waking)

def act (r : Runner) : Event → Runner
  | .change c => { r with signal := r.signal.change c }
  | .wake w => r.wake w

def after (r : Runner) (events : List Event) : Runner := events.foldl act r

variable {r : Runner}

/-- The only thing a loop does to its signal is to look at it. -/
theorem signal_wake (r : Runner) (w : Waking) :
    (r.wake w).signal = r.signal ∨ (r.wake w).signal = r.signal.isStopped.2 := by
  obtain ⟨loop, signal⟩ := r
  cases loop with
  | listening p t =>
    simp only [wake, look]
    split_ifs
    · exact .inl rfl
    · exact .inr rfl
  | polling interval rest =>
    cases rest with
    | done ended => exact .inl rfl
    | ask a next =>
      cases a with
      | stopRequested | nextCycle => exact .inr rfl
      | get _ | draw _ | pause _ | write _ | clock | count _ => exact .inl rfl

/-- The signal has fired, or the loop goes on and heeds it. -/
def Heeds (r : Runner) : Prop :=
  r.signal.fired = true ∨
    match r.loop with
    | .listening _ t => t.phase ≠ .ended
    | .polling _ rest => rest.Always Poll.heeding (fun ended told => ended = told) false

theorem Heeds.fired (h : r.Heeds) (hfinished : r.loop.Finished) : r.signal.fired = true := by
  obtain ⟨loop, signal⟩ := r
  rcases h with hfired | hgoes
  · exact hfired
  cases loop with
  | listening p t => exact absurd hfinished hgoes
  | polling interval rest =>
    obtain rfl : rest = .done true := hfinished
    cases hgoes

theorem fired_of_look {signal : StopSignal} {t : Feed.Task} (h : (look signal t).1 = true) :
    (look signal t).2.fired = true := by
  unfold look at h ⊢
  split_ifs at h ⊢
  exact signal.fired_isStopped.trans h

/-- A poller that is told of no stop has not ended, and one that is told of one has let the signal
fire. -/
theorem heeds_wakePoller {rest : Poll.Task Bool}
    (h : rest.Always Poll.heeding (fun ended told => ended = told) false) (interval : Duration)
    (signal : StopSignal) (w : Waking) :
    Heeds ⟨.polling interval (wakePoller signal w rest).1, (wakePoller signal w rest).2⟩ := by
  have hlook := signal.fired_isStopped
  cases rest with
  | done ended => exact .inr h
  | ask a next =>
    obtain ⟨-, hnext⟩ := h
    cases a with
    | stopRequested =>
      cases hstopped : signal.isStopped.1 with
      | true => exact .inl (hlook.trans hstopped)
      | false =>
        refine .inr ?_
        simp only [wakePoller, hstopped]
        exact hnext false false rfl
    | nextCycle =>
      cases hstopped : signal.isStopped.1 with
      | true => exact .inl (hlook.trans hstopped)
      | false =>
        refine .inr ?_
        simp only [wakePoller, hstopped, Bool.false_eq_true, if_false]
        split_ifs
        · exact hnext true false rfl
        · exact ⟨rfl, hnext⟩
    | get _ | draw _ | pause _ | write _ | clock | count _ => exact .inr (hnext _ false rfl)

theorem Heeds.wake (h : r.Heeds) (w : Waking) : (r.wake w).Heeds := by
  rcases h with hfired | hgoes
  · left
    rcases r.signal_wake w with hsame | hlook
    · rwa [hsame]
    · rwa [hlook, StopSignal.isStopped_of_fired hfired]
  obtain ⟨loop, signal⟩ := r
  cases loop with
  | listening p t =>
    cases hstopped : (look signal t).1 with
    | true => exact .inl (fired_of_look hstopped)
    | false =>
      refine .inr fun hended => ?_
      rcases (Feed.Task.happens_step p t _).ended hended with hphase | htold
      · exact hgoes hphase
      · cases hstopped.symm.trans htold
  | polling interval rest => exact heeds_wakePoller hgoes interval signal w

theorem Heeds.act (h : r.Heeds) (e : Event) : (r.act e).Heeds := by
  cases e with
  | change c => exact h.imp_left (r.signal.fired_change c).trans
  | wake w => exact h.wake w

theorem Heeds.after (h : r.Heeds) (events : List Event) : (r.after events).Heeds := by
  induction events generalizing r with
  | nil => exact h
  | cons e rest ih => exact ih (h.act e)

end Runner

/-- A loop that was just started, a poller for at most so many rounds. -/
inductive Loop.Starts : Loop → Prop
  | feed (p : Feed.Plan) (now : Feed.Time) : Starts (.feed p now)
  | prices (p : PricePlan) (rounds : Nat) : Starts (.prices p rounds)
  | schedules (p : SchedulePlan) (rounds : Nat) : Starts (.schedules p rounds)

theorem Loop.Starts.heeds {loop : Loop} (h : loop.Starts) (signal : StopSignal) :
    Runner.Heeds ⟨loop, signal⟩ := by
  cases h with
  | feed p now => exact .inr nofun
  | prices p rounds => exact .inr (Poll.Prices.ends_run p.settings p.identity rounds)
  | schedules p rounds => exact .inr (Poll.Schedules.ends_run p.settings p.identity rounds)

/-! ## Loops that cannot panic -/

/-- The feed has time between its heartbeats, sends one before it may be idle, and its delay can
grow. -/
structure Feed.Task.Steady (p : Plan) (t : Task) : Prop where
  beat : 0 < p.settings.heartbeatInterval.nanos
  beat_le : p.settings.heartbeatInterval.nanos ≤ p.settings.idleTimeout.nanos
  phase : t.phase ≠ .panicked
  delay : ∃ least greatest, 2 ≤ least ∧ greatest ≤ 18446744073709551615 * 1000000 ∧
    t.backoff.Within least greatest

theorem Feed.Task.Steady.step {p : Plan} {t : Task} (h : Steady p t) {m : Moment}
    (hclock : m.now + p.settings.idleTimeout.nanos ≤ lastTime) : Steady p (t.step p m).task := by
  have hhappens := happens_step p t m
  obtain ⟨least, greatest, hleast, hgreatest, hwithin⟩ := h.delay
  obtain ⟨b', hnext, hwithin', -⟩ := hwithin.next hleast hgreatest
  refine ⟨h.beat, h.beat_le, fun hpanicked => ?_, least, greatest, hleast, hgreatest, ?_⟩
  · rcases hhappens.panicked hpanicked with hphase | hbeat | ⟨error, herror⟩ | hlate
    · exact h.phase hphase
    · exact absurd hbeat h.beat.ne'
    · cases hnext.symm.trans herror
    · rw [max_eq_right h.beat_le] at hlate
      exact absurd hclock (Nat.not_le_of_gt hlate)
  · cases hhappens.delays (by simp [hnext]) with
    | kept hbackoff _ _ => rwa [hbackoff]
    | reset hbackoff _ _ => exact hbackoff ▸ hwithin.reset.1
    | grown _ hplanned hbackoff _ =>
      obtain ⟨-, rfl⟩ := Prod.mk.inj (Except.ok.inj (hnext.symm.trans hplanned))
      rwa [hbackoff]
    | panicked hbackoff _ _ =>
      rcases hbackoff with hsame | hreset
      · rwa [hsame]
      · exact hreset ▸ hwithin.reset.1

namespace Loop

/-- From now on the feed would be idle only after the clock has run out. Pollers ask for no such
time. -/
def OutlastsClock (now : Feed.Time) : Loop → Prop
  | .listening p _ => Feed.lastTime < now + p.settings.idleTimeout.nanos
  | .polling _ _ => False

/-- The loop has time between its heartbeats or its cycles, and its delay can grow. -/
def Steady : Loop → Prop
  | .listening p t => Feed.Task.Steady p t
  | .polling interval _ => 0 < interval.nanos

end Loop

theorem Runner.outlastsClock_wake (r : Runner) (w : Waking) (now : Feed.Time) :
    (r.wake w).loop.OutlastsClock now ↔ r.loop.OutlastsClock now := by
  obtain ⟨loop, signal⟩ := r
  cases loop <;> exact Iff.rfl

/-- A loop stays as it should be while the clock can show when it would be idle. -/
theorem Runner.steady_wake {r : Runner} (h : r.loop.Steady) {w : Waking}
    (hclock : ¬r.loop.OutlastsClock w.moment.now) : (r.wake w).loop.Steady := by
  obtain ⟨loop, signal⟩ := r
  cases loop with
  | listening p t => exact Feed.Task.Steady.step h (Nat.le_of_not_lt hclock)
  | polling interval rest => exact h

end LiveEvents
