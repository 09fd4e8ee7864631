import LiveEvents.Stop
import Mathlib.Data.List.Induction
import Mathlib.Tactic.SplitIfs

/-!
# When a stop signal fires

A signal is checked, which never waits, or it is waited for, and a wait may be given up between two
polls. A check takes what is queued on the shutdown channel and looks at the flag; a wait goes by
the versions of the flag that it has seen. Both tell the same, and what they tell depends only on
what others have requested and on whether one of them has told it before.
-/

namespace LiveEvents

namespace Subscription

def signals (s : Subscription) : Bool :=
  s.lagging || decide (0 < s.unread) || s.closed

variable {s : Subscription}

theorem receive_ne_nothing (s : Subscription) : (s.receive.1 != .nothing) = s.signals := by
  unfold receive signals
  split_ifs with hlag hunread hclosed
  · simp [hlag]
  · simp [hunread]
  · simp [hclosed]
  · simp [hlag, hunread, hclosed]

theorem receive_of_not_signals (h : s.signals = false) : s.receive = (.nothing, s) := by
  simp only [signals, Bool.or_eq_false_iff, decide_eq_false_iff_not] at h
  obtain ⟨⟨hlag, hunread⟩, hclosed⟩ := h
  simp [receive, hlag, hunread, hclosed]

/-- A message is noticed also if there is no room for it. -/
@[simp] theorem signals_send (s : Subscription) : s.send.signals = true := by
  unfold send signals
  split_ifs with hclosed hroom
  · simp [hclosed]
  · simp
  · simp

@[simp] theorem signals_close (s : Subscription) : s.close.signals = true := by
  simp [close, signals]

end Subscription

namespace StopSignal

/-! ## What was requested -/

def Change.setting? : Change → Option Bool
  | .setFlag value => some value
  | _ => none

/-- What a flag shows after these changes: what it was last set to while someone held it. -/
def shownAfter (f : Flag) (changes : List Change) : Bool :=
  let heard := if f.held then changes.takeWhile (· ≠ .dropFlag) else []
  (heard.filterMap Change.setting?).getLast?.getD f.value

/-- A message was sent, nobody is left who could send one, or the flag is up. -/
def Requested (flag : Option Flag) (changes : List Change) : Prop :=
  .shutdown ∈ changes ∨ .dropShutdown ∈ changes ∨ flag.any (shownAfter · changes) = true

theorem shownAfter_nil (f : Flag) : shownAfter f [] = f.value := by
  simp [shownAfter]

theorem shownAfter_set (f : Flag) (value : Bool) (changes : List Change) :
    shownAfter (f.set value) changes = shownAfter f (.setFlag value :: changes) := by
  by_cases h : f.held = true
  · simp [shownAfter, Flag.set, h, Change.setting?, List.getLast?_cons]
  · simp [shownAfter, Flag.set, h]

theorem shownAfter_drop (f : Flag) (changes : List Change) :
    shownAfter f.drop changes = shownAfter f (.dropFlag :: changes) := by
  simp [shownAfter, Flag.drop]

/-! ## A signal and its owner -/

/-- Others change what a signal listens to; its owner checks it, polls a wait for it, which begins
if there is none, or gives the wait up. -/
inductive Event where
  | change (c : Change)
  | check
  | poll
  | cancel
  deriving DecidableEq, Repr

def Event.change? : Event → Option Change
  | .change c => some c
  | _ => none

/-- A signal and the wait for it. There is none before it has begun. -/
structure Watched where
  signal : StopSignal
  wait : Flag.Wait := .begun
  deriving DecidableEq, Repr

namespace Watched

def start (capacity : Nat) (flag : Option Flag) : Watched where
  signal := { shutdown := { capacity }, flag }

/-- Checks the signal, for which no wait can be under way. -/
def check (w : Watched) : Bool × Watched :=
  let (fired, signal) := w.signal.isStopped
  (fired, { signal })

/-- Polls the wait, which is over when it fires. -/
def poll (w : Watched) : Bool × Watched :=
  let (fired, signal, wait) := w.signal.poll w.wait
  (fired, { signal, wait := if fired then .begun else wait })

def cancel (w : Watched) : Watched :=
  { w with wait := .begun }

/-- What an event tells the owner, and the signal after it. -/
def act (w : Watched) : Event → Option Bool × Watched
  | .change c => (none, { w with signal := w.signal.change c })
  | .check => (some w.check.1, w.check.2)
  | .poll => (some w.poll.1, w.poll.2)
  | .cancel => (none, w.cancel)

def after (w : Watched) (events : List Event) : Watched :=
  events.foldl (fun w e => (w.act e).2) w

/-- What the checks and polls among these events tell, in their order. -/
def answers (w : Watched) : List Event → List Bool
  | [] => []
  | e :: rest => (w.act e).1.toList ++ answers (w.act e).2 rest

/-- The signal has fired, or there is something that makes it fire. -/
def due (w : Watched) : Bool :=
  w.signal.fired || w.signal.shutdown.signals || w.signal.flag.any (·.value)

/-- What a wait has learnt of the flag: the version it has seen was not up. -/
def Knows (f : Flag) : Flag.Wait → Prop
  | .begun => True
  | .watching => f.seen ≤ f.version ∧ (f.version = f.seen → f.value = false)
  | .parked => f.value = false ∧ f.held = false

def Sound (w : Watched) : Prop :=
  ∀ f ∈ w.signal.flag, Knows f w.wait

variable {w : Watched}

/-! ## What a check and a poll tell -/

theorem check_fst (w : Watched) : w.check.1 = w.due := by
  cases h : w.signal.fired with
  | true => simp [check, isStopped, due, h]
  | false => simp [check, isStopped, due, h, Subscription.receive_ne_nothing]

theorem check_of_not_due (h : w.due = false) : w.check.2 = w.cancel := by
  obtain ⟨⟨shutdown, flag, fired⟩, wait⟩ := w
  simp only [due, Bool.or_eq_false_iff] at h
  obtain ⟨⟨rfl, hsignals⟩, hflag⟩ := h
  simp [check, isStopped, cancel, hflag, Subscription.receive_of_not_signals hsignals]

/-- A wait that has looked at a flag in vain goes on knowing what it saw. -/
theorem Knows.look (f : Flag) (h : f.value = false) : Knows f.look.2.1 f.look.2.2 := by
  unfold Flag.look
  split_ifs with hheld
  · exact ⟨Nat.le_refl _, fun _ => h⟩
  · exact ⟨h, by simpa using hheld⟩

theorem Knows.poll_fst {f : Flag} {wait : Flag.Wait} (h : Knows f wait) :
    (f.poll wait).1 = f.value := by
  cases wait with
  | begun => rfl
  | watching =>
    by_cases hv : f.version = f.seen
    · simp [Flag.poll, hv, h.2 hv]
    · simp [Flag.poll, hv, Flag.look]
  | parked => exact h.1.symm

theorem Knows.poll {f : Flag} {wait : Flag.Wait} (h : Knows f wait) (hdown : f.value = false) :
    Knows (f.poll wait).2.1 (f.poll wait).2.2 := by
  cases wait with
  | begun => exact Knows.look f hdown
  | watching =>
    by_cases hv : f.version = f.seen
    · simp only [Flag.poll, hv, ne_eq, not_true_eq_false, if_false]
      split_ifs with hheld
      · exact h
      · exact ⟨hdown, by simpa using hheld⟩
    · simp only [Flag.poll, ne_eq, hv, not_false_eq_true, if_true]
      exact Knows.look f hdown
  | parked => exact h

/-- A poll of a flag changes nothing but which version was seen. -/
theorem poll_shown (f : Flag) (wait : Flag.Wait) :
    (f.poll wait).2.1.value = f.value ∧ (f.poll wait).2.1.held = f.held := by
  cases wait with
  | begun | parked => exact ⟨rfl, rfl⟩
  | watching =>
    by_cases hv : f.version = f.seen
    · simp [Flag.poll, hv]
    · simp [Flag.poll, hv, Flag.look]

theorem poll_fst (hs : w.Sound) : w.poll.1 = w.due := by
  cases hfired : w.signal.fired with
  | true => simp [poll, StopSignal.poll, due, hfired]
  | false =>
    cases hsignals : w.signal.shutdown.signals with
    | true =>
      have hreceipt := Subscription.receive_ne_nothing w.signal.shutdown
      simp [poll, StopSignal.poll, due, hfired, hsignals, hreceipt]
    | false =>
      cases hflag : w.signal.flag with
      | none =>
        simp [poll, StopSignal.poll, due, hfired, hsignals, hflag,
          Subscription.receive_of_not_signals hsignals]
      | some f =>
        simp [poll, StopSignal.poll, due, hfired, hsignals, hflag,
          Subscription.receive_of_not_signals hsignals, (hs f hflag).poll_fst]

/-- A poll in vain leaves the signal as it was, but for the version of the flag that was seen. -/
theorem poll_of_not_due (hs : w.Sound) (h : w.due = false) :
    w.poll.2.signal.fired = false ∧ w.poll.2.signal.shutdown = w.signal.shutdown ∧
      (w.poll.2.signal.flag.map fun f => (f.value, f.held)) =
        (w.signal.flag.map fun f => (f.value, f.held)) ∧ w.poll.2.Sound := by
  obtain ⟨⟨shutdown, flag, fired⟩, wait⟩ := w
  simp only [due, Bool.or_eq_false_iff] at h
  obtain ⟨⟨rfl, hsignals⟩, hflag⟩ := h
  have hreceive := Subscription.receive_of_not_signals hsignals
  cases flag with
  | none =>
    have hpoll : poll ⟨{ shutdown }, wait⟩ = (false, ⟨{ shutdown }, wait⟩) := by
      simp [poll, StopSignal.poll, hreceive]
    rw [hpoll]
    exact ⟨rfl, rfl, rfl, nofun⟩
  | some f =>
    have hdown : f.value = false := hflag
    have hknows := hs f rfl
    have hpoll : poll ⟨{ shutdown, flag := some f }, wait⟩ =
        (false, ⟨{ shutdown, flag := some (f.poll wait).2.1 }, (f.poll wait).2.2⟩) := by
      simp [poll, StopSignal.poll, hreceive, hknows.poll_fst, hdown]
    rw [hpoll]
    obtain ⟨hvalue, hheld⟩ := poll_shown f wait
    refine ⟨rfl, rfl, by simp [hvalue, hheld], ?_⟩
    intro f' hf'
    cases hf'
    exact hknows.poll hdown

/-! ## What an event leaves -/

theorem fired_check (w : Watched) : w.check.2.signal.fired = w.check.1 := by
  cases h : w.signal.fired with
  | true => simp [check, isStopped, h]
  | false => simp [check, isStopped, h]

theorem fired_poll (w : Watched) : w.poll.2.signal.fired = w.poll.1 := by
  cases h : w.signal.fired with
  | true => simp [poll, StopSignal.poll, h]
  | false =>
    simp only [poll, StopSignal.poll, h, Bool.false_eq_true, if_false]
    split_ifs
    · rfl
    · cases w.signal.flag with
      | none => rfl
      | some f => rfl

/-- A wait that fires is over. -/
theorem wait_poll (h : w.poll.1 = true) : w.poll.2.wait = .begun := if_pos h

theorem Knows.change {f : Flag} {wait : Flag.Wait} (h : Knows f wait) :
    (∀ value, Knows (f.set value) wait) ∧ Knows f.drop wait := by
  cases wait with
  | begun => exact ⟨fun _ => trivial, trivial⟩
  | watching =>
    refine ⟨fun value => ?_, h⟩
    unfold Flag.set
    split_ifs
    · refine ⟨Nat.le_succ_of_le h.1, fun hv => ?_⟩
      have hseen := h.1
      have hv : f.version + 1 = f.seen := hv
      omega
    · exact h
  | parked =>
    refine ⟨fun value => ?_, ⟨h.1, rfl⟩⟩
    rwa [Flag.set, if_neg (by simp [h.2])]

theorem Sound.change (hs : w.Sound) (c : Change) :
    Sound { w with signal := w.signal.change c } := by
  intro f hf
  cases c with
  | shutdown | dropShutdown => exact hs f hf
  | setFlag value =>
    obtain ⟨f, hold, rfl⟩ := Option.map_eq_some_iff.mp hf
    exact (hs f hold).change.1 value
  | dropFlag =>
    obtain ⟨f, hold, rfl⟩ := Option.map_eq_some_iff.mp hf
    exact (hs f hold).change.2

theorem sound_of_begun (h : w.wait = .begun) : w.Sound := by
  intro f _
  rw [h]
  trivial

theorem Sound.act (hs : w.Sound) (e : Event) : (w.act e).2.Sound := by
  cases e with
  | change c => exact hs.change c
  | check | cancel => exact sound_of_begun rfl
  | poll =>
    cases hdue : w.due with
    | true => exact sound_of_begun (wait_poll ((poll_fst hs).trans hdue))
    | false => exact (poll_of_not_due hs hdue).2.2.2

/-- A check or a poll tells whether the signal is due. -/
theorem act_fst (hs : w.Sound) (e : Event) :
    (w.act e).1 = if e = .check ∨ e = .poll then some w.due else none := by
  cases e with
  | change c | cancel => rfl
  | check => simp [act, check_fst]
  | poll => simp [act, poll_fst hs]

/-- A check or a poll makes a signal that is due fire, and leaves any other as it was. -/
theorem act_snd (hs : w.Sound) {e : Event} (he : e = .check ∨ e = .poll) :
    (w.act e).2.signal.fired = w.due ∧
      (w.due = false → (w.act e).2.signal.shutdown = w.signal.shutdown ∧
        ((w.act e).2.signal.flag.map fun f => (f.value, f.held)) =
          w.signal.flag.map fun f => (f.value, f.held)) := by
  rcases he with rfl | rfl
  · refine ⟨(fired_check w).trans (check_fst w), fun hdue => ?_⟩
    simp only [act, check_of_not_due hdue]
    exact ⟨rfl, rfl⟩
  · refine ⟨(fired_poll w).trans (poll_fst hs), fun hdue => ?_⟩
    obtain ⟨-, hshutdown, hflag, -⟩ := poll_of_not_due hs hdue
    exact ⟨hshutdown, hflag⟩

/-! ## Runs -/

theorem answers_append (w : Watched) (events later : List Event) :
    w.answers (events ++ later) = w.answers events ++ (w.after events).answers later := by
  induction events generalizing w with
  | nil => rfl
  | cons e rest ih =>
    simp only [List.cons_append, answers, ih, List.append_assoc]
    rfl

theorem Sound.after (hs : w.Sound) (events : List Event) : (w.after events).Sound := by
  induction events generalizing w with
  | nil => exact hs
  | cons e rest ih => exact ih (hs.act e)

/-- What is requested goes by the value of a flag and by whether someone holds it. -/
theorem requested_congr {flag flag' : Option Flag} {changes : List Change}
    (h : (flag.map fun f => (f.value, f.held)) = flag'.map fun f => (f.value, f.held)) :
    Requested flag changes ↔ Requested flag' changes := by
  cases flag with
  | none =>
    cases flag' with
    | none => rfl
    | some f' => cases h
  | some f =>
    cases flag' with
    | none => cases h
    | some f' =>
      simp only [Option.map_some, Option.some.injEq, Prod.mk.injEq] at h
      simp [Requested, shownAfter, h.1, h.2]

theorem requested_change (s : StopSignal) (c : Change) (changes : List Change) :
    ((s.change c).shutdown.signals = true ∨ Requested (s.change c).flag changes) ↔
      (s.shutdown.signals = true ∨ Requested s.flag (c :: changes)) := by
  cases c with
  | shutdown | dropShutdown => simp [StopSignal.change, Requested]
  | setFlag value =>
    cases h : s.flag with
    | none => simp [StopSignal.change, Requested, h]
    | some f => simp [StopSignal.change, Requested, h, shownAfter_set]
  | dropFlag =>
    cases h : s.flag with
    | none => simp [StopSignal.change, Requested, h]
    | some f => simp [StopSignal.change, Requested, h, shownAfter_drop]

/-- A signal is due if it has fired, or if a stop was requested before or after. -/
theorem due_after (hs : w.Sound) (events : List Event) :
    (w.after events).due = true ↔ (w.signal.fired = true ∨ true ∈ w.answers events) ∨
      w.signal.shutdown.signals = true ∨
        Requested w.signal.flag (events.filterMap Event.change?) := by
  induction events generalizing w with
  | nil => simp [after, answers, due, Requested, shownAfter_nil, or_assoc]
  | cons e rest ih =>
    have hcons : w.after (e :: rest) = (w.act e).2.after rest := rfl
    rw [hcons, ih (hs.act e)]
    by_cases hasks : e = .check ∨ e = .poll
    · obtain ⟨hfired, hkept⟩ := act_snd hs hasks
      have hchange : e.change? = none := by rcases hasks with rfl | rfl <;> rfl
      simp only [answers, act_fst hs, if_pos hasks, hfired, hchange, List.filterMap_cons,
        Option.toList_some, List.singleton_append, List.mem_cons]
      cases hdue : w.due with
      | true => simp
      | false =>
        obtain ⟨hshutdown, hflag⟩ := hkept hdue
        have hnot : w.signal.fired = false := by
          simp only [due, Bool.or_eq_false_iff] at hdue
          exact hdue.1.1
        simp [hshutdown, requested_congr hflag, hnot]
    · cases e with
      | change c =>
        have hfired : (w.signal.change c).fired = w.signal.fired := by cases c <;> rfl
        have hc := requested_change w.signal c (rest.filterMap Event.change?)
        rw [← hfired]
        exact or_congr Iff.rfl hc
      | cancel => rfl
      | check | poll => simp at hasks

/-- A signal that has fired stays so. -/
theorem fired_act (hs : w.Sound) (hfired : w.signal.fired = true) (e : Event) :
    (w.act e).2.signal.fired = true := by
  have hdue : w.due = true := by simp [due, hfired]
  cases e with
  | change c => cases c <;> exact hfired
  | cancel => exact hfired
  | check => exact (act_snd hs (.inl rfl)).1.trans hdue
  | poll => exact (act_snd hs (.inr rfl)).1.trans hdue

theorem fired_after (hs : w.Sound) (hfired : w.signal.fired = true) (events : List Event) :
    (w.after events).signal.fired = true := by
  induction events generalizing w with
  | nil => exact hfired
  | cons e rest ih => exact ih (hs.act e) (fired_act hs hfired e)

/-- What was told once has fired. -/
theorem fired_of_told (hs : w.Sound) {events : List Event} (h : true ∈ w.answers events) :
    (w.after events).signal.fired = true := by
  induction events generalizing w with
  | nil => simp [answers] at h
  | cons e rest ih =>
    rcases List.mem_append.mp h with hnow | hlater
    · rw [act_fst hs] at hnow
      split_ifs at hnow with hasks
      · have hdue : w.due = true := (Option.some.inj (Option.mem_toList.mp hnow))
        exact fired_after (hs.act e) ((act_snd hs hasks).1.trans hdue) rest
      · cases hnow
    · exact ih (hs.act e) hlater

theorem answers_of_fired (hs : w.Sound) (hfired : w.signal.fired = true) (events : List Event) :
    ∀ b ∈ w.answers events, b = true := by
  induction events generalizing w with
  | nil => simp [answers]
  | cons e rest ih =>
    have hdue : w.due = true := by simp [due, hfired]
    simp only [answers, act_fst hs, hdue, List.mem_append, Option.mem_toList]
    rintro b (hb | hb)
    · split_ifs at hb
      exact (Option.some.inj hb).symm
    · exact ih (hs.act e) (fired_act hs hfired e) b hb

/-- What is told after a wait was given up is what would have been told without. -/
theorem answers_cancel (hs : w.Sound) (events : List Event) :
    w.cancel.answers events = w.answers events := by
  have hs' : w.cancel.Sound := hs.act .cancel
  induction events using List.reverseRecOn with
  | nil => rfl
  | append_singleton events e ih =>
    have hdue : (w.cancel.after events).due = (w.after events).due := by
      rw [Bool.eq_iff_iff, due_after hs', due_after hs, ih]
      rfl
    simp only [answers_append, answers, act_fst (hs.after events), act_fst (hs'.after events), ih,
      hdue]

theorem sound_start (capacity : Nat) (flag : Option Flag) : (start capacity flag).Sound :=
  sound_of_begun rfl

theorem due_after_start (capacity : Nat) (flag : Option Flag) (events : List Event) :
    ((start capacity flag).after events).due = true ↔
      true ∈ (start capacity flag).answers events ∨
        Requested flag (events.filterMap Event.change?) := by
  rw [due_after (sound_start capacity flag)]
  simp [start, Subscription.signals]

/-- At every moment a check and a poll tell the same: that the signal has fired if one of them told
so before, or if a stop was requested. A signal that has fired tells so from then on, and giving a
wait up loses nothing of what later checks and waits will tell. -/
theorem fires_iff_requested (capacity : Nat) (flag : Option Flag) (events : List Event) :
    let w := start capacity flag
    let now := w.after events
    (now.check.1 = true ↔
      true ∈ w.answers events ∨ Requested flag (events.filterMap Event.change?)) ∧
    (now.poll.1 = true ↔
      true ∈ w.answers events ∨ Requested flag (events.filterMap Event.change?)) ∧
    (true ∈ w.answers events → ∀ later, ∀ b ∈ now.answers later, b = true) ∧
    ∀ later, now.cancel.answers later = now.answers later := by
  intro w now
  have hs : now.Sound := (sound_start capacity flag).after events
  have hdue := due_after_start capacity flag events
  refine ⟨?_, ?_, ?_, answers_cancel hs⟩
  · rw [check_fst]
    exact hdue
  · rw [poll_fst hs]
    exact hdue
  · intro htold
    exact answers_of_fired hs (fired_of_told (sound_start capacity flag) htold)

/-- The flag is raised while a wait is given up, and then its handle is dropped. -/
example : (start 1 (some {})).answers
    [.poll, .cancel, .change (.setFlag true), .change .dropFlag, .check, .poll] =
      [false, true, true] := by decide

end Watched

end StopSignal

end LiveEvents
