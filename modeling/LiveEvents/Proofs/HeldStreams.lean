import LiveEvents.Feed.Adapter
import LiveEvents.Proofs.FeedSteps
import Mathlib.Data.List.Induction

/-!
# The stream that is held and the streams that were let go

An adapter starts a stream only when the one it holds is over, so of all streams that it ever
started at most the held one has not been told to stop. A stream that it let go of has been told,
but it lives on until it next looks, and while it writes a tick it does not look. Until then there
may be several live streams, and an adapter that holds none says that nothing is running.

Whatever the order of starts, stops and steps, ticks are handed to the store by the held stream
alone.
-/

namespace LiveEvents

namespace StopSignal

def isRaised (s : StopSignal) : Bool := s.flag.any (·.value)

/-- Looking at a signal leaves its flag as it is. -/
theorem flag_isStopped (s : StopSignal) : s.isStopped.2.flag = s.flag := by
  unfold isStopped
  split_ifs <;> rfl

theorem isStopped_of_isRaised {s : StopSignal} (h : s.isRaised = true) : s.isStopped.1 = true := by
  unfold isRaised at h
  unfold isStopped
  split_ifs with hfired
  · rfl
  · simp [h]

end StopSignal

namespace Feed

namespace Adapter

/-- What happens to an adapter and its streams. -/
inductive Event where
  | start (shutdown : Subscription) (now : Time)
  | stop
  /-- Shutdown is requested of all streams. -/
  | shutdown
  /-- A stream is woken. -/
  | step (id : Nat) (m : Moment)

/-- A start that is refused changes nothing. -/
def act (a : Adapter) : Event → Adapter
  | .start shutdown now =>
    match a.start shutdown now with
    | .ok a' => a'
    | .error _ => a
  | .stop => a.stop
  | .shutdown => a.shutdown
  | .step id m => (a.step id m).1

def after (a : Adapter) (events : List Event) : Adapter := events.foldl act a

theorem after_snoc (a : Adapter) (events : List Event) (e : Event) :
    a.after (events ++ [e]) = (a.after events).act e := by
  simp [after]

def isTold (a : Adapter) (id : Nat) : Bool := (a.streams[id]?).any (·.signal.isRaised)

def isWriting (a : Adapter) (id : Nat) : Bool := (a.streams[id]?).any (·.task.writing)

/-! ## What every event keeps -/

/-- The held stream can still be told to stop, and every other stream is over or has been told. -/
structure Sound (a : Adapter) : Prop where
  held : ∀ id s, a.held = some id → a.streams[id]? = some s →
    ∃ f, s.signal.flag = some f ∧ f.value = false ∧ f.held = true
  others : ∀ id s, a.held ≠ some id → a.streams[id]? = some s →
    s.task.isOver = true ∨ s.signal.isRaised = true

theorem sound_new (p : Plan) : Sound { plan := p } := ⟨by simp, by simp⟩

theorem check_running (p : Plan) : ¬p.check true = .ok () := by
  intro h
  cases h

/-- The adapter with a new stream, which it holds. -/
def started (a : Adapter) (shutdown : Subscription) (now : Time) : Adapter :=
  { a with
    streams := a.streams ++ [{ task := .start a.plan now, signal := { shutdown, flag := some {} } }]
    held := some a.streams.length }

/-- A start goes through only if nothing is running. -/
theorem start_ok {a a' : Adapter} {shutdown : Subscription} {now : Time}
    (h : a.start shutdown now = .ok a') : a.isRunning = false ∧ a' = a.started shutdown now := by
  unfold start at h
  cases hcheck : a.plan.check a.isRunning with
  | error e =>
    rw [hcheck] at h
    cases h
  | ok _ =>
    rw [hcheck] at h
    refine ⟨?_, (Except.ok.inj h).symm⟩
    cases hrunning : a.isRunning with
    | false => rfl
    | true => exact absurd (hrunning ▸ hcheck) (check_running a.plan)

theorem act_start {a : Adapter} (shutdown : Subscription) (now : Time) (hidle : a.isRunning = false)
    (hcheck : a.plan.check false = .ok ()) :
    a.act (.start shutdown now) = a.started shutdown now := by
  simp only [act, start, hidle, hcheck]
  rfl

variable {a : Adapter}

theorem Sound.started (h : a.Sound) (hidle : a.isRunning = false) (shutdown : Subscription)
    (now : Time) : (a.started shutdown now).Sound := by
  refine ⟨?_, ?_⟩
  · intro id s hid hs
    cases hid
    simp only [Adapter.started, List.getElem?_concat_length] at hs
    cases hs
    exact ⟨{}, rfl, rfl, rfl⟩
  · intro id s hid hs
    have hne : id ≠ a.streams.length := fun heq => hid (heq ▸ rfl)
    have hlt : id < a.streams.length := by
      have hlen := (List.getElem?_eq_some_iff.mp hs).1
      simp [Adapter.started] at hlen
      omega
    simp only [Adapter.started, List.getElem?_append_left hlt] at hs
    by_cases hheld : a.held = some id
    · -- The stream that was held before is over, or something would be running.
      left
      simpa [isRunning, isLive, hheld, hs] using hidle
    · exact h.others id s hheld hs

theorem Sound.start (h : a.Sound) (shutdown : Subscription) (now : Time) :
    (a.act (.start shutdown now)).Sound := by
  simp only [act]
  cases hstart : a.start shutdown now with
  | error e => exact h
  | ok a' =>
    obtain ⟨hidle, rfl⟩ := start_ok hstart
    exact h.started hidle shutdown now

theorem Sound.stop (h : a.Sound) : (a.act .stop).Sound := by
  simp only [act, Adapter.stop]
  cases hheld : a.held with
  | none => exact h
  | some id =>
    refine ⟨by simp, ?_⟩
    intro id' s _ hs
    simp only [changeSignal, List.getElem?_modify] at hs
    by_cases hid : id = id'
    · subst hid
      cases hold : a.streams[id]? with
      | none => simp [hold] at hs
      | some s₀ =>
        obtain ⟨f, hflag, -, hf⟩ := h.held id s₀ hheld hold
        right
        simp [hold] at hs
        subst hs
        simp [StopSignal.isRaised, StopSignal.change, hflag, Flag.set, hf, Flag.drop]
    · simp [hid] at hs
      exact h.others id' s (by simp [hheld, hid]) hs

theorem Sound.shutdown (h : a.Sound) : (a.act .shutdown).Sound := by
  refine ⟨?_, ?_⟩
  · intro id s hid hs
    simp only [act, Adapter.shutdown, List.getElem?_map, Option.map_eq_some_iff] at hs
    obtain ⟨s₀, hs₀, rfl⟩ := hs
    exact h.held id s₀ hid hs₀
  · intro id s hid hs
    simp only [act, Adapter.shutdown, List.getElem?_map, Option.map_eq_some_iff] at hs
    obtain ⟨s₀, hs₀, rfl⟩ := hs
    exact h.others id s₀ hid hs₀

/-- What a step makes of its stream. -/
theorem step_of_some {id : Nat} {s : Stream} (hs : a.streams[id]? = some s) (m : Moment) :
    a.step id m =
      ({ a with
          streams := a.streams.set id
            { task := (s.task.step a.plan { m with stopped := s.signal.isStopped.1 }).task
              signal := s.signal.isStopped.2 } },
        (s.task.step a.plan { m with stopped := s.signal.isStopped.1 }).actions) := by
  simp only [step, hs]

theorem Sound.step (h : a.Sound) (id : Nat) (m : Moment) : (a.act (.step id m)).Sound := by
  simp only [act]
  cases hid : a.streams[id]? with
  | none => simpa only [Adapter.step, hid] using h
  | some s₀ =>
    rw [step_of_some hid]
    have hlt : id < a.streams.length := (List.getElem?_eq_some_iff.mp hid).1
    refine ⟨?_, ?_⟩
    · intro id' s hheld hs
      by_cases heq : id = id'
      · subst heq
        simp [hlt] at hs
        subst hs
        rw [StopSignal.flag_isStopped]
        exact h.held id s₀ hheld hid
      · simp [heq] at hs
        exact h.held id' s hheld hs
    · intro id' s hheld hs
      by_cases heq : id = id'
      · subst heq
        simp [hlt] at hs
        subst hs
        refine (h.others id s₀ hheld hid).imp (fun hover => ?_) fun hraised => ?_
        · exact ((Task.happens_step _ _ _).of_isOver hover).1
        · unfold StopSignal.isRaised at hraised ⊢
          rwa [StopSignal.flag_isStopped]
      · simp [heq] at hs
        exact h.others id' s hheld hs

theorem Sound.act (h : a.Sound) (e : Event) : (a.act e).Sound := by
  cases e with
  | start shutdown now => exact h.start shutdown now
  | stop => exact h.stop
  | shutdown => exact h.shutdown
  | step id m => exact h.step id m

theorem sound_after (p : Plan) (events : List Event) : (after { plan := p } events).Sound := by
  induction events using List.reverseRecOn with
  | nil => exact sound_new p
  | append_singleton events e ih =>
    rw [after_snoc]
    exact ih.act e

/-! ## What may be live at once -/

def OneLive (a : Adapter) : Prop := ∀ id id', a.isLive id = true → a.isLive id' = true → id = id'

/-- An adapter says that it is running exactly when a stream is live. -/
def TellsLive (a : Adapter) : Prop := a.isRunning = true ↔ ∃ id, a.isLive id = true

theorem isLive_iff (a : Adapter) (id : Nat) :
    a.isLive id = true ↔ ∃ s, a.streams[id]? = some s ∧ s.task.isOver = false := by
  simp [isLive, Option.any_eq_true]

theorem isTold_of_some {id : Nat} {s : Stream} (hs : a.streams[id]? = some s) :
    a.isTold id = s.signal.isRaised := by
  simp [isTold, hs]

theorem isRunning_iff (a : Adapter) :
    a.isRunning = true ↔ ∃ id, a.held = some id ∧ a.isLive id = true := by
  simp [isRunning, Option.any_eq_true]

/-- The held stream has not been told to stop. -/
theorem Sound.untold (h : a.Sound) {id : Nat} (hheld : a.held = some id) : a.isTold id = false := by
  cases hs : a.streams[id]? with
  | none => simp [isTold, hs]
  | some s =>
    obtain ⟨f, hflag, hdown, -⟩ := h.held id s hheld hs
    simp [isTold, hs, StopSignal.isRaised, hflag, hdown]

/-- A live stream that has not been told to stop is the held one. -/
theorem Sound.held_of_untold (h : a.Sound) {id : Nat} (hlive : a.isLive id = true)
    (hdown : a.isTold id = false) : a.held = some id := by
  obtain ⟨s, hs, hgoes⟩ := (isLive_iff a id).mp hlive
  by_contra hheld
  rcases h.others id s hheld hs with hover | hraised
  · simp [hgoes] at hover
  · rw [isTold_of_some hs, hraised] at hdown
    cases hdown

theorem Sound.isRunning_iff (h : a.Sound) :
    a.isRunning = true ↔ ∃ id, a.isLive id = true ∧ a.isTold id = false := by
  rw [Adapter.isRunning_iff]
  constructor
  · rintro ⟨id, hheld, hlive⟩
    exact ⟨id, hlive, h.untold hheld⟩
  · rintro ⟨id, hlive, hdown⟩
    exact ⟨id, h.held_of_untold hlive hdown, hlive⟩

/-- A stream that has been told to stop is over after its next step, unless it is writing. -/
theorem step_of_isTold {id : Nat} (h : a.isTold id = true) (m : Moment) :
    (a.isWriting id = true ∨ (a.step id m).1.isLive id = false) ∧
      observations (a.step id m).2 = [] := by
  cases hs : a.streams[id]? with
  | none => simp [isTold, hs] at h
  | some s =>
    rw [isTold_of_some hs] at h
    have hlt : id < a.streams.length := (List.getElem?_eq_some_iff.mp hs).1
    obtain ⟨hends, -, hnothing⟩ :=
      (Task.happens_step a.plan s.task { m with stopped := s.signal.isStopped.1 }).of_stopped
        (StopSignal.isStopped_of_isRaised h)
    rw [step_of_some hs]
    refine ⟨hends.imp (fun hwriting => ?_) fun hover => ?_, hnothing⟩
    · simp [isWriting, hs, hwriting]
    · simp [isLive, hlt, hover]

/-- A stream that hands something to the store is live. -/
theorem isLive_of_hands {id : Nat} {m : Moment} (h : observations (a.step id m).2 ≠ []) :
    a.isLive id = true := by
  cases hs : a.streams[id]? with
  | none => simp [step, hs] at h
  | some s =>
    rw [step_of_some hs] at h
    rw [isLive_iff]
    refine ⟨s, hs, ?_⟩
    by_contra hover
    exact h ((Task.happens_step _ _ _).of_isOver (by simpa using hover)).2.2

/-- Of the live streams at most the held one has not been told to stop, and an adapter says that
it is running exactly when there is such a stream. A stream that has been told is over after its
next step, unless it is writing, and only the held stream hands anything to the store. So at most
one stream is live, and the adapter says when, as long as no stream that has been told lives on,
and no longer. -/
theorem held_stream_alone (p : Plan) (events : List Event) :
    let a := after { plan := p } events
    (∀ id, a.isLive id = true → a.isTold id = false → a.held = some id) ∧
    (a.isRunning = true ↔ ∃ id, a.isLive id = true ∧ a.isTold id = false) ∧
    (∀ id m, a.isTold id = true → a.isWriting id = true ∨ (a.step id m).1.isLive id = false) ∧
    (∀ id m, observations (a.step id m).2 ≠ [] → a.held = some id ∧ a.isRunning = true) ∧
    (a.OneLive ∧ a.TellsLive ↔ ∀ id, a.isLive id = true → a.isTold id = false) := by
  intro a
  have hsound : a.Sound := sound_after p events
  refine ⟨fun id => hsound.held_of_untold, hsound.isRunning_iff,
    fun id m htold => (step_of_isTold htold m).1, ?_, ?_, ?_⟩
  · intro id m hhands
    have hlive := isLive_of_hands hhands
    have hdown : a.isTold id = false := by
      by_contra htold
      exact hhands (step_of_isTold (by simpa using htold) m).2
    exact ⟨hsound.held_of_untold hlive hdown, hsound.isRunning_iff.mpr ⟨id, hlive, hdown⟩⟩
  · rintro ⟨hone, htells⟩ id hlive
    obtain ⟨id', hlive', hdown⟩ := hsound.isRunning_iff.mp (htells.mpr ⟨id, hlive⟩)
    rwa [hone id id' hlive hlive']
  · intro hdown
    refine ⟨fun id id' hlive hlive' => ?_, ?_⟩
    · have hheld := hsound.held_of_untold hlive (hdown id hlive)
      exact Option.some.inj (hheld.symm.trans (hsound.held_of_untold hlive' (hdown id' hlive')))
    · rw [TellsLive, hsound.isRunning_iff]
      exact exists_congr fun id => and_iff_left_of_imp (hdown id)

/-! ## A stream that is let go of while it writes -/

def btc : Plan where
  exchange := .binance
  settings :=
    { wsUrl := "ws://[::1]:9000"
      symbols := ["BTCUSDT"]
      handshakeTimeout := .ofSeconds 10
      subscribeTimeout := .ofSeconds 10
      heartbeatInterval := .ofSeconds 20
      idleTimeout := .ofSeconds 60
      reconnectInitial := .ofSeconds 5
      reconnectMax := .ofSeconds 60 }
  identity := { category := "crypto", ecosystem := "binance", language := "en" }

theorem btc_check : btc.check false = .ok () := by
  have hok : (btc.check false).isOk = true := by decide +kernel
  cases hcheck : btc.check false with
  | ok _ => rfl
  | error e =>
    rw [hcheck] at hok
    cases hok

def confirmed : Incoming := .text (Json.object [("result", .null), ("id", .ofInt 1)]).compact

def priced (price : String) : Incoming :=
  .text (Json.object
    [("e", .string "24hrTicker"), ("s", .string "BTCUSDT"), ("c", .string price)]).compact

def noon : Moment := { now := 0, clock := ⟨.epoch, 0, 0⟩ }

/-- A stream has dialed, is confirmed, and reads a tick. -/
def reading (id : Nat) : List Event :=
  [.step id { noon with dialed := some true }, .step id { noon with incoming := some confirmed },
    .step id { noon with incoming := some (priced "50000.12") }]

def readOnce : List Event := .start { capacity := 1 } 0 :: reading 0

/-- While the first stream writes its tick it is let go of, and a second one is started. -/
def readTwice : List Event := readOnce ++ .stop :: .start { capacity := 1 } 0 :: reading 1

theorem after_readOnce :
    after { plan := btc } readOnce =
      (started { plan := btc } { capacity := 1 } 0).after (reading 0) := by
  change (act { plan := btc } (.start { capacity := 1 } 0)).after (reading 0) = _
  rw [act_start _ _ rfl btc_check]

theorem readOnce_stop :
    (after { plan := btc } (readOnce ++ [.stop])).isRunning = false ∧
      (after { plan := btc } (readOnce ++ [.stop])).isLive 0 = true := by
  rw [after_snoc, after_readOnce]
  decide +kernel

theorem after_readTwice :
    (after { plan := btc } readTwice).isLive 0 = true ∧
      (after { plan := btc } readTwice).isLive 1 = true := by
  have hidle := readOnce_stop.1
  have hrun : after { plan := btc } readTwice =
      ((after { plan := btc } (readOnce ++ [.stop])).act (.start { capacity := 1 } 0)).after
        (reading 1) := by
    simp [after, readTwice]
  have hplan : (after { plan := btc } (readOnce ++ [.stop])).plan = btc := by
    rw [after_snoc, after_readOnce]
    decide +kernel
  have hcheck : (after { plan := btc } (readOnce ++ [.stop])).plan.check false = .ok () := by
    rw [hplan, btc_check]
  rw [hrun, act_start _ _ hidle hcheck, after_snoc, after_readOnce]
  decide +kernel

/-- Two streams can be live at once, and while one is live the adapter may say that nothing is
running. -/
theorem streams_overlap :
    (¬∀ (p : Plan) (events : List Event), (after { plan := p } events).OneLive) ∧
      ¬∀ (p : Plan) (events : List Event), (after { plan := p } events).TellsLive := by
  constructor
  · intro h
    have hone := h btc readTwice 0 1 after_readTwice.1 after_readTwice.2
    simp at hone
  · intro h
    have hsays := (h btc (readOnce ++ [.stop])).mpr ⟨0, readOnce_stop.2⟩
    rw [readOnce_stop.1] at hsays
    cases hsays

end Adapter

end Feed

end LiveEvents
