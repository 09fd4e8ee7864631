import LiveEvents.Proofs.ReadyCrawlers
import LiveEvents.Proofs.StoppedLoops
import LiveEvents.Proofs.SupervisorSteps

/-!
# How the tasks of a supervisor end

Each task of a supervisor runs the loop of its crawler and ends when that does. A loop finishes only
when its signal has fired, and the signal of a task fires only after a shutdown was requested, so no
task ends before that unless it panics. Whatever else the outside does to the loops, nothing is
reported on their behalf but panics, and in a valid configuration there are none while the clock can
show when the feeds would be idle. An idle timeout that a valid configuration allows can run past
that.
-/

namespace LiveEvents

def Crawlers.loop? (cs : Crawlers) (rounds : Nat) (now : Feed.Time) : Crawler → Option Loop
  | .binance => cs.binance.map (.feed · now)
  | .binanceRest => cs.prices.map (.prices · rounds)
  | .bybit => cs.bybit.map (.feed · now)
  | .okx => cs.okx.map (.feed · now)
  | .nba => cs.schedules.map (.schedules · rounds)

/-- A supervisor with what its tasks do. -/
structure Crew where
  supervisor : Supervisor
  /-- The loop of each task, numbered like the tasks. -/
  loops : List (Option Loop) := []

namespace Crew

/-- What happens to a supervisor but for starts and the ends of its tasks. -/
inductive Call where
  | shutdown
  | poll (errorFirst : Bool)
  | request
  | report (text : String)
  | watch (id : Nat)

def Call.event : Call → Supervisor.Event
  | shutdown => .shutdown
  | poll errorFirst => .poll errorFirst
  | request => .request
  | report text => .report text
  | watch id => .watch id

inductive Event where
  /-- A start, where pollers are followed for so many rounds. -/
  | start (rounds : Nat) (now : Feed.Time)
  | call (c : Call)
  /-- The loop of a task is woken. -/
  | wake (id : Nat) (w : Waking)

/-- Each new task is given the loop of its crawler. -/
def start (crew : Crew) (rounds : Nat) (now : Feed.Time) : Crew :=
  let s := (crew.supervisor.step .start).2
  let started := s.tasks.drop crew.supervisor.tasks.length
  { supervisor := s
    loops := crew.loops ++ started.map fun t => s.crawlers.loop? rounds now t.crawler }

/-- A task whose loop comes to its end ends the same way. -/
def settle (s : Supervisor) (id : Nat) : Option Ending → Supervisor
  | none => s
  | some ending => (s.step (.taskEnds id ending)).2

/-- The loop of a task is woken unless the task is over. -/
def wake (crew : Crew) (id : Nat) (w : Waking) : Crew :=
  match crew.supervisor.tasks[id]?, crew.loops[id]? with
  | some t, some (some loop) =>
    if t.isOver then crew
    else
      let r := Runner.wake ⟨loop, t.signal⟩ w
      let s := crew.supervisor.changeTask id fun t => { t with signal := r.signal }
      { supervisor := settle s id r.loop.ending?
        loops := crew.loops.set id (some r.loop) }
  | _, _ => crew

def act (crew : Crew) : Event → Crew
  | .start rounds now => crew.start rounds now
  | .call c => { crew with supervisor := (crew.supervisor.step c.event).2 }
  | .wake id w => crew.wake id w

def after (crew : Crew) (events : List Event) : Crew := events.foldl act crew

end Crew

/-! ## What a supervisor knows of its tasks -/

namespace Supervisor

/-- Signals fire only once a shutdown was requested, and every error that waits was reported by
others or tells of a task that panicked. -/
structure Accounted (s : Supervisor) (reported : String → Prop) : Prop where
  requested : ∀ t ∈ s.tasks, t.signal.isStopped.1 = true → 0 < s.requests
  reporting : ∀ t ∈ s.tasks, t.watch = .reporting → t.ending = some .panicked
  errors : ∀ e ∈ s.errors, (∃ text, reported text ∧ e = .reported text) ∨
    ∃ t ∈ s.tasks, t.ending = some .panicked ∧ e = .panicked t.crawler

variable {s : Supervisor} {reported : String → Prop}

theorem accounted_new (c : Config) (reported : String → Prop) :
    c.supervisor.Accounted reported where
  requested _ ht := by cases ht
  reporting _ ht := by cases ht
  errors _ he := by cases he

theorem Accounted.step (h : s.Accounted reported) (hs : s.Placed) {e : Event}
    (hreported : ∀ text, e = .report text → reported text) : (s.step e).2.Accounted reported := by
  have hback : ∀ t' ∈ (s.step e).2.tasks,
      (∃ id, ∃ t ∈ s.tasks, t' = s.turn e id t) ∨ ∃ k, t' = .begun s.capacity k := by
    intro t' ht'
    obtain ⟨id, hid⟩ := List.mem_iff_getElem?.mp ht'
    rcases step_cases hs hid with ⟨t, ht, rfl⟩ | ⟨n, k, -, -, rfl⟩
    · exact .inl ⟨id, t, List.mem_of_getElem? ht, rfl⟩
    · exact .inr ⟨k, rfl⟩
  have hpanicked : ∀ t ∈ s.tasks, t.ending = some .panicked →
      ∃ t' ∈ (s.step e).2.tasks, t'.ending = some .panicked ∧
        CriticalError.panicked t.crawler = .panicked t'.crawler := by
    intro t ht hending
    obtain ⟨id, hid⟩ := List.mem_iff_getElem?.mp ht
    have hturns := turns_turn s e id t
    exact ⟨_, List.mem_of_getElem? (getElem?_step hs e hid), hturns.ending _ hending,
      by rw [hturns.crawler]⟩
  refine ⟨?_, ?_, ?_⟩
  · intro t' ht' hstopped
    obtain ⟨hle, hnow | hsame⟩ := requests_step hs e
    · exact hnow
    rcases hback t' ht' with ⟨id, t, ht, rfl⟩ | ⟨k, rfl⟩
    · rw [hsame] at hstopped
      exact Nat.lt_of_lt_of_le (h.requested t ht hstopped) hle
    · cases k <;> cases hstopped
  · intro t' ht' hreporting
    rcases hback t' ht' with ⟨id, t, ht, rfl⟩ | ⟨k, rfl⟩
    · have hturns := turns_turn s e id t
      rcases hturns.reporting hreporting with hwas | hending
      · exact hturns.ending _ (h.reporting t ht hwas)
      · exact hturns.ending _ hending
    · cases hreporting
  · intro error herror
    rcases errors_step hs herror with hold | ⟨text, he, rfl⟩ | ⟨t, ht, hreporting, rfl⟩
    · rcases h.errors error hold with hothers | ⟨t, ht, hending, rfl⟩
      · exact .inl hothers
      · exact .inr (hpanicked t ht hending)
    · exact .inl ⟨text, hreported text he, rfl⟩
    · exact .inr (hpanicked t ht (h.reporting t ht hreporting))

/-- A task has looked at its signal, or has not. -/
theorem Accounted.looked (h : s.Accounted reported) {id : Nat} {t : Supervised}
    (ht : s.tasks[id]? = some t) {signal : StopSignal}
    (hsignal : signal = t.signal ∨ signal = t.signal.isStopped.2) :
    (s.changeTask id fun t => { t with signal }).Accounted reported := by
  have hstopped : signal.isStopped.1 = t.signal.isStopped.1 := by
    rcases hsignal with rfl | rfl
    · rfl
    · exact t.signal.isStopped_isStopped
  have hback : ∀ t' ∈ s.tasks.modify id fun t => { t with signal }, ∃ t₀ ∈ s.tasks,
      t'.signal.isStopped.1 = t₀.signal.isStopped.1 ∧ t'.watch = t₀.watch ∧
        t'.ending = t₀.ending := by
    intro t' ht'
    obtain ⟨id', hid'⟩ := List.mem_iff_getElem?.mp ht'
    rw [List.getElem?_modify, Option.map_eq_map, Option.map_eq_some_iff] at hid'
    obtain ⟨t₀, ht₀, rfl⟩ := hid'
    refine ⟨t₀, List.mem_of_getElem? ht₀, ?_⟩
    split_ifs with heq
    · subst heq
      obtain rfl := Option.some.inj (ht.symm.trans ht₀)
      exact ⟨hstopped, rfl, rfl⟩
    · exact ⟨rfl, rfl, rfl⟩
  refine ⟨?_, ?_, ?_⟩
  · intro t' ht' hdue
    obtain ⟨t₀, ht₀, hsame, -, -⟩ := hback t' ht'
    exact h.requested t₀ ht₀ (hsame ▸ hdue)
  · intro t' ht' hreporting
    obtain ⟨t₀, ht₀, -, hwatch, hending⟩ := hback t' ht'
    rw [hending]
    exact h.reporting t₀ ht₀ (hwatch ▸ hreporting)
  · intro e he
    refine (h.errors e he).imp_right ?_
    rintro ⟨t₀, ht₀, hending, rfl⟩
    obtain ⟨id', hid'⟩ := List.mem_iff_getElem?.mp ht₀
    refine ⟨if id = id' then { t₀ with signal } else t₀, ?_, ?_, ?_⟩
    · refine List.mem_of_getElem? (i := id') ?_
      simp [changeTask, List.getElem?_modify, hid']
    · split_ifs <;> exact hending
    · split_ifs <;> rfl

end Supervisor

/-! ## Loops of tasks -/

namespace Crawlers

variable {cs : Crawlers} {rounds : Nat} {now : Feed.Time} {k : Crawler} {loop : Loop}

theorem isSome_loop? : (cs.loop? rounds now k).isSome = cs.has k := by
  cases k <;> exact Option.isSome_map

theorem starts_of_loop? (h : cs.loop? rounds now k = some loop) : loop.Starts := by
  cases k <;> obtain ⟨p, -, rfl⟩ := Option.map_eq_some_iff.mp h <;> constructor

end Crawlers

namespace Config

variable {c : Config}

/-- A feed of a valid configuration has time between its heartbeats, and sends one before it may be
idle. -/
theorem beats_of_valid (hvalid : c.Valid) {name : String} {s : Stream}
    (hs : (name, s) ∈ c.streams) {x : Exchange} {p : Feed.Plan}
    (hplan : s.plan? x c.catalog = some p) :
    0 < p.settings.heartbeatInterval.nanos ∧
      p.settings.heartbeatInterval.nanos ≤ p.settings.idleTimeout.nanos := by
  unfold Stream.plan? at hplan
  split_ifs at hplan with henabled
  obtain rfl := Option.some.inj hplan
  have hruled := hvalid.stream hs henabled
  have hbeat := hruled.heartbeat
  have hidle := hruled.idle
  simp only [Stream.settings, Duration.ofSeconds, Duration.ofNanos, Duration.greatest]
  omega

theorem steady_of_plan? (hvalid : c.Valid) (hfits : c.Fits) {name : String} {s : Stream}
    (hs : (name, s) ∈ c.streams) {x : Exchange} {p : Feed.Plan}
    (hplan : s.plan? x c.catalog = some p) (now : Feed.Time) : (Loop.feed p now).Steady := by
  have hbits : s.reconnectMaxMillis < 2 ^ 64 := (hfits _ hs).max
  obtain ⟨hbeat, hbeatle⟩ := beats_of_valid hvalid hs hplan
  obtain ⟨hpos, hle, hinitial, hmax⟩ := Feed.delays_of_valid hvalid hs hplan hbits
  have hgrows : p.settings.reconnectInitial.nanos ≤ p.settings.reconnectMax.nanos := by omega
  have hwithin := (ReconnectBackoff.within_start hgrows).1
  exact ⟨hbeat, hbeatle, nofun, _, _, by omega, by omega, hwithin⟩

theorem steady_of_loop? (hvalid : c.Valid) (hfits : c.Fits) {rounds : Nat} {now : Feed.Time}
    {k : Crawler} {loop : Loop} (h : c.crawlers.loop? rounds now k = some loop) : loop.Steady := by
  have hready := ready_of_valid hvalid hfits
  cases k <;> obtain ⟨p, hp, rfl⟩ := Option.map_eq_some_iff.mp h
  case binance => exact steady_of_plan? hvalid hfits c.binance_mem_streams hp now
  case bybit => exact steady_of_plan? hvalid hfits c.bybit_mem_streams hp now
  case okx => exact steady_of_plan? hvalid hfits c.okx_mem_streams hp now
  case binanceRest => exact (hready.prices p hp).interval
  case nba => exact (hready.schedules p hp).interval

end Config

/-- The task runs the loop: it heeds its signal, and if it is over then the loop ended alike. -/
structure Supervised.Runs (t : Supervised) (loop : Loop) : Prop where
  heeds : Runner.Heeds ⟨loop, t.signal⟩
  ending : ∀ ending, t.ending = some ending → loop.ending? = some ending

namespace Crew

/-- What holds of a crew whatever has happened: every task runs its loop, and the supervisor can
account for what it was told. In a valid configuration every loop is as it should be, unless a feed
was woken when the clock could no longer show when it would be idle. -/
structure Sound (crew : Crew) (c : Config) (reported : String → Prop)
    (woken : Nat → Waking → Prop) : Prop where
  placed : crew.supervisor.Placed
  crawlers : crew.supervisor.crawlers = c.crawlers
  length : crew.loops.length = crew.supervisor.tasks.length
  accounted : crew.supervisor.Accounted reported
  runs : ∀ (id : Nat) (t : Supervised), crew.supervisor.tasks[id]? = some t →
    ∃ loop, crew.loops[id]? = some (some loop) ∧ t.Runs loop ∧
      (c.Valid → c.Fits → loop.Steady ∨ ∃ w, woken id w ∧ loop.OutlastsClock w.moment.now)

variable {crew : Crew} {c : Config} {reported : String → Prop} {woken : Nat → Waking → Prop}

/-- A task goes on running its loop when something happens but its end. -/
theorem runs_turn (s : Supervisor) {e : Supervisor.Event}
    (he : ∀ id ending, e ≠ .taskEnds id ending) {t : Supervised} {loop : Loop} (h : t.Runs loop)
    (id : Nat) : (s.turn e id t).Runs loop where
  heeds := h.heeds.imp_left (Supervisor.turns_turn s e id t).fired.trans
  ending ending hending := h.ending ending (Supervisor.turn_ending s he id t ▸ hending)

theorem Sound.start (h : crew.Sound c reported woken) (rounds : Nat) (now : Feed.Time) :
    (crew.start rounds now).Sound c reported woken := by
  have hgrown := Supervisor.start_grown h.placed
  have hcrawlers : crew.supervisor.start.crawlers = c.crawlers := hgrown.crawlers.trans h.crawlers
  have hnew : crew.supervisor.start.tasks.drop crew.supervisor.tasks.length =
      (Crawler.inOrder.filter crew.supervisor.calls).map (.begun crew.supervisor.capacity) := by
    rw [hgrown.tasks, List.drop_left]
  refine ⟨h.placed.step .start, hcrawlers, ?_, ?_, ?_⟩
  · have hle := hgrown.length_le
    simp only [Crew.start, Supervisor.step, List.length_append, List.length_map, List.length_drop,
      h.length]
    omega
  · refine h.accounted.step h.placed fun text hreport => ?_
    cases hreport
  · intro id t' ht'
    simp only [Crew.start, Supervisor.step, hnew, List.map_map]
    rcases hgrown.cases ht' with ht | ⟨n, k, rfl, hk, rfl⟩
    · obtain ⟨loop, hloop, hruns⟩ := h.runs id t' ht
      have hid := (List.getElem?_eq_some_iff.mp hloop).1
      exact ⟨loop, (List.getElem?_append_left hid).trans hloop, hruns⟩
    · have hhas := Supervisor.has_of_calls (List.mem_filter.mp (List.mem_of_getElem? hk)).2
      rw [h.crawlers, ← Crawlers.isSome_loop?] at hhas
      obtain ⟨loop, hloop⟩ := Option.isSome_iff_exists.mp hhas
      have hruns : (Supervised.begun crew.supervisor.capacity k).Runs loop := by
        refine ⟨(Crawlers.starts_of_loop? hloop).heeds _, fun ending hending => ?_⟩
        cases hending
      refine ⟨loop, ?_, hruns, fun hvalid hfits =>
        .inl (Config.steady_of_loop? hvalid hfits hloop)⟩
      rw [List.getElem?_append_right (by rw [h.length]; omega), h.length, Nat.add_sub_cancel_left,
        List.getElem?_map, hk, hcrawlers]
      exact congrArg some hloop

theorem Sound.call (h : crew.Sound c reported woken) (call : Call)
    (hreported : ∀ text, call = .report text → reported text) :
    Sound { crew with supervisor := (crew.supervisor.step call.event).2 } c reported woken := by
  have hadded : crew.supervisor.added call.event = [] := by cases call <;> rfl
  have hends : ∀ id ending, call.event ≠ .taskEnds id ending := by cases call <;> exact nofun
  have hreports : ∀ text, call.event = .report text → reported text := by
    intro text htext
    cases call <;> cases htext
    exact hreported text rfl
  refine ⟨h.placed.step _, (Supervisor.crawlers_step h.placed _).trans h.crawlers, ?_,
    h.accounted.step h.placed hreports, ?_⟩
  · simp [Supervisor.tasks_step h.placed, hadded, h.length]
  · intro id t' ht'
    rcases Supervisor.step_cases h.placed ht' with ⟨t, ht, rfl⟩ | ⟨n, k, -, hk, -⟩
    · obtain ⟨loop, hloop, hruns, hsteady⟩ := h.runs id t ht
      exact ⟨loop, hloop, runs_turn _ hends hruns id, hsteady⟩
    · rw [hadded] at hk
      cases hk

theorem tasks_settle (s : Supervisor) (id : Nat) (ending : Option Ending) :
    (settle s id ending).tasks =
      s.tasks.modify id fun t => { t with ending := t.ending.or ending } := by
  cases ending with
  | none =>
    simp only [settle, Option.or_none]
    exact (List.modify_id id s.tasks).symm
  | some ending => rfl

theorem settle_keeps {s : Supervisor} (hs : s.Placed) (h : s.Accounted reported) (id : Nat)
    (ending : Option Ending) : (settle s id ending).Placed ∧
      (settle s id ending).Accounted reported ∧ (settle s id ending).crawlers = s.crawlers := by
  cases ending with
  | none => exact ⟨hs, h, rfl⟩
  | some ending => exact ⟨hs.step _, h.step hs (fun _ => nofun), rfl⟩

theorem Sound.wake (h : crew.Sound c reported woken) {id : Nat} {w : Waking} (hwoken : woken id w) :
    (crew.wake id w).Sound c reported woken := by
  unfold Crew.wake
  cases ht : crew.supervisor.tasks[id]? with
  | none => exact h
  | some t =>
    obtain ⟨loop, hloop, hruns, hsteady⟩ := h.runs id t ht
    simp only [hloop]
    split_ifs with hover
    · exact h
    have hgoes : t.ending = none := by simpa [Supervised.isOver] using hover
    have hsignal := Runner.signal_wake ⟨loop, t.signal⟩ w
    have hheeds := hruns.heeds.wake w
    have hsteady' : c.Valid → c.Fits → (Runner.wake ⟨loop, t.signal⟩ w).loop.Steady ∨
        ∃ w', woken id w' ∧
          (Runner.wake ⟨loop, t.signal⟩ w).loop.OutlastsClock w'.moment.now := by
      intro hvalid hfits
      simp only [Runner.outlastsClock_wake]
      by_cases hclock : loop.OutlastsClock w.moment.now
      · exact .inr ⟨w, hwoken, hclock⟩
      · exact (hsteady hvalid hfits).imp_left (Runner.steady_wake · hclock)
    generalize Runner.wake ⟨loop, t.signal⟩ w = r at hsignal hheeds hsteady'
    have hplaced :
        (crew.supervisor.changeTask id fun t => { t with signal := r.signal }).Placed := by
      refine ⟨h.placed.exchange, fun x id' hheld => ?_⟩
      simp only [Supervisor.changeTask, List.length_modify]
      exact h.placed.held x id' hheld
    obtain ⟨hplaced', haccounted, hcrawlers⟩ :=
      settle_keeps hplaced (h.accounted.looked ht hsignal) id r.loop.ending?
    refine ⟨hplaced', hcrawlers.trans h.crawlers, ?_, haccounted, ?_⟩
    · simp [tasks_settle, Supervisor.changeTask, h.length]
    · intro id' t' ht'
      simp only [tasks_settle, Supervisor.changeTask, List.getElem?_modify] at ht'
      by_cases heq : id = id'
      · subst heq
        have hid := (List.getElem?_eq_some_iff.mp hloop).1
        simp only [ht, if_true, Option.map_eq_map, Option.map_some, hgoes, Option.none_or] at ht'
        obtain rfl := Option.some.inj ht'
        exact ⟨r.loop, List.getElem?_set_self hid, ⟨hheeds, fun _ hending => hending⟩, hsteady'⟩
      · simp only [heq, if_false, Option.map_eq_map, Option.map_id'] at ht'
        rw [List.getElem?_set_ne heq]
        exact h.runs id' t' ht'

theorem Sound.after (h : crew.Sound c reported woken) {events : List Event}
    (hreported : ∀ text, .call (.report text) ∈ events → reported text)
    (hwoken : ∀ id w, .wake id w ∈ events → woken id w) :
    (crew.after events).Sound c reported woken := by
  induction events generalizing crew with
  | nil => exact h
  | cons e rest ih =>
    have hact : (crew.act e).Sound c reported woken := by
      cases e with
      | start rounds now => exact h.start rounds now
      | call call => exact h.call call fun text htext => hreported text (by simp [htext])
      | wake id w => exact h.wake (hwoken id w (List.mem_cons_self ..))
    exact ih hact (fun text htext => hreported text (List.mem_cons_of_mem _ htext))
      fun id w hw => hwoken id w (List.mem_cons_of_mem _ hw)

theorem sound_new (c : Config) (reported : String → Prop) (woken : Nat → Waking → Prop) :
    Sound { supervisor := c.supervisor } c reported woken where
  placed := Supervisor.placed_new c
  crawlers := rfl
  length := rfl
  accounted := Supervisor.accounted_new c reported
  runs _ _ ht := by cases ht

end Crew

open Feed.Adapter (confirmed noon priced)

end LiveEvents
