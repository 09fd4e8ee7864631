import LiveEvents.Proofs.SupervisorSteps

/-!
# What reaches a supervisor

A critical error is sent to the supervisor by someone else or by the watcher of a task that
panicked. `sent` collects what has been sent along a run and `verdicts` how waits have ended. What
a single event sends is told from how far the watchers of the tasks are, and how far a watcher is
tells what it has sent.
-/

namespace LiveEvents

/-- An error on its way to the supervisor. -/
structure Sending where
  /-- The task whose watcher sends it, if it is not someone else. -/
  source : Option Nat
  error : CriticalError
  deriving DecidableEq, Repr

def Verdict.error? : Verdict → Option CriticalError
  | .shutdown => none
  | .critical error => some error

/-- How often a watcher has yet to run to be done with a task that panicked. -/
def Watch.left : Watch → Nat
  | .watching => 2
  | .reporting => 1
  | .done => 0

theorem Watch.left_le (w : Watch) : w.left ≤ 2 := by
  cases w <;> decide

theorem Watch.done_of_left {w : Watch} (h : w.left = 0) : w = .done := by
  cases w with
  | watching | reporting => cases h
  | done => rfl

namespace Supervised

/-- What the watcher of a task has sent. -/
def sendings (id : Nat) (t : Supervised) : List Sending :=
  if t.ending = some .panicked ∧ t.watch = .done then [⟨some id, .panicked t.crawler⟩] else []

/-- The watcher has gone no further than the task has. -/
structure Heeded (t : Supervised) : Prop where
  ended : t.isRunning = false → t.isOver = true
  reporting : t.watch = .reporting → t.ending = some .panicked

theorem isRunning_watched (room : Bool) (t : Supervised) :
    (t.watched room).isRunning = false ↔ t.isRunning = false ∨ t.isOver = true := by
  obtain ⟨crawler, signal, ending, watch⟩ := t
  cases watch with
  | watching => rcases ending with - | ending | - | - <;> simp [watched, isRunning, isOver]
  | reporting => cases room <;> simp [watched, isRunning]
  | done => simp [watched, isRunning]

theorem left_watched {t : Supervised} (h : t.ending = some .panicked) (room : Bool) :
    (t.watched room).watch.left ≤ t.watch.left - if room then 1 else 0 := by
  obtain ⟨crawler, signal, ending, watch⟩ := t
  obtain rfl : ending = some .panicked := h
  cases watch <;> cases room <;> simp [watched, Watch.left]

end Supervised

/-- The supervisor of a configuration where so many shutdown requests are kept for a receiver. -/
def Config.supervisorOn (c : Config) (capacity : Nat) : Supervisor :=
  { c.supervisor with capacity, heard := { capacity } }

namespace Supervisor

/-! ## What has happened -/

/-- What happens, each time with the supervisor to which it happens. -/
def history : List Event → Supervisor → List (Supervisor × Event)
  | [], _ => []
  | e :: rest, s => (s, e) :: history rest (s.step e).2

/-- The errors that are sent in an event. Who reports one has to wait while there is no room. -/
def sends (s : Supervisor) : Event → List Sending
  | .report text => if s.hasRoom then [⟨none, .reported text⟩] else []
  | .watch id => (s.complaint id).map (⟨some id, ·⟩)
  | .start | .shutdown | .poll _ | .request | .taskEnds _ _ => []

def sent (past : List (Supervisor × Event)) : List Sending :=
  past.flatMap fun (s, e) => s.sends e

def verdicts (past : List (Supervisor × Event)) : List Verdict :=
  past.filterMap fun (s, e) => (s.step e).1

/-- A shutdown is requested of all, be it because a wait ends with an error. -/
def Broadcasts (s : Supervisor) (e : Event) : Prop :=
  e = .request ∨ e = .shutdown ∨ ∃ error, (s.step e).1 = some (.critical error)

/-- The watcher of a task learns that it is over. -/
def Notices (s : Supervisor) (id : Nat) (e : Event) : Prop :=
  e = .watch id ∧ ∃ t, s.tasks[id]? = some t ∧ t.isOver = true

/-- A task ends, but not by a panic, or the watcher of a task runs that has not panicked. -/
def Calm (s : Supervisor) : Event → Prop
  | .taskEnds _ ending => ending ≠ .panicked
  | .watch id => ∀ t, s.tasks[id]? = some t → t.ending ≠ some .panicked
  | .start | .shutdown | .poll _ | .request | .report _ => False

/-- The watcher of a task runs when there is room for an error. -/
def runsWithRoom (id : Nat) : Supervisor × Event → Bool :=
  fun (s, e) => e = .watch id && s.hasRoom

variable {s s' : Supervisor} {e : Event} {id : Nat} {t : Supervised}

/-! ## One event -/

/-- Only their watchers change how far the watchers are. -/
theorem watch_turn (s : Supervisor) (e : Event) (id : Nat) (t : Supervised) :
    (s.turn e id t).watch = if e = .watch id then (t.watched s.hasRoom).watch else t.watch := by
  by_cases he : e = .watch id
  · simp [he, turn]
  rw [if_neg he]
  cases e with
  | start | report _ | request => rfl
  | shutdown =>
    simp only [turn]
    split_ifs <;> rfl
  | poll errorFirst =>
    simp only [turn]
    split <;> rfl
  | taskEnds id' ending =>
    simp only [turn]
    split_ifs <;> rfl
  | watch id' =>
    have hother : id' ≠ id := fun h => he (congrArg Event.watch h)
    simp only [turn, if_neg hother]

theorem isRunning_turn (s : Supervisor) (e : Event) (id : Nat) (t : Supervised) :
    (s.turn e id t).isRunning = false ↔
      t.isRunning = false ∨ e = .watch id ∧ t.isOver = true := by
  have hwatched := t.isRunning_watched s.hasRoom
  unfold Supervised.isRunning at *
  rw [watch_turn]
  split_ifs with he
  · rw [hwatched, and_iff_right he]
  · simp [he]

/-- A watcher goes no further than its task has. -/
theorem heeded_turn (h : t.Heeded) (s : Supervisor) (e : Event) (id : Nat) :
    (s.turn e id t).Heeded := by
  have hturns := turns_turn s e id t
  have hover : t.isOver = true → (s.turn e id t).isOver = true := by
    intro hover
    obtain ⟨ending, hending⟩ := Option.isSome_iff_exists.mp hover
    exact Option.isSome_iff_exists.mpr ⟨ending, hturns.ending ending hending⟩
  constructor
  · intro hnoticed
    rcases (isRunning_turn s e id t).mp hnoticed with hbefore | ⟨-, hnow⟩
    · exact hover (h.ended hbefore)
    · exact hover hnow
  · intro hreporting
    rcases hturns.reporting hreporting with hbefore | hending
    · exact hturns.ending _ (h.reporting hbefore)
    · exact hturns.ending _ hending

/-- What the watcher of a task sends in an event is what it comes to have sent more. -/
theorem sendings_turn (h : t.Heeded) (ht : s.tasks[id]? = some t) (e : Event) :
    (s.turn e id t).sendings id =
      t.sendings id ++ (s.sends e).filter (·.source = some id) := by
  have hsame : ∀ t' : Supervised, t'.crawler = t.crawler → t'.ending = t.ending →
      t'.watch = t.watch → t'.sendings id = t.sendings id ++ [] := by
    intro t' hcrawler hending hwatch
    simp [Supervised.sendings, hcrawler, hending, hwatch]
  cases e with
  | start => exact hsame _ rfl rfl rfl
  | request => exact hsame _ rfl rfl rfl
  | report text =>
    simp only [turn, sends]
    split_ifs <;> simp
  | shutdown =>
    simp only [turn, sends]
    split_ifs <;> exact hsame _ rfl rfl rfl
  | poll errorFirst =>
    simp only [turn, sends]
    split <;> exact hsame _ rfl rfl rfl
  | taskEnds id' ending =>
    simp only [turn, sends]
    split_ifs
    · obtain ⟨crawler, signal, ended, watch⟩ := t
      cases ended with
      | some ended => exact hsame _ rfl rfl rfl
      | none =>
        have hwatch : watch ≠ .done := by
          rintro rfl
          cases h.ended rfl
        simp [Supervised.sendings, hwatch, Supervised.finish]
    · exact hsame _ rfl rfl rfl
  | watch id' =>
    simp only [turn, sends]
    split_ifs with hid
    · subst hid
      obtain ⟨crawler, signal, ending, watch⟩ := t
      cases watch with
      | watching =>
        rcases ending with - | ending | - | - <;>
          simp [Supervised.watched, Supervised.sendings, complaint, ht]
      | reporting =>
        obtain rfl : ending = some .panicked := h.reporting rfl
        cases hroom : s.hasRoom <;>
          simp [Supervised.watched, Supervised.sendings, complaint, ht, hroom]
      | done => simp [Supervised.watched, Supervised.sendings, complaint, ht]
    · simp [hid]

theorem errors_sent_step (hs : s.Placed) (e : Event) : s.errors ++ (s.sends e).map (·.error) =
    ((s.step e).1.bind Verdict.error?).toList ++ (s.step e).2.errors := by
  cases e with
  | start => simpa [sends, step] using (start_grown hs).errors.symm
  | shutdown => simp [sends, step, shutdown_eq, request]
  | poll errorFirst =>
    cases hpoll : s.poll errorFirst with
    | none => simp [sends, step, hpoll]
    | some found =>
      obtain ⟨v, s'⟩ := found
      rcases poll_cases hpoll with ⟨rfl, rfl⟩ | ⟨e, errors, rfl, herrors, rfl⟩
      · simp [sends, step, hpoll, Verdict.error?]
      · simp [sends, step, hpoll, Verdict.error?, request, herrors]
  | request | taskEnds _ _ => simp [sends, step, request, changeTask]
  | report text =>
    simp only [sends, step, report, hasRoom, decide_eq_true_eq]
    split_ifs <;> simp
  | watch id => simp [sends, step, watch_eq, Function.comp_def]

theorem heard_step (hs : s.Placed) (e : Event) : s.Broadcasts e ∨
    (s.step e).2.heard = s.heard ∨ (s.step e).2.heard = s.heard.receive.2 := by
  cases e with
  | start => exact .inr (.inl (start_grown hs).heard)
  | shutdown => exact .inl (.inr (.inl rfl))
  | request => exact .inl (.inl rfl)
  | poll errorFirst =>
    cases hpoll : s.poll errorFirst with
    | none => simp [step, hpoll]
    | some found =>
      obtain ⟨v, s'⟩ := found
      rcases poll_cases hpoll with ⟨rfl, rfl⟩ | ⟨e, errors, rfl, -, rfl⟩
      · simp [step, hpoll]
      · simp [Broadcasts, step, hpoll]
  | report text =>
    simp only [step, report]
    split_ifs <;> exact .inr (.inl rfl)
  | taskEnds id ending => exact .inr (.inl rfl)
  | watch id =>
    right; left
    simp [step, watch_eq]

/-- What a poll says can be told from the errors that wait and from what there is to hear. -/
theorem verdict_poll (s : Supervisor) (errorFirst : Bool) :
    (s.step (.poll errorFirst)).1 =
      let error := s.errors.head?.map .critical
      let request := if s.heard.receive.1 = .nothing then none else some .shutdown
      if errorFirst then error.or request else request.or error := by
  have herror : s.take.map (·.1) = s.errors.head?.map .critical := by
    unfold take
    cases s.errors <;> rfl
  have hrequest : s.hear.map (·.1) =
      if s.heard.receive.1 = .nothing then none else some .shutdown := by
    unfold hear
    dsimp only
    split_ifs <;> rfl
  have hverdict : (s.step (.poll errorFirst)).1 = (s.poll errorFirst).map (·.1) := by
    rw [step]
    cases s.poll errorFirst <;> rfl
  dsimp only
  rw [hverdict, ← herror, ← hrequest, poll]
  split_ifs
  · exact Option.map_or ..
  · exact Option.map_or ..

theorem heard_of_poll {errorFirst : Bool}
    (h : s.step (.poll errorFirst) = (some .shutdown, s')) : s.heard.receive.1 ≠ .nothing := by
  intro hnothing
  have hverdict := verdict_poll s errorFirst
  rw [h, hnothing] at hverdict
  cases errorFirst <;> cases herrors : s.errors <;> simp [herrors] at hverdict

theorem critical_poll {errorFirst : Bool} {error : CriticalError}
    (h : s.step (.poll errorFirst) = (some (.critical error), s')) :
    ∃ errors, s.errors = error :: errors ∧ s' = { s with errors }.request := by
  rw [step] at h
  cases hpoll : s.poll errorFirst with
  | none =>
    rw [hpoll] at h
    cases h
  | some found =>
    obtain ⟨v, s''⟩ := found
    rw [hpoll] at h
    obtain ⟨hv, rfl⟩ := Prod.mk.inj h
    obtain rfl := Option.some.inj hv
    rcases poll_cases hpoll with ⟨hv, -⟩ | ⟨e, errors, hv, herrors, hs'⟩
    · cases hv
    · cases hv
      exact ⟨errors, herrors, hs'⟩

theorem length_sends (hroom : s.errors.length ≤ errorRoom) (e : Event) :
    s.errors.length + (s.sends e).length ≤ errorRoom := by
  have hone : s.hasRoom = true → s.errors.length + 1 ≤ errorRoom := of_decide_eq_true
  cases e with
  | start | shutdown | poll _ | request | taskEnds _ _ => exact hroom
  | report text =>
    simp only [sends]
    split_ifs with h
    · exact hone h
    · exact hroom
  | watch id =>
    simp only [sends, complaint, List.length_map]
    split
    · split_ifs with h
      · exact hone h.2
      · exact hroom
    · exact hroom

/-- The task with a number is what has become of it, or it is a new one. -/
theorem task_step (hs : s.Placed) (e : Event) (id : Nat) :
    (s.step e).2.tasks[id]? = (s.tasks[id]?).map (s.turn e id) ∨
      s.tasks[id]? = none ∧ ∃ k, (s.step e).2.tasks[id]? = some (.begun s.capacity k) := by
  cases ht : s.tasks[id]? with
  | some t => exact .inl (getElem?_step hs e ht)
  | none =>
    cases ht' : (s.step e).2.tasks[id]? with
    | none => exact .inl rfl
    | some t' =>
      rcases step_cases hs ht' with ⟨t, hold, -⟩ | ⟨n, k, -, -, rfl⟩
      · rw [ht] at hold
        cases hold
      · exact .inr ⟨rfl, k, rfl⟩

/-! ## What always holds -/

/-- The watchers heed their tasks, and no more errors wait than there is room for. -/
structure Tended (s : Supervisor) : Prop where
  placed : s.Placed
  heeded : ∀ (id : Nat) (t : Supervised), s.tasks[id]? = some t → t.Heeded
  room : s.errors.length ≤ errorRoom

theorem tended_new (c : Config) (capacity : Nat) : (c.supervisorOn capacity).Tended where
  placed := ⟨(placed_new c).exchange, (placed_new c).held⟩
  heeded _ _ ht := by cases ht
  room := Nat.zero_le _

theorem Tended.step (h : s.Tended) (e : Event) : (s.step e).2.Tended := by
  refine ⟨h.placed.step e, ?_, ?_⟩
  · intro id t' ht'
    rcases step_cases h.placed ht' with ⟨t, ht, rfl⟩ | ⟨n, k, -, -, rfl⟩
    · exact heeded_turn (h.heeded id t ht) s e id
    · exact ⟨nofun, nofun⟩
  · have hsends := length_sends h.room e
    have hlength := congrArg List.length (errors_sent_step h.placed e)
    simp only [List.length_append, List.length_map] at hlength
    omega

theorem Tended.after (h : s.Tended) (events : List Event) : (after events s).Tended :=
  after_keeps h (fun _ e h => h.step e) events

end Supervisor

end LiveEvents
