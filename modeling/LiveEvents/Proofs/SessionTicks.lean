import LiveEvents.Proofs.HeldStreams

/-!
# The ticks of a session

Every session of a feed reads from a connection of its own, and what it has read is a beginning of
what came there. Whatever the timers, the stop and the store do meanwhile, the ticks among what a
session has read are handed to the store in the order they were read in, each once. Only a tick over
which the clock runs out is lost, and with it the task.
-/

namespace LiveEvents.Feed

/-- Something that comes on a connection, and when. -/
structure Arrival where
  time : Time
  incoming : Incoming
  deriving DecidableEq, Repr

/-- What comes on the connection of each session, in the order in which it can be read. -/
abbrev Traffic := Nat → List Arrival

def Action.isDial : Action → Bool
  | .dial => true
  | _ => false

def Step.dials (s : Step) : Bool := s.actions.any (·.isDial)

/-- A task with the number of its session and what is still to be read on its connection. -/
structure Line where
  task : Task
  session : Nat := 0
  unread : List Arrival

/-- A step of a task, the session it is in and when it was made. -/
structure Entry where
  session : Nat
  moment : Moment
  step : Step

namespace Line

def start (p : Plan) (traffic : Traffic) (now : Time) : Line where
  task := .start p now
  unread := traffic 0

/-- What is next to read, if it is there by then. -/
def next? (l : Line) (now : Time) : Option Incoming :=
  (l.unread.head?.filter (·.time ≤ now)).map (·.incoming)

/-- The step that the task makes at some moment, with what is there to read. -/
def entry (p : Plan) (l : Line) (m : Moment) : Entry where
  session := l.session
  moment := m
  step := l.task.step p { m with incoming := l.next? m.now }

/-- What is still to be read on the connection after a step. -/
def unreadAfter (l : Line) (s : Step) : List Arrival :=
  if s.read.isSome then l.unread.tail else l.unread

/-- The line after a step. A new session has a new connection. -/
def after (traffic : Traffic) (l : Line) (s : Step) : Line :=
  if s.dials then
    { task := s.task, session := l.session + 1, unread := traffic (l.session + 1) }
  else
    { task := s.task, session := l.session, unread := l.unreadAfter s }

def log (p : Plan) (traffic : Traffic) (l : Line) : List Moment → List Entry
  | [] => []
  | m :: rest =>
    let e := l.entry p m
    e :: log p traffic (l.after traffic e.step) rest

/-- What the sessions may still read. -/
def remaining (traffic : Traffic) (l : Line) (session : Nat) : List Incoming :=
  if session < l.session then []
  else if session = l.session then l.unread.map (·.incoming)
  else (traffic session).map (·.incoming)

end Line

/-- What was read in a session, each with the time of day. -/
def readIn (session : Nat) (log : List Entry) : List (Incoming × Instant) :=
  (log.filter (·.session = session)).filterMap fun e => e.step.read.map (·, e.moment.clock)

/-- What was handed to the store in a session. -/
def handedIn (session : Nat) (log : List Entry) : List Observation :=
  (log.filter (·.session = session)).flatMap fun e => observations e.step.actions

/-- The ticks in what was read, as they are handed to the store. -/
def ticksOf (p : Plan) (read : List (Incoming × Instant)) : List Observation :=
  read.filterMap fun r => (r.1.tick? p.exchange).map (.ofTick p.exchange p.identity · r.2)

/-- What was handed to the store in a session are the ticks in what was read in it, but for the last
thing read if the task panicked over it because the clock cannot show when it would be idle. -/
def Delivered (p : Plan) (session : Nat) (log : List Entry) : Prop :=
  ∃ kept lost, readIn session log = kept ++ lost ∧ handedIn session log = ticksOf p kept ∧
    lost.length ≤ 1 ∧ ∀ r ∈ lost, ∃ e ∈ log, e.session = session ∧ e.step.read = some r.1 ∧
      e.step.task.phase = .panicked ∧ lastTime < e.moment.now + p.settings.idleTimeout.nanos

variable {p : Plan} {t : Task} {m : Moment} {s : Step}

theorem Plain.any_isDial {actions : List Action} (h : Plain actions) :
    actions.any (·.isDial) = false := by
  rw [List.any_eq_false]
  intro a ha
  have hplain := h a ha
  cases a with
  | write _ | dial => exact hplain.elim
  | subscribe _ | beat _ | close | count _ => simp [Action.isDial]

/-- A step that begins a session only dials. -/
theorem Task.Happens.of_dials (h : Task.Happens p t m s) (hdials : s.dials = true) :
    s.read = none ∧ s.task.phase = Task.dialingPhase p m.now := by
  unfold Step.dials at hdials
  cases h with
  | redials => exact ⟨rfl, rfl⟩
  | blocked | wrote | quiet | breaks | overruns | beats | plans | panics =>
    simp [Task.disconnected, Action.isDial] at hdials
  | stops _ _ hactions => simp [hactions.any_isDial] at hdials
  | subscribes => simp [(plain_subscribe _).any_isDial] at hdials
  | listens _ _ hactions =>
    rw [List.any_append, hactions.any_isDial] at hdials
    cases hdials
  | skips _ _ _ _ _ hactions => simp [hactions.any_isDial] at hdials
  | hands _ _ _ _ hactions =>
    simp only [Task.write, List.any_append, hactions.any_isDial] at hdials
    cases hdials

namespace Line

variable {traffic : Traffic} {l : Line}

theorem entry_happens (p : Plan) (l : Line) (m : Moment) :
    Task.Happens p l.task { m with incoming := l.next? m.now } (l.entry p m).step :=
  Task.happens_step ..

theorem after_task (l : Line) (traffic : Traffic) (s : Step) :
    (l.after traffic s).task = s.task := by
  unfold after
  split_ifs <;> rfl

theorem session_le_after (l : Line) (traffic : Traffic) (s : Step) :
    l.session ≤ (l.after traffic s).session := by
  unfold after
  split
  · exact Nat.le_succ l.session
  · exact Nat.le_refl l.session

theorem session_le_of_mem_log {e : Entry} {moments : List Moment}
    (h : e ∈ l.log p traffic moments) : l.session ≤ e.session := by
  induction moments generalizing l with
  | nil => simp [log] at h
  | cons m rest ih =>
    rcases List.mem_cons.mp h with rfl | hrest
    · exact Nat.le_refl l.session
    · exact Nat.le_trans (session_le_after ..) (ih hrest)

/-- A session is not gone back to. -/
theorem pairwise_log (p : Plan) (traffic : Traffic) (l : Line) (moments : List Moment) :
    (l.log p traffic moments).Pairwise (·.session ≤ ·.session) := by
  induction moments generalizing l with
  | nil => exact .nil
  | cons m rest ih =>
    apply List.Pairwise.cons _ (ih _)
    intro e he
    exact Nat.le_trans (session_le_after ..) (session_le_of_mem_log he)

/-! ## What is read -/

/-- What is read was next on the connection. -/
theorem read_append_unreadAfter (p : Plan) (l : Line) (m : Moment) :
    (l.entry p m).step.read.toList ++ (l.unreadAfter (l.entry p m).step).map (·.incoming) =
      l.unread.map (·.incoming) := by
  unfold unreadAfter
  rcases (entry_happens p l m).read with hread | hread
  · simp [hread]
  · rw [hread]
    cases hunread : l.unread with
    | nil => simp [next?, hunread]
    | cons a rest =>
      by_cases htime : a.time ≤ m.now
      · simp [next?, hunread, htime, Option.filter]
      · simp [next?, hunread, htime, Option.filter]

theorem remaining_of_lt {k : Nat} (h : k < l.session) : l.remaining traffic k = [] := by
  simp [remaining, h]

theorem remaining_of_gt {k : Nat} (h : l.session < k) :
    l.remaining traffic k = (traffic k).map (·.incoming) := by
  simp [remaining, Nat.not_lt_of_gt h, Nat.ne_of_gt h]

theorem remaining_start (p : Plan) (traffic : Traffic) (now : Time) (k : Nat) :
    (start p traffic now).remaining traffic k = (traffic k).map (·.incoming) := by
  cases k with
  | zero => rfl
  | succ k => exact remaining_of_gt (Nat.succ_pos k)

/-- What a step reads, and what the sessions may read after it, is a beginning of what they may
read before it. -/
theorem read_append_remaining (p : Plan) (traffic : Traffic) (l : Line) (m : Moment) (k : Nat) :
    (if l.session = k then (l.entry p m).step.read.toList else []) ++
      (l.after traffic (l.entry p m).step).remaining traffic k <+: l.remaining traffic k := by
  by_cases hdials : (l.entry p m).step.dials = true
  · have hread := ((entry_happens p l m).of_dials hdials).1
    simp only [after, if_pos hdials, hread, Option.toList_none, ite_self, List.nil_append]
    rcases Nat.lt_trichotomy k (l.session + 1) with hlt | rfl | hgt
    · rw [remaining_of_lt hlt]
      exact List.nil_prefix
    · rw [remaining_of_gt (Nat.lt_succ_self _)]
      simp [remaining]
    · simp [remaining_of_gt, hgt, Nat.lt_of_succ_lt hgt]
  · simp only [after, if_neg hdials]
    by_cases hk : l.session = k
    · subst hk
      simp [remaining, read_append_unreadAfter]
    · simp [remaining, hk, Ne.symm hk]

theorem readIn_cons (k : Nat) (e : Entry) (log : List Entry) :
    readIn k (e :: log) =
      (if e.session = k then e.step.read.toList.map (·, e.moment.clock) else []) ++
        readIn k log := by
  unfold readIn
  by_cases hk : e.session = k
  · cases hread : e.step.read <;> simp [hk, hread]
  · simp [hk]

theorem readIn_log (p : Plan) (traffic : Traffic) (l : Line) (moments : List Moment) (k : Nat) :
    (readIn k (l.log p traffic moments)).map (·.1) <+: l.remaining traffic k := by
  induction moments generalizing l with
  | nil => exact List.nil_prefix
  | cons m rest ih =>
    have hread : (if l.session = k then (l.entry p m).step.read.toList.map (·, m.clock) else []).map
        (·.1) = if l.session = k then (l.entry p m).step.read.toList else [] := by
      split_ifs <;> simp [Function.comp_def]
    simp only [log, readIn_cons, List.map_append]
    refine List.IsPrefix.trans ?_ (read_append_remaining p traffic l m k)
    change (if l.session = k then (l.entry p m).step.read.toList.map (·, m.clock) else []).map
      (·.1) ++ _ <+: _
    rw [hread]
    exact (List.prefix_append_right_inj _).mpr (ih _)

/-! ## What is handed to the store -/

theorem handedIn_cons (k : Nat) (e : Entry) (log : List Entry) :
    handedIn k (e :: log) =
      (if e.session = k then observations e.step.actions else []) ++ handedIn k log := by
  unfold handedIn
  by_cases hk : e.session = k
  · simp [hk]
  · simp [hk]

/-- A step that hands over the tick it reads, if it reads one, delivers what it reads. -/
theorem delivered_cons {k : Nat} {e : Entry} {log : List Entry} (h : Delivered p k log)
    (hticks : observations e.step.actions = (e.step.read.bind (·.tick? p.exchange)).toList.map
      (.ofTick p.exchange p.identity · e.moment.clock)) : Delivered p k (e :: log) := by
  obtain ⟨kept, lost, hread, hhanded, hlength, hlost⟩ := h
  let here := if e.session = k then e.step.read.toList.map (·, e.moment.clock) else []
  refine ⟨here ++ kept, lost, ?_, ?_, hlength, fun r hr => ?_⟩
  · rw [readIn_cons, hread, List.append_assoc]
  · rw [handedIn_cons, hhanded, ticksOf, ticksOf, List.filterMap_append, hticks]
    congr 1
    simp only [here]
    split_ifs
    · cases e.step.read with
      | none => rfl
      | some i => cases htick : i.tick? p.exchange <;> simp [htick]
    · rfl
  · obtain ⟨e', he', hlast⟩ := hlost r hr
    exact ⟨e', List.mem_cons_of_mem _ he', hlast⟩

/-- What the clock runs out over is the last that is read. -/
theorem delivered_of_overruns {k : Nat} {e : Entry} {log : List Entry}
    (h : Task.Overruns p e.moment.now e.step)
    (hrest : ∀ e ∈ log, e.step.read = none ∧ observations e.step.actions = []) :
    Delivered p k (e :: log) := by
  have hread : readIn k log = [] := by
    refine List.filterMap_eq_nil_iff.mpr fun e he => ?_
    rw [(hrest e (List.mem_filter.mp he).1).1]
    rfl
  have hhanded : handedIn k log = [] := by
    refine List.flatMap_eq_nil_iff.mpr fun e he => ?_
    exact (hrest e (List.mem_filter.mp he).1).2
  refine ⟨[], readIn k (e :: log), rfl, ?_, ?_, fun r hr => ?_⟩
  · rw [handedIn_cons, hhanded, h.silent]
    simp [ticksOf]
  · rw [readIn_cons, hread, List.append_nil]
    split_ifs
    · cases e.step.read <;> simp
    · exact Nat.zero_le 1
  · have hmem : e.session = k ∧ ∃ i, e.step.read = some i ∧ (i, e.moment.clock) = r := by
      simpa [readIn_cons, hread] using hr
    obtain ⟨hsession, i, hi, rfl⟩ := hmem
    exact ⟨e, List.mem_cons_self .., hsession, hi, h.panicked, h.late⟩

/-- Once a task is over nothing is read or handed to the store. -/
theorem silent_log (h : l.task.isOver = true) (moments : List Moment) :
    ∀ e ∈ l.log p traffic moments, e.step.read = none ∧ observations e.step.actions = [] := by
  induction moments generalizing l with
  | nil => exact List.forall_mem_nil _
  | cons m rest ih =>
    obtain ⟨hover, hsilent⟩ := (entry_happens p l m).of_isOver h
    rw [← l.after_task traffic] at hover
    exact List.forall_mem_cons.mpr ⟨hsilent, ih hover⟩

theorem isOver_after (h : (l.entry p m).step.task.phase = .panicked) :
    (l.after traffic (l.entry p m).step).task.isOver = true := by
  rw [after_task, Task.isOver, h]

theorem delivered_log (p : Plan) (traffic : Traffic) (l : Line) (moments : List Moment) (k : Nat) :
    Delivered p k (l.log p traffic moments) := by
  induction moments generalizing l with
  | nil => exact ⟨[], [], rfl, rfl, Nat.zero_le 1, List.forall_mem_nil _⟩
  | cons m rest ih =>
    rcases (entry_happens p l m).observations with hticks | hoverruns
    · exact delivered_cons (ih _) hticks
    · exact delivered_of_overruns hoverruns (silent_log (isOver_after hoverruns.panicked) rest)

end Line

/-- What a session has read is a beginning of what came on its connection, and what it has handed
to the store are the ticks among what it has read, in that order and each once, whether they were
read before the subscription was confirmed or later and whatever became of those handed over
before. Only the last thing that is read may be lost, and only if the task panics over it because
the clock cannot show when it would be idle after it. A session is not gone back to once the next
one began, so nothing of it is handed over again. -/
theorem session_ticks (p : Plan) (traffic : Traffic) (now : Time) (moments : List Moment) :
    let log := (Line.start p traffic now).log p traffic moments
    log.Pairwise (·.session ≤ ·.session) ∧
    ∀ k, (readIn k log).map (·.1) <+: (traffic k).map (·.incoming) ∧ Delivered p k log := by
  intro log
  refine ⟨Line.pairwise_log .., fun k => ⟨?_, Line.delivered_log ..⟩⟩
  have hread := Line.readIn_log p traffic (Line.start p traffic now) moments k
  rwa [Line.remaining_start] at hread

/-! ## A tick over which the clock runs out -/

open Adapter (btc confirmed noon priced)

/-- A feed that may be idle for as long as a configuration can tell. -/
def patient : Plan :=
  { btc with settings := { btc.settings with idleTimeout := .ofSeconds 9223372036854775807 } }

/-- One second after the clock began to run. -/
def early : Moment := { noon with now := 1000000000 }

def patientMoments : List Moment := [{ early with dialed := some true }, early, early]

/-- The confirmation comes, and then a tick. -/
def confirmedTick : Traffic := fun _ => [⟨0, confirmed⟩, ⟨0, priced "50000.12"⟩]

def patientLog : List Entry :=
  (Line.start patient confirmedTick 0).log patient confirmedTick patientMoments

/-- The tick is read and not handed to the store. -/
theorem patient_tick_lost :
    (ticksOf patient (readIn 0 patientLog)).length = 1 ∧ handedIn 0 patientLog = [] := by
  decide +kernel

end LiveEvents.Feed
