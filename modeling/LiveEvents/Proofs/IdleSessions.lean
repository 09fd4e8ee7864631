import LiveEvents.Crawlers
import LiveEvents.Proofs.SessionTicks

/-!
# Sessions that break for silence

A feed rearms its idle timer when it reads, before it writes the tick it has read, and it looks at
its timers before it looks at what there is to read. So if no write lasts as long as the idle
timeout, a session breaks for silence only when nothing was there to read for that long. A write
that lasts longer breaks the session, whatever came meanwhile, and nothing keeps a configuration
from allowing such writes.
-/

namespace LiveEvents.Feed

/-- The task reads when something comes. -/
def Task.isReading (t : Task) : Bool :=
  !t.writing && match t.phase with
    | .subscribing _ _ | .listening _ _ => true
    | _ => false

/-- A line between two steps of its task. -/
structure Situation where
  line : Line
  /-- When the last step was made. -/
  now : Time
  /-- When the last tick was handed to the store. -/
  since : Time

/-- A situation, and the moment of the step that ends it. -/
structure Span where
  before : Situation
  moment : Moment

namespace Situation

def start (p : Plan) (traffic : Traffic) (now : Time) : Situation where
  line := .start p traffic now
  now := now
  since := now

variable (p : Plan) (traffic : Traffic)

def next (s : Situation) (m : Moment) : Situation :=
  let step := (s.line.entry p m).step
  { line := s.line.after traffic step
    now := m.now
    since := if step.task.writing && !s.line.task.writing then m.now else s.since }

/-- A run: a span for each moment. -/
def spans (s : Situation) : List Moment → List Span
  | [] => []
  | m :: rest => ⟨s, m⟩ :: spans (s.next p traffic m) rest

end Situation

namespace Span

/-- A task is woken as soon as something is ready for it: its timer, what it reads, or the end of
the write it waits for. -/
structure Timely (e : Span) : Prop where
  forth : e.before.now ≤ e.moment.now
  timer : ∀ time ∈ e.before.line.task.timer?,
    e.moment.now ≤ e.before.now ∨ e.moment.now ≤ time
  arrival : e.before.line.task.isReading = true → ∀ a ∈ e.before.line.unread.head?,
    e.moment.now ≤ e.before.now ∨ e.moment.now ≤ a.time
  written : e.before.line.task.writing = true → ∀ w ∈ e.moment.written,
    e.moment.now = e.before.since + w.2.nanos

def step (p : Plan) (e : Span) : Step := (e.before.line.entry p e.moment).step

/-- In the span something is there to read at that time. -/
def Offers (e : Span) (time : Time) : Prop :=
  e.before.now ≤ time ∧ time < e.moment.now ∧ ∃ a ∈ e.before.line.unread.head?, a.time ≤ time

/-- The span ends with the end of a write that lasted so long. -/
def Writes (e : Span) (elapsed : Duration) : Prop :=
  e.before.line.task.writing = true ∧ ∃ result, e.moment.written = some (result, elapsed)

/-- The span ends with a session that breaks for silence. -/
def GoesIdle (p : Plan) (e : Span) : Prop :=
  e.before.line.task.phase ≠ .broken .idle ∧ (e.step p).task.phase = .broken .idle

end Span

/-! ## What keeps a feed listening -/

namespace Task

variable {p : Plan} {t : Task} {m : Moment} {s : Step}

/-- What can have become of a task that listens after a step. -/
inductive Listens (p : Plan) (t : Task) (m : Moment) (s : Step) (idleAt : Time) : Prop where
  | rearmed (hwriting : t.writing = false) (hidle : idleAt = m.now + p.settings.idleTimeout.nanos)
  | writes {beatAt : Time} (hphase : t.phase = .listening beatAt idleAt)
      (hwriting : t.writing = true) (hstill : s.task.writing = true) (hread : s.read = none)
  | wrote {beatAt : Time} {w : Except UpsertError Outcome × Duration}
      (hphase : t.phase = .listening beatAt idleAt) (hwriting : t.writing = true)
      (hdone : s.task.writing = false) (hwritten : m.written = some w) (hread : s.read = none)
  | waits {beatAt : Time} (hphase : t.phase = .listening beatAt idleAt)
      (hwriting : t.writing = false) (hstill : s.task.writing = false) (hread : s.read = none)

theorem Reads.idleAt {t' : Task} {beatAt idleAt : Time} (h : Reads p t m.now t')
    (hphase : t'.phase = .listening beatAt idleAt) :
    idleAt = m.now + p.settings.idleTimeout.nanos := by
  cases h with
  | subscribing => cases hphase
  | listening =>
    injection hphase with _ hidle
    exact hidle.symm

theorem Happens.listens_of_listening (h : Happens p t m s) {beatAt idleAt : Time}
    (hphase : s.task.phase = .listening beatAt idleAt) : Listens p t m s idleAt := by
  cases h with
  | blocked hwriting _ => exact .writes hphase hwriting hwriting rfl
  | wrote hwriting hwritten => exact .wrote hphase hwriting rfl hwritten rfl
  | quiet hwriting _ => exact .waits hphase hwriting hwriting rfl
  | beats hopen hphase' _ =>
    injection hphase with _ hidle
    exact .waits (hidle ▸ hphase') hopen.writing hopen.writing rfl
  | listens hopen _ _ _ =>
    refine .rearmed hopen.writing ?_
    simp only [listen] at hphase
    split_ifs at hphase
    injection hphase with _ hidle
    exact hidle.symm
  | skips hopen hreads => exact .rearmed hopen.writing (hreads.idleAt hphase)
  | hands hopen hreads => exact .rearmed hopen.writing (hreads.idleAt hphase)
  | stops | breaks | subscribes | overruns | plans | panics | redials => cases hphase

/-- A session breaks for silence when its idle timer is due, and no other way. -/
theorem Happens.due_of_idle (h : Happens p t m s) (hnot : t.phase ≠ .broken .idle)
    (hidle : s.task.phase = .broken .idle) :
    ∃ beatAt idleAt, t.phase = .listening beatAt idleAt ∧ t.writing = false ∧ idleAt ≤ m.now := by
  cases h with
  | blocked | wrote | quiet => exact absurd hidle hnot
  | breaks hopen _ hdue =>
    injection hidle with hcause
    obtain ⟨beatAt, idleAt, hphase, hle, -⟩ := hdue hcause
    exact ⟨beatAt, idleAt, hphase, hopen.writing, hle⟩
  | listens _ _ _ _ =>
    simp only [listen] at hidle
    split_ifs at hidle
  | skips _ hreads | hands _ hreads => cases hreads <;> cases hidle
  | stops | subscribes | overruns | beats | plans | panics | redials => cases hidle

end Task

variable {p : Plan} {traffic : Traffic} {past : List Span} {s : Situation} {e : Span}

/-- In some span of the session a write ended that had lasted as long as the idle timeout. -/
def Slow (p : Plan) (past : List Span) (session : Nat) : Prop :=
  ∃ e ∈ past, e.before.line.session = session ∧
    ∃ elapsed, e.Writes elapsed ∧ p.settings.idleTimeout.nanos ≤ elapsed.nanos

theorem Slow.append {later : List Span} {session : Nat} (h : Slow p past session) :
    Slow p (past ++ later) session := by
  obtain ⟨e, he, hrest⟩ := h
  exact ⟨e, List.mem_append_left _ he, hrest⟩

/-- The idle timer is not overdue, and if it is due then nothing is left from before. -/
def Situation.Fresh (s : Situation) (idleAt : Time) : Prop :=
  s.now ≤ idleAt ∧ (s.now < idleAt ∨ ∀ a ∈ s.line.unread.head?, s.now ≤ a.time)

/-- The idle timer was armed when the write began, or is not overdue. -/
def Situation.Paced (p : Plan) (s : Situation) (idleAt : Time) : Prop :=
  (s.line.task.writing = true → s.since + p.settings.idleTimeout.nanos ≤ idleAt) ∧
    (s.line.task.writing = false → s.Fresh idleAt)

/-- What holds while a feed listens: nothing was read within the idle timeout before its idle timer
is due, and the timer is not overdue unless a write was slow. -/
structure Awake (p : Plan) (past : List Span) (s : Situation) (idleAt : Time) : Prop where
  unread : ∀ e ∈ past, ∀ time, idleAt ≤ time + p.settings.idleTimeout.nanos →
    time < e.moment.now → e.before.line.unread = s.line.unread
  timer : Slow p past s.line.session ∨ s.Paced p idleAt

/-- What every step of a timely run keeps. -/
structure Heard (p : Plan) (past : List Span) (s : Situation) : Prop where
  before : ∀ e ∈ past, e.moment.now ≤ s.now
  awake : ∀ beatAt idleAt, s.line.task.phase = .listening beatAt idleAt → Awake p past s idleAt

theorem heard_start (p : Plan) (traffic : Traffic) (now : Time) :
    Heard p [] (.start p traffic now) := by
  refine ⟨by simp, ?_⟩
  intro beatAt idleAt hphase
  cases hphase

/-- A listening feed that is woken in time finds its idle timer not overdue. -/
theorem Situation.Fresh.wake {m : Moment} {beatAt idleAt : Time} (h : s.Fresh idleAt)
    (htimely : (Span.mk s m).Timely) (hphase : s.line.task.phase = .listening beatAt idleAt)
    (hwriting : s.line.task.writing = false) :
    m.now ≤ idleAt ∧ (m.now < idleAt ∨ ∀ a ∈ s.line.unread.head?, m.now ≤ a.time) := by
  have htimer := htimely.timer (min beatAt idleAt) (by simp [Task.timer?, hwriting, hphase])
  have harrival := htimely.arrival (by simp [Task.isReading, hwriting, hphase])
  obtain ⟨hle, hfresh⟩ := h
  have hdue : m.now ≤ idleAt := by
    rcases htimer with hpast | hnext
    · exact Nat.le_trans hpast hle
    · exact Nat.le_trans hnext (Nat.min_le_right beatAt idleAt)
  refine ⟨hdue, ?_⟩
  rcases Nat.lt_or_eq_of_le hdue with hlt | heq
  · exact .inl hlt
  · right
    intro a ha
    rcases harrival a ha with hpast | hthere
    · rcases hfresh with hlt | hnothing
      · exact absurd (Nat.lt_of_le_of_lt hpast hlt) (Nat.not_lt_of_ge (Nat.le_of_eq heq.symm))
      · exact Nat.le_trans hpast (hnothing a ha)
    · exact hthere

/-! ## What a step keeps -/

namespace Situation

theorem next_task (p : Plan) (traffic : Traffic) (s : Situation) (m : Moment) :
    (s.next p traffic m).line.task = (s.line.entry p m).step.task :=
  Line.after_task ..

theorem next_since (p : Plan) (traffic : Traffic) (s : Situation) (m : Moment) :
    (s.next p traffic m).since =
      if (s.line.entry p m).step.task.writing && !s.line.task.writing then m.now else s.since :=
  rfl

/-- A step after which the feed listens does not begin a session. -/
theorem next_line {m : Moment} {beatAt idleAt : Time}
    (hphase : (s.next p traffic m).line.task.phase = .listening beatAt idleAt) :
    (s.next p traffic m).line.session = s.line.session ∧
      ((s.line.entry p m).step.read = none →
        (s.next p traffic m).line.unread = s.line.unread) := by
  rw [next_task] at hphase
  have hdials : ¬(s.line.entry p m).step.dials = true := by
    intro hdials
    have hdialing := ((Line.entry_happens p s.line m).of_dials hdials).2
    rw [hphase] at hdialing
    cases hdialing
  simp only [next, Line.after, if_neg hdials, Line.unreadAfter]
  refine ⟨trivial, fun hread => ?_⟩
  simp [hread]

variable {m : Moment} {beatAt idleAt : Time}

/-- A step that rearms the idle timer may begin a write. -/
theorem paced_rearmed (hwriting : s.line.task.writing = false)
    (hpos : 0 < p.settings.idleTimeout.nanos) :
    (s.next p traffic m).Paced p (m.now + p.settings.idleTimeout.nanos) := by
  constructor
  · intro hbegun
    rw [next_task] at hbegun
    rw [next_since, hbegun, hwriting]
    exact Nat.le_refl _
  · intro _
    have hlt : m.now < m.now + p.settings.idleTimeout.nanos := Nat.lt_add_of_pos_right hpos
    exact ⟨Nat.le_of_lt hlt, .inl hlt⟩

theorem Paced.writes (h : s.Paced p idleAt) (hwriting : s.line.task.writing = true)
    (hstill : (s.line.entry p m).step.task.writing = true) :
    (s.next p traffic m).Paced p idleAt := by
  constructor
  · intro _
    rw [next_since, hwriting]
    simpa using h.1 hwriting
  · intro hdone
    rw [next_task, hstill] at hdone
    cases hdone

/-- A write that lasted less than the idle timeout ends before the idle timer is due. -/
theorem Paced.wrote {w : Except UpsertError Outcome × Duration} (h : s.Paced p idleAt)
    (htimely : (Span.mk s m).Timely) (hwriting : s.line.task.writing = true)
    (hdone : (s.line.entry p m).step.task.writing = false) (hwritten : m.written = some w)
    (hfast : w.2.nanos < p.settings.idleTimeout.nanos) :
    (s.next p traffic m).Paced p idleAt := by
  constructor
  · intro hstill
    rw [next_task, hdone] at hstill
    cases hstill
  · intro _
    have hend : m.now = s.since + w.2.nanos := htimely.written hwriting w hwritten
    have hdue := h.1 hwriting
    have hlt : m.now < idleAt := by
      unfold Time at *
      omega
    exact ⟨Nat.le_of_lt hlt, .inl hlt⟩

theorem Paced.waits (h : s.Paced p idleAt) (htimely : (Span.mk s m).Timely)
    (hphase : s.line.task.phase = .listening beatAt idleAt)
    (hwriting : s.line.task.writing = false)
    (hstill : (s.line.entry p m).step.task.writing = false)
    (hunread : (s.next p traffic m).line.unread = s.line.unread) :
    (s.next p traffic m).Paced p idleAt := by
  constructor
  · intro hbegun
    rw [next_task, hstill] at hbegun
    cases hbegun
  · intro _
    have hwake := (h.2 hwriting).wake htimely hphase hwriting
    rwa [← hunread] at hwake

end Situation

/-- What is still unread has been so, if the step reads nothing. -/
theorem Awake.unread_append {idleAt : Time} {unread : List Arrival} {m : Moment}
    (h : Awake p past s idleAt) (hunread : unread = s.line.unread) :
    ∀ e ∈ past ++ [Span.mk s m], ∀ time, idleAt ≤ time + p.settings.idleTimeout.nanos →
      time < e.moment.now → e.before.line.unread = unread := by
  intro e he time hwindow hlt
  rw [hunread]
  rcases List.mem_append.mp he with hpast | hlast
  · exact h.unread e hpast time hwindow hlt
  · rw [List.mem_singleton.mp hlast]

theorem Heard.before_append (h : Heard p past s) {m : Moment} (htimely : (Span.mk s m).Timely) :
    ∀ e ∈ past ++ [Span.mk s m], e.moment.now ≤ m.now := by
  intro e he
  rcases List.mem_append.mp he with hpast | hlast
  · exact Nat.le_trans (h.before e hpast) htimely.forth
  · obtain rfl := List.mem_singleton.mp hlast
    exact Nat.le_refl m.now

theorem Heard.next (h : Heard p past s) {m : Moment} (htimely : (Span.mk s m).Timely)
    (hpos : 0 < p.settings.idleTimeout.nanos) :
    Heard p (past ++ [⟨s, m⟩]) (s.next p traffic m) := by
  have hbefore := h.before_append htimely
  refine ⟨hbefore, ?_⟩
  intro beatAt idleAt hphase
  obtain ⟨hsession, hunread⟩ := Situation.next_line hphase
  rw [Situation.next_task] at hphase
  cases (Line.entry_happens p s.line m).listens_of_listening hphase with
  | rearmed hwriting hidle =>
    subst hidle
    refine ⟨?_, .inr (Situation.paced_rearmed hwriting hpos)⟩
    intro e he time hwindow hlt
    have hnow := hbefore e he
    have hlate : m.now ≤ time := Nat.le_of_add_le_add_right hwindow
    exact absurd (Nat.le_trans hnow hlate) (Nat.not_le_of_gt hlt)
  | writes hphase' hwriting hstill hread =>
    have hawake := h.awake _ _ hphase'
    refine ⟨hawake.unread_append (hunread hread), ?_⟩
    exact hawake.timer.imp (hsession ▸ ·.append) (·.writes hwriting hstill)
  | @wrote _ w hphase' hwriting hdone hwritten hread =>
    have hawake := h.awake _ _ hphase'
    refine ⟨hawake.unread_append (hunread hread), ?_⟩
    by_cases hslow : p.settings.idleTimeout.nanos ≤ w.2.nanos
    · left
      exact ⟨⟨s, m⟩, by simp, hsession.symm, w.2, ⟨hwriting, w.1, hwritten⟩, hslow⟩
    · exact hawake.timer.imp (hsession ▸ ·.append)
        (·.wrote htimely hwriting hdone hwritten (Nat.lt_of_not_le hslow))
  | waits hphase' hwriting hstill hread =>
    have hawake := h.awake _ _ hphase'
    refine ⟨hawake.unread_append (hunread hread), ?_⟩
    exact hawake.timer.imp (hsession ▸ ·.append)
      (·.waits htimely hphase' hwriting hstill (hunread hread))

/-! ## Runs -/

theorem Situation.now_le_of_mem_spans {moments : List Moment}
    (htimely : ∀ e ∈ s.spans p traffic moments, e.Timely) (he : e ∈ s.spans p traffic moments) :
    s.now ≤ e.before.now := by
  induction moments generalizing s with
  | nil => cases he
  | cons m rest ih =>
    rcases List.mem_cons.mp he with rfl | hrest
    · exact Nat.le_refl _
    · have hforth := (htimely _ (List.mem_cons_self ..)).forth
      exact Nat.le_trans hforth (ih (fun e he => htimely e (List.mem_cons_of_mem _ he)) hrest)

/-- A session that breaks for silence was offered nothing by then, or a write was slow. -/
theorem Heard.silent (h : Heard p past e.before) (htimely : e.Timely) (hidle : e.GoesIdle p) :
    Slow p past e.before.line.session ∨
      ∀ e' ∈ past ++ [e], ∀ time, e.moment.now ≤ time + p.settings.idleTimeout.nanos →
        ¬e'.Offers time := by
  obtain ⟨beatAt, idleAt, hphase, hwriting, hdue⟩ :=
    (Line.entry_happens p e.before.line e.moment).due_of_idle hidle.1 hidle.2
  have hawake := h.awake beatAt idleAt hphase
  refine hawake.timer.imp_right ?_
  rintro ⟨-, hfresh⟩ e' he' time hwindow ⟨-, hlt, a, ha, hthere⟩
  have hnone : ∀ a ∈ e.before.line.unread.head?, e.moment.now ≤ a.time :=
    ((hfresh hwriting).wake htimely hphase hwriting).2.resolve_left (Nat.not_lt_of_ge hdue)
  rcases List.mem_append.mp he' with hpast | hlast
  · rw [hawake.unread e' hpast time (Nat.le_trans hdue hwindow) hlt] at ha
    have hended : e'.moment.now ≤ e.moment.now :=
      Nat.le_trans (h.before e' hpast) htimely.forth
    exact absurd (Nat.le_trans (hnone a ha) hthere)
      (Nat.not_le_of_gt (Nat.lt_of_lt_of_le hlt hended))
  · obtain rfl := List.mem_singleton.mp hlast
    exact absurd (Nat.le_trans (hnone a ha) hthere) (Nat.not_le_of_gt hlt)

theorem Heard.silent_of_mem_spans {moments : List Moment} (h : Heard p past s)
    (hpos : 0 < p.settings.idleTimeout.nanos)
    (htimely : ∀ e ∈ s.spans p traffic moments, e.Timely) (he : e ∈ s.spans p traffic moments)
    (hidle : e.GoesIdle p) :
    Slow p (past ++ s.spans p traffic moments) e.before.line.session ∨
      ∀ e' ∈ past ++ s.spans p traffic moments, ∀ time,
        e.moment.now ≤ time + p.settings.idleTimeout.nanos → time < e.moment.now →
        ¬e'.Offers time := by
  induction moments generalizing s past with
  | nil => cases he
  | cons m rest ih =>
    have hfirst : (Span.mk s m).Timely := htimely _ (List.mem_cons_self ..)
    have hrest : ∀ e ∈ (s.next p traffic m).spans p traffic rest, e.Timely := fun e he =>
      htimely e (List.mem_cons_of_mem _ he)
    have hsplit : past ++ s.spans p traffic (m :: rest) =
        past ++ [⟨s, m⟩] ++ (s.next p traffic m).spans p traffic rest := by
      simp [Situation.spans]
    rw [hsplit]
    rcases List.mem_cons.mp he with rfl | hlater
    · rcases h.silent hfirst hidle with hslow | hsilent
      · left
        rw [List.append_assoc]
        exact hslow.append
      · right
        intro e' he' time hwindow hlt hoffers
        rcases List.mem_append.mp he' with hpast | hafter
        · exact hsilent e' hpast time hwindow hoffers
        · -- What came in a later span came after the session broke.
          have hbegan := Situation.now_le_of_mem_spans hrest hafter
          exact absurd (Nat.le_trans hbegan hoffers.1) (Nat.not_le_of_gt hlt)
    · exact ih (h.next hfirst hpos) hrest hlater

/-- A session breaks for silence only if nothing was there to read for as long as the idle timeout,
or if a write of that session had lasted so long. -/
theorem idle_after_silence (p : Plan) (traffic : Traffic) (now : Time) (moments : List Moment)
    (htimely : ∀ e ∈ (Situation.start p traffic now).spans p traffic moments, e.Timely) :
    let run := (Situation.start p traffic now).spans p traffic moments
    ∀ e ∈ run, e.GoesIdle p →
      (∀ e' ∈ run, ∀ time, e.moment.now ≤ time + p.settings.idleTimeout.nanos →
        time < e.moment.now → ¬e'.Offers time) ∨
      ∃ e' ∈ run, e'.before.line.session = e.before.line.session ∧
        ∃ elapsed, e'.Writes elapsed ∧ p.settings.idleTimeout.nanos ≤ elapsed.nanos := by
  intro run e he hidle
  rcases Nat.eq_zero_or_pos p.settings.idleTimeout.nanos with hzero | hpos
  · left
    intro e' _ time hwindow hlt
    rw [hzero] at hwindow
    exact absurd hwindow (Nat.not_le_of_gt hlt)
  · have hsilent := (heard_start p traffic now).silent_of_mem_spans hpos htimely he hidle
    rw [List.nil_append] at hsilent
    exact hsilent.symm

/-! ## A store that is slower than the idle timeout -/

open Adapter (confirmed priced noon)

instance (e : Span) : Decidable e.Timely :=
  decidable_of_iff
    (e.before.now ≤ e.moment.now ∧
      (∀ time ∈ e.before.line.task.timer?, e.moment.now ≤ e.before.now ∨ e.moment.now ≤ time) ∧
      (e.before.line.task.isReading = true → ∀ a ∈ e.before.line.unread.head?,
        e.moment.now ≤ e.before.now ∨ e.moment.now ≤ a.time) ∧
      (e.before.line.task.writing = true → ∀ w ∈ e.moment.written,
        e.moment.now = e.before.since + w.2.nanos))
    ⟨fun ⟨forth, timer, arrival, written⟩ => ⟨forth, timer, arrival, written⟩,
      fun h => ⟨h.forth, h.timer, h.arrival, h.written⟩⟩

instance (e : Span) (time : Time) : Decidable (e.Offers time) :=
  inferInstanceAs (Decidable (_ ∧ _ ∧ ∃ a ∈ e.before.line.unread.head?, a.time ≤ time))

instance (p : Plan) (e : Span) : Decidable (e.GoesIdle p) :=
  inferInstanceAs (Decidable (_ ≠ _ ∧ _ = _))

def switchedOff : Config.Stream where
  enabled := false
  symbols := []
  wsUrl := ""
  ecosystem := ""
  heartbeatSeconds := 20
  idleTimeoutSeconds := 60
  handshakeTimeoutSeconds := 30
  subscribeTimeoutSeconds := 10
  reconnectInitialMillis := 5000
  reconnectMaxMillis := 60000

/-- A configuration that lets a write last twice as long as its feed may be idle. -/
def lenient : Config where
  service := { name := "crawler", logLevel := "info" }
  database := { backend := .memory, url := "", maxConnections := 10, upsertTimeoutSeconds := 60 }
  catalog := { language := "en", cryptoCategory := "crypto", sportCategory := "" }
  binance :=
    { stream :=
        { enabled := true
          symbols := ["BTCUSDT"]
          wsUrl := "wss://stream.binance.com:9443/stream"
          ecosystem := "binance"
          heartbeatSeconds := 20
          idleTimeoutSeconds := 30
          handshakeTimeoutSeconds := 30
          subscribeTimeoutSeconds := 10
          reconnectInitialMillis := 5000
          reconnectMaxMillis := 60000 }
      mode := .stream
      apiUrl := ""
      restFallback := false
      restPollSeconds := 30
      restTimeoutSeconds := 90 }
  bybit := switchedOff
  okx := switchedOff
  nba :=
    { enabled := false, apiKey := "", accessLevel := "trial", languageCode := "en", baseUrl := ""
      ecosystem := "", pollSeconds := 300, lookaheadDays := 0, timeoutSeconds := 30 }
  metrics := { enabled := false, bindAddress := "", healthPort := 8080 }

theorem lenient_valid : lenient.Valid := by
  decide +kernel

def lenientPlan : Plan where
  exchange := .binance
  settings := lenient.binance.stream.settings
  identity := lenient.catalog.priceIdentity lenient.binance.stream

def at_ (second : Nat) : Moment := { noon with now := (Duration.ofSeconds second).nanos }

def arrives (second : Nat) (incoming : Incoming) : Arrival := ⟨(at_ second).now, incoming⟩

/-- The confirmation comes at once, and then two ticks. -/
def ticking : Traffic := fun _ =>
  [arrives 0 confirmed, arrives 1 (priced "50000.12"), arrives 2 (priced "50000.13")]

/-- Nothing comes after the confirmation: a heartbeat goes out, and then the session breaks. -/
def hushed : Traffic := fun _ => [arrives 0 confirmed]

def hushedRun : List Span := (Situation.start lenientPlan hushed 0).spans lenientPlan hushed
  [{ at_ 0 with dialed := some true }, at_ 0, at_ 20, at_ 30]

/-- A session that breaks for silence, after nothing came for thirty seconds. -/
theorem hushedRun_idle :
    (∀ e ∈ hushedRun, e.Timely) ∧ (∃ e ∈ hushedRun, e.GoesIdle lenientPlan) ∧
    ∀ e ∈ hushedRun, e.GoesIdle lenientPlan →
      (∀ e' ∈ hushedRun, ∀ time,
        e.moment.now ≤ time + lenientPlan.settings.idleTimeout.nanos → time < e.moment.now →
        ¬e'.Offers time) ∨
      ∃ e' ∈ hushedRun, e'.before.line.session = e.before.line.session ∧
        ∃ elapsed, e'.Writes elapsed ∧
          lenientPlan.settings.idleTimeout.nanos ≤ elapsed.nanos :=
  ⟨by decide +kernel, by decide +kernel,
    idle_after_silence lenientPlan hushed 0 _ (by decide +kernel)⟩

/-- The first tick is written for thirty seconds. Then a heartbeat is due, and the idle timer. -/
def stalled : List Moment :=
  [{ at_ 0 with dialed := some true }, at_ 0, at_ 1,
    { at_ 31 with written := some (.ok (.updated "g1"), .ofSeconds 30) }, at_ 31, at_ 31]

def stalledRun : List Span :=
  (Situation.start lenientPlan ticking 0).spans lenientPlan ticking stalled

theorem stalledRun_timely : ∀ e ∈ stalledRun, e.Timely := by
  decide +kernel

theorem stalledRun_written : ∀ e ∈ stalledRun, ∀ w ∈ e.moment.written,
    w.2.nanos ≤ lenient.database.upsertTimeout.nanos := by
  decide +kernel

/-- The session breaks for silence while a tick has been there to read for most of the time. -/
theorem stalledRun_idle : ∃ e ∈ stalledRun, e.GoesIdle lenientPlan ∧
    ∃ e' ∈ stalledRun,
      e.moment.now ≤ (at_ 2).now + lenientPlan.settings.idleTimeout.nanos ∧
      (at_ 2).now < e.moment.now ∧ e'.Offers (at_ 2).now := by
  decide +kernel

/-- Under a valid configuration, and with no write that takes longer than that allows, a session
can break for silence although something was there to read. -/
theorem idle_despite_traffic :
    ¬∀ (c : Config) (p : Plan), c.Valid →
      (c.crawlers.binance = some p ∨ c.crawlers.bybit = some p ∨ c.crawlers.okx = some p) →
      ∀ (traffic : Traffic) (now : Time) (moments : List Moment),
        let run := (Situation.start p traffic now).spans p traffic moments
        (∀ e ∈ run, e.Timely) →
        (∀ e ∈ run, ∀ elapsed, e.Writes elapsed →
          elapsed.nanos ≤ c.database.upsertTimeout.nanos) →
        ∀ e ∈ run, e.GoesIdle p → ∀ e' ∈ run, ∀ time,
          e.moment.now ≤ time + p.settings.idleTimeout.nanos → time < e.moment.now →
          ¬e'.Offers time := by
  intro h
  have hwritten : ∀ e ∈ stalledRun, ∀ elapsed, e.Writes elapsed →
      elapsed.nanos ≤ lenient.database.upsertTimeout.nanos := by
    rintro e he elapsed ⟨-, result, hw⟩
    exact stalledRun_written e he (result, elapsed) hw
  obtain ⟨e, he, hidle, e', he', hwindow, hlt, hoffers⟩ := stalledRun_idle
  exact h lenient lenientPlan lenient_valid (.inl rfl) ticking 0 stalled stalledRun_timely hwritten
    e he hidle e' he' _ hwindow hlt hoffers

end LiveEvents.Feed
