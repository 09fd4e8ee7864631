import LiveEvents.Feed.Task
import Mathlib.Tactic.SplitIfs

/-!
# What a step of a feed can be

`Happens` says once everything that can become of a task when it is woken, with what it found that
made it so. What a task reads, what it hands to the store and how it ends are read off it.
-/

namespace LiveEvents.Feed

def Action.observation? : Action → Option Observation
  | .write o => some o
  | _ => none

def observations (actions : List Action) : List Observation :=
  actions.filterMap Action.observation?

@[simp] theorem observations_nil : observations [] = [] := rfl

@[simp] theorem observations_append (actions actions' : List Action) :
    observations (actions ++ actions') = observations actions ++ observations actions' :=
  List.filterMap_append

/-- Neither does an action hand anything to the store, nor does it begin a session. -/
def Action.IsPlain : Action → Prop
  | .write _ | .dial => False
  | _ => True

def Plain (actions : List Action) : Prop := ∀ a ∈ actions, a.IsPlain

theorem plain_nil : Plain [] := by simp [Plain]

theorem plain_singleton {a : Action} (h : a.IsPlain) : Plain [a] := by simpa [Plain] using h

theorem Plain.append {actions actions' : List Action} (h : Plain actions) (h' : Plain actions') :
    Plain (actions ++ actions') := by
  intro a ha
  exact (List.mem_append.mp ha).elim (h a) (h' a)

theorem plain_subscribe (requests : List String) : Plain (requests.map .subscribe) := by
  intro a ha
  obtain ⟨request, -, rfl⟩ := List.mem_map.mp ha
  trivial

theorem Plain.observations {actions : List Action} (h : Plain actions) :
    observations actions = [] := by
  refine List.filterMap_eq_nil_iff.mpr fun a ha => ?_
  have hplain := h a ha
  cases a with
  | write _ | dial => exact hplain.elim
  | subscribe _ | beat _ | close | count _ => rfl

/-- The tick that stands in what was read. -/
def Incoming.tick? (x : Exchange) : Incoming → Option Tick
  | .text s =>
    match x.decode s with
    | .ok (.tick t) => some t
    | _ => none
  | _ => none

namespace Task

/-- Nothing is ready for a task: it is over, or it goes on waiting. -/
def Quiet (t : Task) (m : Moment) : Prop :=
  match t.phase with
  | .dialing until_ => m.stopped = false ∧ m.dialed = none ∧ m.now < until_
  | .subscribing _ until_ => m.stopped = false ∧ m.now < until_ ∧ m.incoming = none
  | .listening beatAt idleAt =>
    m.stopped = false ∧ m.now < beatAt ∧ m.now < idleAt ∧ m.incoming = none
  | .broken _ => False
  | .waiting until_ => m.stopped = false ∧ m.now < until_
  | .ended | .panicked => True

/-- The task after it has read something that does not break the connection. A feed that listens
is not idle then, and the clock can show when it will be. -/
inductive Reads (p : Plan) (t : Task) (now : Time) : Task → Prop where
  | subscribing {acks acks' : Nat} {until_ : Time} (hphase : t.phase = .subscribing acks until_)
      (hnow : now < until_) : Reads p t now { t with phase := .subscribing acks' until_ }
  | listening {beatAt idleAt : Time} (hphase : t.phase = .listening beatAt idleAt)
      (hbeat : now < beatAt) (hidle : now < idleAt)
      (hclock : now + p.settings.idleTimeout.nanos ≤ lastTime) :
      Reads p t now { t with phase := .listening beatAt (now + p.settings.idleTimeout.nanos) }

/-- A task that goes on: it is not over, not writing and not stopped. -/
structure Open (t : Task) (m : Moment) : Prop where
  live : t.isOver = false
  writing : t.writing = false
  stopped : m.stopped = false

/-- A task has taken from the connection what there is, or nothing, and no tick stands in it. -/
structure Tickless (p : Plan) (m : Moment) (read : Option Incoming) : Prop where
  taken : read = none ∨ read = m.incoming
  tick : read.bind (·.tick? p.exchange) = none

theorem tickless_none (p : Plan) (m : Moment) : Tickless p m none := ⟨.inl rfl, rfl⟩

/-- What can become of a task when it is woken. -/
inductive Happens (p : Plan) (t : Task) (m : Moment) : Step → Prop where
  | blocked (hwriting : t.writing = true) (hwritten : m.written = none) :
      Happens p t m { task := t }
  | wrote {result : Except UpsertError Outcome} {elapsed : Duration} (hwriting : t.writing = true)
      (hwritten : m.written = some (result, elapsed)) :
      Happens p t m
        { task := { t with writing := false }
          actions := [.count (.upsert (source p) result elapsed)] }
  | quiet (hwriting : t.writing = false) (hquiet : t.Quiet m) : Happens p t m { task := t }
  | stops {actions : List Action} (hwriting : t.writing = false) (hstopped : m.stopped = true)
      (hactions : Plain actions) :
      Happens p t m { task := { t with phase := .ended }, actions }
  | breaks {cause : Break} {read : Option Incoming} (hopen : Open t m) (hread : Tickless p m read)
      (hidle : cause = .idle →
        ∃ beatAt idleAt, t.phase = .listening beatAt idleAt ∧ idleAt ≤ m.now ∧ read = none) :
      Happens p t m
        { task := { t with phase := .broken cause }, actions := [disconnected p], read }
  | subscribes {until_ : Time} (hopen : Open t m) (hphase : t.phase = .dialing until_)
      (hdialed : m.dialed = some true) :
      Happens p t m
        { task := { t with phase := .subscribing 0 (m.now + p.settings.subscribeTimeout.nanos) }
          actions := (p.exchange.subscribeRequests p.settings.symbols).map .subscribe }
  | listens {actions : List Action} {read : Option Incoming} (hopen : Open t m)
      (hphase : (∃ until_, t.phase = .dialing until_) ∨
        ∃ acks until_, t.phase = .subscribing acks until_)
      (hactions : Plain actions) (hread : Tickless p m read) :
      Happens p t m
        { listen p t m.now read with actions := actions ++ (listen p t m.now read).actions }
  | skips {t' : Task} {i : Incoming} {actions : List Action} {read : Option Incoming}
      (hopen : Open t m) (hreads : Reads p t m.now t') (hincoming : m.incoming = some i)
      (hread : read = some i) (htick : i.tick? p.exchange = none)
      (hactions : Plain actions) : Happens p t m { task := t', actions, read }
  | hands {t' : Task} {i : Incoming} {tick : Tick} {actions : List Action} (hopen : Open t m)
      (hreads : Reads p t m.now t') (hincoming : m.incoming = some i)
      (htick : i.tick? p.exchange = some tick) (hactions : Plain actions) :
      Happens p t m (write p t' actions tick m)
  | overruns {beatAt idleAt : Time} {i : Incoming} (hopen : Open t m)
      (hphase : t.phase = .listening beatAt idleAt) (hincoming : m.incoming = some i)
      (hlate : lastTime < m.now + p.settings.idleTimeout.nanos) :
      Happens p t m { task := { t with phase := .panicked }, read := m.incoming }
  | beats {beatAt idleAt : Time} (hopen : Open t m) (hphase : t.phase = .listening beatAt idleAt)
      (hbeat : beatAt ≤ m.now) :
      Happens p t m
        { task := { t with
            phase := .listening (beatAt + p.settings.heartbeatInterval.nanos) idleAt }
          actions := [.beat p.exchange.heartbeat] }
  | plans {cause : Break} {delay : Duration} {backoff : ReconnectBackoff} (hopen : Open t m)
      (hphase : t.phase = .broken cause) (hnext : t.backoff.next = .ok (delay, backoff)) :
      Happens p t m
        { task := { t with phase := .waiting (m.now + delay.nanos), backoff }
          actions := [.count (.reconnect (source p))] }
  | panics {cause : Break} {error : GrowthError} (hopen : Open t m)
      (hphase : t.phase = .broken cause) (hnext : t.backoff.next = .error error) :
      Happens p t m { task := { t with phase := .panicked } }
  | redials {until_ : Time} (hopen : Open t m) (hphase : t.phase = .waiting until_)
      (huntil : until_ ≤ m.now) :
      Happens p t m { task := { t with phase := dialingPhase p m.now }, actions := [.dial] }

variable {p : Plan} {t : Task} {m : Moment}

/-- A session that breaks for another reason than silence. -/
theorem happens_brokenBy {cause : Break} {read : Option Incoming} (phase : Phase)
    (hopen : Open t m) (hread : Tickless p m read) (hidle : cause ≠ .idle) :
    Happens p t m (brokenBy p { t with phase } cause [] read) :=
  .breaks hopen hread fun h => absurd h hidle

theorem happens_stopped {before : List Action} (hwriting : t.writing = false)
    (hstopped : m.stopped = true) (hbefore : Plain before) : Happens p t m (stopped p t before) :=
  .stops hwriting hstopped (hbefore.append (plain_singleton trivial))

theorem happens_subscribe {until_ : Time} (hopen : Open t m) (hphase : t.phase = .dialing until_)
    (hdialed : m.dialed = some true) : Happens p t m (subscribe p t m) := by
  unfold subscribe
  split_ifs with hfails hacks
  · exact happens_brokenBy t.phase hopen (tickless_none p m) (by simp)
  · exact .listens hopen (.inl ⟨until_, hphase⟩) (plain_subscribe _) (tickless_none p m)
  · exact .subscribes hopen hphase hdialed

theorem happens_readSubscribing {acks : Nat} {until_ : Time} (hopen : Open t m)
    (hphase : t.phase = .subscribing acks until_) (hnow : m.now < until_) :
    Happens p t m (readSubscribing p t m acks until_) := by
  have hself : Reads p t m.now t := by
    have h : Reads p t m.now { t with phase := .subscribing acks until_ } :=
      .subscribing hphase hnow
    rwa [← hphase] at h
  unfold readSubscribing
  cases hi : m.incoming with
  | none =>
    refine .quiet hopen.writing ?_
    simp only [Quiet, hphase]
    exact ⟨hopen.stopped, hnow, hi⟩
  | some i =>
    have htaken : i.tick? p.exchange = none → Tickless p m m.incoming := fun h =>
      ⟨.inr rfl, by rw [hi]; exact h⟩
    cases i with
    | text text =>
      simp only [confirmBy]
      cases hd : p.exchange.decode text with
      | error e =>
        exact happens_brokenBy t.phase hopen (htaken (by simp [Incoming.tick?, hd])) (by simp)
      | ok frame =>
        cases frame with
        | ack =>
          have htick : Incoming.tick? p.exchange (.text text) = none := by
            simp [Incoming.tick?, hd]
          dsimp only
          split_ifs with hmore
          · exact .skips hopen (.subscribing hphase hnow) hi hi htick plain_nil
          · exact .listens hopen (.inr ⟨acks, until_, hphase⟩) plain_nil (htaken htick)
        | rejected reason =>
          exact happens_brokenBy t.phase hopen (htaken (by simp [Incoming.tick?, hd])) (by simp)
        | tick tick => exact .hands hopen hself hi (by simp [Incoming.tick?, hd]) plain_nil
        | control => exact .skips hopen hself hi hi (by simp [Incoming.tick?, hd]) plain_nil
    | closed | failed | ended =>
      exact happens_brokenBy t.phase hopen (hi ▸ htaken rfl) (by simp)
    | ping | binary => exact .skips hopen hself hi rfl rfl plain_nil

/-- What a feed that listens makes of what it reads, if its idle timer could be rearmed. -/
theorem happens_receive {t' : Task} {i : Incoming} (hopen : Open t m) (hreads : Reads p t m.now t')
    (hincoming : m.incoming = some i) (hphase : ∃ phase, t' = { t with phase }) :
    Happens p t m (receive p t' m i) := by
  have htaken : i.tick? p.exchange = none → Tickless p m m.incoming := fun h =>
    ⟨.inr rfl, by rw [hincoming]; exact h⟩
  cases i with
  | text text =>
    simp only [receive, hear]
    cases hd : p.exchange.decode text with
    | error e =>
      have hcounts : Plain [.count (.frame (source p)), .count (.decodeError (source p))] := by
        simp [Plain, Action.IsPlain]
      exact .skips hopen hreads hincoming hincoming (by simp [Incoming.tick?, hd]) hcounts
    | ok frame =>
      cases frame with
      | tick tick =>
        exact .hands hopen hreads hincoming (by simp [Incoming.tick?, hd])
          (plain_singleton trivial)
      | ack | control | rejected _ =>
        exact .skips hopen hreads hincoming hincoming (by simp [Incoming.tick?, hd])
          (plain_singleton trivial)
  | closed | failed | ended =>
    obtain ⟨phase, rfl⟩ := hphase
    exact happens_brokenBy phase hopen (htaken rfl) (by simp)
  | ping | binary => exact .skips hopen hreads hincoming hincoming rfl plain_nil

theorem happens_readListening {beatAt idleAt : Time} (hopen : Open t m)
    (hphase : t.phase = .listening beatAt idleAt) (hbeat : m.now < beatAt)
    (hidle : m.now < idleAt) : Happens p t m (readListening p t m beatAt) := by
  unfold readListening
  cases hi : m.incoming with
  | none =>
    refine .quiet hopen.writing ?_
    simp only [Quiet, hphase]
    exact ⟨hopen.stopped, hbeat, hidle, hi⟩
  | some i =>
    dsimp only
    split_ifs with hlate
    · exact hi ▸ .overruns hopen hphase hi hlate
    · exact happens_receive hopen (.listening hphase hbeat hidle (Nat.le_of_not_lt hlate)) hi
        ⟨_, rfl⟩

theorem happens_step (p : Plan) (t : Task) (m : Moment) : Happens p t m (step p t m) := by
  unfold step
  by_cases hw : t.writing = true
  · rw [if_pos hw]
    unfold finishWrite
    cases hm : m.written with
    | none => exact .blocked hw hm
    | some w => exact .wrote hw hm
  rw [if_neg hw]
  have hwriting : t.writing = false := by simpa using hw
  -- A stop comes first in every phase that can be stopped.
  have hgoes : t.isOver = false → m.stopped ≠ true → Open t m := fun hlive hs =>
    ⟨hlive, hwriting, by simpa using hs⟩
  cases hphase : t.phase with
  | dialing until_ =>
    have hopen := hgoes (by simp only [isOver, hphase])
    dsimp only
    by_cases hs : m.stopped = true
    · rw [if_pos hs]
      exact happens_stopped hwriting hs plain_nil
    rw [if_neg hs]
    cases hd : m.dialed with
    | some ok =>
      cases ok with
      | true => exact happens_subscribe (hopen hs) hphase hd
      | false => exact happens_brokenBy t.phase (hopen hs) (tickless_none p m) (by simp)
    | none =>
      dsimp only
      split_ifs with huntil
      · exact happens_brokenBy t.phase (hopen hs) (tickless_none p m) (by simp)
      · refine .quiet hwriting ?_
        simp only [Quiet, hphase]
        exact ⟨(hopen hs).stopped, hd, Nat.lt_of_not_le huntil⟩
  | subscribing acks until_ =>
    have hopen := hgoes (by simp only [isOver, hphase])
    dsimp only
    split_ifs with hs huntil
    · exact happens_stopped hwriting hs (plain_singleton trivial)
    · exact .listens (hopen hs) (.inr ⟨acks, until_, hphase⟩) plain_nil (tickless_none p m)
    · exact happens_readSubscribing (hopen hs) hphase (Nat.lt_of_not_le huntil)
  | listening beatAt idleAt =>
    have hopen := hgoes (by simp only [isOver, hphase])
    dsimp only
    split_ifs with hs hbeat hidle
    · exact happens_stopped hwriting hs (plain_singleton trivial)
    · unfold beat
      split_ifs with hfails
      · exact happens_brokenBy t.phase (hopen hs) (tickless_none p m) (by simp)
      · exact .beats (hopen hs) hphase hbeat
    · exact .breaks (hopen hs) (tickless_none p m) fun _ => ⟨beatAt, idleAt, hphase, hidle, rfl⟩
    · exact happens_readListening (hopen hs) hphase (Nat.lt_of_not_le hbeat)
        (Nat.lt_of_not_le hidle)
  | broken cause =>
    have hopen := hgoes (by simp only [isOver, hphase])
    dsimp only
    split_ifs with hs
    · exact .stops hwriting hs plain_nil
    · unfold plan
      cases hnext : t.backoff.next with
      | ok next => exact .plans (hopen hs) hphase hnext
      | error e => exact .panics (hopen hs) hphase hnext
  | waiting until_ =>
    have hopen := hgoes (by simp only [isOver, hphase])
    dsimp only
    split_ifs with hs huntil
    · exact .stops hwriting hs plain_nil
    · exact .redials (hopen hs) hphase huntil
    · refine .quiet hwriting ?_
      simp only [Quiet, hphase]
      exact ⟨(hopen hs).stopped, Nat.lt_of_not_le huntil⟩
  | ended | panicked =>
    refine .quiet hwriting ?_
    simp only [Quiet, hphase]

/-! ## What is read off it -/

variable {s : Step}

/-- A step reads what is next on the connection, or nothing. -/
theorem Happens.read (h : Happens p t m s) : s.read = none ∨ s.read = m.incoming := by
  cases h with
  | breaks _ hread _ | listens _ _ _ hread => exact hread.taken
  | skips _ _ hincoming hread _ _ => exact .inr (hread.trans hincoming.symm)
  | hands | overruns => exact .inr rfl
  | blocked | wrote | quiet | stops | subscribes | beats | plans | panics | redials =>
    exact .inl rfl

/-- The task has read something, and panics over it and does nothing else since the clock cannot
show when it would be idle after it. -/
structure Overruns (p : Plan) (now : Time) (s : Step) : Prop where
  panicked : s.task.phase = .panicked
  silent : s.actions = []
  late : lastTime < now + p.settings.idleTimeout.nanos

/-- What a step hands to the store is the tick that it read, if it read one, unless the clock runs
out over it. -/
theorem Happens.observations (h : Happens p t m s) :
    observations s.actions =
      (s.read.bind (·.tick? p.exchange)).toList.map (.ofTick p.exchange p.identity · m.clock) ∨
    Overruns p m.now s := by
  cases h with
  | overruns _ _ _ hlate => exact .inr ⟨rfl, rfl, hlate⟩
  | breaks _ hread _ =>
    left
    simp only [hread.tick]
    rfl
  | listens _ _ hactions hread =>
    left
    simp only [observations_append, hactions.observations, listen, hread.tick]
    rfl
  | skips _ _ _ hread htick hactions =>
    left
    subst hread
    simp [hactions.observations, htick]
  | hands _ _ hincoming htick hactions =>
    left
    simp only [write, observations_append, hactions.observations, hincoming, Option.bind_some,
      htick]
    rfl
  | subscribes => exact .inl (plain_subscribe _).observations
  | stops _ _ hactions => exact .inl hactions.observations
  | blocked | wrote | quiet | beats | plans | panics | redials => exact .inl rfl

/-- A task panics over what it reads only when it begins to listen, or when the clock runs out. -/
theorem Happens.overruns_of_read (h : Happens p t m s) (hread : s.read.isSome = true)
    (hpanicked : s.task.phase = .panicked) :
    Overruns p m.now s ∨ (∃ until_, t.phase = .dialing until_) ∨
      ∃ acks until_, t.phase = .subscribing acks until_ := by
  cases h with
  | overruns _ _ _ hlate => exact .inl ⟨rfl, rfl, hlate⟩
  | listens _ hphase => exact .inr hphase
  | breaks => cases hpanicked
  | skips _ hreads | hands _ hreads => cases hreads <;> cases hpanicked
  | blocked | wrote | quiet | stops | subscribes | beats | plans | panics | redials => cases hread

/-- A task that is over stays over, reads nothing and hands nothing to the store. -/
theorem Happens.of_isOver (h : Happens p t m s) (hover : t.isOver = true) :
    s.task.isOver = true ∧ s.read = none ∧ Feed.observations s.actions = [] := by
  have hnever : ¬Open t m := fun hopen => by simp [hopen.live] at hover
  cases h with
  | blocked | wrote | quiet => exact ⟨hover, rfl, rfl⟩
  | stops _ _ hactions => exact ⟨rfl, rfl, hactions.observations⟩
  | breaks hopen | subscribes hopen | listens hopen | skips hopen | hands hopen | overruns hopen
  | beats hopen | plans hopen | panics hopen | redials hopen => exact absurd hopen hnever

/-- A stopped task is over after its next step, unless it is still writing; it reads nothing and
hands nothing to the store. -/
theorem Happens.of_stopped (h : Happens p t m s) (hstopped : m.stopped = true) :
    (t.writing = true ∨ s.task.isOver = true) ∧ s.read = none ∧
      Feed.observations s.actions = [] := by
  have hnever : ¬Open t m := fun hopen => by simp [hopen.stopped] at hstopped
  cases h with
  | blocked hwriting | wrote hwriting => exact ⟨.inl hwriting, rfl, rfl⟩
  | stops _ _ hactions => exact ⟨.inr rfl, rfl, hactions.observations⟩
  | quiet _ hquiet =>
    refine ⟨.inr ?_, rfl, rfl⟩
    change t.isOver = true
    cases hphase : t.phase <;> simp [Quiet, hphase, hstopped] at hquiet <;>
      simp [Task.isOver, hphase]
  | breaks hopen | subscribes hopen | listens hopen | skips hopen | hands hopen | overruns hopen
  | beats hopen | plans hopen | panics hopen | redials hopen => exact absurd hopen hnever

end Task

end LiveEvents.Feed
