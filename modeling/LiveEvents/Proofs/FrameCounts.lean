import LiveEvents.Proofs.MetricCounts
import LiveEvents.Proofs.SessionTicks

/-!
# What sessions count of what they read

A session counts every tick that it reads. The texts and the ones among them that cannot be decoded
it counts only from when it has told that it is connected: what it reads while it waits for the
subscription to be confirmed is missing there. So ticks and errors exceed the texts that were
counted by no more than the ticks that were read too early. What the clock runs out over is not
counted at all, as the task panics first.
-/

namespace LiveEvents.Feed

def Action.measurement? : Action → Option Measurement
  | .count x => some x
  | _ => none

def measured (actions : List Action) : List Measurement :=
  actions.filterMap Action.measurement?

def measurements (log : List Entry) : List Measurement :=
  log.flatMap fun e => measured e.step.actions

def Action.announces : Action → Bool
  | .count (.connected _ connected) => connected
  | _ => false

def Step.announces (s : Step) : Bool := s.actions.any (·.announces)

def Step.panics (s : Step) : Bool := s.task.phase = .panicked

/-- Something that was read, in which session, whether that session had told before that it is
connected, and whether the task that was listening panicked over it. -/
structure Reading where
  session : Nat
  announced : Bool
  lost : Bool
  incoming : Incoming

def Entry.readings (announced : Bool) (e : Entry) : List Reading :=
  e.step.read.toList.map (⟨e.session, announced, announced && e.step.panics, ·⟩)

/-- All that was read in a run, which may begin after a session has told that it is connected. -/
def readings (announced : Bool) : List Entry → List Reading
  | [] => []
  | e :: rest =>
    e.readings announced ++ readings ((announced || e.step.announces) && !e.step.dials) rest

def Incoming.isText : Incoming → Bool
  | .text _ => true
  | _ => false

def Incoming.isMalformed (x : Exchange) : Incoming → Bool
  | .text s =>
    match x.decode s with
    | .error _ => true
    | .ok _ => false
  | _ => false

/-- Whether something that is read counts, by what was told before. -/
def countsAs (p : Plan) (announced : Bool) (i : Incoming) : FeedCount → Bool
  | .frames => announced && i.isText
  | .ticks => (i.tick? p.exchange).isSome
  | .decodeErrors => announced && i.isMalformed p.exchange

/-- Whether something that was read counts: not if it was lost. -/
def Reading.counts (p : Plan) (kind : FeedCount) (r : Reading) : Bool :=
  !r.lost && countsAs p r.announced r.incoming kind

def counts (p : Plan) (kind : FeedCount) (x : Measurement) : Bool :=
  kind.labels? x == some [Task.source p]

section

variable (p : Plan) (kind : FeedCount)

@[simp] theorem counts_frame : counts p kind (.frame (Task.source p)) = (kind == .frames) := by
  cases kind <;> simp [counts, FeedCount.labels?]

@[simp] theorem counts_tick : counts p kind (.tick (Task.source p)) = (kind == .ticks) := by
  cases kind <;> simp [counts, FeedCount.labels?]

@[simp] theorem counts_decodeError :
    counts p kind (.decodeError (Task.source p)) = (kind == .decodeErrors) := by
  cases kind <;> simp [counts, FeedCount.labels?]

@[simp] theorem measured_nil : measured [] = [] := rfl

@[simp] theorem measured_count (x : Measurement) (actions : List Action) :
    measured (.count x :: actions) = x :: measured actions := rfl

@[simp] theorem measured_write (o : Observation) (actions : List Action) :
    measured (.write o :: actions) = measured actions := rfl

end

/-- Neither does an action count anything that was read, nor does it tell that the feed is connected
or begin a session. -/
def Action.isSilent : Action → Bool
  | .dial | .count (.frame _) | .count (.tick _) | .count (.decodeError _) => false
  | .count (.connected _ connected) => !connected
  | _ => true

theorem silent_actions {p : Plan} {actions : List Action} (h : ∀ a ∈ actions, a.isSilent = true) :
    (∀ kind, (measured actions).countP (counts p kind) = 0) ∧
      actions.any (·.announces) = false ∧ actions.any (·.isDial) = false := by
  refine ⟨fun kind => ?_, ?_, ?_⟩
  · rw [List.countP_eq_zero]
    intro x hx
    obtain ⟨a, ha, hmeasurement⟩ := List.mem_filterMap.mp hx
    have hsilent := h a ha
    cases a with
    | count y =>
      obtain rfl : y = x := Option.some.inj hmeasurement
      cases kind <;> cases y <;> simp_all [counts, FeedCount.labels?, Action.isSilent]
    | _ => cases hmeasurement
  · rw [List.any_eq_false]
    intro a ha htells
    have hsilent := h a ha
    cases a with
    | count x => cases x <;> simp_all [Action.announces, Action.isSilent]
    | _ => cases htells
  · rw [List.any_eq_false]
    intro a ha hdial
    have hsilent := h a ha
    cases a with
    | dial => cases hsilent
    | _ => cases hdial

namespace Task

/-- What a task has told, by its phase: it listens once it has told that it is connected, and it
does not wait for confirmations any more. -/
def Fits (announced : Bool) : Phase → Prop
  | .dialing _ | .subscribing _ _ => announced = false
  | .listening _ _ => announced = true
  | .broken _ | .waiting _ | .ended | .panicked => True

/-- A step counts what it reads as it should unless it loses that, and the task fits what was told
after it. -/
structure Counts (p : Plan) (announced : Bool) (s : Step) : Prop where
  counted : ∀ kind, (measured s.actions).countP (counts p kind) =
    s.read.toList.countP fun i => !(announced && s.panics) && countsAs p announced i kind
  fits : Fits ((announced || s.announces) && !s.dials) s.task.phase

variable {p : Plan} {announced : Bool} {t : Task} {m : Moment}

theorem panics_of_live {s : Step} (h : s.task.isOver = false) : s.panics = false := by
  refine decide_eq_false fun hpanicked => ?_
  simp [isOver, hpanicked] at h

/-- A step that has nothing to count. -/
theorem counts_silent {t' : Task} {actions : List Action} {read : Option Incoming}
    (hactions : ∀ a ∈ actions, a.isSilent = true)
    (hread : ∀ i ∈ read, ∀ kind, countsAs p announced i kind = false)
    (h : Fits announced t'.phase) : Counts p announced { task := t', actions, read } := by
  obtain ⟨hmeasured, hannounces, hdials⟩ := silent_actions (p := p) hactions
  constructor
  · intro kind
    rw [hmeasured]
    cases read with
    | none => rfl
    | some i => simp [hread i rfl kind]
  · unfold Step.announces Step.dials
    rw [hannounces, hdials]
    simpa using h

/-- A step that reads nothing and has nothing to count. -/
theorem counts_idle {t' : Task} {actions : List Action}
    (hactions : ∀ a ∈ actions, a.isSilent = true) (h : Fits announced t'.phase) :
    Counts p announced { task := t', actions } :=
  counts_silent hactions (fun _ hread => nomatch hread) h

/-- What is no text does not count. -/
theorem countsAs_of_not_text {i : Incoming} (h : i.isText = false) (kind : FeedCount) :
    countsAs p announced i kind = false := by
  cases i with
  | text s => cases h
  | ping | binary | closed | failed | ended => cases kind <;> simp [countsAs, Incoming.isText,
      Incoming.tick?, Incoming.isMalformed]

/-- What comes before anything was told counts only if it is a tick. -/
theorem countsAs_early {i : Incoming} (h : i.tick? p.exchange = none) (kind : FeedCount) :
    countsAs p false i kind = false := by
  cases kind <;> simp [countsAs, h]

/-- What holds of the next thing on the connection holds of what is read of it. -/
theorem of_mem_incoming {i : Incoming} {good : Incoming → Prop} (hi : m.incoming = some i)
    (h : good i) : ∀ j ∈ m.incoming, good j := by
  rw [hi]
  rintro _ ⟨⟩
  exact h

theorem counts_brokenBy {cause : Break} {read : Option Incoming}
    (hread : ∀ i ∈ read, ∀ kind, countsAs p announced i kind = false) :
    Counts p announced (brokenBy p t cause [] read) :=
  counts_silent (by simp [disconnected, Action.isSilent]) hread trivial

theorem counts_brokenBy_unread {cause : Break} : Counts p announced (brokenBy p t cause [] none) :=
  counts_brokenBy fun _ hread => nomatch hread

theorem counts_stopped {before : List Action} (h : ∀ a ∈ before, a.isSilent = true) :
    Counts p announced (stopped p t before) := by
  refine counts_idle ?_ trivial
  intro a ha
  rcases List.mem_append.mp ha with hbefore | hlast
  · exact h a hbefore
  · rw [List.mem_singleton.mp hlast]
    rfl

/-- A feed that begins to listen tells that it is connected. -/
theorem counts_listen {actions : List Action} {now : Time} {read : Option Incoming}
    (hactions : ∀ a ∈ actions, a.isSilent = true)
    (hread : ∀ i ∈ read, i.tick? p.exchange = none) :
    Counts p false { listen p t now read with
      actions := actions ++ (listen p t now read).actions } := by
  obtain ⟨hmeasured, -, hdials⟩ := silent_actions (p := p) hactions
  constructor
  · intro kind
    change (measured (actions ++ [.count (.connected (source p) true)])).countP _ =
      read.toList.countP fun i => countsAs p false i kind
    unfold measured at hmeasured ⊢
    rw [List.filterMap_append, List.countP_append, hmeasured]
    cases read with
    | none => cases kind <;> rfl
    | some i =>
      rw [Option.toList_some, List.countP_singleton, countsAs_early (hread i rfl)]
      cases kind <;> rfl
  · have htells : (actions ++ (listen p t now read).actions).any (·.announces) = true := by
      simp [listen, Action.announces]
    have hstays : (actions ++ (listen p t now read).actions).any (·.isDial) = false := by
      rw [List.any_append, hdials]
      rfl
    unfold Step.announces Step.dials
    rw [htells, hstays]
    change Fits true (listen p t now read).task.phase
    unfold listen
    dsimp only
    split_ifs <;> trivial

/-- A tick is counted; the text that it stands in only by a feed that told that it is connected. -/
theorem counts_write {text : String} {tick : Tick} (hincoming : m.incoming = some (.text text))
    (htick : p.exchange.decode text = .ok (.tick tick)) (hlive : t.isOver = false)
    (h : Fits announced t.phase) :
    Counts p announced
      (write p t (if announced then [.count (.frame (source p))] else []) tick m) := by
  constructor
  · intro kind
    rw [panics_of_live hlive]
    unfold write
    rw [hincoming]
    cases announced <;> cases kind <;>
      simp [countsAs, Incoming.tick?, Incoming.isText, Incoming.isMalformed, htick]
  · cases announced <;> exact h

theorem counts_subscribe : Counts p false (subscribe p t m) := by
  have hrequests : ∀ a ∈ (p.exchange.subscribeRequests p.settings.symbols).map Action.subscribe,
      a.isSilent = true := by
    intro a ha
    obtain ⟨request, -, rfl⟩ := List.mem_map.mp ha
    rfl
  unfold subscribe
  split_ifs
  · exact counts_brokenBy_unread
  · exact counts_listen hrequests fun _ h => nomatch h
  · exact counts_idle hrequests rfl

theorem counts_readSubscribing {acks : Nat} {until_ : Time}
    (hphase : t.phase = .subscribing acks until_) :
    Counts p false (readSubscribing p t m acks until_) := by
  have hfits : Fits false t.phase := hphase ▸ rfl
  have hlive : t.isOver = false := by simp only [isOver, hphase]
  have hidle (read : Option Incoming)
      (hread : ∀ i ∈ read, ∀ kind, countsAs p false i kind = false) :
      Counts p false { task := t, read } := counts_silent (List.forall_mem_nil _) hread hfits
  unfold readSubscribing
  cases hi : m.incoming with
  | none => exact hidle none fun _ h => by cases h
  | some i =>
    have hread (h : ∀ kind, countsAs p false i kind = false) :
        ∀ j ∈ m.incoming, ∀ kind, countsAs p false j kind = false := of_mem_incoming hi h
    cases i with
    | text text =>
      dsimp only
      unfold confirmBy
      cases hd : p.exchange.decode text with
      | error e =>
        exact counts_brokenBy (hread (countsAs_early (by simp [Incoming.tick?, hd])))
      | ok frame =>
        cases frame with
        | ack =>
          have htick : Incoming.tick? p.exchange (.text text) = none := by
            simp [Incoming.tick?, hd]
          dsimp only
          split_ifs
          · exact counts_silent (List.forall_mem_nil _) (hread (countsAs_early htick)) rfl
          · have htaken : ∀ j ∈ m.incoming, j.tick? p.exchange = none := of_mem_incoming hi htick
            exact counts_listen (List.forall_mem_nil _) htaken
        | rejected reason =>
          exact counts_brokenBy (hread (countsAs_early (by simp [Incoming.tick?, hd])))
        | tick tick => exact counts_write hi hd hlive hfits
        | control => exact hidle _ (hread (countsAs_early (by simp [Incoming.tick?, hd])))
    | closed | failed | ended => exact counts_brokenBy (hi ▸ hread (countsAs_of_not_text rfl))
    | ping | binary => exact hidle _ (hi ▸ hread (countsAs_of_not_text rfl))

theorem counts_hear {text : String} (hincoming : m.incoming = some (.text text))
    (hlive : t.isOver = false) (h : Fits true t.phase) : Counts p true (hear p t m text) := by
  unfold hear
  cases hd : p.exchange.decode text with
  | error e =>
    constructor
    · intro kind
      rw [panics_of_live hlive, hincoming]
      cases kind <;>
        simp [countsAs, Incoming.tick?, Incoming.isText, Incoming.isMalformed, hd]
    · exact h
  | ok frame =>
    cases frame with
    | tick tick => exact counts_write hincoming hd hlive h
    | ack | rejected _ | control =>
      constructor
      · intro kind
        rw [panics_of_live hlive, hincoming]
        cases kind <;>
          simp [countsAs, Incoming.tick?, Incoming.isText, Incoming.isMalformed, hd]
      · exact h

theorem counts_readListening {beatAt idleAt : Time} (hphase : t.phase = .listening beatAt idleAt) :
    Counts p true (readListening p t m beatAt) := by
  unfold readListening
  cases hi : m.incoming with
  | none => exact counts_idle (List.forall_mem_nil _) (hphase ▸ rfl)
  | some i =>
    have hread (h : ∀ kind, countsAs p true i kind = false) :
        ∀ j ∈ m.incoming, ∀ kind, countsAs p true j kind = false := of_mem_incoming hi h
    dsimp only
    split_ifs
    · exact ⟨fun kind => by simp [Step.panics], trivial⟩
    cases i with
    | text text => exact counts_hear hi rfl rfl
    | closed | failed | ended => exact counts_brokenBy (hread (countsAs_of_not_text rfl))
    | ping | binary =>
      exact counts_silent (List.forall_mem_nil _) (hread (countsAs_of_not_text rfl)) rfl

/-- What a step counts, by the phase of the task. -/
theorem counts_step (p : Plan) (m : Moment) (h : Fits announced t.phase) :
    Counts p announced (step p t m) := by
  have hquiet : Counts p announced { task := t } :=
    counts_idle (List.forall_mem_nil _) h
  have hover : Counts p announced { task := { t with phase := .ended } } :=
    counts_idle (List.forall_mem_nil _) trivial
  unfold step
  by_cases hwriting : t.writing = true
  · rw [if_pos hwriting]
    unfold finishWrite
    cases m.written with
    | none => exact hquiet
    | some w => exact counts_idle (by simp [Action.isSilent]) h
  rw [if_neg hwriting]
  cases hphase : t.phase with
  | dialing until_ =>
    rw [hphase] at h
    obtain rfl : announced = false := h
    dsimp only
    by_cases hstopped : m.stopped = true
    · rw [if_pos hstopped]
      exact counts_stopped (List.forall_mem_nil _)
    rw [if_neg hstopped]
    cases m.dialed with
    | some ok =>
      cases ok with
      | true => exact counts_subscribe
      | false => exact counts_brokenBy_unread
    | none =>
      dsimp only
      split_ifs
      · exact counts_brokenBy_unread
      · exact hquiet
  | subscribing acks until_ =>
    rw [hphase] at h
    obtain rfl : announced = false := h
    dsimp only
    split_ifs
    · exact counts_stopped (by simp [Action.isSilent])
    · exact counts_listen (List.forall_mem_nil _) fun _ h => nomatch h
    · exact counts_readSubscribing hphase
  | listening beatAt idleAt =>
    rw [hphase] at h
    obtain rfl : announced = true := h
    dsimp only
    split_ifs
    · exact counts_stopped (by simp [Action.isSilent])
    · unfold beat
      split_ifs
      · exact counts_brokenBy_unread
      · exact counts_idle (by simp [Action.isSilent]) rfl
    · exact counts_brokenBy_unread
    · exact counts_readListening hphase
  | broken cause =>
    dsimp only
    split_ifs
    · exact hover
    · unfold plan
      cases t.backoff.next with
      | ok next => exact counts_idle (by simp [Action.isSilent]) trivial
      | error e => exact counts_idle (List.forall_mem_nil _) trivial
  | waiting until_ =>
    dsimp only
    split_ifs
    · exact hover
    · refine ⟨fun kind => rfl, ?_⟩
      rw [show Step.dials _ = true from rfl, Bool.not_true, Bool.and_false]
      rfl
    · exact hquiet
  | ended | panicked => exact hquiet

end Task

/-! ## Runs -/

variable {p : Plan} {announced : Bool}

theorem Entry.mem_readings {r : Reading} {e : Entry} (h : r ∈ e.readings announced) :
    e.step.read = some r.incoming ∧ r.lost = (announced && e.step.panics) := by
  obtain ⟨i, hi, rfl⟩ := List.mem_map.mp h
  exact ⟨Option.mem_toList.mp hi, rfl⟩

/-- The readings are all that was read. -/
theorem map_readings (announced : Bool) (log : List Entry) :
    (readings announced log).map (fun r => (r.session, r.incoming)) =
      log.filterMap fun e => e.step.read.map (e.session, ·) := by
  induction log generalizing announced with
  | nil => rfl
  | cons e rest ih =>
    rw [readings, List.map_append, ih]
    cases hread : e.step.read <;> simp [Entry.readings, hread]

theorem readings_eq_nil {log : List Entry} (h : ∀ e ∈ log, e.step.read = none) :
    readings announced log = [] := by
  induction log generalizing announced with
  | nil => rfl
  | cons e rest ih =>
    obtain ⟨hread, hrest⟩ := List.forall_mem_cons.mp h
    rw [readings, Entry.readings, hread, ih hrest]
    rfl

namespace Line

variable {traffic : Traffic} {l : Line}

theorem fits_after (h : Task.Fits announced l.task.phase) (traffic : Traffic) (m : Moment) :
    let s := (l.entry p m).step
    Task.Fits ((announced || s.announces) && !s.dials) (l.after traffic s).task.phase := by
  intro s
  rw [after_task]
  exact (Task.counts_step p { m with incoming := l.next? m.now } h).fits

/-- In whichever sessions, as much is counted as was read in them that counts. -/
theorem counts_log (traffic : Traffic) (h : Task.Fits announced l.task.phase)
    (moments : List Moment) (sessions : Nat → Bool) (kind : FeedCount) :
    (measurements ((l.log p traffic moments).filter (sessions ·.session))).countP (counts p kind) =
      ((readings announced (l.log p traffic moments)).filter (sessions ·.session)).countP
        (·.counts p kind) := by
  induction moments generalizing l announced with
  | nil => rfl
  | cons m rest ih =>
    let e := l.entry p m
    have hcounted := (Task.counts_step p { m with incoming := l.next? m.now } h).counted kind
    let tail := log p traffic (l.after traffic e.step) rest
    change (measurements ((e :: tail).filter (sessions ·.session))).countP _ =
      ((readings announced (e :: tail)).filter (sessions ·.session)).countP _
    rw [readings, List.filter_append, List.countP_append, ← ih (fits_after h traffic m)]
    by_cases hsession : sessions e.session = true
    · have hkept : (e :: tail).filter (sessions ·.session) =
          e :: tail.filter (sessions ·.session) := List.filter_cons_of_pos hsession
      have hall : (e.readings announced).filter (sessions ·.session) = e.readings announced := by
        unfold Entry.readings
        cases e.step.read <;> simp [hsession]
      rw [hkept, measurements, List.flatMap_cons, List.countP_append, hall, Entry.readings,
        List.countP_map]
      exact congrArg (· + _) hcounted
    · have hleft : (e :: tail).filter (sessions ·.session) = tail.filter (sessions ·.session) :=
        List.filter_cons_of_neg hsession
      have hnone : (e.readings announced).filter (sessions ·.session) = [] := by
        unfold Entry.readings
        cases e.step.read <;> simp [hsession]
      rw [hleft, hnone, List.countP_nil, Nat.zero_add]

/-- A step loses what it reads only when the clock runs out over it. -/
theorem overruns_of_lost (h : Task.Fits announced l.task.phase) {r : Reading}
    (hr : r ∈ (l.entry p m).readings announced) (hlost : r.lost = true) :
    Task.Overruns p m.now (l.entry p m).step := by
  obtain ⟨hread, heq⟩ := Entry.mem_readings hr
  obtain ⟨rfl, hpanics⟩ : announced = true ∧ (l.entry p m).step.panics = true := by
    simpa [heq] using hlost
  have hsome : (l.entry p m).step.read.isSome = true := by rw [hread]; rfl
  rcases (entry_happens p l m).overruns_of_read hsome (of_decide_eq_true hpanics) with
    hoverruns | ⟨until_, hphase⟩ | ⟨acks, until_, hphase⟩
  · exact hoverruns
  · rw [hphase] at h
    cases h
  · rw [hphase] at h
    cases h

/-- At most one reading of a run is lost, and only if the clock runs out. -/
theorem lost_log (traffic : Traffic) (h : Task.Fits announced l.task.phase)
    (moments : List Moment) :
    (readings announced (l.log p traffic moments)).countP (·.lost) ≤ 1 ∧
      ∀ r ∈ readings announced (l.log p traffic moments), r.lost = true →
        ∃ m ∈ moments, lastTime < m.now + p.settings.idleTimeout.nanos := by
  induction moments generalizing l announced with
  | nil => exact ⟨Nat.zero_le 1, List.forall_mem_nil _⟩
  | cons m rest ih =>
    let e := l.entry p m
    let tail := log p traffic (l.after traffic e.step) rest
    change (readings announced (e :: tail)).countP _ ≤ 1 ∧
      ∀ r ∈ readings announced (e :: tail), _
    rw [readings]
    by_cases hlost : ∃ r ∈ e.readings announced, r.lost = true
    · obtain ⟨r, hr, hlost⟩ := hlost
      have hoverruns := overruns_of_lost h hr hlost
      have htail : ∀ announced, readings announced tail = [] := fun _ =>
        readings_eq_nil fun e he => (silent_log (isOver_after hoverruns.panicked) rest e he).1
      rw [htail, List.append_nil]
      refine ⟨?_, fun _ _ _ => ⟨m, List.mem_cons_self .., hoverruns.late⟩⟩
      refine Nat.le_trans List.countP_le_length ?_
      unfold Entry.readings
      cases e.step.read <;> simp
    · have hkept : ∀ r ∈ e.readings announced, ¬r.lost = true := fun r hr h => hlost ⟨r, hr, h⟩
      obtain ⟨hcount, hlate⟩ := ih (fits_after h traffic m)
      refine ⟨?_, fun r hr hrlost => ?_⟩
      · rw [List.countP_append, List.countP_eq_zero.mpr hkept, Nat.zero_add]
        exact hcount
      · have hlater := (List.mem_append.mp hr).resolve_left fun hr => hkept r hr hrlost
        obtain ⟨m', hm', hle⟩ := hlate r hlater hrlost
        exact ⟨m', List.mem_cons_of_mem _ hm', hle⟩

end Line

theorem Incoming.isText_of_tick {x : Exchange} {i : Incoming} (h : (i.tick? x).isSome = true) :
    i.isText = true ∧ i.isMalformed x = false := by
  cases i with
  | text s =>
    refine ⟨rfl, ?_⟩
    cases hd : x.decode s with
    | ok frame => simp [Incoming.isMalformed, hd]
    | error e => simp [Incoming.tick?, hd] at h
  | ping | binary | closed | failed | ended => cases h

theorem Incoming.isText_of_isMalformed {x : Exchange} {i : Incoming}
    (h : i.isMalformed x = true) : i.isText = true := by
  cases i with
  | text s => rfl
  | ping | binary | closed | failed | ended => cases h

/-- A text is no tick if it cannot be decoded, so the two only exceed the texts where these do not
count. -/
theorem ticks_and_errors_le (p : Plan) (read : List Reading) :
    read.countP (·.counts p .ticks) + read.countP (·.counts p .decodeErrors) ≤
      read.countP (·.counts p .frames) +
        read.countP (fun r => !r.announced && (r.incoming.tick? p.exchange).isSome) := by
  induction read with
  | nil => exact Nat.le_refl 0
  | cons r rest ih =>
    obtain ⟨session, announced, lost, i⟩ := r
    have htick := @Incoming.isText_of_tick p.exchange i
    have hmalformed := @Incoming.isText_of_isMalformed p.exchange i
    simp only [List.countP_cons, Reading.counts, countsAs] at ih ⊢
    by_cases ht : (i.tick? p.exchange).isSome = true <;>
      by_cases hm : i.isMalformed p.exchange = true <;>
      cases lost <;> cases announced <;> simp_all <;> omega

/-- What becomes of the counts of an exchange in whichever sessions of a run, from any metrics on.
Every tick that was read there is counted. The texts, and the ones that cannot be decoded, are
counted as far as they were read after their session had told that it is connected. So ticks and
errors together exceed the texts by at most the ticks that were read before. Only what is lost is
not counted, which in a whole run is one reading at most, and none unless the clock cannot show when
the feed would be idle. -/
theorem readings_counted (p : Plan) (traffic : Traffic) (now : Time) (moments : List Moment)
    (before : List Measurement) (sessions : Nat → Bool) :
    let log := (Line.start p traffic now).log p traffic moments
    let all := readings false log
    let read := all.filter (sessions ·.session)
    let m := Metrics.after before
    let m' := Metrics.after (before ++ measurements (log.filter (sessions ·.session)))
    let source := Task.source p
    all.map (fun r => (r.session, r.incoming)) =
      (log.filterMap fun e => e.step.read.map (e.session, ·)) ∧
    all.countP (·.lost) ≤ 1 ∧
    (∀ r ∈ all, r.lost = true →
      ∃ m ∈ moments, lastTime < m.now + p.settings.idleTimeout.nanos) ∧
    m'.frames.get [source] = m.frames.get [source] +
      read.countP (fun r => !r.lost && (r.announced && r.incoming.isText)) ∧
    m'.ticks.get [source] = m.ticks.get [source] +
      read.countP (fun r => !r.lost && (r.incoming.tick? p.exchange).isSome) ∧
    m'.decodeErrors.get [source] = m.decodeErrors.get [source] +
      read.countP (fun r => !r.lost && (r.announced && r.incoming.isMalformed p.exchange)) ∧
    m'.ticks.get [source] + m'.decodeErrors.get [source] + m.frames.get [source] ≤
      m'.frames.get [source] + (m.ticks.get [source] + m.decodeErrors.get [source]) +
        read.countP (fun r => !r.announced && (r.incoming.tick? p.exchange).isSome) := by
  intro log all read m m' source
  have hstart : Task.Fits false (Line.start p traffic now).task.phase := rfl
  have hkind (kind : FeedCount) : (kind.tally m').get [source] = (kind.tally m).get [source] +
      read.countP (·.counts p kind) := by
    rw [← Line.counts_log traffic hstart moments sessions kind]
    exact kind.counts.lookup_after before (measurements (log.filter (sessions ·.session))) [source]
  obtain ⟨hlost, hlate⟩ := Line.lost_log (p := p) traffic hstart moments
  have hframes := hkind .frames
  have hticks := hkind .ticks
  have herrors := hkind .decodeErrors
  have hle := ticks_and_errors_le p read
  simp only [FeedCount.tally] at hframes hticks herrors
  exact ⟨map_readings false log, hlost, hlate, hframes, hticks, herrors, by omega⟩

/-- A confirmation and a tick are read; the clock runs out over the tick, and neither is counted. -/
theorem patient_reading_lost :
    (readings false patientLog).map (·.lost) = [false, true] ∧
    (Metrics.after (measurements patientLog)).frames.get ["binance"] = 0 ∧
    (Metrics.after (measurements patientLog)).ticks.get ["binance"] = 0 ∧
    ∃ m ∈ patientMoments, lastTime < m.now + patient.settings.idleTimeout.nanos := by
  obtain ⟨-, -, hlate, -⟩ :=
    readings_counted patient confirmedTick 0 patientMoments [] fun _ => true
  have hlost : ∃ r ∈ readings false patientLog, r.lost = true := by decide +kernel
  obtain ⟨r, hr, hlost⟩ := hlost
  exact ⟨by decide +kernel, by decide +kernel, by decide +kernel, hlate r hr hlost⟩

/-- A session that reads a tick before its subscription is confirmed has read two texts and counted
neither, but it has counted the tick. -/
theorem early_tick_uncounted :
    let traffic : Traffic := fun _ => [⟨0, Adapter.priced "50000.12"⟩, ⟨0, Adapter.confirmed⟩]
    let log := (Line.start Adapter.btc traffic 0).log Adapter.btc traffic
      [{ Adapter.noon with dialed := some true }, Adapter.noon,
        { Adapter.noon with written := some (.ok (.created "1"), .zero) }, Adapter.noon]
    let m := Metrics.after (measurements log)
    (log.filterMap (·.step.read)).countP (·.isText) = 2 ∧ m.frames.get ["binance"] = 0 ∧
      m.ticks.get ["binance"] = 1 ∧ m.decodeErrors.get ["binance"] = 0 := by
  decide +kernel

end LiveEvents.Feed
