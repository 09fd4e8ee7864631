import LiveEvents.Proofs.IdleSessions
import LiveEvents.Proofs.Rounding
import LiveEvents.Proofs.ValidConfigs

/-!
# How long a feed waits before it dials again

The delay before a feed dials again grows when a session has broken, and it goes back to the least
delay when a session has got as far as to listen. Between the two the delays grow by half, through a
product of double floats that is rounded on its way, and still each is longer than the one before
until they have reached the greatest delay.
-/

namespace LiveEvents

namespace ReconnectBackoff

/-- The delay is between the least and the greatest one, which are lengths of so many nanoseconds,
and it grows by half. -/
structure Within (b : ReconnectBackoff) (least greatest : Nat) : Prop where
  initial : b.initial.nanos = least
  max : b.max.nanos = greatest
  growth : b.growth = Feed.Task.growth
  least_le : least ≤ b.current.nanos
  le_greatest : b.current.nanos ≤ greatest

variable {b : ReconnectBackoff} {least greatest : Nat}

theorem within_start {initial max : Duration} (h : initial.nanos ≤ max.nanos) :
    (start initial max Feed.Task.growth).Within initial.nanos max.nanos ∧
      (start initial max Feed.Task.growth).current.nanos = initial.nanos := by
  have hmin : (Min.min initial max).nanos = initial.nanos := by
    rw [Duration.nanos_min, Nat.min_eq_left h]
  exact ⟨⟨hmin, rfl, rfl, hmin.ge, hmin.le.trans h⟩, hmin⟩

theorem Within.reset (h : b.Within least greatest) :
    b.reset.Within least greatest ∧ b.reset.current.nanos = least :=
  ⟨⟨h.initial, h.max, h.growth, h.initial.ge, h.initial.le.trans (h.least_le.trans h.le_greatest)⟩,
    h.initial⟩

/-- The delay after this one is longer, up to the greatest. -/
theorem Within.next (h : b.Within least greatest) (hleast : 2 ≤ least)
    (hgreatest : greatest ≤ 18446744073709551615 * 1000000) :
    ∃ b', b.next = .ok (b.current, b') ∧ b'.Within least greatest ∧
      (b.current.nanos < b'.current.nanos ∨
        b.current.nanos = greatest ∧ b'.current.nanos = greatest) := by
  obtain ⟨d, hscale, hlonger⟩ := Binary64.scale?_grows (hleast.trans h.least_le)
    (h.le_greatest.trans hgreatest)
  have hnext : b.next = .ok (b.current, { b with current := Min.min d b.max }) := by
    have hgrown : grown? b.current b.growth = some d := by
      rw [h.growth]
      exact hscale
    simp only [ReconnectBackoff.next, hgrown]
  have hcurrent : (Min.min d b.max).nanos = min d.nanos greatest := by
    rw [Duration.nanos_min, h.max]
  have hle := h.le_greatest
  refine ⟨_, hnext, ⟨h.initial, h.max, h.growth, ?_, ?_⟩, ?_⟩
  · rw [hcurrent]
    exact le_min (h.least_le.trans hlonger.le) (h.least_le.trans hle)
  · rw [hcurrent]
    exact min_le_right _ _
  · rw [hcurrent]
    omega

end ReconnectBackoff

namespace Feed

def Phase.isListening : Phase → Bool
  | .listening _ _ => true
  | _ => false

namespace Task

variable {p : Plan} {t : Task} {m : Moment} {s : Step}

inductive Delays (p : Plan) (t : Task) (m : Moment) (s : Step) : Prop where
  | kept (hbackoff : s.task.backoff = t.backoff)
      (hlistening : s.task.phase.isListening = true → t.phase.isListening = true)
      (hbroken : ∀ cause, t.phase = .broken cause →
        (∃ cause', s.task.phase = .broken cause') ∨ s.task.phase = .ended)
  | reset (hbackoff : s.task.backoff = t.backoff.reset)
      (hlistening : s.task.phase.isListening = true)
      (hbroken : ∀ cause, t.phase ≠ .broken cause)
  | grown {cause : Break} {delay : Duration} {backoff : ReconnectBackoff}
      (hphase : t.phase = .broken cause) (hnext : t.backoff.next = .ok (delay, backoff))
      (hbackoff : s.task.backoff = backoff)
      (hwaiting : s.task.phase = .waiting (m.now + delay.nanos))
  | panicked (hbackoff : s.task.backoff = t.backoff ∨ s.task.backoff = t.backoff.reset)
      (hpanicked : s.task.phase = .panicked) (hbroken : ∀ cause, t.phase ≠ .broken cause)

theorem Reads.not_broken {t' : Task} (h : Reads p t m.now t') (cause : Break) :
    t.phase ≠ .broken cause := by
  intro hbroken
  cases h with
  | subscribing hphase | listening hphase =>
    rw [hbroken] at hphase
    cases hphase

theorem Reads.isListening {t' : Task} (h : Reads p t m.now t')
    (hlistening : t'.phase.isListening = true) : t.phase.isListening = true := by
  cases h with
  | subscribing => cases hlistening
  | listening hphase =>
    rw [hphase]
    rfl

/-- If the delay can grow then a feed does not panic where it plans to dial again. -/
theorem Happens.delays (h : Happens p t m s)
    (hnext : ∀ error, t.backoff.next ≠ .error error) : Delays p t m s := by
  cases h with
  | blocked | wrote | quiet => exact .kept rfl id fun cause hbroken => .inl ⟨cause, hbroken⟩
  | stops =>
    refine .kept rfl ?_ fun _ _ => .inr rfl
    intro hlistening
    cases hlistening
  | @breaks cause =>
    refine .kept rfl ?_ fun _ _ => .inl ⟨cause, rfl⟩
    intro hlistening
    cases hlistening
  | subscribes _ hphase => exact .kept rfl nofun fun _ hbroken => by simp [hbroken] at hphase
  | listens _ hphase =>
    have hbroken : ∀ cause, t.phase ≠ .broken cause := fun cause hbroken => by
      simp [hbroken] at hphase
    by_cases hlate : p.settings.heartbeatInterval.nanos = 0 ∨
        lastTime < m.now + p.settings.heartbeatInterval.nanos
    · exact .panicked (.inr rfl) (by simp [listen, hlate]) hbroken
    · exact .reset rfl (by simp [listen, hlate, Phase.isListening]) hbroken
  | overruns _ hphase => exact .panicked (.inl rfl) rfl fun _ hbroken => by simp [hbroken] at hphase
  | skips _ hreads | hands _ hreads =>
    exact .kept (by cases hreads <;> rfl) hreads.isListening fun cause hbroken =>
      absurd hbroken (hreads.not_broken cause)
  | beats _ hphase =>
    refine .kept rfl (fun _ => by rw [hphase]; rfl) ?_
    intro cause hbroken
    simp [hbroken] at hphase
  | plans _ hphase hplanned => exact .grown hphase hplanned rfl rfl
  | panics _ _ herror => exact absurd herror (hnext _)
  | redials _ hphase =>
    refine .kept rfl ?_ fun _ hbroken => by simp [hbroken] at hphase
    intro hlistening
    cases hlistening

end Task

/-- How many nanoseconds the feed waits from the end of the span, if it begins to wait there because
a session broke. -/
def Span.wait? (p : Plan) (e : Span) : Option Nat :=
  match e.before.line.task.phase, (e.step p).task.phase with
  | .broken _, .waiting until_ => some (until_ - e.moment.now)
  | _, _ => none

def Span.listens (p : Plan) (e : Span) : Bool := (e.step p).task.phase.isListening

/-- A session that broke: whether it got as far as to listen, and for how many nanoseconds the feed
waited after it. -/
structure Failure where
  listened : Bool
  wait : Nat
  deriving DecidableEq, Repr

/-- The sessions that broke in a part of a run, of which the first may have begun to listen before
it. -/
def failures (p : Plan) (listened : Bool) : List Span → List Failure
  | [] => []
  | e :: rest =>
    match e.wait? p with
    | some wait => ⟨listened, wait⟩ :: failures p false rest
    | none => failures p (listened || e.listens p) rest

/-- The delay after a session that did not listen follows on the one before. -/
def Failure.Grows (greatest : Nat) (f f' : Failure) : Prop :=
  f'.listened = false → f.wait < f'.wait ∨ f.wait = greatest ∧ f'.wait = greatest

/-- What is known of the delay between two steps: it is the least before any session broke and in a
session that got as far as to listen, and otherwise it has grown since the last one broke. -/
structure Due (least greatest : Nat) (last : Option Failure) (listened : Bool) (t : Task) :
    Prop where
  within : t.backoff.Within least greatest
  listening : t.phase.isListening = true → listened = true
  least : last = none ∨ listened = true → t.backoff.current.nanos = least
  grows : t.isOver = false → ∀ f ∈ last, f.Grows greatest ⟨listened, t.backoff.current.nanos⟩

variable {p : Plan} {least greatest : Nat} {last : Option Failure}
  {listened : Bool} {s : Situation} {m : Moment}

theorem due_start (p : Plan) (now : Time)
    (h : p.settings.reconnectInitial.nanos ≤ p.settings.reconnectMax.nanos) :
    Due p.settings.reconnectInitial.nanos p.settings.reconnectMax.nanos none false
      (.start p now) := by
  obtain ⟨hwithin, hcurrent⟩ := ReconnectBackoff.within_start h
  exact ⟨hwithin, nofun, fun _ => hcurrent, fun _ => nofun⟩

theorem Due.step_not_panicked (h : Due least greatest last listened s.line.task)
    (hleast : 2 ≤ least) (hgreatest : greatest ≤ 18446744073709551615 * 1000000) {cause : Break}
    (hbroken : s.line.task.phase = .broken cause) :
    ((Span.mk s m).step p).task.phase ≠ .panicked := by
  obtain ⟨b', hnext, -, -⟩ := h.within.next hleast hgreatest
  cases (Line.entry_happens p s.line m).delays (by simp [hnext]) with
  | kept _ _ hafter =>
    rcases hafter cause hbroken with ⟨cause', hphase⟩ | hphase
    · simp [Span.step, hphase]
    · simp [Span.step, hphase]
  | reset _ _ hnot => exact absurd hbroken (hnot cause)
  | grown _ _ _ hwaiting => simp [Span.step, hwaiting]
  | panicked _ _ hnot => exact absurd hbroken (hnot cause)

theorem Span.wait?_of_not_broken {e : Span}
    (h : ∀ cause, e.before.line.task.phase ≠ .broken cause) : e.wait? p = none := by
  unfold Span.wait?
  split
  · rename_i cause until_ hphase hwaiting
    exact absurd hphase (h cause)
  · rfl

theorem Span.live_of_wait? {e : Span} {wait : Nat} (h : e.wait? p = some wait) :
    e.before.line.task.isOver = false := by
  unfold Span.wait? at h
  split at h
  · rename_i cause until_ hphase hwaiting
    simp [Task.isOver, hphase]
  · cases h

/-- A wait that begins is as long as the delay was, and the delay grows then. -/
theorem Due.next (h : Due least greatest last listened s.line.task) (hleast : 2 ≤ least)
    (hgreatest : greatest ≤ 18446744073709551615 * 1000000) (traffic : Traffic) (m : Moment) :
    match (Span.mk s m).wait? p with
    | some wait => wait = s.line.task.backoff.current.nanos ∧
        Due least greatest (some ⟨listened, wait⟩) false (s.next p traffic m).line.task
    | none => Due least greatest last (listened || (Span.mk s m).listens p)
        (s.next p traffic m).line.task := by
  obtain ⟨b', hnext, hwithin, hgrown⟩ := h.within.next hleast hgreatest
  rw [Situation.next_task]
  cases (Line.entry_happens p s.line m).delays (by simp [hnext]) with
  | kept hbackoff hlistening hbroken =>
    -- No step but one that makes the delay grow leads from a broken session to a wait.
    have hwait : (Span.mk s m).wait? p = none := by
      unfold Span.wait?
      split
      · rename_i cause until_ hphase hwaiting
        rcases hbroken cause hphase with ⟨cause', hphase'⟩ | hphase'
        · exact absurd (hphase'.symm.trans hwaiting) nofun
        · exact absurd (hphase'.symm.trans hwaiting) nofun
      · rfl
    have hstill : (listened || (Span.mk s m).listens p) = listened := by
      cases hlistens : (Span.mk s m).listens p with
      | true => simp [h.listening (hlistening hlistens)]
      | false => simp
    rw [hwait, hstill]
    refine ⟨hbackoff ▸ h.within, fun hphase => h.listening (hlistening hphase),
      hbackoff ▸ h.least, fun hlive => hbackoff ▸ h.grows ?_⟩
    refine Bool.eq_false_iff.mpr fun hover => ?_
    rw [((Line.entry_happens p s.line m).of_isOver hover).1] at hlive
    cases hlive
  | reset hbackoff hlistening hbroken =>
    have hwait : (Span.mk s m).wait? p = none := Span.wait?_of_not_broken hbroken
    have hlistens : (Span.mk s m).listens p = true := hlistening
    obtain ⟨hwithin', hcurrent⟩ := h.within.reset
    rw [hwait, hlistens, Bool.or_true]
    exact ⟨hbackoff ▸ hwithin', fun _ => rfl, fun _ => hbackoff ▸ hcurrent, fun _ _ _ => nofun⟩
  | grown hphase hnext' hbackoff hwaiting =>
    obtain ⟨rfl, rfl⟩ := Prod.mk.inj (Except.ok.inj (hnext.symm.trans hnext'))
    have hend : ((Span.mk s m).step p).task.phase =
        .waiting (m.now + s.line.task.backoff.current.nanos) := hwaiting
    have hwait : (Span.mk s m).wait? p = some s.line.task.backoff.current.nanos := by
      simp only [Span.wait?, hphase, hend, Nat.add_sub_cancel_left]
    rw [hwait]
    refine ⟨rfl, ?_, ?_, ?_, ?_⟩
    · rwa [hbackoff]
    · intro hlistening
      rw [hwaiting] at hlistening
      cases hlistening
    · rintro (hnone | hfalse)
      · cases hnone
      · cases hfalse
    · intro _ f hf _
      obtain rfl := Option.some.inj hf
      rwa [hbackoff]
  | panicked hbackoff hpanicked hbroken =>
    have hwait : (Span.mk s m).wait? p = none := Span.wait?_of_not_broken hbroken
    have hlistens : (Span.mk s m).listens p = false := by
      simp [Span.listens, Span.step, hpanicked, Phase.isListening]
    obtain ⟨hwithin', hcurrent⟩ := h.within.reset
    rw [hwait, hlistens, Bool.or_false]
    refine ⟨?_, ?_, ?_, ?_⟩
    · rcases hbackoff with hsame | hreset
      · exact hsame ▸ h.within
      · exact hreset ▸ hwithin'
    · rw [hpanicked]
      nofun
    · rcases hbackoff with hsame | hreset
      · exact hsame ▸ h.least
      · exact fun _ => hreset ▸ hcurrent
    · simp [Task.isOver, hpanicked]

/-! ## Runs -/

/-- The waits of a run from some situation on. -/
theorem Due.failures (h : Due least greatest last listened s.line.task) (hleast : 2 ≤ least)
    (hgreatest : greatest ≤ 18446744073709551615 * 1000000) (traffic : Traffic)
    (moments : List Moment) :
    (∀ e ∈ s.spans p traffic moments, ∀ cause, e.before.line.task.phase = .broken cause →
      (e.step p).task.phase ≠ .panicked) ∧
    (∀ f ∈ failures p listened (s.spans p traffic moments),
      least ≤ f.wait ∧ f.wait ≤ greatest ∧ (f.listened = true → f.wait = least)) ∧
    (last = none → ∀ f ∈ (failures p listened (s.spans p traffic moments)).head?,
      f.wait = least) ∧
    (last.toList ++ failures p listened (s.spans p traffic moments)).IsChain
      (Failure.Grows greatest) := by
  induction moments generalizing s last listened with
  | nil => cases last <;> simp [Situation.spans, Feed.failures]
  | cons m rest ih =>
    have hnext := h.next (p := p) hleast hgreatest traffic m
    have hpanic : ∀ cause, s.line.task.phase = .broken cause →
        ((Span.mk s m).step p).task.phase ≠ .panicked :=
      fun _ hbroken => h.step_not_panicked hleast hgreatest hbroken
    cases hwait : (Span.mk s m).wait? p with
    | none =>
      rw [hwait] at hnext
      obtain ⟨hpanics, hwithin, hfirst, hchain⟩ := ih hnext
      simp only [Situation.spans, Feed.failures, hwait, List.forall_mem_cons]
      exact ⟨⟨hpanic, hpanics⟩, hwithin, hfirst, hchain⟩
    | some wait =>
      rw [hwait] at hnext
      obtain ⟨rfl, hdue⟩ := hnext
      obtain ⟨hpanics, hwithin, -, hchain⟩ := ih hdue
      simp only [Situation.spans, Feed.failures, hwait, List.forall_mem_cons]
      refine ⟨⟨hpanic, hpanics⟩, ⟨⟨h.within.least_le, h.within.le_greatest, ?_⟩, hwithin⟩, ?_, ?_⟩
      · exact fun hlistened => h.least (.inr hlistened)
      · intro hnone f hf
        obtain rfl := Option.some.inj hf
        exact h.least (.inl hnone)
      · cases last with
        | none => exact hchain
        | some f =>
          exact List.isChain_cons_cons.mpr ⟨h.grows (Span.live_of_wait? hwait) f rfl, hchain⟩

/-- What a valid configuration allows for the delays of a feed. -/
theorem delays_of_valid {c : Config} {name : String} {stream : Config.Stream} {exchange : Exchange}
    (hvalid : c.Valid) (hstream : (name, stream) ∈ c.streams)
    (hplan : stream.plan? exchange c.catalog = some p)
    (hfits : stream.reconnectMaxMillis < 2 ^ 64) :
    0 < stream.reconnectInitialMillis ∧
      stream.reconnectInitialMillis ≤ stream.reconnectMaxMillis ∧
      p.settings.reconnectInitial.nanos = stream.reconnectInitialMillis * 1000000 ∧
      p.settings.reconnectMax.nanos = stream.reconnectMaxMillis * 1000000 := by
  unfold Config.Stream.plan? at hplan
  split_ifs at hplan with henabled
  obtain rfl := Option.some.inj hplan
  have hruled := hvalid.stream hstream henabled
  have hinitial := hruled.initial
  have hmax := hruled.max
  simp only [Config.Stream.settings, Duration.ofMillis, Duration.ofNanos, Duration.greatest]
  omega

/-- A feed of a valid configuration never panics over its delay. It waits the least delay after the
first session that breaks and after each that got as far as to listen, never less than the least
and never more than the greatest; after a session that did not get so far it waits longer than it
did before, until it waits the greatest delay, as it does from then on. -/
theorem waits_grow {c : Config} {name : String} {stream : Config.Stream} {exchange : Exchange}
    {p : Plan} (hvalid : c.Valid) (hstream : (name, stream) ∈ c.streams)
    (hplan : stream.plan? exchange c.catalog = some p)
    (hfits : stream.reconnectMaxMillis < 2 ^ 64) (traffic : Traffic) (now : Time)
    (moments : List Moment) :
    let run := (Situation.start p traffic now).spans p traffic moments
    let least := stream.reconnectInitialMillis * 1000000
    let greatest := stream.reconnectMaxMillis * 1000000
    (∀ e ∈ run, ∀ cause, e.before.line.task.phase = .broken cause →
      (e.step p).task.phase ≠ .panicked) ∧
    (∀ f ∈ failures p false run,
      least ≤ f.wait ∧ f.wait ≤ greatest ∧ (f.listened = true → f.wait = least)) ∧
    (∀ f ∈ (failures p false run).head?, f.wait = least) ∧
    (failures p false run).IsChain (Failure.Grows greatest) := by
  obtain ⟨hpos, hle, hleast, hgreatest⟩ := delays_of_valid hvalid hstream hplan hfits
  intro run least greatest
  have hdue : Due _ _ none false (Situation.start p traffic now).line.task :=
    due_start p now (by omega)
  obtain ⟨hpanics, hwithin, hfirst, hchain⟩ :=
    hdue.failures (by omega) (by omega) traffic moments
  have hleast' : p.settings.reconnectInitial.nanos = least := hleast
  have hgreatest' : p.settings.reconnectMax.nanos = greatest := hgreatest
  rw [hleast'] at hwithin hfirst
  rw [hgreatest'] at hwithin hchain
  exact ⟨hpanics, hwithin, hfirst rfl, hchain⟩

/-- Two sessions cannot be dialed; the third is confirmed, and then it is silent until it breaks. -/
def shaky : List Moment :=
  [{ at_ 0 with dialed := some false }, at_ 0, at_ 5,
    { at_ 6 with dialed := some false }, at_ 6, at_ 14,
    { at_ 15 with dialed := some true }, at_ 15, at_ 35, at_ 45, at_ 45]

def shakyRun : List Span := (Situation.start lenientPlan hushed 0).spans lenientPlan hushed shaky

theorem shakyRun_waits :
    failures lenientPlan false shakyRun =
      [⟨false, 5000000000⟩, ⟨false, 7500000000⟩, ⟨true, 5000000000⟩] ∧
    (∀ f ∈ failures lenientPlan false shakyRun, 5000000000 ≤ f.wait ∧ f.wait ≤ 60000000000 ∧
      (f.listened = true → f.wait = 5000000000)) ∧
    (failures lenientPlan false shakyRun).IsChain (Failure.Grows 60000000000) := by
  have hstream : ("binance", lenient.binance.stream) ∈ lenient.streams := List.mem_cons_self ..
  have hplan : lenient.binance.stream.plan? .binance lenient.catalog = some lenientPlan := rfl
  obtain ⟨-, hwithin, -, hchain⟩ :=
    waits_grow lenient_valid hstream hplan (by decide) hushed 0 shaky
  exact ⟨by decide +kernel, hwithin, hchain⟩

end Feed

end LiveEvents
