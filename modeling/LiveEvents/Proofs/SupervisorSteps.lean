import LiveEvents.Proofs.HeldStreams
import LiveEvents.Proofs.StartedTasks

/-!
# What happens to the tasks of a supervisor

`turn` says once what each event makes of a task that is there, and `added` for which crawlers new
tasks come after those. Whatever holds of a task for good is read off `turn`.
-/

namespace LiveEvents

namespace Supervised

/-- The task when it has been told of a shutdown. -/
def told (t : Supervised) : Supervised := { t with signal := t.signal.change .shutdown }

/-- The task when its flag has been raised for good. -/
def raised (t : Supervised) : Supervised :=
  { t with signal := (t.signal.change (.setFlag true)).change .dropFlag }

/-- The task when its watcher has run, with or without room for an error. -/
def watched (room : Bool) (t : Supervised) : Supervised :=
  match t.watch, t.ending with
  | .watching, some .panicked => { t with watch := .reporting }
  | .watching, some _ => { t with watch := .done }
  | .reporting, _ => if room then { t with watch := .done } else t
  | .watching, none | .done, _ => t

theorem isRaised_raised (t : Supervised) (h : t.signal.isRaised = true) :
    t.raised.signal.isRaised = true := by
  obtain ⟨crawler, ⟨shutdown, flag, fired⟩, ending, watch⟩ := t
  cases flag with
  | none => cases h
  | some f =>
    obtain ⟨value, version, seen, held⟩ := f
    cases held
    · exact h
    · rfl

theorem raised_raised (t : Supervised) : t.raised.raised = t.raised := by
  obtain ⟨crawler, ⟨shutdown, flag, fired⟩, ending, watch⟩ := t
  cases flag with
  | none => rfl
  | some f =>
    obtain ⟨value, version, seen, held⟩ := f
    cases held <;> rfl

/-- A watcher changes nothing but how far it is. -/
theorem watched_keeps (room : Bool) (t : Supervised) :
    (t.watched room).signal = t.signal ∧ (t.watched room).ending = t.ending := by
  unfold watched
  split <;> try split_ifs
  all_goals exact ⟨rfl, rfl⟩

/-- What may become of a task as time goes on: it ends once, its watcher is through with it once,
and its flag goes up once. Only its owner lets its signal fire. -/
structure Turns (t t' : Supervised) : Prop where
  crawler : t'.crawler = t.crawler
  fired : t'.signal.fired = t.signal.fired
  ending : ∀ e, t.ending = some e → t'.ending = some e
  running : t'.isRunning = true → t.isRunning = true
  reporting : t'.watch = .reporting → t.watch = .reporting ∨ t.ending = some .panicked
  raised : t.signal.isRaised = true → t'.signal.isRaised = true

theorem Turns.refl (t : Supervised) : Turns t t := ⟨rfl, rfl, fun _ h => h, id, .inl, id⟩

theorem turns_told (t : Supervised) : Turns t t.told := ⟨rfl, rfl, fun _ h => h, id, .inl, id⟩

theorem turns_raised (t : Supervised) : Turns t t.raised :=
  ⟨rfl, rfl, fun _ h => h, id, .inl, t.isRaised_raised⟩

theorem turns_finish (t : Supervised) (ending : Ending) : Turns t (t.finish ending) :=
  ⟨rfl, rfl, fun _ h => by simp [finish, h], id, .inl, id⟩

theorem turns_watched (room : Bool) (t : Supervised) : Turns t (t.watched room) := by
  have hpast : ∀ watch : Watch, watch ≠ .watching →
      (watch = .reporting → t.ending = some .panicked) → Turns t { t with watch } := by
    intro watch hwatch hreporting
    exact ⟨rfl, rfl, fun _ h => h, fun h => absurd (beq_iff_eq.mp h) hwatch,
      fun h => .inr (hreporting h), id⟩
  unfold watched
  split
  · rename_i hending
    exact hpast .reporting nofun fun _ => hending
  · exact hpast .done nofun nofun
  · split_ifs
    · exact hpast .done nofun nofun
    · exact .refl t
  · exact .refl t
  · exact .refl t

end Supervised

namespace Supervisor

variable {s s' : Supervisor} {e : Event} {t : Supervised}

def hasRoom (s : Supervisor) : Bool := decide (s.errors.length < errorRoom)

/-- The numbers of the streams whose handles are held. -/
def heldIds (s : Supervisor) : List Nat := s.streams.map (·.2)

/-- The error that the watcher of a task reports if it runs. -/
def complaint (s : Supervisor) (id : Nat) : List CriticalError :=
  match s.tasks[id]? with
  | some t => if t.watch = .reporting ∧ s.hasRoom = true then [.panicked t.crawler] else []
  | none => []

theorem raiseAll_eq (ids : List Nat) (s : Supervisor) :
    raiseAll ids s =
      { s with tasks := s.tasks.mapIdx fun id t => if id ∈ ids then t.raised else t } := by
  induction ids generalizing s with
  | nil =>
    have hsame : s.tasks.mapIdx (fun _ t => t) = s.tasks := List.ext_getElem? fun id => by simp
    simp [raiseAll, hsame]
  | cons id rest ih =>
    rw [raiseAll, ih]
    simp only [raise, changeTask, Supervisor.mk.injEq, and_true, true_and]
    refine List.ext_getElem? fun id' => ?_
    simp only [List.getElem?_mapIdx, List.getElem?_modify, Option.map_eq_map, Option.map_map,
      List.mem_cons]
    refine congrArg (Option.map · _) (funext fun t => ?_)
    by_cases heq : id' = id
    · subst heq
      simp only [Function.comp_apply, if_true, true_or]
      split_ifs
      · exact t.raised_raised
      · rfl
    · simp [heq, Ne.symm heq]

theorem shutdown_eq (s : Supervisor) : s.shutdown =
    { s.request with
      tasks := s.tasks.mapIdx fun id t => if id ∈ s.heldIds then t.told.raised else t.told
      streams := []
      released := s.tasks.length } := by
  have htasks : s.request.tasks.mapIdx (fun id t => if id ∈ s.heldIds then t.raised else t) =
      s.tasks.mapIdx fun id t => if id ∈ s.heldIds then t.told.raised else t.told := by
    refine List.ext_getElem? fun id => ?_
    simp only [request, List.getElem?_mapIdx, List.getElem?_map, Option.map_map]
    rfl
  unfold shutdown
  rw [raiseAll_eq]
  simp only [Supervisor.mk.injEq, true_and, and_true, List.length_mapIdx]
  exact ⟨htasks, by simp [request]⟩

theorem watch_eq (s : Supervisor) (id : Nat) : s.watch id =
    { s with
      tasks := s.tasks.modify id (·.watched s.hasRoom)
      errors := s.errors ++ s.complaint id } := by
  cases ht : s.tasks[id]? with
  | none =>
    have hsame : s.tasks.modify id (·.watched s.hasRoom) = s.tasks :=
      List.modify_eq_self (List.getElem?_eq_none_iff.mp ht)
    simp [watch, complaint, ht, hsame]
  | some t =>
    have hmodify : ∀ change : Supervised → Supervised, change t = t.watched s.hasRoom →
        s.tasks.modify id change = s.tasks.modify id (·.watched s.hasRoom) := by
      intro change h
      refine List.ext_getElem? fun id' => ?_
      simp only [List.getElem?_modify]
      by_cases heq : id = id'
      · subst heq
        simp [ht, h]
      · simp [heq]
    have hkept : t = t.watched s.hasRoom → s.tasks.modify id (·.watched s.hasRoom) = s.tasks := by
      intro h
      rw [← hmodify (fun t => t) h]
      exact List.modify_id id s.tasks
    obtain ⟨crawler, signal, ending, watch⟩ := t
    cases watch with
    | watching =>
      cases ending with
      | none => simp [Supervisor.watch, complaint, ht, hkept rfl]
      | some ending =>
        cases ending <;> simp [Supervisor.watch, complaint, ht, changeTask] <;> exact hmodify _ rfl
    | reporting =>
      cases hroom : s.hasRoom with
      | true =>
        rw [hroom] at hmodify
        have hlt : s.errors.length < errorRoom := of_decide_eq_true hroom
        simp [Supervisor.watch, complaint, ht, report, hroom, hlt, changeTask]
        exact hmodify _ rfl
      | false =>
        rw [hroom] at hkept
        have hnot : ¬s.errors.length < errorRoom := of_decide_eq_false hroom
        simp [Supervisor.watch, complaint, ht, report, hroom, hnot, hkept rfl]
    | done => simp [Supervisor.watch, complaint, ht, hkept rfl]

theorem poll_cases {errorFirst : Bool} {v : Verdict} (h : s.poll errorFirst = some (v, s')) :
    v = .shutdown ∧ s' = { s with heard := s.heard.receive.2 } ∨
      ∃ e errors, v = .critical e ∧ s.errors = e :: errors ∧ s' = { s with errors }.request := by
  have hhear : s.hear = some (v, s') →
      v = .shutdown ∧ s' = { s with heard := s.heard.receive.2 } := by
    intro h
    unfold hear at h
    dsimp only at h
    split_ifs at h
    obtain ⟨rfl, rfl⟩ := Prod.mk.inj (Option.some.inj h)
    exact ⟨rfl, rfl⟩
  have htake : s.take = some (v, s') →
      ∃ e errors, v = .critical e ∧ s.errors = e :: errors ∧ s' = { s with errors }.request := by
    intro h
    unfold take at h
    cases herrors : s.errors with
    | nil => simp [herrors] at h
    | cons e errors =>
      rw [herrors] at h
      obtain ⟨rfl, rfl⟩ := Prod.mk.inj (Option.some.inj h)
      exact ⟨e, errors, rfl, rfl, rfl⟩
  unfold poll at h
  split_ifs at h
  · exact (Option.or_eq_some_iff.mp h).elim (.inr ∘ htake) fun h => .inl (hhear h.2)
  · exact (Option.or_eq_some_iff.mp h).elim (.inl ∘ hhear) fun h => .inr (htake h.2)

/-! ## All events -/

/-- What an event makes of the task with a number. -/
def turn (s : Supervisor) : Event → Nat → Supervised → Supervised
  | .start | .report _ => fun _ t => t
  | .shutdown => fun id t => if id ∈ s.heldIds then t.told.raised else t.told
  | .poll errorFirst => fun _ t =>
    match s.poll errorFirst with
    | some (.critical _, _) => t.told
    | some (.shutdown, _) | none => t
  | .request => fun _ t => t.told
  | .taskEnds id' ending => fun id t => if id' = id then t.finish ending else t
  | .watch id' => fun id t => if id' = id then t.watched s.hasRoom else t

def added (s : Supervisor) : Event → List Crawler
  | .start => Crawler.inOrder.filter s.calls
  | _ => []

theorem tasks_step (hs : s.Placed) (e : Event) : (s.step e).2.tasks =
    s.tasks.mapIdx (s.turn e) ++ (s.added e).map (.begun s.capacity) := by
  have hkept : s.tasks.mapIdx (fun _ t => t) = s.tasks := List.ext_getElem? fun id => by simp
  have htold : s.request.tasks = s.tasks.mapIdx fun _ t => t.told :=
    List.ext_getElem? fun id => by
      simp only [request, List.getElem?_map, List.getElem?_mapIdx]
      rfl
  have hchange : ∀ (id : Nat) (change : Supervised → Supervised), s.tasks.modify id change =
      s.tasks.mapIdx fun id' t => if id = id' then change t else t := by
    intro id change
    exact List.ext_getElem? fun id' => by simp [List.getElem?_modify]
  cases e with
  | start =>
    simp only [turn, hkept]
    exact (start_grown hs).tasks
  | shutdown => simp [step, shutdown_eq, added, turn]
  | poll errorFirst =>
    cases hpoll : s.poll errorFirst with
    | none => simp [step, turn, added, hpoll, hkept]
    | some found =>
      obtain ⟨v, s'⟩ := found
      rcases poll_cases hpoll with ⟨rfl, rfl⟩ | ⟨e, errors, rfl, -, rfl⟩
      · simp [step, turn, added, hpoll, hkept]
      · simp only [step, turn, added, hpoll, List.map_nil, List.append_nil]
        exact htold
  | request => simpa [step, turn, added] using htold
  | report text =>
    simp only [step, report, turn, added, hkept]
    split_ifs <;> simp
  | taskEnds id ending => simpa [step, turn, added, changeTask] using hchange id _
  | watch id => simpa [step, turn, added, watch_eq] using hchange id _

/-- A task is what became of an old one, or it is one of the new ones. -/
theorem step_cases (hs : s.Placed) {e : Event} {id : Nat} {t' : Supervised}
    (ht' : (s.step e).2.tasks[id]? = some t') :
    (∃ t, s.tasks[id]? = some t ∧ t' = s.turn e id t) ∨
      ∃ n k, id = s.tasks.length + n ∧ (s.added e)[n]? = some k ∧ t' = .begun s.capacity k := by
  rw [tasks_step hs] at ht'
  by_cases hid : id < s.tasks.length
  · left
    rw [List.getElem?_append_left (by simpa using hid), List.getElem?_mapIdx,
      Option.map_eq_some_iff] at ht'
    obtain ⟨t, ht, rfl⟩ := ht'
    exact ⟨t, ht, rfl⟩
  · right
    rw [List.getElem?_append_right (by simpa using hid), List.getElem?_map,
      Option.map_eq_some_iff] at ht'
    obtain ⟨k, hk, rfl⟩ := ht'
    exact ⟨_, k, by simp; omega, hk, rfl⟩

theorem getElem?_step (hs : s.Placed) (e : Event) {id : Nat} {t : Supervised}
    (ht : s.tasks[id]? = some t) : (s.step e).2.tasks[id]? = some (s.turn e id t) := by
  have hid := (List.getElem?_eq_some_iff.mp ht).1
  rw [tasks_step hs, List.getElem?_append_left (by simpa using hid), List.getElem?_mapIdx, ht]
  rfl

/-- Handles are taken in a start and let go of in a shutdown. -/
theorem fields_step {e : Event} (hstart : e ≠ .start) (hshutdown : e ≠ .shutdown) :
    (s.step e).2.crawlers = s.crawlers ∧ (s.step e).2.streams = s.streams := by
  cases e with
  | start => exact absurd rfl hstart
  | shutdown => exact absurd rfl hshutdown
  | poll errorFirst =>
    cases hpoll : s.poll errorFirst with
    | none => simp [step, hpoll]
    | some found =>
      obtain ⟨v, s'⟩ := found
      rcases poll_cases hpoll with ⟨rfl, rfl⟩ | ⟨e, errors, rfl, -, rfl⟩ <;>
        simp [step, hpoll, request]
  | request | taskEnds => exact ⟨rfl, rfl⟩
  | report text =>
    simp only [step, report]
    split_ifs <;> exact ⟨rfl, rfl⟩
  | watch id => simp [step, watch_eq]

theorem crawlers_step (hs : s.Placed) (e : Event) : (s.step e).2.crawlers = s.crawlers := by
  by_cases hstart : e = .start
  · subst hstart
    exact (start_grown hs).crawlers
  by_cases hshutdown : e = .shutdown
  · subst hshutdown
    simp [step, shutdown_eq, request]
  · exact (fields_step hstart hshutdown).1

theorem Placed.step (hs : s.Placed) (e : Event) : (s.step e).2.Placed where
  exchange k p hp := hs.exchange k p (crawlers_step hs e ▸ hp)
  held x id hid := by
    by_cases hstart : e = .start
    · subst hstart
      exact (hs.grown (start_grown hs)).held x id hid
    by_cases hshutdown : e = .shutdown
    · subst hshutdown
      simp [Supervisor.step, shutdown_eq] at hid
    · rw [(fields_step hstart hshutdown).2] at hid
      have hlt := hs.held x id hid
      simp only [tasks_step hs, List.length_append, List.length_mapIdx]
      omega

/-- What no single thing that happens can undo is never undone. -/
theorem after_keeps {P : Supervisor → Prop} (h : P s) (hstep : ∀ s e, P s → P (s.step e).2)
    (events : List Event) : P (after events s) := by
  induction events generalizing s with
  | nil => exact h
  | cons e rest ih => exact ih (hstep s e h)

/-! ## What an event leaves as it is -/

theorem turns_turn (s : Supervisor) (e : Event) (id : Nat) (t : Supervised) :
    t.Turns (s.turn e id t) := by
  cases e with
  | start | report _ => exact .refl t
  | request => exact t.turns_told
  | shutdown =>
    simp only [turn]
    split_ifs
    · have hraised := t.told.turns_raised
      exact { hraised with }
    · exact t.turns_told
  | poll errorFirst =>
    simp only [turn]
    split
    · exact t.turns_told
    · exact .refl t
    · exact .refl t
  | taskEnds id' ending =>
    simp only [turn]
    split_ifs
    · exact t.turns_finish ending
    · exact .refl t
  | watch id' =>
    simp only [turn]
    split_ifs
    · exact t.turns_watched _
    · exact .refl t

/-- Flags go up in a shutdown only. -/
theorem turn_flag (s : Supervisor) {e : Event} (he : e ≠ .shutdown) (id : Nat) (t : Supervised) :
    (s.turn e id t).signal.flag = t.signal.flag := by
  cases e with
  | shutdown => exact absurd rfl he
  | start | report _ | request => rfl
  | poll errorFirst =>
    simp only [turn]
    split <;> rfl
  | taskEnds id' ending =>
    simp only [turn]
    split_ifs <;> rfl
  | watch id' =>
    simp only [turn]
    split_ifs
    · rw [(t.watched_keeps _).1]
    · rfl

/-- Tasks end by themselves only. -/
theorem turn_ending (s : Supervisor) {e : Event} (he : ∀ id ending, e ≠ .taskEnds id ending)
    (id : Nat) (t : Supervised) : (s.turn e id t).ending = t.ending := by
  cases e with
  | taskEnds id' ending => exact absurd rfl (he id' ending)
  | start | report _ | request => rfl
  | shutdown =>
    simp only [turn]
    split_ifs <;> rfl
  | poll errorFirst =>
    simp only [turn]
    split <;> rfl
  | watch id' =>
    simp only [turn]
    split_ifs
    · exact (t.watched_keeps _).2
    · rfl

/-! ## What an event adds -/

/-- Requests are counted, and what is told to the signal of a task is a request. -/
theorem requests_step (hs : s.Placed) (e : Event) : s.requests ≤ (s.step e).2.requests ∧
    (0 < (s.step e).2.requests ∨ ∀ id t, (s.turn e id t).signal = t.signal) := by
  cases e with
  | start => exact ⟨Nat.le_of_eq (start_grown hs).requests.symm, .inr fun _ _ => rfl⟩
  | shutdown =>
    simp only [step, shutdown_eq, request]
    exact ⟨Nat.le_succ _, .inl (Nat.succ_pos _)⟩
  | poll errorFirst =>
    cases hpoll : s.poll errorFirst with
    | none => simp [step, turn, hpoll]
    | some found =>
      obtain ⟨v, s'⟩ := found
      rcases poll_cases hpoll with ⟨rfl, rfl⟩ | ⟨e, errors, rfl, -, rfl⟩
      · simp [step, turn, hpoll]
      · simp [step, hpoll, request]
  | request => exact ⟨Nat.le_succ _, .inl (Nat.succ_pos _)⟩
  | report text =>
    simp only [step, report]
    split_ifs <;> exact ⟨Nat.le_refl _, .inr fun _ _ => rfl⟩
  | taskEnds id ending =>
    refine ⟨Nat.le_refl _, .inr fun id' t => ?_⟩
    simp only [turn]
    split_ifs <;> rfl
  | watch id =>
    simp only [step, watch_eq]
    refine ⟨Nat.le_refl _, .inr fun id' t => ?_⟩
    simp only [turn]
    split_ifs
    · exact (t.watched_keeps _).1
    · rfl

/-- An error that waits waited before, was reported by others, or comes from a watcher. -/
theorem errors_step (hs : s.Placed) {e : Event} {error : CriticalError}
    (herror : error ∈ (s.step e).2.errors) :
    error ∈ s.errors ∨ (∃ text, e = .report text ∧ error = .reported text) ∨
      ∃ t ∈ s.tasks, t.watch = .reporting ∧ error = .panicked t.crawler := by
  cases e with
  | start => exact .inl ((start_grown hs).errors ▸ herror)
  | shutdown =>
    left
    simpa [step, shutdown_eq, request] using herror
  | poll errorFirst =>
    left
    cases hpoll : s.poll errorFirst with
    | none => simpa [step, hpoll] using herror
    | some found =>
      obtain ⟨v, s'⟩ := found
      rcases poll_cases hpoll with ⟨rfl, rfl⟩ | ⟨e, errors, rfl, herrors, rfl⟩
      · simpa [step, hpoll] using herror
      · rw [herrors]
        refine List.mem_cons_of_mem _ ?_
        simpa [step, hpoll, request] using herror
  | request | taskEnds _ _ => exact .inl herror
  | report text =>
    simp only [step, report] at herror
    split_ifs at herror
    · rcases List.mem_append.mp herror with hold | hnew
      · exact .inl hold
      · exact .inr (.inl ⟨text, rfl, List.mem_singleton.mp hnew⟩)
    · exact .inl herror
  | watch id =>
    simp only [step, watch_eq, complaint] at herror
    rcases List.mem_append.mp herror with hold | hnew
    · exact .inl hold
    cases ht : s.tasks[id]? with
    | none => simp [ht] at hnew
    | some t =>
      simp only [ht] at hnew
      split_ifs at hnew with hreports
      · have hmem := List.mem_of_getElem? ht
        exact .inr (.inr ⟨t, hmem, hreports.1, List.mem_singleton.mp hnew⟩)
      · cases hnew

end Supervisor

end LiveEvents
