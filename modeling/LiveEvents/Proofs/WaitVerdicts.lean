import LiveEvents.Proofs.SupervisorHistory

/-!
# What ends a wait on a supervisor

The errors that have been sent are those that waits have ended with and those that are still
waiting, in one and the same order. No other error ends a wait, and a wait that ends without an
error has heard of a shutdown. What the watcher of a task has sent can be read off the ending of the
task and off how far the watcher is, and so can whether the end was noticed.
-/

namespace LiveEvents

namespace Supervisor

variable {s s' : Supervisor} {e : Event} {id : Nat} {t : Supervised}

/-! ## Errors and shutdowns in a run -/

/-- What was waiting and what is sent is what waits end with and what is waiting then. -/
theorem errors_sent (hs : s.Placed) (events : List Event) :
    s.errors ++ (sent (history events s)).map (·.error) =
      (verdicts (history events s)).filterMap Verdict.error? ++ (after events s).errors := by
  induction events generalizing s with
  | nil => simp [history, sent, verdicts, after]
  | cons e rest ih =>
    have hverdicts : (verdicts (history (e :: rest) s)).filterMap Verdict.error? =
        ((s.step e).1.bind Verdict.error?).toList ++
          (verdicts (history rest (s.step e).2)).filterMap Verdict.error? := by
      cases hverdict : (s.step e).1 with
      | none => simp [verdicts, history, hverdict]
      | some v =>
        cases v <;> simp [verdicts, history, hverdict, Verdict.error?, List.filterMap_cons]
    rw [hverdicts, List.append_assoc, after, ← ih (hs.step e), ← List.append_assoc,
      ← errors_sent_step hs e]
    simp [sent, history]

theorem mem_of_mem_history {events : List Event} {x : Supervisor × Event}
    (h : x ∈ history events s) : x.2 ∈ events := by
  induction events generalizing s with
  | nil => cases h
  | cons e rest ih =>
    rcases List.mem_cons.mp h with rfl | hrest
    · exact List.mem_cons_self
    · exact List.mem_cons_of_mem e (ih hrest)

/-- What no watcher sends someone else has reported. -/
theorem reported_of_sent {events : List Event} {x : Sending} (h : x ∈ sent (history events s))
    (hsource : x.source = none) : ∃ text, .report text ∈ events ∧ x.error = .reported text := by
  obtain ⟨⟨s', e⟩, he, hx⟩ := List.mem_flatMap.mp h
  have hmem := mem_of_mem_history he
  cases e with
  | start | shutdown | poll _ | request | taskEnds _ _ => cases hx
  | report text =>
    simp only [sends] at hx
    split_ifs at hx
    · obtain rfl := List.mem_singleton.mp hx
      exact ⟨text, hmem, rfl⟩
    · cases hx
  | watch id =>
    obtain ⟨error, -, rfl⟩ := List.mem_map.mp hx
    cases hsource

theorem receive_of_nothing {heard : Subscription} (h : heard.receive.1 = .nothing) :
    heard.receive.2 = heard := by
  unfold Subscription.receive at *
  split_ifs at *
  rfl

/-- Who has something to hear has been told since there was nothing to hear. -/
theorem broadcast_of_heard (hs : s.Placed) (hquiet : s.heard.receive.1 = .nothing)
    {events : List Event} (hheard : (after events s).heard.receive.1 ≠ .nothing) :
    ∃ x ∈ history events s, x.1.Broadcasts x.2 := by
  induction events generalizing s with
  | nil => exact absurd hquiet hheard
  | cons e rest ih =>
    have hlater : (s.step e).2.heard = s.heard → ∃ x ∈ history (e :: rest) s,
        x.1.Broadcasts x.2 := by
      intro hsame
      obtain ⟨x, hx, htold⟩ := ih (hs.step e) (hsame ▸ hquiet) hheard
      exact ⟨x, List.mem_cons_of_mem _ hx, htold⟩
    rcases heard_step hs e with hnow | hsame | hreceived
    · exact ⟨(s, e), List.mem_cons_self, hnow⟩
    · exact hlater hsame
    · exact hlater (hreceived.trans (receive_of_nothing hquiet))

/-! ## Tasks in a run -/

/-- What the watcher of the task with a number has sent. -/
def sendings (s : Supervisor) (id : Nat) : List Sending :=
  (s.tasks[id]?).elim [] (·.sendings id)

/-- Nothing is sent but for a task that panicked. -/
theorem panicked_of_sendings {x : Sending} (h : x ∈ s.sendings id) : ∃ t,
    s.tasks[id]? = some t ∧ t.ending = some .panicked ∧ x.error = .panicked t.crawler := by
  unfold sendings at h
  cases ht : s.tasks[id]? with
  | none => simp [ht] at h
  | some t =>
    simp only [ht, Option.elim_some, Supervised.sendings] at h
    split_ifs at h with hdone
    · obtain rfl := List.mem_singleton.mp h
      exact ⟨t, rfl, hdone.1, rfl⟩
    · cases h

theorem sendings_step (h : s.Tended) (e : Event) (id : Nat) : (s.step e).2.sendings id =
    s.sendings id ++ (s.sends e).filter (·.source = some id) := by
  unfold sendings
  cases ht : s.tasks[id]? with
  | some t =>
    rw [getElem?_step h.placed e ht]
    exact sendings_turn (h.heeded id t ht) ht e
  | none =>
    have hnone : (s.sends e).filter (·.source = some id) = [] := by
      cases e with
      | start | shutdown | poll _ | request | taskEnds _ _ => rfl
      | report text =>
        simp only [sends]
        split_ifs <;> simp
      | watch id' =>
        simp only [sends]
        by_cases hid : id' = id
        · simp [hid, complaint, ht]
        · simp [hid]
    rw [hnone]
    rcases task_step h.placed e id with hkept | ⟨-, k, hbegun⟩
    · rw [hkept, ht]
      rfl
    · rw [hbegun]
      rfl

theorem sendings_after (h : s.Tended) (events : List Event) (id : Nat) :
    (after events s).sendings id =
      s.sendings id ++ (sent (history events s)).filter (·.source = some id) := by
  induction events generalizing s with
  | nil => simp [after, history, sent]
  | cons e rest ih =>
    rw [after, ih (h.step e), sendings_step h e]
    simp [history, sent]

/-- The end of the task with a number has been noticed. -/
def Noticed (s : Supervisor) (id : Nat) : Prop :=
  ∃ t, s.tasks[id]? = some t ∧ t.isRunning = false

theorem noticed_iff_of_status {name : String} {running : Bool}
    (h : s.status[id]? = some (name, running)) : s.Noticed id ↔ running = false := by
  simp only [status, List.getElem?_map, Option.map_eq_some_iff, Prod.mk.injEq] at h
  obtain ⟨t, ht, -, rfl⟩ := h
  simp [Noticed, ht]

theorem noticed_step (hs : s.Placed) (e : Event) (id : Nat) :
    (s.step e).2.Noticed id ↔ s.Noticed id ∨ s.Notices id e := by
  unfold Noticed Notices
  cases ht : s.tasks[id]? with
  | some t =>
    rw [getElem?_step hs e ht]
    simpa using isRunning_turn s e id t
  | none =>
    rcases task_step hs e id with hkept | ⟨-, k, hbegun⟩
    · simp [hkept, ht]
    · simp [hbegun, Supervised.begun, Supervised.isRunning]

theorem noticed_after (hs : s.Placed) (events : List Event) (id : Nat) :
    (after events s).Noticed id ↔
      s.Noticed id ∨ ∃ x ∈ history events s, x.1.Notices id x.2 := by
  induction events generalizing s with
  | nil => simp [after, history]
  | cons e rest ih =>
    rw [after, ih (hs.step e), noticed_step hs e, or_assoc]
    simp [history]

/-- Each time its watcher runs and there is room, a task that panicked is closer to be reported. -/
theorem left_after (hs : s.Placed) (ht : s.tasks[id]? = some t)
    (hpanicked : t.ending = some .panicked) (events : List Event) :
    ∃ t', (after events s).tasks[id]? = some t' ∧ t'.crawler = t.crawler ∧
      t'.ending = some .panicked ∧
      t'.watch.left ≤ t.watch.left - (history events s).countP (runsWithRoom id) := by
  induction events generalizing s t with
  | nil => exact ⟨t, ht, rfl, hpanicked, Nat.le_refl _⟩
  | cons e rest ih =>
    have hturns := turns_turn s e id t
    have hleft : (s.turn e id t).watch.left ≤
        t.watch.left - if runsWithRoom id (s, e) then 1 else 0 := by
      rw [watch_turn]
      split_ifs with hwatch hruns
      · have hroom : s.hasRoom = true := by simpa [runsWithRoom, hwatch] using hruns
        simpa [hroom] using t.left_watched hpanicked s.hasRoom
      · have := t.left_watched hpanicked s.hasRoom
        omega
      · simp [runsWithRoom, hwatch] at *
      · exact Nat.le_refl _
    obtain ⟨t', ht', hcrawler, hending, hle⟩ :=
      ih (hs.step e) (getElem?_step hs e ht) (hturns.ending _ hpanicked)
    refine ⟨t', ht', hcrawler.trans hturns.crawler, hending, ?_⟩
    rw [history, List.countP_cons]
    omega

/-! ## Tasks that end without a panic -/

theorem calm_task (hs : s.Placed) (h : s.Calm e) {id : Nat}
    (hcalm : ∀ t, s.tasks[id]? = some t → t.ending ≠ some .panicked) (t' : Supervised)
    (ht' : (s.step e).2.tasks[id]? = some t') : t'.ending ≠ some .panicked := by
  rcases step_cases hs ht' with ⟨t, ht, rfl⟩ | ⟨n, k, -, -, rfl⟩
  · have hbefore := hcalm t ht
    by_cases hends : ∃ id' ending, e = .taskEnds id' ending
    · obtain ⟨id', ending, rfl⟩ := hends
      have hending : ending ≠ .panicked := h
      simp only [turn]
      split_ifs
      · intro hnow
        rcases Option.or_eq_some_iff.mp hnow with hbefore' | ⟨-, hnow⟩
        · exact hbefore hbefore'
        · exact hending (Option.some.inj hnow)
      · exact hbefore
    · have hkept := turn_ending s (fun id' ending he => hends ⟨id', ending, he⟩) id t
      rwa [hkept]
  · simp [Supervised.begun]

theorem complaint_of_calm (h : s.Tended) (hcalm : s.Calm (.watch id)) : s.complaint id = [] := by
  unfold complaint
  split
  · rename_i t ht
    rw [if_neg]
    rintro ⟨hreporting, -⟩
    exact hcalm t ht ((h.heeded id t ht).reporting hreporting)
  · rfl

theorem calm_step (h : s.Tended) (hcalm : s.Calm e) :
    (s.step e).2.errors = s.errors ∧ (s.step e).2.heard = s.heard := by
  cases e with
  | start | shutdown | poll _ | request | report _ => cases hcalm
  | taskEnds id ending => exact ⟨rfl, rfl⟩
  | watch id => simp [step, watch_eq, complaint_of_calm h hcalm]

theorem calm_after (h : s.Tended) {events : List Event} (hcalm : ∀ e ∈ events, s.Calm e) :
    (after events s).errors = s.errors ∧ (after events s).heard = s.heard := by
  induction events generalizing s with
  | nil => exact ⟨rfl, rfl⟩
  | cons e rest ih =>
    obtain ⟨hnow, hlater⟩ := List.forall_mem_cons.mp hcalm
    have hstays : ∀ e' ∈ rest, (s.step e).2.Calm e' := by
      intro e' he'
      have hcalm' := hlater e' he'
      cases e' with
      | start | shutdown | poll _ | request | report _ => cases hcalm'
      | taskEnds id ending => exact hcalm'
      | watch id => exact calm_task h.placed hnow hcalm'
    obtain ⟨herrors, hheard⟩ := calm_step h hnow
    obtain ⟨herrors', hheard'⟩ := ih (h.step e) hstays
    exact ⟨herrors'.trans herrors, hheard'.trans hheard⟩

theorem hasRoom_of_poll (h : s.Tended) : (s.step (.poll true)).2.hasRoom = true := by
  have hpoll := congrArg List.length (errors_sent_step h.placed (.poll true))
  have hroom : s.errors.length ≤ 8 := h.room
  apply decide_eq_true
  change (s.step (.poll true)).2.errors.length < 8
  rw [verdict_poll] at hpoll
  cases herrors : s.errors with
  | nil =>
    simp [herrors, sends] at hpoll
    omega
  | cons e errors =>
    simp [herrors, sends, Verdict.error?] at hpoll hroom
    omega

/-- Errors come to waits in the order in which they were sent and once each, and the rest of them
is waiting. Each was reported by someone else or names a task that panicked. When one ends a wait,
a shutdown has been requested of all. A wait that ends without one comes after a shutdown was
requested. Whatever tasks have ended without a panic, a poll says what it would have said before.
The watcher of a task that panicked sends its error once, and does so at the latest when it runs
for the second time with room, which each poll for an error leaves. A task is listed as not running
just if its watcher has learned that it is over. -/
theorem wait_verdicts (c : Config) (capacity : Nat) (events : List Event) :
    let s := after events (c.supervisorOn capacity)
    let past := history events (c.supervisorOn capacity)
    ((sent past).map (·.error) = (verdicts past).filterMap Verdict.error? ++ s.errors) ∧
    (∀ x ∈ sent past,
      (x.source = none ∧ ∃ text, .report text ∈ events ∧ x.error = .reported text) ∨
      ∃ id t, x.source = some id ∧ s.tasks[id]? = some t ∧ t.ending = some .panicked ∧
        x.error = .panicked t.crawler) ∧
    (∀ errorFirst error s', s.step (.poll errorFirst) = (some (.critical error), s') →
      error ∈ (sent past).map (·.error) ∧ s'.requests = s.requests + 1 ∧
        s'.heard = s.heard.send ∧ s'.tasks = s.tasks.map (·.told)) ∧
    (∀ errorFirst s', s.step (.poll errorFirst) = (some .shutdown, s') →
      ∃ x ∈ past, x.1.Broadcasts x.2) ∧
    (∀ calm, (∀ e ∈ calm, s.Calm e) → ∀ errorFirst,
      ((after calm s).step (.poll errorFirst)).1 = (s.step (.poll errorFirst)).1) ∧
    (∀ (id : Nat) (t : Supervised), s.tasks[id]? = some t →
      (sent past).filter (·.source = some id) =
        if t.ending = some .panicked ∧ t.watch = .done then [⟨some id, .panicked t.crawler⟩]
        else []) ∧
    (∀ (id : Nat) (t : Supervised) (more : List Event), s.tasks[id]? = some t →
      t.ending = some .panicked → 2 ≤ (history more s).countP (runsWithRoom id) →
      (sent (past ++ history more s)).filter (·.source = some id) =
        [⟨some id, .panicked t.crawler⟩]) ∧
    (s.step (.poll true)).2.hasRoom = true ∧
    (∀ (id : Nat) (name : String) (running : Bool), s.status[id]? = some (name, running) →
      (running = false ↔ ∃ x ∈ past, x.1.Notices id x.2)) := by
  intro s past
  have hnew := tended_new c capacity
  have htended : s.Tended := hnew.after events
  have hconserved : (sent past).map (·.error) =
      (verdicts past).filterMap Verdict.error? ++ s.errors := errors_sent hnew.placed events
  have hsendings : ∀ id, s.sendings id = (sent past).filter (·.source = some id) :=
    sendings_after hnew events
  have hsent : ∀ (id : Nat) (t : Supervised), s.tasks[id]? = some t →
      (sent past).filter (·.source = some id) = t.sendings id := by
    intro id t ht
    simp [← hsendings, sendings, ht]
  refine ⟨hconserved, ?_, ?_, ?_, ?_, hsent, ?_, hasRoom_of_poll htended, ?_⟩
  · intro x hx
    cases hsource : x.source with
    | none => exact .inl ⟨rfl, reported_of_sent hx hsource⟩
    | some id =>
      have hmem : x ∈ s.sendings id := by
        rw [hsendings]
        exact List.mem_filter.mpr ⟨hx, decide_eq_true hsource⟩
      obtain ⟨t, ht, hpanicked, herror⟩ := panicked_of_sendings hmem
      exact .inr ⟨id, t, rfl, ht, hpanicked, herror⟩
  · intro errorFirst error s' hpoll
    obtain ⟨errors, herrors, rfl⟩ := critical_poll hpoll
    refine ⟨?_, rfl, rfl, rfl⟩
    rw [hconserved, herrors]
    exact List.mem_append_right _ List.mem_cons_self
  · intro errorFirst s' hpoll
    exact broadcast_of_heard hnew.placed rfl (heard_of_poll hpoll)
  · intro calm hcalm errorFirst
    obtain ⟨herrors, hheard⟩ := calm_after htended hcalm
    rw [verdict_poll, verdict_poll, herrors, hheard]
  · intro id t more ht hpanicked hruns
    obtain ⟨t', ht', hcrawler, hending, hleft⟩ := left_after htended.placed ht hpanicked more
    have hdone : t'.watch = .done := by
      have hbefore := t.watch.left_le
      apply Watch.done_of_left
      omega
    calc (sent (past ++ history more s)).filter (·.source = some id)
        = (after more s).sendings id := by
          rw [sendings_after htended more id, hsendings]
          simp [sent]
      _ = [⟨some id, .panicked t.crawler⟩] := by
          simp [sendings, ht', Supervised.sendings, hending, hdone, hcrawler]
  · intro id name running hentry
    have hnoticed : s.Noticed id ↔ ∃ x ∈ past, x.1.Notices id x.2 := by
      have hbefore : ¬(c.supervisorOn capacity).Noticed id := by
        rintro ⟨t, ht, -⟩
        cases ht
      rw [noticed_after hnew.placed events id, or_iff_right hbefore]
    rw [← hnoticed, noticed_iff_of_status hentry]

end Supervisor

end LiveEvents
