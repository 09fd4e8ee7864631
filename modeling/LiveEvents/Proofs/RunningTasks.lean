import LiveEvents.Proofs.IdleSessions
import LiveEvents.Proofs.SupervisorSteps
import Mathlib.Data.List.Count

/-!
# Tasks that run beside each other

A supervisor may be started again, and shut down, at any time. Binance is then never both listened
to and polled. A stream is not started while the handle of a live one is held, but a shutdown lets
go of the handle, and a stream that is still writing goes on beside the one that is started next.
A poller is started without asking: every start adds one to those that run.
-/

namespace LiveEvents

/-- Binance is listened to, and not polled. -/
def Crawlers.Streams (cs : Crawlers) : Prop :=
  cs.mode = .stream ∧ ∃ p, cs.binance = some p ∧ p.check false = .ok ()

/-- The task is over, or its flag is up. -/
def Supervised.IsTold (t : Supervised) : Prop := t.isOver = true ∨ t.signal.isRaised = true

namespace Supervisor

/-- No name is listed twice as running, and neither are both names of Binance. -/
structure Exclusive (s : Supervisor) : Prop where
  once : ∀ (i j : Nat) (name : String),
    s.status[i]? = some (name, true) → s.status[j]? = some (name, true) → i = j
  either : ¬(("binance", true) ∈ s.status ∧ ("binance_rest", true) ∈ s.status)

/-- Each start comes when nothing is running. -/
def Orderly : Supervisor → List Event → Prop
  | _, [] => True
  | s, e :: rest => (e = .start → s.isHealthy = false) ∧ Orderly (s.step e).2 rest

variable {s s' : Supervisor} {k : Crawler}

/-! ## What a start asks -/

theorem attempt_ok {p : Feed.Plan} (h : Feed.opened (s.attempt p) = true) :
    s.isStreaming p.exchange = false ∧ p.check false = .ok () := by
  unfold attempt at h
  cases hstreaming : s.isStreaming p.exchange with
  | true =>
    rw [hstreaming] at h
    cases h
  | false =>
    rw [hstreaming] at h
    cases hcheck : p.check false with
    | ok _ => exact ⟨rfl, rfl⟩
    | error e =>
      rw [hcheck] at h
      cases h

theorem attempt_fails {p : Feed.Plan} (h : Feed.fails (s.attempt p) = true) :
    p.check false ≠ .ok () := by
  unfold attempt at h
  cases hstreaming : s.isStreaming p.exchange with
  | true =>
    rw [hstreaming] at h
    cases h
  | false =>
    rw [hstreaming] at h
    intro hcheck
    rw [hcheck] at h
    cases h

/-- A start gives a crawler a new stream only where the one that is held is over. -/
theorem not_isStreaming_of_calls (hs : s.Placed) (h : s.calls k = true) {x : Exchange}
    (hx : k.exchange? = some x) : s.isStreaming x = false := by
  have hany : (s.crawlers.feed? k).any (Feed.opened <| s.attempt ·) = true := by
    cases k with
    | binance => exact (Bool.and_eq_true_iff.mp h).2
    | bybit | okx => exact h
    | binanceRest | nba => cases hx
  obtain ⟨p, hp, hopened⟩ := (Option.any_eq_true ..).mp hany
  obtain rfl := Option.some.inj (hx.symm.trans (hs.exchange k p hp))
  exact (attempt_ok hopened).1

theorem streams_of_calls (h : s.calls .binance = true) : s.crawlers.Streams := by
  obtain ⟨hmode, hany⟩ := Bool.and_eq_true_iff.mp h
  obtain ⟨p, hp, hopened⟩ := (Option.any_eq_true ..).mp hany
  exact ⟨beq_iff_eq.mp hmode, p, hp, (attempt_ok hopened).2⟩

theorem not_streams_of_calls (h : s.calls .binanceRest = true) : ¬s.crawlers.Streams := by
  rintro ⟨hmode, p, hp, hcheck⟩
  have hany := (Bool.and_eq_true_iff.mp h).2
  rw [hp, hmode] at hany
  exact attempt_fails hany hcheck

/-! ## What every event keeps -/

/-- The handle of the task is held, and it can be told to stop. -/
def Holds (s : Supervisor) (x : Exchange) (id : Nat) (t : Supervised) : Prop :=
  s.streams.lookup x = some id ∧ ∃ f, t.signal.flag = some f ∧ f.held = true

/-- The tasks of Binance are all of one kind, and of the streams only those that are held are
neither over nor told to stop. -/
structure Sound (s : Supervisor) : Prop where
  placed : s.Placed
  streamed : ∀ t ∈ s.tasks, t.crawler = .binance → s.crawlers.Streams
  polled : ∀ t ∈ s.tasks, t.crawler = .binanceRest → ¬s.crawlers.Streams
  others : ∀ id t x, s.tasks[id]? = some t → t.crawler.exchange? = some x →
    t.IsTold ∨ s.Holds x id t

theorem sound_new (c : Config) : c.supervisor.Sound where
  placed := placed_new c
  streamed _ ht := by cases ht
  polled _ ht := by cases ht
  others _ _ _ ht := by cases ht

theorem nodup_added (s : Supervisor) (e : Event) : (s.added e).Nodup := by
  unfold added
  split
  · exact List.Nodup.filter _ (by decide)
  · exact List.nodup_nil

theorem calls_of_mem_added {e : Event} (h : k ∈ s.added e) : e = .start ∧ s.calls k = true := by
  unfold added at h
  split at h
  · exact ⟨rfl, (List.mem_filter.mp h).2⟩
  · cases h

/-- A new stream is held from the start. -/
theorem holds_added (hs : s.Placed) {n : Nat} {x : Exchange}
    (hk : (s.added .start)[n]? = some k) (hx : k.exchange? = some x) :
    s.start.Holds x (s.tasks.length + n) (.begun s.capacity k) := by
  have hgrown := start_grown hs
  obtain ⟨id, hheld, hle, htask⟩ := hgrown.held k (List.mem_of_getElem? hk) x hx
  have hid : id = s.tasks.length + n := by
    rcases hgrown.cases htask with hold | ⟨m, k', rfl, hk', hbegun⟩
    · have hlt := (List.getElem?_eq_some_iff.mp hold).1
      omega
    · obtain rfl : k = k' := congrArg Supervised.crawler hbegun
      obtain ⟨hn, hkn⟩ := List.getElem?_eq_some_iff.mp hk
      obtain ⟨hm, hkm⟩ := List.getElem?_eq_some_iff.mp hk'
      rw [(nodup_added s .start).getElem_inj_iff.mp (hkm.trans hkn.symm)]
  subst hid
  exact ⟨hheld, {}, by simp [Supervised.begun, hx], rfl⟩

/-- A stream that is held stays held unless its task is over or told. -/
theorem Holds.step {x : Exchange} {id : Nat} {t : Supervised} (h : s.Holds x id t) (hs : s.Placed)
    (ht : s.tasks[id]? = some t) (hx : t.crawler.exchange? = some x) (e : Event) :
    (s.turn e id t).IsTold ∨ (s.step e).2.Holds x id (s.turn e id t) := by
  obtain ⟨hheld, f, hflag, hf⟩ := h
  by_cases hshutdown : e = .shutdown
  · subst hshutdown
    have hmem : id ∈ s.heldIds := by
      obtain ⟨before, later, hstreams, -⟩ := List.lookup_eq_some_iff.mp hheld
      simp [heldIds, hstreams]
    refine .inl (.inr ?_)
    simp [turn, hmem, Supervised.raised, Supervised.told, StopSignal.isRaised, StopSignal.change,
      hflag, Flag.set, hf, Flag.drop]
  have hflag' : ∃ f, (s.turn e id t).signal.flag = some f ∧ f.held = true := by
    rw [turn_flag s hshutdown]
    exact ⟨f, hflag, hf⟩
  by_cases hstart : e = .start
  · subst hstart
    by_cases hcalls : s.calls t.crawler = true
    · -- The stream that is held is over, or no other would have been started.
      left
      left
      have hidle := not_isStreaming_of_calls hs hcalls hx
      change t.isOver = true
      simpa [isStreaming, hheld, isOver, ht] using hidle
    · refine .inr ⟨?_, hflag'⟩
      rw [Supervisor.step, (start_grown hs).kept x, hheld]
      intro k hk hx'
      rw [Crawler.exchange?_injective hx hx'] at hcalls
      exact hcalls (List.mem_filter.mp hk).2
  · refine .inr ⟨?_, hflag'⟩
    rwa [(fields_step hstart hshutdown).2]

theorem Sound.step (h : s.Sound) (e : Event) : (s.step e).2.Sound := by
  have hcrawlers := crawlers_step h.placed e
  have hmem : ∀ t' ∈ (s.step e).2.tasks,
      (∃ t ∈ s.tasks, t'.crawler = t.crawler) ∨ s.calls t'.crawler = true := by
    intro t' ht'
    obtain ⟨id, hid⟩ := List.mem_iff_getElem?.mp ht'
    rcases step_cases h.placed hid with ⟨t, ht, rfl⟩ | ⟨n, k, -, hk, rfl⟩
    · exact .inl ⟨t, List.mem_of_getElem? ht, (turns_turn s e id t).crawler⟩
    · exact .inr (calls_of_mem_added (List.mem_of_getElem? hk)).2
  refine ⟨h.placed.step e, ?_, ?_, ?_⟩
  · intro t' ht' hbinance
    rw [hcrawlers]
    rcases hmem t' ht' with ⟨t, ht, hsame⟩ | hcalls
    · exact h.streamed t ht (hsame ▸ hbinance)
    · exact streams_of_calls (hbinance ▸ hcalls)
  · intro t' ht' hrest
    rw [hcrawlers]
    rcases hmem t' ht' with ⟨t, ht, hsame⟩ | hcalls
    · exact h.polled t ht (hsame ▸ hrest)
    · exact not_streams_of_calls (hrest ▸ hcalls)
  · intro id t' x ht' hx
    rcases step_cases h.placed ht' with ⟨t, ht, rfl⟩ | ⟨n, k, rfl, hk, rfl⟩
    · have hturns := turns_turn s e id t
      rw [hturns.crawler] at hx
      rcases h.others id t x ht hx with (hover | hraised) | hheld
      · obtain ⟨ending, hending⟩ := Option.isSome_iff_exists.mp hover
        exact .inl (.inl (Option.isSome_iff_exists.mpr ⟨ending, hturns.ending ending hending⟩))
      · exact .inl (.inr (hturns.raised hraised))
      · exact hheld.step h.placed ht hx e
    · obtain ⟨rfl, -⟩ := calls_of_mem_added (List.mem_of_getElem? hk)
      exact .inr (holds_added h.placed hk hx)

/-! ## Orderly runs -/

/-- No two running tasks are of one crawler. -/
def Single (s : Supervisor) : Prop :=
  ∀ (i j : Nat) (t t' : Supervised), s.tasks[i]? = some t → s.tasks[j]? = some t' →
    t.isRunning = true → t'.isRunning = true → t.crawler = t'.crawler → i = j

/-- A start gives each crawler at most one new task. -/
theorem Single.step (h : s.Single) (hs : s.Placed) {e : Event}
    (horderly : e = .start → s.isHealthy = false) : (s.step e).2.Single := by
  have hwas : ∀ id t, s.tasks[id]? = some t → (s.turn e id t).isRunning = true →
      t.isRunning = true ∧ e ≠ .start := by
    intro id t ht hrunning
    have hrunning := (turns_turn s e id t).running hrunning
    refine ⟨hrunning, fun hstart => ?_⟩
    have hany : s.isHealthy = true :=
      List.any_eq_true.mpr ⟨t, List.mem_of_getElem? ht, hrunning⟩
    simp [horderly hstart] at hany
  intro i j t₁ t₂ hi hj hrunning₁ hrunning₂ hsame
  rcases step_cases hs hi with ⟨t, ht, rfl⟩ | ⟨n, k, rfl, hk, rfl⟩
  · obtain ⟨hrunning, hstart⟩ := hwas i t ht hrunning₁
    rcases step_cases hs hj with ⟨t', ht', rfl⟩ | ⟨m, k', -, hk', -⟩
    · rw [(turns_turn s e i t).crawler, (turns_turn s e j t').crawler] at hsame
      exact h i j t t' ht ht' hrunning (hwas j t' ht' hrunning₂).1 hsame
    · exact absurd (calls_of_mem_added (List.mem_of_getElem? hk')).1 hstart
  · rcases step_cases hs hj with ⟨t', ht', rfl⟩ | ⟨m, k', rfl, hk', rfl⟩
    · exact absurd (calls_of_mem_added (List.mem_of_getElem? hk)).1 (hwas j t' ht' hrunning₂).2
    · obtain rfl : k = k' := hsame
      obtain ⟨hn, hkn⟩ := List.getElem?_eq_some_iff.mp hk
      obtain ⟨hm, hkm⟩ := List.getElem?_eq_some_iff.mp hk'
      rw [(nodup_added s e).getElem_inj_iff.mp (hkn.trans hkm.symm)]

theorem Single.after (h : s.Single) (hs : s.Placed) {events : List Event}
    (horderly : s.Orderly events) : (after events s).Single := by
  induction events generalizing s with
  | nil => exact h
  | cons e rest ih => exact ih (h.step hs horderly.1) (hs.step e) horderly.2

/-! ## Both together -/

theorem mem_status_iff {name : String} {b : Bool} :
    (name, b) ∈ s.status ↔ ∃ t ∈ s.tasks, t.crawler.name = name ∧ t.isRunning = b := by
  simp [status]

theorem Sound.either (h : s.Sound) :
    ¬(("binance", true) ∈ s.status ∧ ("binance_rest", true) ∈ s.status) := by
  rintro ⟨hstream, hrest⟩
  obtain ⟨t, ht, hname, -⟩ := mem_status_iff.mp hstream
  obtain ⟨t', ht', hname', -⟩ := mem_status_iff.mp hrest
  have hstreamed : t.crawler = .binance := Crawler.name_injective hname
  have hpolled : t'.crawler = .binanceRest := Crawler.name_injective hname'
  exact h.polled t' ht' hpolled (h.streamed t ht hstreamed)

theorem Single.once (h : s.Single) (i j : Nat) (name : String)
    (hi : s.status[i]? = some (name, true)) (hj : s.status[j]? = some (name, true)) : i = j := by
  simp only [status, List.getElem?_map, Option.map_eq_some_iff, Prod.mk.injEq] at hi hj
  obtain ⟨t, ht, hname, hrunning⟩ := hi
  obtain ⟨t', ht', hname', hrunning'⟩ := hj
  exact h i j t t' ht ht' hrunning hrunning' (Crawler.name_injective (hname.trans hname'.symm))

/-- Every start gives a new running task to each crawler that it calls for. -/
theorem count_start (hs : s.Placed) (k : Crawler) :
    s.start.status.count (k.name, true) =
      s.status.count (k.name, true) + if s.calls k then 1 else 0 := by
  have hstatus : s.start.status = s.status ++
      (Crawler.inOrder.filter s.calls).map fun k => (k.name, true) := by
    rw [status, (start_grown hs).tasks, List.map_append, List.map_map]
    rfl
  have hinjective : Function.Injective fun k : Crawler => (k.name, true) :=
    fun _ _ h => Crawler.name_injective (Prod.mk.inj h).1
  have hmem : k ∈ Crawler.inOrder.filter s.calls ↔ s.calls k = true := by
    have hk : k ∈ Crawler.inOrder := by cases k <;> decide
    simp [List.mem_filter, hk]
  have hnodup : (Crawler.inOrder.filter s.calls).Nodup := nodup_added s .start
  rw [hstatus, List.count_append, List.count_map_of_injective _ _ hinjective, hnodup.count]
  simp only [hmem]

/-- Whatever happens to a supervisor, its crawlers stay those of its configuration. -/
theorem sound_after (c : Config) (events : List Event) :
    (after events c.supervisor).Sound ∧ (after events c.supervisor).crawlers = c.crawlers := by
  refine after_keeps (P := fun s => s.Sound ∧ s.crawlers = c.crawlers) ⟨sound_new c, rfl⟩ ?_ _
  rintro s e ⟨hs, hcrawlers⟩
  exact ⟨hs.step e, (crawlers_step hs.placed e).trans hcrawlers⟩

/-- Whatever happens, Binance is not listed as running under both of its names, and of two tasks of
one stream one at least is over or has been told to stop. A start adds a running poller, however
many there are. Where every start comes when nothing is running, no name is listed twice as
running. -/
theorem running_tasks (c : Config) (events : List Event) :
    let s := after events c.supervisor
    ¬(("binance", true) ∈ s.status ∧ ("binance_rest", true) ∈ s.status) ∧
    (∀ (i j : Nat) (t t' : Supervised), i ≠ j → s.tasks[i]? = some t → s.tasks[j]? = some t' →
      t.crawler = t'.crawler → t.crawler.exchange?.isSome = true → t.IsTold ∨ t'.IsTold) ∧
    (c.nba.enabled = true →
      s.start.status.count ("nba", true) = s.status.count ("nba", true) + 1) ∧
    (c.binance.stream.enabled = true → c.binance.mode = .rest →
      s.start.status.count ("binance_rest", true) = s.status.count ("binance_rest", true) + 1) ∧
    (c.supervisor.Orderly events → s.Exclusive) := by
  intro s
  obtain ⟨hsound, hcrawlers⟩ := sound_after c events
  refine ⟨hsound.either, ?_, ?_, ?_, ?_⟩
  · intro i j t t' hne hi hj hsame hstream
    obtain ⟨x, hx⟩ := Option.isSome_iff_exists.mp hstream
    rcases hsound.others i t x hi hx with htold | ⟨hheld, -⟩
    · exact .inl htold
    rcases hsound.others j t' x hj (hsame ▸ hx) with htold | ⟨hheld', -⟩
    · exact .inr htold
    · exact absurd (Option.some.inj (hheld.symm.trans hheld')) hne
  · intro henabled
    have hcalls : s.calls .nba = true := by
      simp [s, calls, hcrawlers, Config.crawlers, Config.Nba.plan?, henabled]
    have hcount := count_start hsound.placed .nba
    rwa [if_pos hcalls] at hcount
  · intro henabled hmode
    have hcalls : s.calls .binanceRest = true := by
      simp [s, calls, hcrawlers, Config.crawlers, Config.Binance.pricePlan?,
        Config.Binance.usesRest, Config.Stream.plan?, henabled, hmode]
    have hcount := count_start hsound.placed .binanceRest
    rwa [if_pos hcalls] at hcount
  · intro horderly
    have hsingle : c.supervisor.Single := fun i j t t' hi => by cases hi
    exact ⟨(hsingle.after (placed_new c) horderly).once, hsound.either⟩

/-- A configuration whose only source is polled. -/
def pollsOnly : Config :=
  let lenient := Feed.lenient
  { lenient with
    catalog := { lenient.catalog with sportCategory := "sport" }
    binance := { lenient.binance with stream := Feed.switchedOff }
    nba := { lenient.nba with enabled := true, apiKey := "key", ecosystem := "nba" } }

/-- A second start lists a poller twice. -/
theorem poller_doubled : ¬∀ (c : Config) (events : List Event), c.Valid →
    (after events c.supervisor).Exclusive := by
  intro h
  have hvalid : pollsOnly.Valid := by decide +kernel
  have hstatus : (after [.start, .start] pollsOnly.supervisor).status =
      [("nba", true), ("nba", true)] := by decide +kernel
  have honce := (h pollsOnly [.start, .start] hvalid).once 0 1 "nba"
  rw [hstatus] at honce
  exact absurd (honce rfl rfl) (by decide)

end Supervisor

end LiveEvents
