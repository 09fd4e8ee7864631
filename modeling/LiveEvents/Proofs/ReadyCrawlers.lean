import LiveEvents.Poll.Schedules
import LiveEvents.Proofs.IdleSessions
import LiveEvents.Proofs.StartedTasks
import LiveEvents.Proofs.ValidConfigs

/-!
# Crawlers of a valid configuration

Whether there is a crawler, and with which settings, is decided apart from the rules of the
configuration, and what a crawler relies on while it runs is not checked again: a timer without time
between its ticks panics, and a feed whose heartbeats are rarer than it may be idle never hears in
time. The rules see to it that every crawler there is can rely on its settings, and a first start
can fail for a URL only.
-/

namespace LiveEvents

structure FeedSettings.Ready (s : FeedSettings) : Prop where
  symbols : s.symbols ≠ []
  heartbeat : Duration.zero < s.heartbeatInterval
  idle : s.heartbeatInterval < s.idleTimeout
  handshake : Duration.zero < s.handshakeTimeout
  subscribe : Duration.zero < s.subscribeTimeout
  initial : Duration.zero < s.reconnectInitial
  max : s.reconnectInitial ≤ s.reconnectMax

structure PricePollSettings.Ready (s : PricePollSettings) : Prop where
  interval : Duration.zero < s.pollInterval
  timeout : Duration.zero < s.requestTimeout

/-- What a poller of schedules relies on: it asks for at most fifteen days at once. -/
structure SchedulePollSettings.Ready (s : SchedulePollSettings) : Prop where
  interval : Duration.zero < s.pollInterval
  timeout : Duration.zero < s.requestTimeout
  window : ∀ today : Date,
    let (first, final) := Poll.Schedules.window s today
    (first.through final).length ≤ 15

/-- All crawlers that there are can rely on their settings. -/
structure Crawlers.Ready (cs : Crawlers) : Prop where
  feeds : ∀ k p, cs.feed? k = some p → p.settings.Ready
  prices : ∀ p, cs.prices = some p → p.settings.Ready
  schedules : ∀ p, cs.schedules = some p → p.settings.Ready

def Crawlers.has (cs : Crawlers) : Crawler → Bool
  | .binance => cs.binance.isSome
  | .binanceRest => cs.prices.isSome
  | .bybit => cs.bybit.isSome
  | .okx => cs.okx.isSome
  | .nba => cs.schedules.isSome

/-! ## Lengths of time -/

namespace Duration

theorem zero_lt_ofSeconds {n : Nat} (h : 0 < n) : zero < ofSeconds n := by
  change 0 < min (n * 1000000000) greatest
  unfold greatest
  omega

theorem zero_lt_ofMillis {n : Nat} (h : 0 < n) : zero < ofMillis n := by
  change 0 < min (n * 1000000) greatest
  unfold greatest
  omega

theorem ofSeconds_lt {m n : Nat} (h : m < n) (hfits : n < 2 ^ 64) : ofSeconds m < ofSeconds n := by
  change min (m * 1000000000) greatest < min (n * 1000000000) greatest
  unfold greatest
  omega

theorem ofMillis_le {m n : Nat} (h : m ≤ n) : ofMillis m ≤ ofMillis n := by
  change min (m * 1000000) greatest ≤ min (n * 1000000) greatest
  omega

end Duration

theorem Date.length_daysFrom_le (n : Nat) (d : Date) : (daysFrom n d).length ≤ n := by
  induction n generalizing d with
  | zero => exact Nat.le_refl 0
  | succ n ih =>
    unfold daysFrom
    split
    · exact Nat.succ_le_succ (ih _)
    · exact Nat.zero_le _

/-- A window reaches as many days ahead as it is to, or it is for today alone. -/
theorem Poll.Schedules.length_window_le (s : SchedulePollSettings) (today : Date) :
    let (first, final) := window s today
    (first.through final).length ≤ s.lookaheadDays + 1 := by
  have hfinal :
      ((today.addDays? s.lookaheadDays).getD today).day ≤ today.day + s.lookaheadDays := by
    unfold Date.addDays? Date.ofDay?
    split_ifs
    · exact Int.le_refl _
    · exact Int.le_add_of_nonneg_right (Int.natCast_nonneg _)
  refine Nat.le_trans (Date.length_daysFrom_le _ _) ?_
  omega

/-! ## Settings that the rules allow -/

namespace Config

theorem Stream.Ruled.ready {s : Stream} (h : s.Ruled) (hfits : s.Fits) : s.settings.Ready where
  symbols := h.symbols
  heartbeat := Duration.zero_lt_ofSeconds h.heartbeat
  idle := Duration.ofSeconds_lt h.idle hfits.idle
  handshake := Duration.zero_lt_ofSeconds h.handshake
  subscribe := Duration.zero_lt_ofSeconds h.subscribe
  initial := Duration.zero_lt_ofMillis h.initial
  max := Duration.ofMillis_le h.max

variable {c : Config}

theorem ready_of_plan? (hvalid : c.Valid) (hfits : c.Fits) {name : String} {s : Stream}
    (hs : (name, s) ∈ c.streams) {x : Exchange} {p : Feed.Plan}
    (hplan : s.plan? x c.catalog = some p) : p.settings.Ready := by
  unfold Stream.plan? at hplan
  split_ifs at hplan with henabled
  obtain rfl := Option.some.inj hplan
  exact (hvalid.stream hs henabled).ready (hfits _ hs)

theorem ready_of_pricePlan? (hvalid : c.Valid) {p : PricePlan}
    (hplan : c.binance.pricePlan? c.catalog = some p) : p.settings.Ready := by
  unfold Binance.pricePlan? at hplan
  split_ifs at hplan with huses
  obtain rfl := Option.some.inj hplan
  obtain ⟨hpoll, htimeout⟩ := hvalid.prices huses
  exact ⟨Duration.zero_lt_ofSeconds hpoll, Duration.zero_lt_ofSeconds htimeout⟩

theorem ready_of_schedulePlan? (hvalid : c.Valid) {p : SchedulePlan}
    (hplan : c.nba.plan? c.catalog = some p) : p.settings.Ready := by
  unfold Nba.plan? at hplan
  split_ifs at hplan with henabled
  obtain rfl := Option.some.inj hplan
  obtain ⟨hpoll, htimeout, hdays⟩ := hvalid.schedules henabled
  refine ⟨Duration.zero_lt_ofSeconds hpoll, Duration.zero_lt_ofSeconds htimeout, fun today => ?_⟩
  exact Nat.le_trans (Poll.Schedules.length_window_le _ today) (Nat.succ_le_succ hdays)

theorem ready_of_valid (hvalid : c.Valid) (hfits : c.Fits) : c.crawlers.Ready where
  feeds k p hp := by
    cases k with
    | binance => exact ready_of_plan? hvalid hfits c.binance_mem_streams hp
    | bybit => exact ready_of_plan? hvalid hfits c.bybit_mem_streams hp
    | okx => exact ready_of_plan? hvalid hfits c.okx_mem_streams hp
    | binanceRest | nba => cases hp
  prices _ hp := ready_of_pricePlan? hvalid hp
  schedules _ hp := ready_of_schedulePlan? hvalid hp

end Config

/-! ## The first start -/

/-- The feeds that a start tries, in their order. -/
def Crawlers.tried (cs : Crawlers) : List Feed.Plan :=
  (if cs.mode = .stream then cs.binance.toList else []) ++ cs.bybit.toList ++ cs.okx.toList

theorem Crawlers.Ready.tried {cs : Crawlers} (h : cs.Ready) {p : Feed.Plan} (hp : p ∈ cs.tried) :
    p.settings.Ready := by
  simp only [Crawlers.tried, List.mem_append, Option.mem_toList] at hp
  rcases hp with (hbinance | hbybit) | hokx
  · split_ifs at hbinance
    · exact h.feeds .binance p (Option.mem_toList.mp hbinance)
    · cases hbinance
  · exact h.feeds .bybit p hbybit
  · exact h.feeds .okx p hokx

theorem Feed.checkUrl_error {url : String} {e : FeedError} (h : checkUrl url = .error e) :
    ∃ reason, e = .invalidUrl url reason := by
  unfold checkUrl at h
  split at h
  · exact ⟨_, (Except.error.inj h).symm⟩
  · split_ifs at h
    exact ⟨_, (Except.error.inj h).symm⟩

/-- A feed that has symbols, and no stream yet, can be started if its URL can be dialed. -/
theorem Feed.Plan.check_idle {p : Plan} (h : p.settings.symbols ≠ []) :
    p.check false = checkUrl p.settings.wsUrl := by
  have hsymbols : p.settings.symbols.isEmpty = false := List.isEmpty_eq_false_iff.mpr h
  simp only [check, hsymbols]
  rfl

namespace Supervisor

variable {s s' : Supervisor} {ks : List Crawler} {k : Crawler}

/-- What comes of the attempts of a start, each made where the ones before it have led. -/
def attempts (s : Supervisor) : List (Except FeedError Unit) :=
  let s₁ := s.startBinance
  let s₂ := s₁.startFeed .bybit s₁.crawlers.bybit
  (if s.crawlers.mode = .stream then s.crawlers.binance.toList.map s.attempt else []) ++
    s₁.crawlers.bybit.toList.map s₁.attempt ++ s₂.crawlers.okx.toList.map s₂.attempt

theorem Grown.map_attempt (h : Grown s s' ks) (hs : s.Placed) (hk : k ∉ ks) :
    (s'.crawlers.feed? k).toList.map s'.attempt = (s.crawlers.feed? k).toList.map s.attempt := by
  rw [h.crawlers]
  refine List.map_congr_left fun p hp => ?_
  exact h.attempt hs (Option.mem_toList.mp hp) hk

/-- No attempt of a start depends on those before it. -/
theorem Placed.attempts_eq (hs : s.Placed) : s.attempts = s.crawlers.tried.map s.attempt := by
  have hbinance := startBinance_grown hs
  have hbybit := hbinance.startFeed hs (k := .bybit) (by simp) rfl
  have hsecond := hbinance.map_attempt hs (k := .bybit) (by simp)
  have hthird := hbybit.map_attempt hs (k := .okx) (by simp)
  simp only [Crawlers.feed?] at hsecond hthird
  simp only [attempts, hsecond, hthird, Crawlers.tried, List.map_append]
  split_ifs <;> rfl

/-- What a start runs is there. -/
theorem has_of_calls (h : s.calls k = true) : s.crawlers.has k = true := by
  have hsome : ∀ {plan : Option Feed.Plan} {good : Feed.Plan → Bool}, plan.any good = true →
      plan.isSome = true := by
    intro plan good hany
    cases plan with
    | none => cases hany
    | some p => rfl
  cases k with
  | binance => exact hsome (Bool.and_eq_true_iff.mp h).2
  | binanceRest => exact (Bool.and_eq_true_iff.mp h).1
  | bybit | okx => exact hsome h
  | nba => exact h

end Supervisor

/-- In a valid configuration all crawlers can rely on their settings, and upserts have time. Where
prices are to be polled there is a poller, a first start runs only what is there, and no attempt of
it fails but for a URL. -/
theorem crawlers_ready {c : Config} (hvalid : c.Valid) (hfits : c.Fits) :
    c.supervisor.crawlers.Ready ∧
    Duration.zero < c.database.upsertTimeout ∧
    (c.supervisor.crawlers.prices.isSome = true ↔
      c.binance.stream.enabled = true ∧
        (c.binance.mode = .rest ∨ c.binance.restFallback = true)) ∧
    (∀ t ∈ c.supervisor.start.tasks, c.supervisor.crawlers.has t.crawler = true) ∧
    (∀ e, .error e ∈ c.supervisor.attempts → ∃ url reason, e = .invalidUrl url reason) := by
  have hready : c.supervisor.crawlers.Ready := Config.ready_of_valid hvalid hfits
  refine ⟨hready, Duration.zero_lt_ofSeconds hvalid.upserts, ?_, ?_, ?_⟩
  · have huses : c.supervisor.crawlers.prices.isSome = c.binance.usesRest := by
      simp only [Config.supervisor, Config.crawlers, Config.Binance.pricePlan?]
      split_ifs with huses
      · exact huses.symm
      · simpa using huses
    rw [huses]
    simp [Config.Binance.usesRest]
  · intro t ht
    rw [(Supervisor.start_grown (Supervisor.placed_new c)).tasks] at ht
    obtain ⟨k, hk, rfl⟩ := List.mem_map.mp ht
    exact Supervisor.has_of_calls (List.mem_filter.mp hk).2
  · intro e he
    rw [(Supervisor.placed_new c).attempts_eq] at he
    obtain ⟨p, hp, hattempt⟩ := List.mem_map.mp he
    have hcheck : p.check false = .error e := hattempt
    rw [Feed.Plan.check_idle (hready.tried hp).symbols] at hcheck
    obtain ⟨reason, rfl⟩ := Feed.checkUrl_error hcheck
    exact ⟨_, reason, rfl⟩

/-- A configuration with a crawler for every source, the exchanges being near at hand. -/
def everySource : Config :=
  let lenient := Feed.lenient
  let stream := { lenient.binance.stream with wsUrl := "ws://[::1]:9000" }
  { lenient with
    catalog := { lenient.catalog with sportCategory := "sport" }
    binance := { lenient.binance with
      stream
      apiUrl := "https://api.binance.com/api/v3"
      restFallback := true }
    bybit := stream
    okx := stream
    nba := { lenient.nba with
      enabled := true
      apiKey := "key"
      ecosystem := "nba"
      lookaheadDays := 14 } }

theorem everySource_valid : everySource.Valid := by
  decide +kernel

theorem everySource_fits : everySource.Fits := by
  intro s hs
  simp only [Config.streams, List.mem_cons, List.not_mem_nil, or_false] at hs
  rcases hs with rfl | rfl | rfl <;> exact ⟨by decide, by decide⟩

theorem everySource_ready :
    everySource.supervisor.start.tasks.map (·.crawler) = [.binance, .bybit, .okx, .nba] ∧
    everySource.supervisor.crawlers.Ready ∧
    (∀ t ∈ everySource.supervisor.start.tasks, everySource.supervisor.crawlers.has t.crawler) ∧
    (∀ e, .error e ∈ everySource.supervisor.attempts →
      ∃ url reason, e = .invalidUrl url reason) := by
  obtain ⟨hready, -, -, hthere, hattempts⟩ := crawlers_ready everySource_valid everySource_fits
  exact ⟨by decide +kernel, hready, hthere, hattempts⟩

end LiveEvents
