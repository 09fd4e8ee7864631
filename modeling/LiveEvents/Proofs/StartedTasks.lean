import LiveEvents.Proofs.KeyedLists
import LiveEvents.Supervisor

/-!
# What a start adds

A start goes from crawler to crawler and gives each at most one new task: a stream if one can be
started, a poller always. `Calls` says for which crawlers it does so, and `Grown` what becomes of
the supervisor: the new tasks come after the old ones, and the handle of each new stream is held.
-/

namespace LiveEvents

/-- The exchange that a crawler listens to, if it does. -/
def Crawler.exchange? : Crawler → Option Exchange
  | .binance => some .binance
  | .bybit => some .bybit
  | .okx => some .okx
  | .binanceRest | .nba => none

/-- All crawlers, in the order in which a start goes through them. -/
def Crawler.inOrder : List Crawler := [.binance, .binanceRest, .bybit, .okx, .nba]

theorem Crawler.exchange?_injective {k k' : Crawler} {x : Exchange} (h : k.exchange? = some x)
    (h' : k'.exchange? = some x) : k = k' := by
  cases k <;> cases h <;> cases k' <;> cases h' <;> rfl

theorem Crawler.name_injective {k k' : Crawler} (h : k.name = k'.name) : k = k' := by
  cases k <;> cases k' <;> first | rfl | simp [name] at h

/-- What the feed of a crawler is for, if it is one that listens. -/
def Crawlers.feed? (cs : Crawlers) : Crawler → Option Feed.Plan
  | .binance => cs.binance
  | .bybit => cs.bybit
  | .okx => cs.okx
  | .binanceRest | .nba => none

/-- A task as it is when it was just started. -/
def Supervised.begun (capacity : Nat) (k : Crawler) : Supervised where
  crawler := k
  signal := { shutdown := { capacity }, flag := k.exchange?.map fun _ => {} }

def Feed.opened : Except FeedError Unit → Bool
  | .ok () => true
  | .error _ => false

/-- Whether an attempt to start a stream failed for another reason than that there is one. -/
def Feed.fails : Except FeedError Unit → Bool
  | .ok () | .error (.alreadyRunning _) => false
  | .error _ => true

namespace Supervisor

/-- What comes of an attempt to start the stream of a feed. -/
def attempt (s : Supervisor) (p : Feed.Plan) : Except FeedError Unit :=
  p.check (s.isStreaming p.exchange)

/-- Whether a start gives a crawler a new task. -/
def calls (s : Supervisor) : Crawler → Bool
  | .binance => s.crawlers.mode == .stream && s.crawlers.binance.any (Feed.opened <| s.attempt ·)
  | .binanceRest =>
    s.crawlers.prices.isSome &&
      s.crawlers.binance.any fun p => s.crawlers.mode == .rest || Feed.fails (s.attempt p)
  | .bybit => s.crawlers.bybit.any (Feed.opened <| s.attempt ·)
  | .okx => s.crawlers.okx.any (Feed.opened <| s.attempt ·)
  | .nba => s.crawlers.schedules.isSome

/-- Every feed is for the exchange of its crawler, and the handles that are held are of tasks that
were started. -/
structure Placed (s : Supervisor) : Prop where
  exchange : ∀ k p, s.crawlers.feed? k = some p → k.exchange? = some p.exchange
  held : ∀ x id, s.streams.lookup x = some id → id < s.tasks.length

/-- The supervisor after these crawlers were each given a new task. -/
structure Grown (s s' : Supervisor) (ks : List Crawler) : Prop where
  tasks : s'.tasks = s.tasks ++ ks.map (.begun s.capacity)
  crawlers : s'.crawlers = s.crawlers
  capacity : s'.capacity = s.capacity
  heard : s'.heard = s.heard
  requests : s'.requests = s.requests
  errors : s'.errors = s.errors
  kept : ∀ x, (∀ k ∈ ks, k.exchange? ≠ some x) → s'.streams.lookup x = s.streams.lookup x
  held : ∀ k ∈ ks, ∀ x, k.exchange? = some x → ∃ id, s'.streams.lookup x = some id ∧
    s.tasks.length ≤ id ∧ s'.tasks[id]? = some (.begun s.capacity k)

variable {s s' s'' : Supervisor} {ks ks' : List Crawler} {k : Crawler} {p : Feed.Plan}

theorem Grown.refl (s : Supervisor) : Grown s s [] where
  tasks := by simp
  crawlers := rfl
  capacity := rfl
  heard := rfl
  requests := rfl
  errors := rfl
  kept _ _ := rfl
  held := by simp

theorem Grown.getElem? (h : Grown s s' ks) {id : Nat} (hid : id < s.tasks.length) :
    s'.tasks[id]? = s.tasks[id]? := by
  rw [h.tasks, List.getElem?_append_left hid]

theorem Grown.length_le (h : Grown s s' ks) : s.tasks.length ≤ s'.tasks.length := by
  simp [h.tasks]

/-- A task is an old one in its place, or one of the new ones. -/
theorem Grown.cases (h : Grown s s' ks) {id : Nat} {t : Supervised} (ht : s'.tasks[id]? = some t) :
    s.tasks[id]? = some t ∨
      ∃ n k, id = s.tasks.length + n ∧ ks[n]? = some k ∧ t = .begun s.capacity k := by
  by_cases hid : id < s.tasks.length
  · exact .inl (h.getElem? hid ▸ ht)
  · right
    rw [h.tasks, List.getElem?_append_right (Nat.le_of_not_lt hid), List.getElem?_map,
      Option.map_eq_some_iff] at ht
    obtain ⟨k, hk, rfl⟩ := ht
    exact ⟨id - s.tasks.length, k, by omega, hk, rfl⟩

theorem Grown.trans (h : Grown s s' ks) (h' : Grown s' s'' ks') : Grown s s'' (ks ++ ks') where
  tasks := by rw [h'.tasks, h.tasks, h.capacity, List.map_append, List.append_assoc]
  crawlers := h'.crawlers.trans h.crawlers
  capacity := h'.capacity.trans h.capacity
  heard := h'.heard.trans h.heard
  requests := h'.requests.trans h.requests
  errors := h'.errors.trans h.errors
  kept x hx := by
    rw [h'.kept x fun k hk => hx k (List.mem_append_right _ hk),
      h.kept x fun k hk => hx k (List.mem_append_left _ hk)]
  held k hk x hx := by
    by_cases hlater : ∃ k' ∈ ks', k'.exchange? = some x
    · obtain ⟨k', hk', hx'⟩ := hlater
      obtain rfl := Crawler.exchange?_injective hx hx'
      obtain ⟨id, hheld, hle, htask⟩ := h'.held k hk' x hx
      exact ⟨id, hheld, Nat.le_trans h.length_le hle, h.capacity ▸ htask⟩
    · have hfirst : k ∈ ks := (List.mem_append.mp hk).resolve_right fun hk' => hlater ⟨k, hk', hx⟩
      obtain ⟨id, hheld, hle, htask⟩ := h.held k hfirst x hx
      have hid : id < s'.tasks.length := (List.getElem?_eq_some_iff.mp htask).1
      refine ⟨id, ?_, hle, (h'.getElem? hid).trans htask⟩
      rw [h'.kept x fun k' hk' hx' => hlater ⟨k', hk', hx'⟩, hheld]

theorem Placed.grown (hs : s.Placed) (h : Grown s s' ks) : s'.Placed where
  exchange k p hp := hs.exchange k p (h.crawlers ▸ hp)
  held x id hid := by
    by_cases hnew : ∃ k ∈ ks, k.exchange? = some x
    · obtain ⟨k, hk, hx⟩ := hnew
      obtain ⟨id', hheld, -, htask⟩ := h.held k hk x hx
      obtain rfl := Option.some.inj (hid.symm.trans hheld)
      exact (List.getElem?_eq_some_iff.mp htask).1
    · rw [h.kept x fun k hk hx => hnew ⟨k, hk, hx⟩] at hid
      exact Nat.lt_of_lt_of_le (hs.held x id hid) h.length_le

/-- An attempt goes as it would have gone before other crawlers were given their tasks. -/
theorem Grown.attempt (h : Grown s s' ks) (hs : s.Placed) (hplan : s.crawlers.feed? k = some p)
    (hk : k ∉ ks) : s'.attempt p = s.attempt p := by
  have hexchange := hs.exchange k p hplan
  have hother : ∀ k' ∈ ks, k'.exchange? ≠ some p.exchange := by
    intro k' hk' hx
    exact hk (Crawler.exchange?_injective hexchange hx ▸ hk')
  have hstreaming : s'.isStreaming p.exchange = s.isStreaming p.exchange := by
    simp only [isStreaming, h.kept _ hother]
    cases hheld : s.streams.lookup p.exchange with
    | none => rfl
    | some id => simp only [Option.any_some, isOver, h.getElem? (hs.held _ id hheld)]
  simp only [Supervisor.attempt, hstreaming]

/-! ## One crawler after another -/

theorem grown_spawn (hk : k.exchange? = none) : Grown s (s.spawn k none) [k] where
  tasks := by simp [spawn, Supervised.begun, hk]
  crawlers := rfl
  capacity := rfl
  heard := rfl
  requests := rfl
  errors := rfl
  kept _ _ := rfl
  held k' hk' x hx := by
    obtain rfl := List.mem_singleton.mp hk'
    simp [hk] at hx

/-- The supervisor when it has given a crawler a stream and holds its handle. -/
def join (s : Supervisor) (k : Crawler) (x : Exchange) : Supervisor :=
  { s.spawn k (some {}) with streams := (x, s.tasks.length) :: s.streams.filter (·.1 ≠ x) }

theorem startStream_eq (s : Supervisor) (k : Crawler) (p : Feed.Plan) :
    s.startStream k p = (!Feed.fails (s.attempt p),
      if Feed.opened (s.attempt p) then s.join k p.exchange else s) := by
  unfold startStream attempt
  cases hcheck : p.check (s.isStreaming p.exchange) with
  | ok _ => rfl
  | error e => cases e <;> rfl

theorem grown_join {x : Exchange} (hk : k.exchange? = some x) : Grown s (s.join k x) [k] where
  tasks := by simp [join, spawn, Supervised.begun, hk]
  crawlers := rfl
  capacity := rfl
  heard := rfl
  requests := rfl
  errors := rfl
  kept y hy := by
    have hne : y ≠ x := by
      rintro rfl
      exact hy k (List.mem_singleton_self k) hk
    exact (lookup_replaced ..).trans (if_neg hne)
  held k' hk' y hy := by
    obtain rfl := List.mem_singleton.mp hk'
    obtain rfl := Option.some.inj (hk.symm.trans hy)
    have hlast : (s.join k' x).tasks[s.tasks.length]? = some (.begun s.capacity k') := by
      simp [join, spawn, Supervised.begun, hk]
    exact ⟨s.tasks.length, (lookup_replaced ..).trans (if_pos rfl), Nat.le_refl _, hlast⟩

theorem startStream_grown (hk : k.exchange? = some p.exchange) :
    Grown s (s.startStream k p).2 (if Feed.opened (s.attempt p) then [k] else []) := by
  rw [startStream_eq]
  dsimp only
  split_ifs
  · exact grown_join hk
  · exact Grown.refl s

/-- After other crawlers were given their tasks, a feed is given its own as if it came first. -/
theorem Grown.startFeed (h : Grown s s' ks) (hs : s.Placed) (hk : k ∉ ks)
    (hcalls : s.calls k = (s.crawlers.feed? k).any (Feed.opened <| s.attempt ·)) :
    Grown s (s'.startFeed k (s'.crawlers.feed? k)) (ks ++ [k].filter s.calls) := by
  rw [h.crawlers]
  cases hplan : s.crawlers.feed? k with
  | none =>
    rw [hplan] at hcalls
    simp only [List.filter_cons, hcalls, Option.any_none, List.filter_nil, List.append_nil,
      Bool.false_eq_true, if_false]
    exact h
  | some p =>
    have hnew := startStream_grown (s := s') (hs.exchange k p hplan)
    rw [h.attempt hs hplan hk] at hnew
    rw [hplan, Option.any_some] at hcalls
    simp only [List.filter_cons, hcalls, List.filter_nil]
    exact h.trans hnew

theorem startPrices_grown (s : Supervisor) :
    Grown s s.startPrices (if s.crawlers.prices.isSome then [.binanceRest] else []) := by
  unfold startPrices
  split_ifs
  · exact grown_spawn rfl
  · exact Grown.refl s

/-- Prices are polled where a stream is not asked for, or cannot be started. -/
theorem calls_polled (hplan : s.crawlers.binance = some p)
    (hpolled : s.crawlers.mode = .rest ∨ Feed.fails (s.attempt p) = true) :
    [.binance, .binanceRest].filter s.calls =
      if s.crawlers.prices.isSome then [.binanceRest] else [] := by
  have hstream : s.calls .binance = false := by
    rcases hpolled with hmode | hfails
    · simp [calls, hmode]
    · cases hattempt : s.attempt p with
      | ok _ => simp [hattempt, Feed.fails] at hfails
      | error e => simp [calls, hplan, hattempt, Feed.opened]
  have hprices : s.calls .binanceRest = s.crawlers.prices.isSome := by
    simpa [calls, hplan] using fun _ => hpolled
  simp [hstream, hprices, List.filter_cons]

/-- Binance is listened to or polled, or neither. -/
theorem startBinance_grown (hs : s.Placed) :
    Grown s s.startBinance ([.binance, .binanceRest].filter s.calls) := by
  unfold startBinance
  cases hplan : s.crawlers.binance with
  | none => simpa [calls, hplan] using Grown.refl s
  | some p =>
    cases hmode : s.crawlers.mode with
    | rest =>
      rw [calls_polled hplan (.inl hmode)]
      exact startPrices_grown s
    | stream =>
      have hk : Crawler.exchange? .binance = some p.exchange := hs.exchange .binance p hplan
      have hpolled := calls_polled (s := s) hplan ∘ .inr
      simp only [startStream_eq]
      cases hattempt : s.attempt p with
      | ok _ => simpa [calls, hplan, hmode, hattempt, Feed.opened, Feed.fails] using grown_join hk
      | error e =>
        rw [hattempt] at hpolled
        cases e with
        | alreadyRunning _ =>
          simpa [calls, hplan, hmode, hattempt, Feed.opened, Feed.fails] using Grown.refl s
        | noSymbols _ | invalidUrl _ _ =>
          rw [hpolled rfl]
          exact startPrices_grown s

theorem Grown.startSchedules (h : Grown s s' ks) :
    Grown s s'.startSchedules (ks ++ [.nba].filter s.calls) := by
  have hcalls : s.calls .nba = s'.crawlers.schedules.isSome := by rw [h.crawlers, calls]
  unfold Supervisor.startSchedules
  split_ifs with hp
  · simpa [hcalls, hp] using h.trans (grown_spawn rfl)
  · simpa [hcalls, hp] using h

/-- A start gives new tasks to the crawlers that it calls for, and to no others. -/
theorem start_grown (hs : s.Placed) : Grown s s.start (Crawler.inOrder.filter s.calls) := by
  have hbybit := (startBinance_grown hs).startFeed hs (k := .bybit) (by simp) rfl
  have hokx := hbybit.startFeed hs (k := .okx) (by simp) rfl
  have hlist : Crawler.inOrder.filter s.calls =
      [.binance, .binanceRest].filter s.calls ++ [.bybit].filter s.calls ++ [.okx].filter s.calls ++
        [.nba].filter s.calls := by
    simp only [Crawler.inOrder, ← List.filter_append]
    rfl
  rw [hlist]
  exact hokx.startSchedules

/-! ## The first start -/

theorem placed_new (c : Config) : c.supervisor.Placed where
  exchange k p hp := by
    have hplan : ∀ (stream : Config.Stream) (x : Exchange),
        stream.plan? x c.catalog = some p → p.exchange = x := by
      intro stream x h
      unfold Config.Stream.plan? at h
      split_ifs at h
      obtain rfl := Option.some.inj h
      rfl
    cases k with
    | binance | bybit | okx => exact congrArg some (hplan _ _ hp).symm
    | binanceRest | nba => cases hp
  held _ _ hid := by cases hid

end Supervisor

end LiveEvents
