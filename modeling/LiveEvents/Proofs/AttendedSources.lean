import LiveEvents.Proofs.ReadyCrawlers

/-!
# Sources that a first start leaves unattended

The rules of a configuration look at how the URL of a feed begins, and a start reads the whole URL.
Where the beginning is right the scheme is right too, but the rest may make no URL. A valid
configuration then starts without that feed, and only Binance may have its prices polled instead.
-/

namespace LiveEvents

/-! ## URLs that begin as those of feeds do -/

namespace Url

/-- A beginning without blanks is a beginning of what counts. -/
theorem significant_append {text : String} {start rest : List Char} (hne : start ≠ [])
    (hplain : ∀ c ∈ start, ¬c ≤ ' ') (htext : text.toList = start ++ rest) :
    ∃ tail, significant text = start ++ tail := by
  have hkept : ∀ l l' : List Char, l ≠ [] → (∀ c ∈ l, ¬c ≤ ' ') →
      (l ++ l').dropWhile (· ≤ ' ') = l ++ l' := by
    intro l l' hl hnot
    cases l with
    | nil => exact absurd rfl hl
    | cons c l => simp [hnot c (List.mem_cons_self ..)]
  have hback : ∃ tail, ((start ++ rest).reverse.dropWhile (· ≤ ' ')).reverse = start ++ tail := by
    rw [List.reverse_append, List.dropWhile_append]
    split_ifs
    · have hreverse := hkept start.reverse [] (by simpa using hne) fun c hc =>
        hplain c (List.mem_reverse.mp hc)
      rw [List.append_nil] at hreverse
      rw [hreverse, List.reverse_reverse]
      exact ⟨[], (List.append_nil start).symm⟩
    · rw [List.reverse_append, List.reverse_reverse]
      exact ⟨_, rfl⟩
  have hfilter : start.filter (fun c => c ≠ '\t' && c ≠ '\n' && c ≠ '\r') = start := by
    refine List.filter_eq_self.mpr fun c hc => ?_
    have hnot := hplain c hc
    simp only [Bool.and_eq_true, decide_eq_true_eq, ne_eq]
    refine ⟨⟨?_, ?_⟩, ?_⟩ <;> rintro rfl <;> exact hnot (by decide)
  obtain ⟨tail, htail⟩ := hback
  simp only [significant, htext, hkept start rest hne hplain, htail, List.filter_append, hfilter]
  exact ⟨_, rfl⟩

/-- A URL that begins as those of feeds do has the scheme that it begins with. -/
theorem scheme_of_start {url scheme : String}
    (hstart : Config.startsWithOneOf ["ws://", "wss://"] url = true)
    (hcheck : check url = .ok scheme) : scheme = "ws" ∨ scheme = "wss" := by
  have hbegin : ∀ start : String, (Text.withoutStart? start url).isSome = true →
      ∃ rest, url.toList = start.toList ++ rest := by
    intro start h
    unfold Text.withoutStart? at h
    by_cases hprefix : start.toList.isPrefixOf url.toList = true
    · obtain ⟨rest, hrest⟩ := List.isPrefixOf_iff_prefix.mp hprefix
      exact ⟨rest, hrest.symm⟩
    · rw [if_neg hprefix] at h
      cases h
  have hscheme : ∀ (s : String) (rest : List Char), scheme? (significant url) = some (s, rest) →
      s ∈ hostedSchemes → scheme = s := by
    intro s rest hs hhosted
    simp only [check, hs, if_pos hhosted] at hcheck
    cases hrest : checkAfterSlashes true (rest.dropWhile isSlash) with
    | error e =>
      rw [hrest] at hcheck
      cases hcheck
    | ok _ =>
      rw [hrest] at hcheck
      exact (Except.ok.inj hcheck).symm
  simp only [Config.startsWithOneOf, List.any_cons, List.any_nil, Bool.or_false,
    Bool.or_eq_true] at hstart
  rcases hstart with hws | hwss
  · obtain ⟨rest, hrest⟩ := hbegin _ hws
    obtain ⟨tail, htail⟩ := significant_append (by decide) (by simp) hrest
    exact .inl (hscheme "ws" ('/' :: '/' :: tail) (by rw [htail]; rfl) (by decide))
  · obtain ⟨rest, hrest⟩ := hbegin _ hwss
    obtain ⟨tail, htail⟩ := significant_append (by decide) (by simp) hrest
    exact .inr (hscheme "wss" ('/' :: '/' :: tail) (by rw [htail]; rfl) (by decide))

end Url

/-- A URL that begins as those of feeds do can be dialed if it is one. -/
theorem Feed.checkUrl_eq_ok_iff {url : String}
    (hstart : Config.startsWithOneOf ["ws://", "wss://"] url = true) :
    checkUrl url = .ok () ↔ (Url.check url).isOk = true := by
  unfold checkUrl
  cases hcheck : Url.check url with
  | error e => simp [Except.isOk, Except.toBool]
  | ok scheme => simp [Url.scheme_of_start hstart hcheck, Except.isOk, Except.toBool]

/-! ## What the first start attends to -/

namespace Config

/-- The URL of the stream is one, and not only in how it begins. -/
def Stream.isDialable (s : Stream) : Bool := (Url.check s.wsUrl).isOk

def tried (c : Config) : List Stream :=
  ((if c.binance.mode = .stream then [c.binance.stream] else []) ++ [c.bybit, c.okx]).filter
    (·.enabled)

/-- The first start gives the crawler a task. -/
def Serves (c : Config) : Crawler → Prop
  | .binance => c.binance.stream.enabled = true ∧ c.binance.mode = .stream ∧
      c.binance.stream.isDialable = true
  | .binanceRest => c.binance.stream.enabled = true ∧ (c.binance.mode = .rest ∨
      c.binance.restFallback = true ∧ c.binance.stream.isDialable = false)
  | .bybit => c.bybit.enabled = true ∧ c.bybit.isDialable = true
  | .okx => c.okx.enabled = true ∧ c.okx.isDialable = true
  | .nba => c.nba.enabled = true

end Config

/-- Every source that is switched on has a running task under its name. -/
structure Supervisor.Attends (s : Supervisor) (c : Config) : Prop where
  bybit : c.bybit.enabled = true → ("bybit", true) ∈ s.status
  okx : c.okx.enabled = true → ("okx", true) ∈ s.status
  nba : c.nba.enabled = true → ("nba", true) ∈ s.status
  stream : c.binance.stream.enabled = true → c.binance.mode = .stream →
    ("binance", true) ∈ s.status
  rest : c.binance.stream.enabled = true → c.binance.mode = .rest →
    ("binance_rest", true) ∈ s.status

namespace Config

variable {c : Config}

theorem mem_status_start (c : Config) (k : Crawler) :
    (k.name, true) ∈ c.supervisor.start.status ↔ c.supervisor.calls k = true := by
  have hstatus : c.supervisor.start.status =
      (Crawler.inOrder.filter c.supervisor.calls).map fun k => (k.name, true) := by
    rw [Supervisor.status, (Supervisor.start_grown (Supervisor.placed_new c)).tasks,
      List.map_append, List.map_map]
    rfl
  simp only [hstatus, List.mem_map, List.mem_filter]
  constructor
  · rintro ⟨k', ⟨-, hcalls⟩, hname⟩
    obtain rfl := Crawler.name_injective (Prod.mk.inj hname).1
    exact hcalls
  · intro hcalls
    exact ⟨k, ⟨by cases k <;> decide, hcalls⟩, rfl⟩

/-- The first attempt to start a stream comes down to its URL. -/
theorem attempt_plan (hvalid : c.Valid) {name : String} {s : Stream} (hs : (name, s) ∈ c.streams)
    {x : Exchange} {p : Feed.Plan} (hplan : s.plan? x c.catalog = some p) :
    Feed.opened (c.supervisor.attempt p) = s.isDialable ∧
      Feed.fails (c.supervisor.attempt p) = !s.isDialable := by
  unfold Stream.plan? at hplan
  split_ifs at hplan with henabled
  obtain rfl := Option.some.inj hplan
  have hruled := hvalid.stream hs henabled
  have hattempt : c.supervisor.attempt ⟨x, s.settings, c.catalog.priceIdentity s⟩ =
      Feed.checkUrl s.wsUrl := Feed.Plan.check_idle hruled.symbols
  have hiff : Feed.checkUrl s.wsUrl = .ok () ↔ s.isDialable = true :=
    Feed.checkUrl_eq_ok_iff hruled.wsUrl
  rw [hattempt]
  by_cases hdialable : s.isDialable = true
  · rw [hiff.mpr hdialable, hdialable]
    exact ⟨rfl, rfl⟩
  · cases hcheck : Feed.checkUrl s.wsUrl with
    | ok _ => exact absurd (hiff.mp hcheck) hdialable
    | error e =>
      obtain ⟨reason, rfl⟩ := Feed.checkUrl_error hcheck
      rw [Bool.eq_false_iff.mpr hdialable]
      exact ⟨rfl, rfl⟩

theorem any_plan? {s : Stream} {x : Exchange} {good : Feed.Plan → Bool} {b : Bool}
    (h : ∀ p, s.plan? x c.catalog = some p → good p = b) :
    (s.plan? x c.catalog).any good = (s.enabled && b) := by
  cases henabled : s.enabled with
  | false => simp [Stream.plan?, henabled]
  | true =>
    obtain ⟨p, hp⟩ : ∃ p, s.plan? x c.catalog = some p := by simp [Stream.plan?, henabled]
    simp [hp, h p hp]

theorem calls_iff_serves (hvalid : c.Valid) (k : Crawler) :
    c.supervisor.calls k = true ↔ c.Serves k := by
  have hopened : ∀ (name : String) (s : Stream) (x : Exchange), (name, s) ∈ c.streams →
      (s.plan? x c.catalog).any (Feed.opened <| c.supervisor.attempt ·) =
        (s.enabled && s.isDialable) := by
    intro name s x hs
    exact any_plan? fun p hplan => (attempt_plan hvalid hs hplan).1
  cases k with
  | binance =>
    have hbinance := hopened "binance" c.binance.stream .binance c.binance_mem_streams
    have hcalls : c.supervisor.calls .binance = (c.binance.mode == .stream &&
        (c.binance.stream.enabled && c.binance.stream.isDialable)) :=
      congrArg (c.binance.mode == .stream && ·) hbinance
    rw [hcalls, Serves]
    simp only [Bool.and_eq_true, beq_iff_eq]
    tauto
  | binanceRest =>
    have hpolled : (c.binance.stream.plan? .binance c.catalog).any (fun p =>
        c.binance.mode == .rest || Feed.fails (c.supervisor.attempt p)) =
        (c.binance.stream.enabled &&
          (c.binance.mode == .rest || !c.binance.stream.isDialable)) := by
      refine any_plan? fun p hplan => ?_
      rw [(attempt_plan hvalid c.binance_mem_streams hplan).2]
    have hcalls : c.supervisor.calls .binanceRest =
        ((c.binance.pricePlan? c.catalog).isSome && (c.binance.stream.enabled &&
          (c.binance.mode == .rest || !c.binance.stream.isDialable))) :=
      congrArg ((c.binance.pricePlan? c.catalog).isSome && ·) hpolled
    rw [hcalls, Serves]
    cases henabled : c.binance.stream.enabled <;> cases hmode : c.binance.mode <;>
      cases hfallback : c.binance.restFallback <;>
      simp [Binance.pricePlan?, Binance.usesRest, henabled, hmode, hfallback]
  | bybit =>
    have hbybit := hopened "bybit" c.bybit .bybit c.bybit_mem_streams
    exact (Bool.eq_iff_iff.mp hbybit).trans (Bool.and_eq_true_iff)
  | okx =>
    have hokx := hopened "okx" c.okx .okx c.okx_mem_streams
    exact (Bool.eq_iff_iff.mp hokx).trans (Bool.and_eq_true_iff)
  | nba =>
    change (c.nba.plan? c.catalog).isSome = true ↔ c.nba.enabled = true
    unfold Nba.plan?
    split_ifs with henabled
    · simp [henabled]
    · simp [henabled]

end Config

/-- In a valid configuration the first start gives tasks to exactly these crawlers. It attends to
every source that is switched on exactly if the URL of each stream that it tries is one, which for a
URL that has the beginning that the rules ask for is all that a start asks. -/
theorem attended_iff {c : Config} (hvalid : c.Valid) :
    (∀ k : Crawler, (k.name, true) ∈ c.supervisor.start.status ↔ c.Serves k) ∧
    (c.supervisor.start.Attends c ↔ ∀ s ∈ c.tried, s.isDialable = true) ∧
    (∀ url, Config.startsWithOneOf ["ws://", "wss://"] url = true →
      (Feed.checkUrl url = .ok () ↔ (Url.check url).isOk = true)) := by
  have hserves : ∀ k : Crawler, (k.name, true) ∈ c.supervisor.start.status ↔ c.Serves k :=
    fun k => (c.mem_status_start k).trans (Config.calls_iff_serves hvalid k)
  refine ⟨hserves, ?_, fun url => Feed.checkUrl_eq_ok_iff⟩
  have htried : (∀ s ∈ c.tried, s.isDialable = true) ↔
      (c.binance.mode = .stream → c.binance.stream.enabled = true →
        c.binance.stream.isDialable = true) ∧
      (c.bybit.enabled = true → c.bybit.isDialable = true) ∧
      (c.okx.enabled = true → c.okx.isDialable = true) := by
    unfold Config.tried
    split_ifs with hmode <;> simp [hmode]
  rw [htried]
  constructor
  · intro h
    refine ⟨fun hmode henabled => ?_, fun henabled => ?_, fun henabled => ?_⟩
    · exact ((hserves .binance).mp (h.stream henabled hmode)).2.2
    · exact ((hserves .bybit).mp (h.bybit henabled)).2
    · exact ((hserves .okx).mp (h.okx henabled)).2
  · rintro ⟨hbinance, hbybit, hokx⟩
    exact {
      bybit := fun henabled => (hserves .bybit).mpr ⟨henabled, hbybit henabled⟩
      okx := fun henabled => (hserves .okx).mpr ⟨henabled, hokx henabled⟩
      nba := (hserves .nba).mpr
      stream := fun henabled hmode =>
        (hserves .binance).mpr ⟨henabled, hmode, hbinance hmode henabled⟩
      rest := fun henabled hmode => (hserves .binanceRest).mpr ⟨henabled, .inl hmode⟩ }

theorem everySource_attended : everySource.supervisor.start.Attends everySource := by
  refine (attended_iff everySource_valid).2.1.mpr ?_
  decide +kernel

/-- The URL of its only feed begins as it should, and has no host. -/
def hostless : Config :=
  let lenient := Feed.lenient
  { lenient with
    binance := { lenient.binance with stream := Feed.switchedOff }
    bybit := { lenient.binance.stream with wsUrl := "ws://" } }

/-- A valid configuration may start without a feed that is switched on. -/
theorem hostless_unattended : ¬∀ c : Config, c.Valid → c.supervisor.start.Attends c := by
  intro h
  have hvalid : hostless.Valid := by decide +kernel
  have hempty : hostless.supervisor.start.status = [] := by decide +kernel
  have hlisted := (h hostless hvalid).bybit rfl
  rw [hempty] at hlisted
  cases hlisted

end LiveEvents
