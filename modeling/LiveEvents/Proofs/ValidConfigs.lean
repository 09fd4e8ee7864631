import LiveEvents.Config.Loading
import Mathlib.Algebra.Group.Nat.Defs
import Mathlib.Tactic.SplitIfs

/-!
# What the rules of a configuration say

The rules are a list, and each section that is switched on has its part of it. Here they are read
section by section. A configuration that was loaded keeps them, and its lengths of time have at most
64 bits.
-/

namespace LiveEvents.Config

/-- What the rules say of a stream that is switched on. -/
structure Stream.Ruled (s : Stream) : Prop where
  symbols : s.symbols ≠ []
  wsUrl : startsWithOneOf ["ws://", "wss://"] s.wsUrl = true
  heartbeat : 0 < s.heartbeatSeconds
  idle : s.heartbeatSeconds < s.idleTimeoutSeconds
  handshake : 0 < s.handshakeTimeoutSeconds
  subscribe : 0 < s.subscribeTimeoutSeconds
  initial : 0 < s.reconnectInitialMillis
  max : s.reconnectInitialMillis ≤ s.reconnectMaxMillis

theorem binance_mem_streams (c : Config) : ("binance", c.binance.stream) ∈ c.streams := by
  simp [streams]

theorem bybit_mem_streams (c : Config) : ("bybit", c.bybit) ∈ c.streams := by
  simp [streams]

theorem okx_mem_streams (c : Config) : ("okx", c.okx) ∈ c.streams := by
  simp [streams]

variable {c : Config}

theorem Valid.stream {name : String} {s : Stream} (h : c.Valid) (hs : (name, s) ∈ c.streams)
    (henabled : s.enabled = true) : s.Ruled := by
  have hrules : ∀ r ∈ s.rules name, r.holds = true := by
    intro r hr
    apply h r
    have hstreams : r ∈ c.streamRules := by
      refine List.mem_flatMap.mpr ⟨(name, s), hs, ?_⟩
      simp [henabled, hr]
    simp [rules, hstreams]
  simp only [Stream.rules, List.mem_cons, List.not_mem_nil, or_false, forall_eq_or_imp, forall_eq,
    Bool.and_eq_true, Bool.not_eq_true', List.isEmpty_eq_false_iff, decide_eq_true_eq] at hrules
  obtain ⟨hsymbols, hurl, -, ⟨hbeat, hidle⟩, ⟨hhandshake, hsubscribe⟩, hinitial, hmax⟩ := hrules
  exact ⟨hsymbols, hurl, hbeat, hidle, hhandshake, hsubscribe, hinitial, hmax⟩

theorem Valid.prices (h : c.Valid) (huses : c.binance.usesRest = true) :
    0 < c.binance.restPollSeconds ∧ 0 < c.binance.restTimeoutSeconds := by
  have hrules : ∀ r ∈ c.restRules, r.holds = true := fun r hr => h r (by simp [rules, hr])
  simp only [restRules, huses, if_true, List.mem_cons, List.not_mem_nil, or_false, forall_eq_or_imp,
    forall_eq, Bool.and_eq_true, decide_eq_true_eq] at hrules
  exact hrules.2

theorem Valid.schedules (h : c.Valid) (henabled : c.nba.enabled = true) :
    0 < c.nba.pollSeconds ∧ 0 < c.nba.timeoutSeconds ∧ c.nba.lookaheadDays ≤ maxLookaheadDays := by
  have hrules : ∀ r ∈ c.nbaRules, r.holds = true := fun r hr => h r (by simp [rules, hr])
  simp only [nbaRules, henabled, if_true, List.mem_cons, List.not_mem_nil, or_false,
    forall_eq_or_imp, forall_eq, Bool.and_eq_true, decide_eq_true_eq] at hrules
  obtain ⟨-, -, -, ⟨hpoll, htimeout⟩, hdays⟩ := hrules
  exact ⟨hpoll, htimeout, hdays⟩

theorem Valid.upserts (h : c.Valid) : 0 < c.database.upsertTimeoutSeconds := by
  have hrule := h ⟨0 < c.database.upsertTimeoutSeconds, .noUpsertTimeout⟩
    (by simp [rules, databaseRules])
  simpa using hrule

/-- The lengths of time of a stream have at most 64 bits. -/
structure Stream.Fits (s : Stream) : Prop where
  idle : s.idleTimeoutSeconds < 2 ^ 64
  max : s.reconnectMaxMillis < 2 ^ 64

/-- The lengths of time of all streams have at most 64 bits. -/
def Fits (c : Config) : Prop := ∀ s ∈ c.streams, s.2.Fits

/-! ## Configurations that were loaded -/

theorem lt_of_count? {bits n : Nat} {v : Toml.Value} (h : count? bits v = some n) :
    n < 2 ^ bits := by
  cases v with
  | integer i =>
    simp only [count?] at h
    split_ifs at h with hfits
    exact Option.some.inj h ▸ hfits.2
  | _ => cases h

theorem lt_of_orElse? {f : Fields} {name : String} {fallback bits n : Nat}
    (h : orElse? f name fallback (count? bits) = some n) (hfallback : fallback < 2 ^ bits) :
    n < 2 ^ bits := by
  unfold orElse? at h
  split at h
  · exact Option.some.inj h ▸ hfallback
  · exact lt_of_count? h

theorem Stream.fits_of_streamOfFields? {f : Fields} {s : Stream} (h : streamOfFields? f = some s) :
    s.Fits := by
  simp only [streamOfFields?, Option.bind_eq_bind, Option.bind_eq_some_iff, Option.pure_def,
    Option.some.injEq] at h
  obtain ⟨_, -, _, -, _, -, _, -, _, -, _, hidle, _, -, _, -, _, -, _, hmax, rfl⟩ := h
  exact ⟨lt_of_orElse? hidle (by decide), lt_of_orElse? hmax (by decide)⟩

theorem Stream.fits_of_stream? {v : Toml.Value} {s : Stream} (h : stream? v = some s) :
    s.Fits := by
  obtain ⟨f, -, hf⟩ := Option.bind_eq_some_iff.mp h
  exact fits_of_streamOfFields? hf

theorem Stream.fits_of_binance? {v : Toml.Value} {b : Binance} (h : binance? v = some b) :
    b.stream.Fits := by
  unfold binance? at h
  split at h
  · simp only [Option.bind_eq_bind, Option.bind_eq_some_iff, Option.pure_def,
      Option.some.injEq] at h
    obtain ⟨s, hs, _, -, _, -, _, -, _, -, _, -, rfl⟩ := h
    exact fits_of_streamOfFields? hs
  · cases h

theorem fits_of_ofToml? {text : String} (h : ofToml? text = some c) : c.Fits := by
  obtain ⟨f, -, hf⟩ := Option.bind_eq_some_iff.mp h
  simp only [ofMembers?, required?, Option.bind_eq_bind, Option.bind_eq_some_iff, Option.pure_def,
    Option.some.injEq] at hf
  obtain ⟨_, -, _, -, _, -, _, ⟨_, -, hbinance⟩, _, ⟨_, -, hbybit⟩, _, ⟨_, -, hokx⟩, _, -, _, -,
    rfl⟩ := hf
  simp only [Fits, streams, List.mem_cons, List.not_mem_nil, or_false, forall_eq_or_imp, forall_eq]
  exact ⟨Stream.fits_of_binance? hbinance, Stream.fits_of_stream? hbybit,
    Stream.fits_of_stream? hokx⟩

theorem valid_of_check {c' : Config} (h : c.check = .ok c') : c' = c ∧ c.Valid := by
  unfold check at h
  cases hfault : c.fault? with
  | none =>
    rw [hfault] at h
    exact ⟨(Except.ok.inj h).symm, (fault?_eq_none_iff c).mp hfault⟩
  | some fault =>
    rw [hfault] at h
    cases h

/-- A configuration that was loaded keeps all rules, also where the environment replaced a part. -/
theorem valid_of_load {path : String} {text : Option String} {env : Environment}
    (h : load path text env = .ok c) : c.Valid ∧ c.Fits := by
  unfold load at h
  cases text with
  | none => cases h
  | some text =>
    dsimp only at h
    cases hread : ofToml? text with
    | none =>
      rw [hread] at h
      cases h
    | some c' =>
      rw [hread] at h
      obtain ⟨rfl, hvalid⟩ := valid_of_check h
      exact ⟨hvalid, fits_of_ofToml? (c := c') hread⟩

end LiveEvents.Config
