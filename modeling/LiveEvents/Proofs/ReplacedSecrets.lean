import LiveEvents.Proofs.ValidConfigs
import Mathlib.Tactic.Push
import Mathlib.Tactic.SplitIfs

/-!
# Secrets from the environment

The environment may give the URL of the database and the key of the schedules, and nothing else of
a configuration depends on it. Two of the rules ask for these secrets. A secret that is given
repairs its rule and can break none, so what is valid as it is written is valid in every
environment, and what is not may become valid.
-/

namespace LiveEvents.Config

/-! ## What the environment replaces -/

/-- A text takes the value of a variable if that is set and not empty, and stays as it is if not. -/
structure Replaced (env : Environment) (name old new : String) : Prop where
  given : ∀ value, env name = some value → value ≠ "" → new = value
  kept : env name = none ∨ env name = some "" → new = old

/-- The second configuration is the first one but for the two secrets. -/
structure Overridden (env : Environment) (c c' : Config) : Prop where
  url : Replaced env "DATABASE_URL" c.database.url c'.database.url
  apiKey : Replaced env "SPORTRADAR_API_KEY" c.nba.apiKey c'.nba.apiKey
  rest : c' = { c with
    database := { c.database with url := c'.database.url }
    nba := { c.nba with apiKey := c'.nba.apiKey } }

variable {env : Environment} {name : String}

theorem nonEmpty_eq_some_iff {value : String} :
    nonEmpty env name = some value ↔ env name = some value ∧ value ≠ "" := by
  simp [nonEmpty, Option.filter_eq_some_iff]

theorem nonEmpty_eq_none_iff :
    nonEmpty env name = none ↔ env name = none ∨ env name = some "" := by
  cases h : env name with
  | none => simp [nonEmpty, h]
  | some value => simp [nonEmpty, h, Option.filter]

theorem replaced_iff {old new : String} :
    Replaced env name old new ↔ new = (nonEmpty env name).getD old := by
  cases hvalue : nonEmpty env name with
  | none =>
    have hunset := nonEmpty_eq_none_iff.mp hvalue
    refine ⟨fun h => h.kept hunset, fun h => ⟨fun value hset hne => ?_, fun _ => h⟩⟩
    rw [nonEmpty_eq_some_iff.mpr ⟨hset, hne⟩] at hvalue
    cases hvalue
  | some value =>
    obtain ⟨hset, hne⟩ := nonEmpty_eq_some_iff.mp hvalue
    refine ⟨fun h => h.given value hset hne, fun h => ⟨fun value' hset' _ => ?_, fun hunset => ?_⟩⟩
    · rw [h, Option.getD_some, Option.some.inj (hset.symm.trans hset')]
    · rw [nonEmpty_eq_none_iff.mpr hunset] at hvalue
      cases hvalue

/-- What the environment replaces leaves no choice. -/
theorem overridden_iff {c c' : Config} : Overridden env c c' ↔ c' = c.withEnvironment env := by
  constructor
  · intro h
    rw [h.rest, replaced_iff.mp h.url, replaced_iff.mp h.apiKey]
    rfl
  · rintro rfl
    exact ⟨replaced_iff.mpr rfl, replaced_iff.mpr rfl, rfl⟩

/-! ## What becomes of the rules -/

/-- The variable that gives what is missing, if it is a secret. -/
def Fault.secret? : Fault → Option String
  | missingDatabaseUrl => some "DATABASE_URL"
  | missingApiKey => some "SPORTRADAR_API_KEY"
  | _ => none

/-- The environment gives what is missing. -/
def Fault.isRepaired (env : Environment) (fault : Fault) : Bool :=
  fault.secret?.any fun name => (nonEmpty env name).isSome

def Rule.repair (env : Environment) (r : Rule) : Rule :=
  { r with holds := r.holds || r.fault.isRepaired env }

theorem Rule.repair_of_none {r : Rule} (h : r.fault.secret? = none) : r.repair env = r := by
  simp [repair, Fault.isRepaired, h]

/-- A text that a variable may replace is there afterwards if it was or if the variable gives it. -/
theorem getD_nonEmpty_ne (old : String) :
    ((nonEmpty env name).getD old != "") = (old != "" || (nonEmpty env name).isSome) := by
  cases h : nonEmpty env name with
  | none => simp
  | some value => simp [(nonEmpty_eq_some_iff.mp h).2]

theorem map_repair_of_forall_none {rs : List Rule} (h : ∀ r ∈ rs, r.fault.secret? = none) :
    rs.map (·.repair env) = rs := by
  rw [List.map_congr_left fun r hr => Rule.repair_of_none (h r hr), List.map_id']

variable (c : Config)

theorem databaseRules_withEnvironment :
    (c.withEnvironment env).databaseRules = c.databaseRules.map (·.repair env) := by
  have hurl : ((c.withEnvironment env).database.url != "") =
      (c.database.url != "" || (nonEmpty env "DATABASE_URL").isSome) := getD_nonEmpty_ne _
  simp only [databaseRules, List.map_cons, List.map_nil, Rule.repair, Fault.isRepaired,
    Fault.secret?, Option.any_none, Option.any_some, Bool.or_false, Bool.or_assoc, hurl]
  rfl

theorem nbaRules_withEnvironment :
    (c.withEnvironment env).nbaRules = c.nbaRules.map (·.repair env) := by
  have hkey : ((c.withEnvironment env).nba.apiKey != "") =
      (c.nba.apiKey != "" || (nonEmpty env "SPORTRADAR_API_KEY").isSome) := getD_nonEmpty_ne _
  have henabled : (c.withEnvironment env).nba.enabled = c.nba.enabled := rfl
  simp only [nbaRules, henabled]
  split_ifs
  · simp only [List.map_cons, List.map_nil, Rule.repair, Fault.isRepaired, Fault.secret?,
      Option.any_none, Option.any_some, Bool.or_false, hkey]
    rfl
  · rfl

/-- No rule of a stream asks for a secret. -/
theorem secret?_streamRules : ∀ r ∈ c.streamRules, r.fault.secret? = none := by
  intro r hr
  obtain ⟨⟨name, s⟩, -, hr⟩ := List.mem_flatMap.mp hr
  dsimp only at hr
  split_ifs at hr with henabled
  · simp only [Stream.rules, List.cons_append, List.nil_append, List.mem_cons, List.not_mem_nil,
      or_false] at hr
    rcases hr with rfl | rfl | rfl | rfl | rfl | rfl | rfl <;> rfl
  · cases hr

theorem secret?_restRules : ∀ r ∈ c.restRules, r.fault.secret? = none := by
  intro r hr
  unfold restRules at hr
  split_ifs at hr with huses
  · simp only [List.mem_cons, List.not_mem_nil, or_false] at hr
    rcases hr with rfl | rfl <;> rfl
  · cases hr

/-- In an environment the same rules are tried, the two about secrets with what it gives. -/
theorem rules_withEnvironment :
    (c.withEnvironment env).rules = c.rules.map (·.repair env) := by
  have hstreams : (c.withEnvironment env).streamRules = c.streamRules := rfl
  have hrest : (c.withEnvironment env).restRules = c.restRules := rfl
  simp only [rules, List.map_append, databaseRules_withEnvironment, nbaRules_withEnvironment,
    hstreams, hrest, map_repair_of_forall_none (secret?_streamRules c),
    map_repair_of_forall_none (secret?_restRules c)]

theorem valid_withEnvironment_iff : (c.withEnvironment env).Valid ↔
    ∀ r ∈ c.rules, r.holds = true ∨ r.fault.isRepaired env = true := by
  unfold Valid
  rw [rules_withEnvironment, List.forall_mem_map]
  simp only [Rule.repair, Bool.or_eq_true]

variable {c}

/-- What the environment gives breaks no rule. -/
theorem Valid.withEnvironment (h : c.Valid) (env : Environment) : (c.withEnvironment env).Valid :=
  (valid_withEnvironment_iff c).mpr fun r hr => Or.inl (h r hr)

/-! ## Loading -/

theorem check_eq_ok_iff {c' : Config} : c.check = .ok c' ↔ c' = c ∧ c.Valid := by
  refine ⟨valid_of_check, ?_⟩
  rintro ⟨rfl, hvalid⟩
  unfold check
  rw [(fault?_eq_none_iff c').mpr hvalid]

theorem check_eq_error_iff {e : ConfigError} :
    c.check = .error e ↔ ∃ fault, c.fault? = some fault ∧ e = .invalid fault := by
  unfold check
  cases h : c.fault? with
  | none => simp
  | some fault => simp [eq_comm]

variable {text path : String}

theorem parse_eq_ok_iff : parse text = .ok c ↔ ofToml? text = some c ∧ c.Valid := by
  unfold parse
  cases h : ofToml? text with
  | none => simp
  | some c' =>
    simp only [check_eq_ok_iff, Option.some.injEq]
    constructor
    · rintro ⟨rfl, hvalid⟩
      exact ⟨rfl, hvalid⟩
    · rintro ⟨rfl, hvalid⟩
      exact ⟨rfl, hvalid⟩

theorem load_of_ofToml? (h : ofToml? text = some c) (path : String) (env : Environment) :
    load path (some text) env = (c.withEnvironment env).check := by
  simp only [load, h]

/-- A text that is accepted by itself is loaded in every environment, with nothing replaced but the
two secrets. Whatever was loaded keeps the rules. And a text that is a configuration is refused only
for a rule that is broken after the secrets were replaced, which is one that was broken before and
that the environment does not repair. -/
theorem load_judges_overridden (env : Environment) (path text : String) :
    (∀ c, parse text = .ok c →
      ∃ c', load path (some text) env = .ok c' ∧ Overridden env c c') ∧
    (∀ file c', load path file env = .ok c' → c'.fault? = none) ∧
    ∀ c, ofToml? text = some c → ∃ c', Overridden env c c' ∧
      (∀ e, load path (some text) env = .error e ↔
        ∃ fault, c'.fault? = some fault ∧ e = .invalid fault) ∧
      (c'.fault? ≠ none ↔ ∃ r ∈ c.rules, r.holds = false ∧ r.fault.isRepaired env = false) := by
  refine ⟨?_, ?_, ?_⟩
  · intro c hparse
    obtain ⟨hread, hvalid⟩ := parse_eq_ok_iff.mp hparse
    refine ⟨c.withEnvironment env, ?_, overridden_iff.mpr rfl⟩
    rw [load_of_ofToml? hread]
    exact check_eq_ok_iff.mpr ⟨rfl, hvalid.withEnvironment env⟩
  · intro file c' hload
    exact (fault?_eq_none_iff c').mpr (valid_of_load hload).1
  · intro c hread
    refine ⟨c.withEnvironment env, overridden_iff.mpr rfl, ?_, ?_⟩
    · intro e
      rw [load_of_ofToml? hread]
      exact check_eq_error_iff
    · rw [ne_eq, fault?_eq_none_iff, valid_withEnvironment_iff]
      push Not
      simp only [Bool.not_eq_true]

/-- A configuration whose only crawler polls schedules, its sections written as lists of fields. -/
def gamesText (url apiKey : String) : String :=
  "service=[\"pod\"]\ndatabase=[\"postgres\",\"" ++ url ++ "\"]\ncatalog=[\"en\",\"\",\"us\"]\n" ++
    "binance.enabled=false\nbybit=[false]\nokx=[false]\n" ++
    "nba=[true,\"" ++ apiKey ++ "\",\"\",\"\",\"\",\"nba\"]\nmetrics=[]"

/-- An environment that gives the database, and a key that is empty. -/
def nightShift : Environment := fun name =>
  [("DATABASE_URL", "night"), ("SPORTRADAR_API_KEY", "")].lookup name

/-- At night the database is another one and the key is the written one; where none is written it
is what is missing. -/
theorem nightShift_judges : (∃ c c', parse (gamesText "day" "key") = .ok c ∧
      load "config.toml" (some (gamesText "day" "key")) nightShift = .ok c' ∧
      Overridden nightShift c c' ∧ c'.fault? = none ∧
      c'.database.url = "night" ∧ c'.nba.apiKey = c.nba.apiKey) ∧
    ∃ c, ofToml? (gamesText "" "") = some c ∧ c.fault? = some .missingDatabaseUrl ∧
      load "config.toml" (some (gamesText "" "")) nightShift =
        .error (.invalid .missingApiKey) := by
  constructor
  · have hread : (ofToml? (gamesText "day" "key")).any (decide ·.Valid) = true := by
      decide +kernel
    obtain ⟨c, hc, hvalid⟩ := (Option.any_eq_true _ _).mp hread
    have hparse := parse_eq_ok_iff.mpr ⟨hc, of_decide_eq_true hvalid⟩
    obtain ⟨haccepted, hloaded, -⟩ :=
      load_judges_overridden nightShift "config.toml" (gamesText "day" "key")
    obtain ⟨c', hload, hover⟩ := haccepted c hparse
    exact ⟨c, c', hparse, hload, hover, hloaded _ c' hload, hover.url.given _ rfl (by decide),
      hover.apiKey.kept (.inr rfl)⟩
  · have hread : (ofToml? (gamesText "" "")).map (fun c =>
        (c.fault?, (c.withEnvironment nightShift).fault?)) =
          some (some .missingDatabaseUrl, some .missingApiKey) := by
      decide +kernel
    obtain ⟨c, hc, hfaults⟩ := Option.map_eq_some_iff.mp hread
    obtain ⟨hfault, hfault'⟩ := Prod.mk.inj hfaults
    obtain ⟨-, -, hjudged⟩ := load_judges_overridden nightShift "config.toml" (gamesText "" "")
    obtain ⟨c', hover, hrefused, -⟩ := hjudged c hc
    rw [← overridden_iff.mp hover] at hfault'
    exact ⟨c, hc, hfault, (hrefused _).mpr ⟨_, hfault', rfl⟩⟩

end LiveEvents.Config
