import LiveEvents.Proofs.DirectWrites
import LiveEvents.Proofs.Turns
import LiveEvents.Store.Fault

/-!
# The protocol of an upsert's calls

Whatever a store replies, the calls of an upsert keep an order: an error ends them unless it is a
duplicate of a period or of a team, a row that was created is read again, a team created here gets
its name, and nothing is committed before the rows of the observation are all in place. `Rule` says
what must stand around one turn; it is kept when the turns of one step are put before those of the
next. `Prepared` spells out the turns that may stand before a commit.
-/

namespace LiveEvents.Upsert

open Store (Call Entity StoreError Turn)

variable {α β : Type}

/-- A duplicate of a period or of a team does not end the upsert. -/
def Forgiven : Call → StoreError → Prop
  | .createPeriod _, e | .createTeam _, e => e.isDuplicate = true
  | _, _ => False

/-- The lookup that follows a creation, and the error of the upsert if it finds nothing. -/
def secondLook? : Call → Option (Call × UpsertError)
  | .createPeriod d =>
    some (.periodByCode d.code, .missingAfterInsert Entity.period.name d.code)
  | .createTeam d =>
    some (.team d.externalId d.ecosystem, .missingAfterInsert Entity.team.name d.externalId)
  | .createEvent d =>
    some (.eventByExternalId d.externalId, .missingAfterInsert Entity.event.name d.externalId)
  | _ => none

def Plays (o : Observation) (t : TeamRef) (ecosystem : Guid) : Prop :=
  ∃ pair, o.teams = some pair ∧ pair.ecosystem = ecosystem ∧ (t = pair.home ∨ t = pair.away)

/-- The turns that create a team of the observation here and read it again. -/
def teamMade (t : TeamRef) (ecosystem : Guid) (row : Team) : List Turn :=
  [⟨.createTeam (teamDraft t ecosystem), .ok ()⟩, ⟨.team t.externalId ecosystem, .ok (some row)⟩]

/-- What stands around a turn of an upsert that ends with `r`. -/
structure Rule (o : Observation) (r : Except UpsertError α) (before : List Turn) (x : Turn)
    (after : List Turn) : Prop where
  /-- Every other error is the last reply, and the result. -/
  error : ∀ e, x.reply = .error e → ¬Forgiven x.call e → after = [] ∧ r = .error (.store e)
  again : ∀ look missing, secondLook? x.call = some (look, missing) →
    (∀ e, x.reply = .error e → Forgiven x.call e) → ∃ reply rest, after = ⟨look, reply⟩ :: rest ∧
      ∀ absent, look.absentReply? = some absent → reply = .ok absent →
        rest = [] ∧ r = .error missing
  named : ∀ d row rest, x = ⟨.createTeam d, .ok ()⟩ →
    after = ⟨.team d.externalId d.ecosystem, .ok (some row)⟩ :: rest →
      ∃ t ecosystem reply rest', Plays o t ecosystem ∧ d = teamDraft t ecosystem ∧
        rest = ⟨.createTeamName (teamNameDraft t row.guid o.identity.language), reply⟩ :: rest'
  names : ∀ d, x.call = .createTeamName d → ∃ t ecosystem row earlier, Plays o t ecosystem ∧
    before = earlier ++ teamMade t ecosystem row ∧
      d = teamNameDraft t row.guid o.identity.language

/-- Each turn stands as the rule says, when the turns of `past` came before. -/
def Ruled (o : Observation) (past : List Turn) (r : Except UpsertError α) (turns : List Turn) :
    Prop :=
  ∀ before x after, turns = before ++ x :: after → Rule o r (past ++ before) x after

/-- Turns that keep the rule and commit nothing. -/
structure Preparing (o : Observation) (past : List Turn) (r : Except UpsertError α)
    (turns : List Turn) : Prop where
  ruled : Ruled o past r turns
  open_ : ∀ x ∈ turns, x.call ≠ .commit

/-! ## The turns before a commit -/

inductive PeriodFound (spec : PeriodSpec) : List Turn → Period → Prop
  | there (row : Period) : PeriodFound spec [⟨.periodByCode spec.code, .ok (some row)⟩] row
  | made (reply : Except StoreError Unit) (row : Period)
      (h : ∀ e, reply = .error e → e.isDuplicate = true) : PeriodFound spec
        [⟨.periodByCode spec.code, .ok none⟩, ⟨.createPeriod (periodDraft spec), reply⟩,
          ⟨.periodByCode spec.code, .ok (some row)⟩] row

inductive TeamFound (t : TeamRef) (ecosystem language : Guid) : List Turn → Team → Prop
  | there (row : Team) :
      TeamFound t ecosystem language [⟨.team t.externalId ecosystem, .ok (some row)⟩] row
  | made (row : Team) : TeamFound t ecosystem language
      (⟨.team t.externalId ecosystem, .ok none⟩ :: teamMade t ecosystem row ++
        [⟨.createTeamName (teamNameDraft t row.guid language), .ok ()⟩]) row
  | second (e : StoreError) (row : Team) (h : e.isDuplicate = true) : TeamFound t ecosystem language
      [⟨.team t.externalId ecosystem, .ok none⟩, ⟨.createTeam (teamDraft t ecosystem), .error e⟩,
        ⟨.team t.externalId ecosystem, .ok (some row)⟩] row

inductive PlayersFound (o : Observation) : List Turn → Option (Team × Team) → Prop
  | nobody (h : o.teams = none) : PlayersFound o [] none
  | both {pair : TeamPair} {first second : List Turn} {home away : Team}
      (h : o.teams = some pair)
      (hhome : TeamFound pair.home pair.ecosystem o.identity.language first home)
      (haway : TeamFound pair.away pair.ecosystem o.identity.language second away) :
      PlayersFound o (first ++ second) (some (home, away))

inductive EventWritten (o : Observation) (period : Guid) (teams : Option (Team × Team)) :
    List Turn → Outcome → Prop
  | updated (row : Event) : EventWritten o period teams
      [⟨.eventByExternalId o.externalId, .ok (some row)⟩,
        ⟨.updateEvent row.guid (patch o period teams), .ok ()⟩] (.updated row.guid)
  | created (row : Event) : EventWritten o period teams
      [⟨.eventByExternalId o.externalId, .ok none⟩,
        ⟨.createEvent (draft o period teams), .ok ()⟩,
        ⟨.eventByExternalId o.externalId, .ok (some row)⟩] (.created row.guid)

inductive TitleWritten (o : Observation) (event : Guid) : List Turn → Prop
  | kept (row : Title) (h : row.title = o.title) :
      TitleWritten o event [⟨.title event o.identity.language, .ok (some row)⟩]
  | changed (row : Title) (h : row.title ≠ o.title) : TitleWritten o event
      [⟨.title event o.identity.language, .ok (some row)⟩,
        ⟨.updateTitle row.guid o.title, .ok ()⟩]
  | created : TitleWritten o event
      [⟨.title event o.identity.language, .ok none⟩,
        ⟨.createTitle (titleDraft o event), .ok ()⟩]

/-- All turns of an upsert before its commit: the period, both teams if it has teams, the event
and its title are in place. -/
inductive Prepared (o : Observation) : List Turn → Outcome → Prop
  | all {found players written titled : List Turn} {period : Period}
      {teams : Option (Team × Team)} {outcome : Outcome}
      (hperiod : PeriodFound o.period found period)
      (hplayers : PlayersFound o players teams)
      (hevent : EventWritten o period.guid teams written outcome)
      (htitle : TitleWritten o outcome.guid titled) :
      Prepared o (⟨.begin, .ok ()⟩ :: (found ++ players ++ written ++ titled)) outcome

/-- The protocol that an upsert with these turns and this result keeps. -/
structure Protocol (o : Observation) (r : Except UpsertError Outcome) (turns : List Turn) :
    Prop where
  ruled : Ruled o [] r turns
  /-- Nothing comes after a commit, so there is at most one. -/
  commit : ∀ before reply after, turns = before ++ ⟨.commit, reply⟩ :: after →
    after = [] ∧ ∃ outcome, Prepared o before outcome ∧ (reply = .ok () → r = .ok outcome)
  ok_iff : (∃ outcome, r = .ok outcome) ↔ ⟨.commit, .ok ()⟩ ∈ turns

variable {o : Observation} {r : Except UpsertError α} {past before after early late : List Turn}
  {c look : Call} {missing : UpsertError} {x : Turn}

/-! ## The rule for one turn -/

theorem rule_ok {a : c.Reply} (hlook : secondLook? c = none)
    (hname : ∀ d, c ≠ .createTeamName d) : Rule o r before ⟨c, .ok a⟩ after where
  error e he := nomatch he
  again look missing hc := by
    rw [hlook] at hc
    exact nomatch hc
  named d row rest hx := by
    cases hx
    exact nomatch hlook
  names d hd := absurd hd (hname d)

theorem rule_error {e : StoreError} (hfatal : ¬Forgiven c e)
    (hname : ∀ d, c ≠ .createTeamName d) :
    Rule o (.error (.store e) : Except UpsertError α) before ⟨c, .error e⟩ [] where
  error e' he _ := by
    cases he
    exact ⟨rfl, rfl⟩
  again look missing _ hfree := absurd (hfree e rfl) hfatal
  named d row rest hx := by
    cases hx
  names d hd := absurd hd (hname d)

theorem rule_created {reply : Except StoreError c.Reply} {again : Except StoreError look.Reply}
    {rest : List Turn} (hlook : secondLook? c = some (look, missing))
    (hfree : ∀ e, reply = .error e → Forgiven c e)
    (habsent : ∀ absent, look.absentReply? = some absent → again = .ok absent →
      rest = [] ∧ r = .error missing)
    (hnamed : ∀ d row, c = .createTeam d → (∃ a, reply = .ok a) →
      (⟨look, again⟩ : Turn) = ⟨.team d.externalId d.ecosystem, .ok (some row)⟩ →
        ∃ t ecosystem reply rest', Plays o t ecosystem ∧ d = teamDraft t ecosystem ∧
          rest = ⟨.createTeamName (teamNameDraft t row.guid o.identity.language), reply⟩ :: rest') :
    Rule o r before ⟨c, reply⟩ (⟨look, again⟩ :: rest) where
  error e he hfatal := absurd (hfree e he) hfatal
  again look' missing' hc _ := by
    rw [hlook] at hc
    cases hc
    exact ⟨again, rest, rfl, habsent⟩
  named d row rest' hx hafter := by
    obtain ⟨hturn, rfl⟩ := List.cons.inj hafter
    cases hx
    exact hnamed d row rfl ⟨(), rfl⟩ hturn
  names d hd := by
    have hcall : c = .createTeamName d := hd
    rw [hcall] at hlook
    exact nomatch hlook

/-- The turns of a step that succeeds may be followed by others. -/
theorem Rule.append {a : α} {r : Except UpsertError β}
    (h : Rule o (.ok a : Except UpsertError α) before x after) :
    Rule o r before x (after ++ late) where
  error e he hfatal := nomatch (h.error e he hfatal).2
  again look missing hc hfree := by
    obtain ⟨reply, rest, rfl, habsent⟩ := h.again look missing hc hfree
    exact ⟨reply, rest ++ late, rfl, fun absent hl hr => nomatch (habsent absent hl hr).2⟩
  named d row rest hx hafter := by
    subst hx
    obtain ⟨reply, rest', rfl, -⟩ := h.again _ _ rfl (fun e he => nomatch he)
    obtain ⟨hturn, rfl⟩ := List.cons.inj hafter
    cases hturn
    obtain ⟨t, ecosystem, reply, rest, hplays, hd, rfl⟩ := h.named d row rest' rfl rfl
    exact ⟨t, ecosystem, reply, rest ++ late, hplays, hd, rfl⟩
  names := h.names

theorem Rule.of_error {e : UpsertError}
    (h : Rule o (.error e : Except UpsertError α) before x after) :
    Rule o (.error e : Except UpsertError β) before x after where
  error e' he hfatal := by
    obtain ⟨hnil, hr⟩ := h.error e' he hfatal
    cases hr
    exact ⟨hnil, rfl⟩
  again look missing hc hfree := by
    obtain ⟨reply, rest, hafter, habsent⟩ := h.again look missing hc hfree
    refine ⟨reply, rest, hafter, fun absent hl hr => ?_⟩
    obtain ⟨hnil, hr⟩ := habsent absent hl hr
    cases hr
    exact ⟨hnil, rfl⟩
  named := h.named
  names := h.names

/-! ## The rule for the turns of a step -/

theorem ruled_nil : Ruled o past r [] :=
  fun _ _ _ h => nomatch (List.append_eq_nil_iff.mp h.symm).2

theorem Ruled.cons (hx : Rule o r past x late) (h : Ruled o (past ++ [x]) r late) :
    Ruled o past r (x :: late) := by
  intro before y after heq
  cases before with
  | nil =>
    cases heq
    rwa [List.append_nil]
  | cons z before =>
    obtain ⟨rfl, hrest⟩ := List.cons.inj heq
    rw [List.append_cons]
    exact h before y after hrest

theorem Ruled.append {a : α} {r : Except UpsertError β}
    (hearly : Ruled o past (.ok a : Except UpsertError α) early)
    (hlate : Ruled o (past ++ early) r late) : Ruled o past r (early ++ late) := by
  intro before x after heq
  rcases List.append_eq_append_iff.mp heq with ⟨mid, rfl, hmid⟩ | ⟨mid, hmid, hlater⟩
  · rw [← List.append_assoc]
    exact hlate mid x after hmid
  · cases mid with
    | nil =>
      rw [List.append_nil] at hmid
      subst hmid
      have h := hlate [] x after hlater.symm
      rwa [List.append_nil] at h
    | cons y mid =>
      obtain ⟨rfl, rfl⟩ := List.cons.inj hlater
      exact (hearly before x mid hmid).append

theorem preparing_nil : Preparing o past r [] where
  ruled := ruled_nil
  open_ _ hx := nomatch hx

theorem Preparing.cons (hx : Rule o r past x late) (hopen : x.call ≠ .commit)
    (h : Preparing o (past ++ [x]) r late) : Preparing o past r (x :: late) where
  ruled := .cons hx h.ruled
  open_ := List.forall_mem_cons.mpr ⟨hopen, h.open_⟩

theorem Preparing.append {a : α} {r : Except UpsertError β}
    (hearly : Preparing o past (.ok a : Except UpsertError α) early)
    (hlate : Preparing o (past ++ early) r late) : Preparing o past r (early ++ late) where
  ruled := hearly.ruled.append hlate.ruled
  open_ := List.forall_mem_append.mpr ⟨hearly.open_, hlate.open_⟩

theorem Preparing.of_error {e : UpsertError}
    (h : Preparing o past (.error e : Except UpsertError α) late) :
    Preparing o past (.error e : Except UpsertError β) late where
  ruled before x after heq := (h.ruled before x after heq).of_error
  open_ := h.open_

/-- Every course of a step keeps the rule, and commits nothing. -/
def Prepares (o : Observation) (past : List Turn) (x : Step α) : Prop :=
  ∀ t r, Goes x t r → Preparing o past r t

theorem prepares_pure (a : α) : Prepares o past (pure a) := by
  intro t r h
  obtain ⟨rfl, -⟩ := goes_pure h
  exact preparing_nil

theorem prepares_throw (e : UpsertError) : Prepares o past (throw e : Step α) := by
  rintro t r ⟨rfl, -⟩
  exact preparing_nil

theorem prepares_found (entity : Entity) (key : String) (row : Option α) :
    Prepares o past (found entity key row) := by
  cases row with
  | some a => exact prepares_pure a
  | none => exact prepares_throw _

theorem prepares_bind {x : Step α} {f : α → Step β} (hx : Prepares o past x)
    (hf : ∀ a early, Prepares o (past ++ early) (f a)) : Prepares o past (x >>= f) := by
  intro t r h
  rcases goes_bind h with ⟨e, rfl, hxt⟩ | ⟨a, early, late, rfl, hearly, hlate⟩
  · exact (hx _ _ hxt).of_error
  · exact (hx _ _ hearly).append (hf a early _ _ hlate)

theorem prepares_map {x : Step α} {f : α → β} (hx : Prepares o past x) :
    Prepares o past (f <$> x) := by
  intro t r h
  rcases goes_map h with ⟨e, rfl, hxt⟩ | ⟨a, rfl, hxt⟩
  · exact (hx _ _ hxt).of_error
  · simpa using (hx _ _ hxt).append (preparing_nil (r := .ok (f a)))

theorem not_forgiven {e : StoreError} (h : secondLook? c = none) : ¬Forgiven c e := by
  cases c with
  | createPeriod d => exact nomatch h
  | createTeam d => exact nomatch h
  | _ => exact id

/-- The second look is a plain lookup. -/
theorem secondLook?_plain (h : secondLook? c = some (look, missing)) :
    secondLook? look = none ∧ (∀ d, look ≠ .createTeamName d) ∧ look ≠ .commit := by
  cases c with
  | createPeriod d =>
    cases h
    exact ⟨rfl, nofun, nofun⟩
  | createTeam d =>
    cases h
    exact ⟨rfl, nofun, nofun⟩
  | createEvent d =>
    cases h
    exact ⟨rfl, nofun, nofun⟩
  | _ => exact nomatch h

theorem prepares_call (hlook : secondLook? c = none) (hname : ∀ d, c ≠ .createTeamName d)
    (hopen : c ≠ .commit) : Prepares o past (call c) := by
  intro t r h
  rcases goes_call h with ⟨a, rfl, rfl⟩ | ⟨e, rfl, rfl⟩
  · exact .cons (rule_ok hlook hname) hopen preparing_nil
  · exact .cons (rule_error (not_forgiven hlook) hname) hopen preparing_nil

theorem secondLook?_open (h : secondLook? c = some (look, missing)) : c ≠ .commit := by
  rintro rfl
  exact nomatch h

/-- A creation that goes on, and what follows it. -/
theorem preparing_again {reply : Except StoreError c.Reply} {f : look.Reply → Step α}
    (hlook : secondLook? c = some (look, missing))
    (hfree : ∀ e, reply = .error e → Forgiven c e)
    (habsent : ∀ absent, look.absentReply? = some absent → f absent = throw missing)
    (hnamed : ∀ d row a rest r, c = .createTeam d → (∃ b, reply = .ok b) →
      (⟨look, .ok a⟩ : Turn) = ⟨.team d.externalId d.ecosystem, .ok (some row)⟩ →
        Goes (f a) rest r → ∃ t ecosystem reply rest', Plays o t ecosystem ∧
          d = teamDraft t ecosystem ∧
            rest = ⟨.createTeamName (teamNameDraft t row.guid o.identity.language), reply⟩ :: rest')
    (hf : ∀ a, Prepares o (past ++ [⟨c, reply⟩, ⟨look, .ok a⟩]) (f a))
    (h : Goes (call look >>= f) late r) : Preparing o past r (⟨c, reply⟩ :: late) := by
  obtain ⟨hplain, hname, hopen⟩ := secondLook?_plain hlook
  rcases goes_call_bind h with ⟨e, rfl, rfl⟩ | ⟨a, rest, rfl, hrest⟩
  · refine .cons (rule_created hlook hfree nofun ?_) (secondLook?_open hlook) ?_
    · intro d row _ _ hturn
      cases hturn
    · exact .cons (rule_error (not_forgiven hplain) hname) hopen preparing_nil
  · refine .cons (rule_created hlook hfree ?_ ?_) (secondLook?_open hlook) ?_
    · intro absent ha hreply
      cases hreply
      rw [habsent _ ha] at hrest
      exact hrest
    · intro d row hc hreply hturn
      exact hnamed d row a rest r hc hreply hturn hrest
    · refine .cons (rule_ok hplain hname) hopen ?_
      rw [List.append_assoc]
      exact hf a rest r hrest

/-- A creation of a period or of a team, which a duplicate does not end. -/
theorem prepares_create {c look : Call} {missing : UpsertError} {f : Bool → look.Reply → Step α}
    (hforgiven : ∀ e, Forgiven c e ↔ e.isDuplicate = true)
    (hlook : secondLook? c = some (look, missing))
    (habsent : ∀ made absent, look.absentReply? = some absent → f made absent = throw missing)
    (hnamed : ∀ d row a rest r, c = .createTeam d →
      (⟨look, .ok a⟩ : Turn) = ⟨.team d.externalId d.ecosystem, .ok (some row)⟩ →
        Goes (f true a) rest r → ∃ t ecosystem reply rest', Plays o t ecosystem ∧
          d = teamDraft t ecosystem ∧
            rest = ⟨.createTeamName (teamNameDraft t row.guid o.identity.language), reply⟩ :: rest')
    (hmade : ∀ b a, Prepares o (past ++ [⟨c, .ok b⟩, ⟨look, .ok a⟩]) (f true a))
    (hrival : ∀ e a, Prepares o (past ++ [⟨c, .error e⟩, ⟨look, .ok a⟩]) (f false a)) :
    Prepares o past (create c >>= fun made => call look >>= f made) := by
  intro t r h
  rcases goes_bind h with ⟨e, rfl, hc⟩ | ⟨made, early, late, rfl, hc, hlate⟩
  · rcases goes_create hc with ⟨a, -, hr⟩ | ⟨e', -, -, hr⟩ | ⟨e', rfl, hd, hr⟩
    · exact nomatch hr
    · exact nomatch hr
    · cases hr
      refine .cons (rule_error ?_ ?_) (secondLook?_open hlook) preparing_nil
      · rw [hforgiven, hd]
        exact Bool.false_ne_true
      · rintro d rfl
        exact nomatch hlook
  · rcases goes_create hc with ⟨b, rfl, hr⟩ | ⟨e, rfl, hd, hr⟩ | ⟨e, -, -, hr⟩
    · cases hr
      exact preparing_again hlook nofun (habsent true)
        (fun d row a rest r hcall _ => hnamed d row a rest r hcall) (hmade b) hlate
    · cases hr
      refine preparing_again hlook ?_ (habsent false) ?_ (hrival e) hlate
      · intro e' he
        cases he
        exact (hforgiven e).mpr hd
      · rintro _ _ _ _ _ - ⟨b, hb⟩
        exact nomatch hb
    · exact nomatch hr

theorem prepares_period (spec : PeriodSpec) : Prepares o past (period spec) := by
  refine prepares_bind (prepares_call rfl nofun nofun) fun row early => ?_
  cases row with
  | some row => exact prepares_pure row
  | none =>
    refine prepares_create (fun e => Iff.rfl) rfl ?_ nofun
      (fun _ row => prepares_found _ _ row) (fun _ row => prepares_found _ _ row)
    intro made absent ha
    cases ha
    rfl

theorem prepares_name {t : TeamRef} {ecosystem : Guid} (hplays : Plays o t ecosystem)
    (row : Team) : Prepares o (past ++ teamMade t ecosystem row)
      (call (.createTeamName (teamNameDraft t row.guid o.identity.language))) := by
  have hrule : ∀ (reply : Except StoreError Unit) (r : Except UpsertError Unit),
      (∀ e, reply = .error e → r = .error (.store e)) →
        Rule o r (past ++ teamMade t ecosystem row)
          ⟨.createTeamName (teamNameDraft t row.guid o.identity.language), reply⟩ [] := by
    intro reply r hr
    constructor
    · exact fun e he _ => ⟨rfl, hr e he⟩
    · rintro look missing ⟨⟩
    · intro d row rest h
      cases h
    · intro d hd
      cases hd
      exact ⟨t, ecosystem, row, past, hplays, rfl, rfl⟩
  intro rest r h
  rcases goes_call h with ⟨a, rfl, rfl⟩ | ⟨e, rfl, rfl⟩
  · exact .cons (hrule _ _ nofun) nofun preparing_nil
  · refine .cons (hrule _ _ ?_) nofun preparing_nil
    intro e' he
    cases he
    rfl

theorem prepares_team {t : TeamRef} {ecosystem : Guid} (hplays : Plays o t ecosystem) :
    Prepares o past (team t ecosystem o.identity.language) := by
  refine prepares_bind (prepares_call rfl nofun nofun) fun row early => ?_
  cases row with
  | some row => exact prepares_pure row
  | none =>
    refine prepares_create (fun e => Iff.rfl) rfl ?_ ?_ ?_ ?_
    · intro made absent ha
      cases ha
      rfl
    · intro d row a rest r hd hturn hrest
      cases hd
      cases hturn
      have hgoes : Goes (call (.createTeamName (teamNameDraft t row.guid o.identity.language)) >>=
          fun _ => pure row) rest r := hrest
      rcases goes_call_bind hgoes with ⟨e, rfl, -⟩ | ⟨b, rest', rfl, -⟩
      · exact ⟨t, ecosystem, _, _, hplays, rfl, rfl⟩
      · exact ⟨t, ecosystem, _, _, hplays, rfl, rfl⟩
    · intro b row
      cases row with
      | none => exact prepares_throw _
      | some row =>
        have h : Prepares o (past ++ early ++ teamMade t ecosystem row)
            (call (.createTeamName (teamNameDraft t row.guid o.identity.language)) >>=
              fun _ => pure row) :=
          prepares_bind (prepares_name hplays row) fun _ _ => prepares_pure row
        exact h
    · intro e row
      cases row with
      | none => exact prepares_throw _
      | some row => exact prepares_pure row

theorem prepares_teams {pair : TeamPair} (hteams : o.teams = some pair) :
    Prepares o past (teams pair o.identity.language) :=
  prepares_bind (prepares_team ⟨pair, hteams, rfl, Or.inl rfl⟩) fun _ _ =>
    prepares_bind (prepares_team ⟨pair, hteams, rfl, Or.inr rfl⟩) fun _ _ => prepares_pure _

theorem prepares_players : Prepares o past (players o) := by
  unfold players
  cases hteams : o.teams with
  | some pair => exact prepares_map (prepares_teams hteams)
  | none => exact prepares_pure none

theorem prepares_event (period : Guid) (teams : Option (Team × Team)) :
    Prepares o past (event o period teams) := by
  refine prepares_bind (prepares_call rfl nofun nofun) fun row early => ?_
  cases row with
  | some row =>
    exact prepares_bind (prepares_call rfl nofun nofun) fun _ _ => prepares_pure _
  | none =>
    intro t r h
    rcases goes_call_bind h with ⟨e, rfl, rfl⟩ | ⟨_, rest, rfl, hrest⟩
    · refine .cons (rule_error ?_ ?_) ?_ preparing_nil
      · exact False.elim
      · rintro d ⟨⟩
      · rintro ⟨⟩
    · refine preparing_again rfl nofun ?_ ?_ ?_ hrest
      · intro absent ha
        cases ha
        rfl
      · rintro _ _ _ _ _ ⟨⟩
      · intro row
        exact prepares_bind (prepares_found _ _ row) fun _ _ => prepares_pure _

theorem prepares_title (event : Guid) : Prepares o past (title o event) := by
  refine prepares_bind (prepares_call rfl nofun nofun) fun row early => ?_
  cases row with
  | some row =>
    by_cases htitle : row.title ≠ o.title
    · simp only [if_pos htitle]
      exact prepares_call rfl nofun nofun
    · simp only [if_neg htitle]
      exact prepares_pure ()
  | none => exact prepares_call rfl nofun nofun

/-! ## Turns of the steps that succeed -/

theorem goes_period {spec : PeriodSpec} {t : List Turn} {row : Period}
    (h : Goes (period spec) t (.ok row)) : PeriodFound spec t row := by
  obtain ⟨first, rest, rfl, hrest⟩ := goes_call_bind_ok h
  cases first with
  | some row' =>
    obtain ⟨rfl, hr⟩ := goes_pure hrest
    cases hr
    exact .there row
  | none =>
    obtain ⟨made, early, late, rfl, hc, hlate⟩ := goes_bind_ok hrest
    obtain ⟨again, rest, rfl, hagain⟩ := goes_call_bind_ok hlate
    obtain ⟨rfl, rfl⟩ := goes_found_ok hagain
    rcases goes_create hc with ⟨_, rfl, -⟩ | ⟨e, rfl, hd, -⟩ | ⟨e, -, -, hr⟩
    · exact .made _ row nofun
    · refine .made _ row ?_
      rintro e' ⟨⟩
      exact hd
    · exact nomatch hr

theorem goes_team {t : TeamRef} {ecosystem language : Guid} {turns : List Turn} {row : Team}
    (h : Goes (team t ecosystem language) turns (.ok row)) :
    TeamFound t ecosystem language turns row := by
  obtain ⟨first, rest, rfl, hrest⟩ := goes_call_bind_ok h
  cases first with
  | some row' =>
    obtain ⟨rfl, hr⟩ := goes_pure hrest
    cases hr
    exact .there row
  | none =>
    obtain ⟨made, early, late, rfl, hc, hlate⟩ := goes_bind_ok hrest
    obtain ⟨again, rest, rfl, hagain⟩ := goes_call_bind_ok hlate
    obtain ⟨row', found, late, rfl, hfound, hnamed⟩ := goes_bind_ok hagain
    obtain ⟨rfl, rfl⟩ := goes_found_ok hfound
    rcases goes_create hc with ⟨_, rfl, hr⟩ | ⟨e, rfl, hd, hr⟩ | ⟨e, -, -, hr⟩
    · cases hr
      have hname : Goes (call (.createTeamName (teamNameDraft t row'.guid language)) >>=
          fun _ => pure row') late (.ok row) := hnamed
      obtain ⟨_, rest, rfl, hdone⟩ := goes_call_bind_ok hname
      obtain ⟨rfl, hr⟩ := goes_pure hdone
      cases hr
      exact .made row
    · cases hr
      obtain ⟨rfl, hr⟩ := goes_pure hnamed
      cases hr
      exact .second e row hd
    · exact nomatch hr

theorem goes_players {turns : List Turn} {found : Option (Team × Team)}
    (h : Goes (players o) turns (.ok found)) : PlayersFound o turns found := by
  unfold players at h
  cases hteams : o.teams with
  | none =>
    rw [hteams] at h
    obtain ⟨rfl, hr⟩ := goes_pure h
    cases hr
    exact .nobody hteams
  | some pair =>
    rw [hteams] at h
    rcases goes_map h with ⟨e, hr, -⟩ | ⟨both, hr, hboth⟩
    · exact nomatch hr
    cases hr
    obtain ⟨home, first, rest, rfl, hhome, hrest⟩ := goes_bind_ok hboth
    obtain ⟨away, second, rest, rfl, haway, hdone⟩ := goes_bind_ok hrest
    obtain ⟨rfl, hr⟩ := goes_pure hdone
    cases hr
    rw [List.append_nil]
    exact .both hteams (goes_team hhome) (goes_team haway)

theorem goes_event {period : Guid} {teams : Option (Team × Team)} {turns : List Turn}
    {outcome : Outcome} (h : Goes (event o period teams) turns (.ok outcome)) :
    EventWritten o period teams turns outcome := by
  obtain ⟨first, rest, rfl, hrest⟩ := goes_call_bind_ok h
  cases first with
  | some row =>
    obtain ⟨_, rest, rfl, hdone⟩ := goes_call_bind_ok hrest
    obtain ⟨rfl, hr⟩ := goes_pure hdone
    cases hr
    exact .updated row
  | none =>
    obtain ⟨_, rest, rfl, hlate⟩ := goes_call_bind_ok hrest
    obtain ⟨again, rest, rfl, hagain⟩ := goes_call_bind_ok hlate
    obtain ⟨row, found, late, rfl, hfound, hdone⟩ := goes_bind_ok hagain
    obtain ⟨rfl, rfl⟩ := goes_found_ok hfound
    obtain ⟨rfl, hr⟩ := goes_pure hdone
    cases hr
    exact .created row

theorem goes_title {event : Guid} {turns : List Turn} (h : Goes (title o event) turns (.ok ())) :
    TitleWritten o event turns := by
  obtain ⟨first, rest, rfl, hrest⟩ := goes_call_bind_ok h
  cases first with
  | some row =>
    by_cases htitle : row.title ≠ o.title
    · simp only [if_pos htitle] at hrest
      rcases goes_call hrest with ⟨_, rfl, -⟩ | ⟨e, -, hr⟩
      · exact .changed row htitle
      · exact nomatch hr
    · simp only [if_neg htitle] at hrest
      obtain ⟨rfl, -⟩ := goes_pure hrest
      exact .kept row (not_not.mp htitle)
  | none =>
    rcases goes_call hrest with ⟨_, rfl, -⟩ | ⟨e, -, hr⟩
    · exact .created
    · exact nomatch hr

/-! ## Whole upserts -/

theorem goes_prepare {turns : List Turn} {outcome : Outcome}
    (h : Goes (prepare o) turns (.ok outcome)) : Prepared o turns outcome := by
  obtain ⟨_, rest, rfl, hrest⟩ := goes_call_bind_ok h
  obtain ⟨period, found, rest, rfl, hperiod, hrest⟩ := goes_bind_ok hrest
  obtain ⟨teams, players, rest, rfl, hplayers, hrest⟩ := goes_bind_ok hrest
  obtain ⟨outcome', written, rest, rfl, hevent, hrest⟩ := goes_bind_ok hrest
  obtain ⟨_, titled, rest, rfl, htitle, hdone⟩ := goes_bind_ok hrest
  obtain ⟨rfl, hr⟩ := goes_pure hdone
  cases hr
  have hall := Prepared.all (goes_period hperiod) (goes_players hplayers) (goes_event hevent)
    (goes_title htitle)
  rwa [List.append_nil, ← List.append_assoc, ← List.append_assoc]

theorem prepares_prepare : Prepares o past (prepare o) :=
  prepares_bind (prepares_call rfl nofun nofun) fun _ _ =>
    prepares_bind (prepares_period o.period) fun period _ =>
      prepares_bind prepares_players fun teams _ =>
        prepares_bind (prepares_event period.guid teams) fun outcome _ =>
          prepares_bind (prepares_title outcome.guid) fun _ _ => prepares_pure outcome

theorem Preparing.commit_notMem {reply : Except StoreError Unit}
    (h : Preparing o past r before) : ⟨.commit, reply⟩ ∉ before :=
  fun hmem => h.open_ _ hmem rfl

/-- The only commit is the last turn. -/
theorem Preparing.eq_of_commit {reply reply' : Except StoreError Unit}
    (h : Preparing o past r early)
    (heq : early ++ [⟨.commit, reply⟩] = before ++ ⟨.commit, reply'⟩ :: after) :
    before = early ∧ reply' = reply ∧ after = [] := by
  rcases List.append_eq_append_iff.mp heq with ⟨mid, rfl, hmid⟩ | ⟨mid, hmid, hlater⟩
  · cases mid with
    | nil =>
      cases hmid
      exact ⟨List.append_nil _, rfl, rfl⟩
    | cons y mid => exact nomatch (List.append_eq_nil_iff.mp (List.cons.inj hmid).2.symm).2
  · cases mid with
    | nil =>
      rw [List.append_nil] at hmid
      cases hlater
      exact ⟨hmid.symm, rfl, rfl⟩
    | cons y mid =>
      obtain ⟨rfl, -⟩ := List.cons.inj hlater
      rw [hmid] at h
      exact absurd List.mem_append_cons_self h.commit_notMem

theorem goes_steps {turns : List Turn} {r : Except UpsertError Outcome}
    (h : Goes (steps o) turns r) : Protocol o r turns := by
  rw [steps_eq] at h
  rcases goes_bind h with ⟨e, rfl, hprepare⟩ | ⟨outcome, early, late, rfl, hprepare, hlate⟩
  · have hall : Preparing o [] (.error e : Except UpsertError Outcome) turns :=
      prepares_prepare turns _ hprepare
    refine ⟨hall.ruled, ?_, ?_⟩
    · rintro before reply after rfl
      exact absurd List.mem_append_cons_self hall.commit_notMem
    · exact ⟨nofun, fun hmem => absurd hmem hall.commit_notMem⟩
  · have hall : Preparing o [] (.ok outcome : Except UpsertError Outcome) early :=
      prepares_prepare early _ hprepare
    have hprepared := goes_prepare hprepare
    rcases goes_call_bind hlate with ⟨e, rfl, rfl⟩ | ⟨_, rest, rfl, hdone⟩
    · refine ⟨hall.ruled.append (.cons (rule_error (not_forgiven rfl) nofun) ruled_nil), ?_, ?_⟩
      · intro before reply after heq
        obtain ⟨rfl, rfl, rfl⟩ := hall.eq_of_commit heq
        exact ⟨rfl, outcome, hprepared, nofun⟩
      · refine ⟨nofun, fun hmem => ?_⟩
        rcases List.mem_append.mp hmem with hearly | hlast
        · exact absurd hearly hall.commit_notMem
        · cases List.mem_singleton.mp hlast
    · obtain ⟨rfl, rfl⟩ := goes_pure hdone
      refine ⟨hall.ruled.append (.cons (rule_ok rfl nofun) ruled_nil), ?_, ?_⟩
      · intro before reply after heq
        obtain ⟨rfl, -, rfl⟩ := hall.eq_of_commit heq
        exact ⟨rfl, outcome, hprepared, fun _ => rfl⟩
      · exact ⟨fun _ => List.mem_append_right _ List.mem_cons_self, fun _ => ⟨outcome, rfl⟩⟩

/-- Whatever the store replies to each call, the upsert of an observation keeps its protocol. -/
theorem calls_follow_protocol (o : Observation) (store : Store.Replies) :
    Protocol o (Store.Program.turns store [] (program o)).2
      (Store.Program.turns store [] (program o)).1 :=
  goes_steps (Store.Program.leads_turns store [] (program o))

end LiveEvents.Upsert
