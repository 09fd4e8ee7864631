import LiveEvents.Proofs.ConcurrentUpserts
import LiveEvents.Proofs.SerialUpserts
import Mathlib.Data.List.Induction

/-!
# Columns that go stale

An update stages the whole row of its event: the row that is committed when the call is made, with
the columns of the patch changed. The commit puts that row back, so a column that the observation
says nothing about keeps the value it had at the update call, not the value it has at the commit.
The two are the same unless another upsert has changed the column in between, and then its change
is undone.
-/

namespace LiveEvents.Upsert

open Store (Call Memory Mint Table Tables)

/-- The columns that an observation says nothing about are the same in two rows. -/
structure Leaves (o : Observation) (e e' : Event) : Prop where
  online : o.online = none → e'.isOnline = e.isOnline
  home : o.teams = none → e'.homeTeam = e.homeTeam
  away : o.teams = none → e'.awayTeam = e.awayTeam

theorem leaves_apply {o : Observation} {period : Guid} {teams : Option (Team × Team)}
    (hteams : o.teams = none → teams = none) (e : Event) :
    Leaves o e ((patch o period teams).apply e) where
  online h := by
    change o.online.getD e.isOnline = e.isOnline
    rw [h, Option.getD_none]
  home h := by
    rw [hteams h]
    rfl
  away h := by
    rw [hteams h]
    rfl

/-- Rows that leave the same columns as they are do so among themselves. -/
theorem Leaves.congr {o : Observation} {e e' : Event} (h : Leaves o e e') (e₁ : Event) :
    Leaves o e₁ e' ↔ Leaves o e₁ e := by
  constructor
  · intro h₁
    exact ⟨fun ho => (h.online ho).symm.trans (h₁.online ho),
      fun ht => (h.home ht).symm.trans (h₁.home ht), fun ht => (h.away ht).symm.trans (h₁.away ht)⟩
  · intro h₁
    exact ⟨fun ho => (h.online ho).trans (h₁.online ho), fun ht => (h.home ht).trans (h₁.home ht),
      fun ht => (h.away ht).trans (h₁.away ht)⟩

/-! ## What an upsert has staged of its event -/

/-- The staged rows of a transaction, its last call with what was committed before and after it,
and the event it has updated with what was committed at the update. -/
structure Track where
  staged : Tables := {}
  last : Option (Call × Tables × Tables) := none
  updated : Option (Guid × Tables) := none

/-- What is known of the update after a call. -/
def noted (c : Call) (committed : Tables) (updated : Option (Guid × Tables)) :
    Option (Guid × Tables) :=
  match c with
  | .updateEvent g _ => some (g, committed)
  | _ => updated

/-- Each call finds any store whatever. -/
def tracked (mint : Mint) : StoreSetting Track where
  ready _ _ := True
  moves c s r s' := ∃ m m' : Memory, m.perform mint s.staged c = (r, m', s'.staged) ∧
    s'.last = some (c, m.committed, m'.committed) ∧ s'.updated = noted c m.committed s.updated

/-- An upsert that has updated its event has staged the row that was committed then, with its
patch applied. -/
def Stages (o : Observation) (outcome : Outcome) (s : Track) : Prop :=
  ∀ g, outcome = .updated g → ∃ t e period teams, s.updated = some (g, t) ∧
    t.events.get? g = some e ∧ (o.teams = none → teams = none) ∧
      s.staged.events = [(g, (patch o period teams).apply e)]

/-- An upsert that has ended with an update has committed that row. -/
def Overwrites (o : Observation) (r : Except UpsertError Outcome) (s : Track) : Prop :=
  ∀ g, r = .ok (.updated g) → ∃ t e period teams before after, s.updated = some (g, t) ∧
    t.events.get? g = some e ∧ (o.teams = none → teams = none) ∧
      s.last = some (.commit, before, after) ∧
        after.events = before.events.put g ((patch o period teams).apply e)

variable {mint : Mint} {α : Type} {o : Observation} {s s' : Track}

/-- Calls that leave the staged events as they are. -/
def Plain : Call → Prop
  | .begin | .createEvent _ | .updateEvent _ _ | .commit => False
  | _ => True

theorem perform_plain_events (mint : Mint) (m : Memory) (staged : Tables) {c : Call}
    (hc : Plain c) : (m.perform mint staged c).2.2.events = staged.events := by
  cases c with
  | begin | createEvent _ | updateEvent _ _ | commit => exact hc.elim
  | periodByCode _ | eventByExternalId _ | title _ _ | team _ _ => rfl
  | createPeriod d | createTitle d | createTeam d | createTeamName d =>
    simp only [Memory.perform]
    split <;> rfl
  | updateTitle g t =>
    simp only [Memory.perform]
    split <;> rfl

theorem plain_found {P : Track → Prop} (entity : Store.Entity) (key : String) (row : Option α)
    (hs : P s) : Ends (tracked mint) (fun _ _ => True) (fun _ => P) (found entity key row) s := by
  cases row with
  | some row => exact ends_pure hs
  | none => exact ends_throw trivial

section Plain

variable {P : Track → Prop}
  (hP : ∀ s s' : Track, s'.staged.events = s.staged.events → s'.updated = s.updated → P s → P s')
include hP

theorem plain_moves {c : Call} {r : Except Store.StoreError c.Reply} (hc : Plain c)
    (hs : P s) (h : (tracked mint).moves c s r s') : P s' := by
  obtain ⟨m, m', hp, -, hupdated⟩ := h
  have hevents := perform_plain_events mint m s.staged hc
  rw [hp] at hevents
  refine hP s s' hevents ?_ hs
  rw [hupdated]
  cases c with
  | updateEvent _ _ => exact hc.elim
  | _ => rfl

theorem plain_call {c : Call} (hc : Plain c) (hs : P s) :
    Ends (tracked mint) (fun _ _ => True) (fun _ => P) (call c) s :=
  ends_call trivial (fun _ _ hm => plain_moves hP hc hs hm) fun _ _ _ => trivial

theorem plain_create {c : Call} (hc : Plain c) (hs : P s) :
    Ends (tracked mint) (fun _ _ => True) (fun _ => P) (create c) s :=
  ends_create trivial (fun _ _ hm => plain_moves hP hc hs hm)
    (fun _ _ hm _ => plain_moves hP hc hs hm) fun _ _ _ _ => trivial

theorem plain_period (spec : PeriodSpec) (hs : P s) :
    Ends (tracked mint) (fun _ _ => True) (fun _ => P) (period spec) s := by
  refine ends_bind (.imp (plain_call hP trivial hs) fun row s₁ hs₁ => ?_)
  cases row with
  | some row => exact ends_pure hs₁
  | none =>
    refine ends_bind (.imp (plain_create hP trivial hs₁) fun _ s₂ hs₂ => ?_)
    exact ends_bind (.imp (plain_call hP trivial hs₂) fun row s₃ hs₃ => plain_found _ _ row hs₃)

theorem plain_team (t : TeamRef) (ecosystem language : Guid) (hs : P s) :
    Ends (tracked mint) (fun _ _ => True) (fun _ => P) (team t ecosystem language) s := by
  refine ends_bind (.imp (plain_call hP trivial hs) fun row s₁ hs₁ => ?_)
  cases row with
  | some row => exact ends_pure hs₁
  | none =>
    refine ends_bind (.imp (plain_create hP trivial hs₁) fun made s₂ hs₂ => ?_)
    refine ends_bind (.imp (plain_call hP trivial hs₂) fun again s₃ hs₃ => ?_)
    refine ends_bind (.imp (plain_found _ _ again hs₃) fun row s₄ hs₄ => ?_)
    cases made with
    | true => exact ends_bind (.imp (plain_call hP trivial hs₄) fun _ _ hs₅ => ends_pure hs₅)
    | false => exact ends_pure hs₄

theorem plain_teams (pair : TeamPair) (language : Guid) (hs : P s) :
    Ends (tracked mint) (fun _ _ => True) (fun _ => P) (teams pair language) s := by
  refine ends_bind (.imp (plain_team hP _ _ _ hs) fun _ _ hs₁ => ?_)
  exact ends_bind (.imp (plain_team hP _ _ _ hs₁) fun _ _ hs₂ => ends_pure hs₂)

theorem plain_title (event : Guid) (hs : P s) :
    Ends (tracked mint) (fun _ _ => True) (fun _ => P) (title o event) s := by
  refine ends_bind (.imp (plain_call hP trivial hs) fun row s₁ hs₁ => ?_)
  cases row with
  | some row =>
    by_cases htitle : row.title ≠ o.title
    · simp only [if_pos htitle]
      exact plain_call hP trivial hs₁
    · simp only [if_neg htitle]
      exact ends_pure hs₁
  | none => exact plain_call hP trivial hs₁

end Plain

/-! ## What an upsert commits of its event -/

theorem plain_players {P : Track → Prop} (hP : ∀ s s' : Track,
    s'.staged.events = s.staged.events → s'.updated = s.updated → P s → P s') (hs : P s) :
    Ends (tracked mint) (fun _ _ => True) (fun teams s' => P s' ∧ (o.teams = none → teams = none))
      (players o) s := by
  unfold players
  cases o.teams with
  | some pair => exact ends_map (.imp (plain_teams hP pair _ hs) fun _ _ h => ⟨h, nofun⟩)
  | none => exact ends_pure ⟨hs, fun _ => rfl⟩

theorem stages_event (period : Guid) (teams : Option (Team × Team))
    (hteams : o.teams = none → teams = none) (hs : s.staged.events = []) :
    Ends (tracked mint) (fun _ _ => True) (Stages o) (event o period teams) s := by
  have hkeep : ∀ s s' : Track, s'.staged.events = s.staged.events → s'.updated = s.updated →
      s.staged.events = [] → s'.staged.events = [] := fun _ _ he _ h => he.trans h
  refine ends_bind (.imp (plain_call hkeep trivial hs) fun row s₁ hs₁ => ?_)
  cases row with
  | some row =>
    refine ends_bind (ends_call trivial (fun _ s₂ hm => ends_pure ?_) fun _ _ _ => trivial)
    rintro g ⟨⟩
    obtain ⟨m, m', hp, -, hupdated⟩ := hm
    have hseen : Table.findGuid? s₁.staged.events m.committed.events row.guid =
        m.committed.events.get? row.guid := by
      rw [hs₁]
      rfl
    simp only [Memory.perform, hseen] at hp
    cases he : m.committed.events.get? row.guid with
    | none =>
      rw [he] at hp
      cases (congrArg Prod.fst hp)
    | some e =>
      rw [he] at hp
      have hstaged := congrArg (·.2.2.events) hp
      refine ⟨m.committed, e, period, teams, hupdated, he, hteams, ?_⟩
      rw [← hstaged, hs₁]
      rfl
  | none =>
    refine ends_bind (ends_call trivial (fun _ s₂ _ => ?_) fun _ _ _ => trivial)
    refine ends_bind (ends_call trivial (fun again s₃ _ => ?_) fun _ _ _ => trivial)
    refine ends_bind (.imp (plain_found (P := fun _ => True) _ _ again trivial) fun _ _ _ => ?_)
    refine ends_pure ?_
    rintro g ⟨⟩

theorem stages_prepare : Ends (tracked mint) (fun _ _ => True) (Stages o) (prepare o) s := by
  have hkeep : ∀ s s' : Track, s'.staged.events = s.staged.events → s'.updated = s.updated →
      s.staged.events = [] → s'.staged.events = [] := fun _ _ he _ h => he.trans h
  refine ends_bind (ends_call trivial (fun _ s₁ hm => ?_) fun _ _ _ => trivial)
  have hs₁ : s₁.staged.events = [] := by
    obtain ⟨m, m', hp, -⟩ := hm
    exact (congrArg (·.2.2.events) hp).symm
  refine ends_bind (.imp (plain_period hkeep _ hs₁) fun period s₂ hs₂ => ?_)
  refine ends_bind (.imp (plain_players hkeep hs₂) fun teams s₃ hs₃ => ?_)
  refine ends_bind (.imp (stages_event _ _ hs₃.2 hs₃.1) fun outcome s₄ hs₄ => ?_)
  refine ends_bind (.imp (plain_title (P := Stages o outcome) ?_ _ hs₄) fun _ s₅ hs₅ => ?_)
  · intro s s' he hu h g hg
    obtain ⟨t, e, period, teams, hupdated, hget, hnone, hstaged⟩ := h g hg
    exact ⟨t, e, period, teams, hu.trans hupdated, hget, hnone, he.trans hstaged⟩
  · exact ends_pure hs₅

theorem overwrites_program (o : Observation) (s : Track) :
    (program o).Always (tracked mint) (Overwrites o) s := by
  have hsteps : Ends (tracked mint) (fun _ _ => True) (fun outcome => Overwrites o (.ok outcome))
      (steps o) s := by
    rw [steps_eq]
    refine ends_bind (.imp stages_prepare fun outcome s₁ hs₁ => ?_)
    refine ends_bind (ends_call trivial (fun _ s₂ hm => ends_pure ?_) fun _ _ _ => trivial)
    rintro g ⟨⟩
    obtain ⟨t, e, period, teams, hupdated, hget, hnone, hstaged⟩ := hs₁ g rfl
    obtain ⟨m, m', hp, hlast, hnoted⟩ := hm
    refine ⟨t, e, period, teams, m.committed, m'.committed, hnoted.trans hupdated, hget, hnone,
      hlast, ?_⟩
    cases hc : s₁.staged.conflict? m.committed with
    | some err =>
      rw [Memory.perform_commit_of_conflict mint hc] at hp
      cases (congrArg Prod.fst hp)
    | none =>
      rw [Memory.perform_commit_of_free mint hc] at hp
      rw [← congrArg (·.2.1.committed.events) hp]
      change m.committed.events.putAll s₁.staged.events = _
      rw [hstaged]
      rfl
  refine Program.Always.imp ?_ hsteps
  intro r s' hr
  cases r with
  | ok outcome => exact hr
  | error e => exact nofun

/-! ## Every update of a race -/

namespace Race

variable {m : Memory} {moves : List Move}

/-- A move at which an upsert made its update call, and what was committed then. -/
def UpdatedAt (mint : Mint) (m : Memory) (moves : List Move) (i : ℕ) (g : Guid) (t : Tables) :
    Prop :=
  ∃ past later w patch next, moves = past ++ .advance i :: later ∧
    (Race.from mint m past).writers[i]? = some w ∧ w.rest = .ask (.updateEvent g patch) next ∧
      (Race.from mint m past).memory.committed = t

theorem UpdatedAt.snoc {i : ℕ} {g : Guid} {t : Tables} (h : UpdatedAt mint m moves i g t)
    (move : Move) : UpdatedAt mint m (moves ++ [move]) i g t := by
  obtain ⟨past, later, w, patch, next, rfl, hw, hrest, ht⟩ := h
  exact ⟨past, later ++ [move], w, patch, next, by rw [List.append_assoc]; rfl, hw, hrest, ht⟩

/-- What is known of an upsert and of its update. -/
def Tracks (mint : Mint) (m : Memory) (moves : List Move) (i : ℕ) (w : Writer) : Prop :=
  ∃ s : Track, s.staged = w.staged ∧
    (∀ g t, s.updated = some (g, t) → UpdatedAt mint m moves i g t) ∧
      w.rest.Always (tracked mint) (Overwrites w.observation) s

theorem Tracks.snoc {i : ℕ} {w : Writer} (h : Tracks mint m moves i w) (move : Move) :
    Tracks mint m (moves ++ [move]) i w := by
  obtain ⟨s, hstaged, hupdated, hrest⟩ := h
  exact ⟨s, hstaged, fun g t hg => (hupdated g t hg).snoc move, hrest⟩

/-- The call of an upsert as a step of what is known of it. -/
theorem tracked_advance {i : ℕ} {w : Writer} (h : Tracks mint m moves i w)
    (hi : (Race.from mint m moves).writers[i]? = some w) {c : Call}
    {next : Except Store.StoreError c.Reply → Store.Program (Except UpsertError Outcome)}
    (hrest : w.rest = .ask c next) :
    ∃ s : Track,
      s.staged = ((Race.from mint m moves).memory.perform mint w.staged c).2.2 ∧
      s.last = some (c, (Race.from mint m moves).memory.committed,
        ((Race.from mint m moves).memory.perform mint w.staged c).2.1.committed) ∧
      (∀ g t, s.updated = some (g, t) → c = .commit → UpdatedAt mint m moves i g t) ∧
      (∀ g t, s.updated = some (g, t) → UpdatedAt mint m (moves ++ [.advance i]) i g t) ∧
      (next ((Race.from mint m moves).memory.perform mint w.staged c).1).Always (tracked mint)
        (Overwrites w.observation) s := by
  obtain ⟨s, hstaged, hupdated, halways⟩ := h
  rw [hrest] at halways
  generalize hm : (Race.from mint m moves).memory = now
  refine ⟨{ staged := (now.perform mint w.staged c).2.2
            last := some (c, now.committed, (now.perform mint w.staged c).2.1.committed)
            updated := noted c now.committed s.updated }, rfl, rfl, ?_, ?_, ?_⟩
  · rintro g t hg rfl
    exact hupdated g t hg
  · intro g t hg
    cases c with
    | updateEvent g' patch =>
      cases hg
      exact ⟨moves, [], w, patch, next, rfl, hi, hrest, congrArg Memory.committed hm⟩
    | _ => exact (hupdated g t hg).snoc _
  · refine halways.2 _ _ ⟨now, (now.perform mint w.staged c).2.1, ?_, rfl, rfl⟩
    rw [hstaged]

theorem tracks_from (mint : Mint) (m : Memory) (moves : List Move) (i : ℕ) (w : Writer)
    (hi : (Race.from mint m moves).writers[i]? = some w) : Tracks mint m moves i w := by
  induction moves using List.reverseRecOn generalizing i w with
  | nil => exact nomatch hi
  | append_singleton moves move ih =>
    rw [from_snoc] at hi
    rcases writer_of_act hi with hold | ⟨o, rfl⟩ | ⟨w₀, c, next, rfl, hw, hrest, rfl⟩ |
      ⟨w₀, timeout, hw, rfl⟩
    · exact (ih i w hold).snoc move
    · exact ⟨{}, rfl, nofun, overwrites_program o _⟩
    · obtain ⟨s, hstaged, -, -, hupdated, halways⟩ := tracked_advance (ih i w₀ hw) hw hrest
      exact ⟨s, hstaged, hupdated, halways⟩
    · exact ⟨{}, rfl, nofun, nofun⟩

theorem contains_act {r : Race} {g : Guid} (h : r.memory.committed.events.contains g = true)
    (move : Move) : (r.act mint move).memory.committed.events.contains g = true := by
  cases move with
  | start o => exact h
  | advance i =>
    cases hi : r.writers[i]? with
    | none =>
      simp only [act, hi]
      exact h
    | some w =>
      cases hrest : w.rest with
      | done result =>
        rw [act_of_done hi hrest]
        exact h
      | ask c next =>
        rw [act_of_ask hi hrest]
        obtain hsame | hpublished := Memory.perform_publishes mint r.memory w.staged c
        · rw [hsame]
          exact h
        · rw [hpublished]
          exact Table.contains_putAll_of_left h _
  | abandon i timeout =>
    cases hi : r.writers[i]? with
    | none =>
      simp only [act, hi]
      exact h
    | some w =>
      simp only [act, hi]
      exact h

theorem contains_from {past later : List Move} {g : Guid}
    (h : (Race.from mint m past).memory.committed.events.contains g = true) :
    (Race.from mint m (past ++ later)).memory.committed.events.contains g = true := by
  induction later using List.reverseRecOn with
  | nil => rwa [List.append_nil]
  | append_singleton later move ih =>
    rw [← List.append_assoc, from_snoc]
    exact contains_act ih move

theorem UpdatedAt.contains {i : ℕ} {g g' : Guid} {t : Tables} (h : UpdatedAt mint m moves i g t)
    (ht : t.events.contains g' = true) :
    (Race.from mint m moves).memory.committed.events.contains g' = true := by
  obtain ⟨past, later, _, _, _, rfl, _, _, rfl⟩ := h
  exact contains_from ht

end Race

/-- The commit of an update replaces the row of its event by the row that was committed at the
update call, with the patch applied. It leaves a column alone that the observation says nothing
about exactly if nobody has changed it between the two calls. -/
theorem commit_restores_columns {m : Memory} {moves : List Move} {i : ℕ} {w : Writer} {g : Guid}
    (hi : (Race.from mint m moves).writers[i]? = some w) (hopen : w.result? = none)
    (hend : (Race.from mint m (moves ++ [.advance i])).writers[i]?.bind Writer.result? =
      some (.ok (.updated g))) :
    ∃ t e e₁ e', Race.UpdatedAt mint m moves i g t ∧ t.events.get? g = some e ∧
      (Race.from mint m moves).memory.committed.events.get? g = some e₁ ∧
      (Race.from mint m (moves ++ [.advance i])).memory.committed.events.get? g = some e' ∧
      (∃ period teams, e' = (patch w.observation period teams).apply e) ∧
      Leaves w.observation e e' ∧ (Leaves w.observation e₁ e' ↔ Leaves w.observation e₁ e) := by
  rw [Race.from_snoc] at hend ⊢
  cases hrest : w.rest with
  | done r =>
    simp only [Writer.result?, hrest] at hopen
    cases hopen
  | ask c next =>
    obtain ⟨s, -, hlast, hupdated, -, halways⟩ :=
      Race.tracked_advance (Race.tracks_from mint m moves i w hi) hi hrest
    rw [Race.act_of_ask hi hrest] at hend ⊢
    rw [List.getElem?_set_self', hi] at hend
    obtain ⟨t, e, period, teams, before, after, hu, hget, hnone, hcommit, hafter⟩ :=
      Writer.of_result? hend halways g rfl
    rw [hlast] at hcommit
    cases hcommit
    have hat := hupdated g t hu rfl
    obtain ⟨e₁, he₁⟩ := (Table.contains_iff _ _).mp
      (hat.contains ((Table.contains_iff _ _).mpr ⟨e, hget⟩))
    have hleaves : Leaves w.observation e ((patch w.observation period teams).apply e) :=
      leaves_apply hnone e
    refine ⟨t, e, e₁, _, hat, hget, he₁, ?_, ⟨period, teams, rfl⟩, hleaves,
      hleaves.congr e₁⟩
    rw [hafter, Table.get?_put, if_pos rfl]

/-- A game without teams, not yet begun. -/
def rumor : Observation := { tipOff with teams := none }

/-- The game is created, a second upsert of it has updated its event, and a third one has brought
the game online and named its teams. -/
def lateRumor : List Move :=
  List.replicate 2 (.start rumor) ++ [.start finals] ++ List.replicate 10 (.advance 0) ++
    List.replicate 4 (.advance 1) ++ List.replicate 15 (.advance 2) ++
    List.replicate 2 (.advance 1)

theorem lateRumor_run :
    (Race.from .serial {} lateRumor).writers[1]?.map
      (fun w => (w.result?, w.observation.online, w.observation.teams.isNone)) =
        some (none, none, true) ∧
    (Race.from .serial {} (lateRumor ++ [.advance 1])).writers[1]?.bind Writer.result? =
      some (.ok (.updated (Store.hexGuid 'a' 1))) ∧
    ((Race.from .serial {} lateRumor).memory.committed.events.get? (Store.hexGuid 'a' 1)).map
      (fun e => (e.isOnline, e.homeTeam)) = some (true, Store.hexGuid 'a' 3) ∧
    ((Race.from .serial {} (lateRumor ++ [.advance 1])).memory.committed.events.get?
      (Store.hexGuid 'a' 1)).map (fun e => (e.isOnline, e.homeTeam)) = some (false, noTeam) := by
  decide +kernel

/-- The commit of the second upsert takes the game offline and forgets its teams, because they
were changed since its update call. -/
theorem lateRumor_restores_columns :
    ∃ w e e₁ e', (Race.from .serial {} lateRumor).writers[1]? = some w ∧ w.result? = none ∧
      (Race.from .serial {} (lateRumor ++ [.advance 1])).writers[1]?.bind Writer.result? =
        some (.ok (.updated (Store.hexGuid 'a' 1))) ∧
      Leaves w.observation e e' ∧ (Leaves w.observation e₁ e' ↔ Leaves w.observation e₁ e) := by
  obtain ⟨hw, hend, -, -⟩ := lateRumor_run
  obtain ⟨w, hi, hopen⟩ := Option.map_eq_some_iff.mp hw
  have hnone : w.result? = none := congrArg Prod.fst hopen
  obtain ⟨_, e, e₁, e', _, _, _, _, _, hleaves, hiff⟩ := commit_restores_columns hi hnone hend
  exact ⟨w, e, e₁, e', hi, hnone, hend, hleaves, hiff⟩

/-- Not every commit of an update leaves the columns alone that its observation says nothing
about. -/
theorem commit_changes_columns :
    ¬∀ (moves : List Move) (i : ℕ) (w : Writer) (g : Guid) (e e' : Event),
      (Race.from .serial {} moves).writers[i]? = some w → w.result? = none →
      (Race.from .serial {} (moves ++ [.advance i])).writers[i]?.bind Writer.result? =
        some (.ok (.updated g)) →
      (Race.from .serial {} moves).memory.committed.events.get? g = some e →
      (Race.from .serial {} (moves ++ [.advance i])).memory.committed.events.get? g = some e' →
      Leaves w.observation e e' := by
  intro h
  obtain ⟨hw, hend, hbefore, hafter⟩ := lateRumor_run
  obtain ⟨w, hi, hopen⟩ := Option.map_eq_some_iff.mp hw
  obtain ⟨e, he, hon⟩ := Option.map_eq_some_iff.mp hbefore
  obtain ⟨e', he', hoff⟩ := Option.map_eq_some_iff.mp hafter
  have hleaves := h lateRumor 1 w _ e e' hi (congrArg Prod.fst hopen) hend he he'
  have hsame := hleaves.online (congrArg (·.2.1) hopen)
  rw [show e.isOnline = true from congrArg Prod.fst hon,
    show e'.isOnline = false from congrArg Prod.fst hoff] at hsame
  exact nomatch hsame

end LiveEvents.Upsert
