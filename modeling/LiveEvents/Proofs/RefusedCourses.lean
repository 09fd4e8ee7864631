import LiveEvents.Proofs.SharedCourses

/-!
# Which errors end an upsert

On a store that is shared only with upserts, a row that an upsert has found or created is found
again whatever the others commit, and so is a row that has kept it from creating its own. What is
left to go wrong is that the store refuses to create the event or its title, or to commit, because a
row of that key is there. A course ends with such a refusal or with a result.
-/

namespace LiveEvents

open Store (Call Entity Memory Mint Row StoreError Table Tables pairKey)

def refusal? {α : Type} : Except StoreError α → Option StoreError
  | .ok _ => none
  | .error e => some e

/-- A transaction on a shared store, and what its last call was refused with. -/
structure Course where
  view : View
  refused : Option (Call × StoreError)

/-- The shared setting in which it is known which call was refused. -/
def answering (mint : Mint) : Upsert.StoreSetting Course where
  ready _ _ := True
  moves c s r s' := (shared mint).moves c s.view r s'.view ∧
    s'.refused = (refusal? r).map (c, ·)

/-- The calls that are refused if another upsert has been first. -/
def Decides : Call → StoreError → Prop
  | .createEvent _, e | .createTitle _, e | .commit, e => e.isDuplicate = true
  | _, _ => False

theorem Decides.duplicate {c : Call} {e : StoreError} (h : Decides c e) :
    ∃ entity key, e = .duplicate entity key := by
  have hdup : e.isDuplicate = true := by
    cases c <;> first | exact h | exact h.elim
  cases e with
  | duplicate entity key => exact ⟨entity, key, rfl⟩
  | notFound entity key => cases hdup
  | backend cause => cases hdup

/-- The error that a course ends with is that of its last call. -/
def EndsRefused (e : UpsertError) (s : Course) : Prop :=
  ∃ c cause, s.refused = some (c, cause) ∧ Decides c cause ∧ e = .store cause

namespace View

variable {mint : Mint} {s s' : View} {k : Entity} {key : String}

/-- There is a row of this key to be found. -/
def Finds (s : View) (k : Entity) (key : String) : Prop :=
  ∃ row, Table.find? (s.staged.of k) (s.memory.committed.of k) key = some row

theorem finds_iff : s.Finds k key ↔
    Table.find? (s.staged.of k) (s.memory.committed.of k) key ≠ none :=
  Option.ne_none_iff_exists'.symm

theorem finds_of_staged {row : k.Of} (h : row ∈ (s.staged.of k).rows) :
    s.Finds k (Row.key row) := by
  rw [finds_iff, Ne, Table.find?_eq_none_iff]
  exact fun hnone => hnone.1 row h rfl

/-- A row that was put there is found. -/
theorem finds_of_put {row : k.Of}
    (hstaged : s'.staged = s.staged.set k ((s.staged.of k).put (Row.guid row) row)) :
    s'.Finds k (Row.key row) := by
  refine finds_of_staged (Table.mem_rows_of_get? (g := Row.guid row) ?_)
  rw [hstaged, Tables.of_set_self, Table.get?_put, if_pos rfl]

/-- What is found goes on to be found, whatever others commit. -/
theorem Finds.later (h : s.Finds k key) (hs : Fair mint s) (ha : After mint s s')
    (hstaged : s'.staged = s.staged) : s'.Finds k key := by
  obtain ⟨row, hrow⟩ := h
  obtain ⟨hkey, hmem | ⟨hmem, hfree, -⟩⟩ := Table.find?_some hrow
  · rw [← hkey]
    exact finds_of_staged (hstaged ▸ hmem)
  · have hget := (hs.sound k).get?_of_mem_rows hmem
    obtain ⟨row', hget', hpart⟩ := ha.continues k _ row hget
    have hguid : Row.guid row' = Row.guid row := (ha.fair.sound k).own _ row' hget'
    rw [finds_iff, Ne, Table.find?_eq_none_iff, hstaged]
    rintro ⟨-, hcommitted⟩
    have hhidden := hcommitted row' (Table.mem_rows_of_get? hget')
      ((Store.Fixed.key_eq hpart).trans hkey)
    rw [hguid, hfree] at hhidden
    cases hhidden

/-- A committed row is seen later on where nothing of its kind is staged. -/
theorem After.sees_committed (h : After mint s s') {g : Guid} {row : k.Of}
    (hrow : (s.memory.committed.of k).get? g = some row) (hnone : s'.staged.of k = {}) :
    ∃ row', Table.findGuid? (s'.staged.of k) (s'.memory.committed.of k) g = some row' := by
  obtain ⟨row', hrow', -⟩ := h.continues k g row hrow
  rw [hnone]
  exact ⟨row', hrow'⟩

/-! ## What a call can come to -/

/-- Whether a call was refused, and what it did. -/
def report {α β : Type} (x : Except StoreError α × β) : Option StoreError × β :=
  (refusal? x.1, x.2)

theorem moves_createRow_report {c : Call} {row : k.Of} {r : Except StoreError c.Reply}
    (h : (shared mint).moves c s r s')
    (hp : report (s.memory.perform mint s.staged c) = report (s.memory.createRow s.staged k row)) :
    (refusal? r = none ∧
        Table.find? (s.staged.of k) (s.memory.committed.of k) (Row.key row) = none ∧
        s'.staged = s.staged.set k ((s.staged.of k).put (Row.guid row) row)) ∨
      (refusal? r = some (.duplicate (Row.entity k.Of).name (Row.key row)) ∧
        s.Finds k (Row.key row) ∧ s'.staged = s.staged) := by
  obtain ⟨m, hperform, _⟩ := h
  rw [hperform] at hp
  cases hf : Table.find? (s.staged.of k) (s.memory.committed.of k) (Row.key row) with
  | none =>
    rw [Memory.createRow_of_none hf] at hp
    obtain ⟨hok, hrest⟩ := Prod.mk.inj hp
    exact Or.inl ⟨hok, rfl, (Prod.mk.inj hrest).2⟩
  | some row' =>
    rw [Memory.createRow_of_some hf] at hp
    obtain ⟨herror, hrest⟩ := Prod.mk.inj hp
    exact Or.inr ⟨herror, ⟨row', hf⟩, (Prod.mk.inj hrest).2⟩

theorem moves_updateRow_report {c : Call} {g : Guid} {f : k.Of → k.Of}
    {r : Except StoreError c.Reply} (h : (shared mint).moves c s r s')
    (hp : report (s.memory.perform mint s.staged c) = report (s.memory.updateRow s.staged k g f))
    {row : k.Of}
    (hrow : Table.findGuid? (s.staged.of k) (s.memory.committed.of k) g = some row) :
    refusal? r = none := by
  obtain ⟨m, hperform, _⟩ := h
  rw [hperform, Memory.updateRow_of_some hrow f] at hp
  exact (Prod.mk.inj hp).1

end View

namespace Upsert

open View (Fair After Keeps report)

variable {mint : Mint} {s : Course}

/-- Every course ends with a refusal or as `good` says. -/
abbrev Refuses (mint : Mint) {α : Type} (good : α → Course → Prop) (x : Step α) (s : Course) :
    Prop :=
  Ends (answering mint) EndsRefused good x s

/-- What is true of all courses on a shared store is so of those of which more is known. -/
theorem Refuses.shares {α : Type} {x : Step α} {good : α → View → Prop}
    (hx : Refuses mint (fun _ _ => True) x s) (hshares : Shares mint good x s.view) :
    Refuses mint (fun a s' => good a s'.view) x s := by
  have hboth : ∀ (p : Store.Program (Except UpsertError α)) (s : Course)
      {post : Except UpsertError α → View → Prop}
      {post' post'' : Except UpsertError α → Course → Prop}
      (_ : ∀ r s', post r s'.view → post' r s' → post'' r s')
      (_ : p.Always (shared mint) post s.view) (_ : p.Always (answering mint) post' s),
      p.Always (answering mint) post'' s := by
    intro p
    induction p with
    | done r => exact fun s _ _ _ himp h h' => himp r s h h'
    | ask c next ih =>
      intro s _ _ _ himp h h'
      exact ⟨trivial, fun r s' hm => ih r s' himp (h.2 r s'.view hm.1) (h'.2 r s' hm)⟩
  refine hboth x.run s ?_ hshares hx
  intro r s' hgood hbad
  cases r with
  | ok a => exact hgood
  | error e => exact hbad

theorem refuses_lookup {c : Call} {r : c.Reply} (hc : c ≠ .commit)
    (hp : s.view.memory.perform mint s.view.staged c = (.ok r, s.view.memory, s.view.staged))
    {good : c.Reply → Course → Prop}
    (hgood : ∀ s', After mint s.view s'.view → s'.view.staged = s.view.staged → good r s') :
    Refuses mint good (call c) s := by
  refine ends_call trivial (fun r' s' hm => ?_) fun e s' hm => ?_
  · obtain ⟨hr, hstaged⟩ := View.moves_lookup hm.1 hp
    rw [Except.ok.inj hr]
    exact hgood s' (View.after_of_moves hc hm.1) hstaged
  · cases (View.moves_lookup hm.1 hp).1

/-- A creation after which there is a row of its key, whoever has created it. -/
theorem refuses_create {c : Call} {k : Entity} {row : k.Of} (hc : c ≠ .commit)
    (hp : report (s.view.memory.perform mint s.view.staged c) =
      report (s.view.memory.createRow s.view.staged k row))
    (hs : Fair mint s.view) {good : Bool → Course → Prop}
    (hdone : ∀ s', After mint s.view s'.view → s'.view.Finds k (Row.key row) →
      s'.view.staged = s.view.staged.set k ((s.view.staged.of k).put (Row.guid row) row) →
        good true s')
    (htaken : ∀ s', After mint s.view s'.view → s'.view.Finds k (Row.key row) →
      s'.view.staged = s.view.staged → good false s') :
    Refuses mint good (create c) s := by
  refine ends_create trivial (fun r s' hm => ?_) (fun e s' hm _ => ?_) fun e s' hm hnot => ?_
  · rcases View.moves_createRow_report hm.1 hp with ⟨_, _, hstaged⟩ | ⟨herror, _⟩
    · exact hdone s' (View.after_of_moves hc hm.1) (View.finds_of_put hstaged) hstaged
    · cases herror
  · rcases View.moves_createRow_report hm.1 hp with ⟨hok, _⟩ | ⟨_, hfinds, hstaged⟩
    · cases hok
    · have ha := View.after_of_moves hc hm.1
      exact htaken s' ha (hfinds.later hs ha hstaged) hstaged
  · rcases View.moves_createRow_report hm.1 hp with ⟨hok, _⟩ | ⟨herror, _⟩
    · cases hok
    · rw [Option.some.inj herror] at hnot
      cases hnot

/-- A creation whose refusal ends the upsert; it is refused only if a row of its key is there. -/
theorem refuses_insert {c : Call} {k : Entity} {row : k.Of} (hc : c ≠ .commit)
    (hp : report (s.view.memory.perform mint s.view.staged c) =
      report (s.view.memory.createRow s.view.staged k row))
    (hdecides : s.view.Finds k (Row.key row) →
      Decides c (.duplicate (Row.entity k.Of).name (Row.key row)))
    {good : c.Reply → Course → Prop}
    (hdone : ∀ r s', After mint s.view s'.view → s'.view.Finds k (Row.key row) →
      s'.view.staged = s.view.staged.set k ((s.view.staged.of k).put (Row.guid row) row) →
        good r s') :
    Refuses mint good (call c) s := by
  refine ends_call trivial (fun r s' hm => ?_) fun e s' hm => ?_
  · rcases View.moves_createRow_report hm.1 hp with ⟨_, _, hstaged⟩ | ⟨herror, _⟩
    · exact hdone r s' (View.after_of_moves hc hm.1) (View.finds_of_put hstaged) hstaged
    · cases herror
  · rcases View.moves_createRow_report hm.1 hp with ⟨hok, _⟩ | ⟨herror, hfinds, _⟩
    · cases hok
    · obtain rfl := Option.some.inj herror
      exact ⟨c, _, hm.2, hdecides hfinds, rfl⟩

/-- An update of a row that is there. -/
theorem refuses_update {c : Call} {k : Entity} {g : Guid} {f : k.Of → k.Of}
    (hp : report (s.view.memory.perform mint s.view.staged c) =
      report (s.view.memory.updateRow s.view.staged k g f))
    {row : k.Of}
    (hrow : Table.findGuid? (s.view.staged.of k) (s.view.memory.committed.of k) g = some row) :
    Refuses mint (fun _ _ => True) (call c) s := by
  refine ends_call trivial (fun _ _ _ => trivial) fun e s' hm => ?_
  cases View.moves_updateRow_report hm.1 hp hrow

/-! ## The stages of an upsert -/

theorem refuses_found_period {code : String} (h : s.view.Finds .period code) :
    Refuses mint (fun _ _ => True) (call (.periodByCode code) >>= found .period code) s := by
  obtain ⟨row, hrow⟩ := h
  refine ends_bind (refuses_lookup (by nofun) rfl fun s₁ _ _ => ?_)
  have hfind : Table.find? s.view.staged.periods s.view.memory.committed.periods code =
      some row := hrow
  rw [hfind]
  exact ends_pure trivial

theorem refuses_period (spec : PeriodSpec) :
    Refuses mint (fun _ _ => True) (period spec) s := by
  unfold period
  refine ends_bind (refuses_lookup (by nofun) rfl fun s₁ ha₁ _ => ?_)
  cases hfind : Table.find? s.view.staged.periods s.view.memory.committed.periods spec.code with
  | some row => exact ends_pure trivial
  | none =>
    have hp := congrArg report (s₁.view.memory.perform_createPeriod mint s₁.view.staged
      { code := spec.code, isActive := true, scheduled := spec.scheduled, remark := spec.remark,
        extra := .object [] })
    exact ends_bind (refuses_create (by nofun) hp ha₁.fair
      (fun s₂ _ hfinds _ => refuses_found_period hfinds)
      fun s₂ _ hfinds _ => refuses_found_period hfinds)

/-- A team that was just staged has no name yet, also not in another upsert. -/
theorem not_finds_name (hslash : mint.Slashless) {v : View} (hs : Fair mint v) {row : Team}
    (hr : Roster (some row.guid) v) (hrow : v.staged.teams.get? row.guid = some row)
    (language : Guid) : ¬ v.Finds .teamName (pairKey row.guid language) := by
  rintro ⟨name, hname⟩
  have hstaged := (Table.contains_iff _ _).mpr ⟨row, hrow⟩
  obtain ⟨i, -, hi⟩ := (hs.admits .team).given _ hstaged
  have hteam : ∀ j, mint.row j = name.team → name.team = row.guid := by
    intro j hj
    exact (Store.pairKey_injective (hj ▸ hslash j) (hi ▸ hslash i) (Table.find?_some hname).1).1
  rcases (Table.find?_some hname).2 with hmem | ⟨hmem, -⟩
  · obtain ⟨hthere, hnot⟩ :=
      hr.linked.team _ name ((hs.admits .teamName).get?_of_mem_rows hmem)
    obtain ⟨j, -, hj⟩ := (hs.admits .team).given _ hthere
    exact hnot (congrArg some (hteam j hj).symm)
  · have hthere := hs.complete.team _ name ((hs.sound .teamName).get?_of_mem_rows hmem)
    obtain ⟨j, -, hj⟩ := (hs.sound .team).given _ hthere
    rw [hteam j hj, hr.linked.new _ hstaged] at hthere
    cases hthere

theorem refuses_team (hd : mint.Distinct) (hslash : mint.Slashless) (hr : Roster none s.view)
    (t : TeamRef) (ecosystem language : Guid) :
    Refuses mint (fun _ _ => True) (team t ecosystem language) s := by
  unfold team
  refine ends_bind (refuses_lookup (by nofun) rfl fun s₁ ha₁ hst₁ => ?_)
  have hr₁ := hr.of_eq ha₁ hst₁
  cases hfind : Table.find? s.view.staged.teams s.view.memory.committed.teams
      (pairKey t.externalId ecosystem) with
  | some row => exact ends_pure trivial
  | none =>
    have hp := congrArg report (s₁.view.memory.perform_createTeam mint s₁.view.staged
      { ecosystem, externalId := t.externalId, logo := t.logoUrl })
    obtain ⟨row, hguid, hkey, hrow⟩ : ∃ row : Team, row.guid = mint.row s₁.view.memory.rows ∧
        Row.key row = pairKey t.externalId ecosystem ∧
        row = TeamDraft.toTeam { ecosystem, externalId := t.externalId, logo := t.logoUrl }
          (mint.row s₁.view.memory.rows) := ⟨_, rfl, rfl, rfl⟩
    rw [← hrow] at hp
    refine ends_bind (refuses_create (by nofun) hp ha₁.fair (fun s₂ ha₂ _ hst₂ => ?_)
      fun s₂ _ hfinds _ => ?_)
    · have hr₂ := hr₁.addTeam hd ha₁.fair ha₂ hguid hst₂
      have hget₂ : s₂.view.staged.teams.get? row.guid = some row := by
        rw [hst₂]
        exact (Table.get?_put _ _ _ _).trans (if_pos rfl)
      refine ends_bind (refuses_lookup (by nofun) rfl fun s₃ ha₃ hst₃ => ?_)
      rw [← hkey, find?_of_staged_team ha₂.fair hr₂ hget₂]
      have hget₃ : s₃.view.staged.teams.get? row.guid = some row := by rw [hst₃, hget₂]
      have hnot := not_finds_name hslash ha₃.fair (hr₂.of_eq ha₃ hst₃) hget₃ language
      have hp₃ := congrArg report (s₃.view.memory.perform_createTeamName mint s₃.view.staged
        { team := row.guid, language, name := t.name, shortName := t.shortName })
      refine ends_bind (ends_pure (ends_bind (refuses_insert (by nofun) hp₃ ?_ ?_)))
      · exact fun hfinds => absurd hfinds hnot
      · exact fun _ s₄ _ _ _ => ends_pure trivial
    · obtain ⟨again, hagain⟩ := hkey ▸ hfinds
      have hfound : Table.find? s₂.view.staged.teams s₂.view.memory.committed.teams
          (pairKey t.externalId ecosystem) = some again := hagain
      refine ends_bind (refuses_lookup (by nofun) rfl fun s₃ _ _ => ?_)
      rw [hfound]
      exact ends_bind (ends_pure (ends_pure trivial))

theorem refuses_teams (hd : mint.Distinct) (hslash : mint.Slashless) (hs : Fair mint s.view)
    (hr : Roster none s.view) (pair : TeamPair) (language : Guid) :
    Refuses mint (fun _ _ => True) (teams pair language) s := by
  unfold teams
  have hhome := refuses_team hd hslash hr pair.home pair.ecosystem language
  refine ends_bind ((hhome.shares (shares_team hd hs hr _ _ language)).imp fun home s₁ h₁ => ?_)
  have haway := refuses_team hd hslash h₁.roster pair.away pair.ecosystem language
  exact ends_bind (haway.imp fun away s₂ _ => ends_pure trivial)

theorem refuses_event (hs : Fair mint s.view) (hr : Roster none s.view) (o : Observation)
    (period : Guid) (teams : Option (Team × Team)) :
    Refuses mint (fun _ _ => True) (event o period teams) s := by
  unfold event
  refine ends_bind (refuses_lookup (by nofun) rfl fun s₁ ha₁ hst₁ => ?_)
  have hr₁ := hr.of_eq ha₁ hst₁
  cases hfind : Table.find? s.view.staged.events s.view.memory.committed.events o.externalId with
  | some row =>
    obtain ⟨-, hold⟩ := committed_of_find? hs hr hfind
    obtain ⟨row₁, hseen⟩ := ha₁.sees_committed (k := .event) hold hr₁.events
    have hp := congrArg report (s₁.view.memory.perform_updateEvent mint s₁.view.staged row.guid
      (patch o period teams))
    exact ends_bind ((refuses_update (k := .event) hp hseen).imp fun _ s₂ _ => ends_pure trivial)
  | none =>
    have hp := congrArg report (s₁.view.memory.perform_createEvent mint s₁.view.staged
      (draft o period teams))
    refine ends_bind (refuses_insert (by nofun) hp (fun _ => rfl) fun _ s₂ _ hfinds _ => ?_)
    obtain ⟨again, hagain⟩ := hfinds
    have hfound : Table.find? s₂.view.staged.events s₂.view.memory.committed.events
        o.externalId = some again := hagain
    refine ends_bind (refuses_lookup (by nofun) rfl fun s₃ _ _ => ?_)
    rw [hfound]
    exact ends_bind (ends_pure (ends_pure trivial))

theorem refuses_title {o : Observation} {outcome : Outcome}
    (h : Untitled mint o outcome s.view) :
    Refuses mint (fun _ _ => True) (title o outcome.guid) s := by
  unfold title
  refine ends_bind (refuses_lookup (by nofun) rfl fun s₁ ha₁ hst₁ => ?_)
  have h₁ := h.of_eq ha₁ hst₁
  cases hfind : Table.find? s.view.staged.titles s.view.memory.committed.titles
      (pairKey outcome.guid o.identity.language) with
  | some row =>
    by_cases htitle : row.title ≠ o.title
    · simp only [if_pos htitle]
      have hold : s.view.memory.committed.titles.get? row.guid = some row := by
        obtain ⟨-, hstaged | ⟨hcommitted, -⟩⟩ := Table.find?_some hfind
        · rw [h.titles] at hstaged
          cases hstaged
        · exact (h.fair.sound .title).get?_of_mem_rows hcommitted
      obtain ⟨row₁, hseen⟩ := ha₁.sees_committed (k := .title) hold h₁.titles
      exact refuses_update (k := .title) (congrArg report
        (s₁.view.memory.perform_updateTitle mint s₁.view.staged row.guid o.title)) hseen
    · simp only [if_neg htitle]
      exact ends_pure trivial
  | none =>
    have hp := congrArg report (s₁.view.memory.perform_createTitle mint s₁.view.staged
      { event := outcome.guid, language := o.identity.language, title := o.title
        rules := o.rules })
    exact refuses_insert (by nofun) hp (fun _ => rfl) fun _ _ _ _ _ => trivial

theorem refuses_commit : Refuses mint (fun _ _ => True) (call .commit) s := by
  refine ends_call trivial (fun _ _ _ => trivial) fun e s' hm => ?_
  obtain ⟨⟨m, hp, -⟩, hrefused⟩ := hm
  refine ⟨.commit, e, hrefused, ?_, rfl⟩
  cases hc : s.view.staged.conflict? s.view.memory.committed with
  | none =>
    rw [Memory.perform_commit_of_free mint hc] at hp
    cases (Prod.mk.inj hp).1
  | some cause =>
    rw [Memory.perform_commit_of_conflict mint hc] at hp
    obtain ⟨_, _, _, _, _, rfl⟩ := Tables.conflict?_eq_some hc
    rw [← Except.error.inj (Prod.mk.inj hp).1]
    rfl

/-! ## Whole upserts -/

theorem refuses_rest (hd : mint.Distinct) (hs : Fair mint s.view)
    (hr : Roster none s.view) (o : Observation) {period : Guid} {teams : Option (Team × Team)}
    (href : Refers s.view period teams) :
    Refuses mint (fun _ _ => True) (do
      let outcome ← event o period teams
      title o outcome.guid
      call .commit
      return outcome) s := by
  have hevent := (refuses_event hs hr o period teams).shares (shares_event hd hs hr o href)
  refine ends_bind (hevent.imp fun outcome s₁ h₁ => ?_)
  refine ends_bind ((refuses_title h₁).imp fun _ s₂ _ => ?_)
  exact ends_bind (refuses_commit.imp fun _ s₃ _ => ends_pure trivial)

theorem refuses_steps (hd : mint.Distinct) (hslash : mint.Slashless) (o : Observation)
    (s : Course) : Refuses mint (fun _ _ => True) (steps o) s := by
  unfold steps
  refine ends_bind (ends_call trivial (fun _ s₁ hm => ?_) fun e s₁ hm => ?_)
  · have hs₁ := (View.after_of_moves (by nofun) hm.1).fair
    obtain ⟨m, hp, _⟩ := hm.1
    have hstaged : s₁.view.staged = {} := (Prod.mk.inj (Prod.mk.inj hp).2).2.symm
    have hb₁ : Blank s₁.view := by constructor <;> rw [hstaged]
    have hperiod := (refuses_period o.period).shares (shares_period hs₁ hb₁ o.period)
    refine ends_bind (hperiod.imp ?_)
    rintro period s₂ ⟨hs₂, hb₂, hsees⟩
    cases hteams : o.teams with
    | some pair =>
      have hboth := (refuses_teams hd hslash hs₂ hb₂.roster pair o.identity.language).shares
        (shares_teams hd hs₂ hb₂.roster pair o.identity.language)
      refine ends_bind (ends_map (hboth.imp ?_))
      rintro both s₃ ⟨hs₃, hr₃, hk₃, hhome, haway⟩
      refine refuses_rest hd hs₃ hr₃ o ⟨hk₃ _ _ hsees, ?_, ?_⟩
      · rintro _ ⟨⟩
        exact hhome
      · rintro _ ⟨⟩
        exact haway
    | none =>
      exact ends_bind (ends_pure (refuses_rest hd hs₂ hb₂.roster o ⟨hsees, nofun, nofun⟩))
  · obtain ⟨m, hp, _⟩ := hm.1
    cases (Prod.mk.inj hp).1

/-- Whatever others commit in between, an upsert fails only where it can lose to another one. -/
theorem program_refused (hd : mint.Distinct) (hslash : mint.Slashless) (o : Observation)
    (s : Course) :
    (program o).Always (answering mint) (fun r s' => ∀ e, r = .error e → EndsRefused e s') s := by
  refine Program.Always.imp ?_ (refuses_steps hd hslash o s)
  intro r s' hr
  cases r with
  | ok outcome => exact nofun
  | error e =>
    rintro _ ⟨⟩
    exact hr

end Upsert

end LiveEvents
