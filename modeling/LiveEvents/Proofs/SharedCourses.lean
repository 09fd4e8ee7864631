import LiveEvents.Proofs.CompleteTables
import LiveEvents.Proofs.LoneTransactions
import LiveEvents.Proofs.ProgramCourses
import LiveEvents.Proofs.SerialGuids

/-!
# Upserts on a shared store

Between two calls of an upsert other transactions may commit. `Rely` says what the upsert can rely
on then: the committed tables stay sound and complete, no row is lost, and no guid that it has
staged a new row under gets committed by another. The stages of an upsert keep its staged rows
linked to the committed ones, whatever was committed in between.
-/

namespace LiveEvents

open Store (Call Entity Memory Mint Row StoreError Table Tables pairKey)

namespace Store

/-- What other transactions may do to a store while these rows are staged. -/
structure Memory.Rely (mint : Mint) (staged : Tables) (m m' : Memory) : Prop where
  sound : m'.Sound mint
  admits : m'.Admits mint staged
  complete : m'.committed.Complete
  continues : m.committed.Continues m'.committed
  own : ∀ k g, (staged.of k).contains g = true → (m.committed.of k).contains g = false →
    (m'.committed.of k).contains g = false

namespace Memory

variable {mint : Mint} {m m' m'' : Memory} {staged : Tables}

theorem Rely.refl (hm : m.Sound mint) (hs : m.Admits mint staged) (hc : m.committed.Complete) :
    Rely mint staged m m :=
  ⟨hm, hs, hc, Tables.Continues.refl _, fun _ _ _ h => h⟩

theorem Rely.trans (h : Rely mint staged m m') (h' : Rely mint staged m' m'') :
    Rely mint staged m m'' :=
  ⟨h'.sound, h'.admits, h'.complete, h.continues.trans h'.continues,
    fun k g hg hnew => h'.own k g hg (h.own k g hg hnew)⟩

end Memory

end Store

/-- A transaction on a shared store, and what was committed when it made its last call. -/
structure View where
  before : Tables
  memory : Memory
  staged : Tables

/-- The setting in which other transactions may do after each call what is relied on. -/
def shared (mint : Mint) : Upsert.StoreSetting View where
  ready c s := c = .commit → (s.memory.committed.publish s.staged).Complete
  moves c s r s' := ∃ m, s.memory.perform mint s.staged c = (r, m, s'.staged) ∧
    m.Rely mint s'.staged s'.memory ∧ s'.before = s.memory.committed

namespace View

variable {mint : Mint} {s s' s'' : View}

/-- What a transaction finds in every state of the store. -/
structure Fair (mint : Mint) (s : View) : Prop where
  sound : s.memory.Sound mint
  admits : s.memory.Admits mint s.staged
  complete : s.memory.committed.Complete

/-- A later state of a transaction that has not yet committed. -/
structure After (mint : Mint) (s s' : View) : Prop where
  fair : Fair mint s'
  continues : s.memory.committed.Continues s'.memory.committed
  own : ∀ k g, (s'.staged.of k).contains g = true →
    (s.memory.committed.of k).contains g = false → (s'.memory.committed.of k).contains g = false

theorem After.contains (h : After mint s s') (k : Entity) {g : Guid}
    (hg : (s.memory.committed.of k).contains g = true) :
    (s'.memory.committed.of k).contains g = true :=
  Table.Continues.contains (h.continues k) hg

/-- Staged teams that were linked when they were staged are still linked. -/
theorem After.linkedTeams (h : After mint s s') {pending : Option Guid}
    (hlinked : Tables.LinkedTeams pending s.memory.committed s'.staged) :
    Tables.LinkedTeams pending s'.memory.committed s'.staged :=
  hlinked.later fun g hg hnew => h.own .team g hg hnew

theorem after_of_moves {c : Call} {r : Except StoreError c.Reply} (hc : c ≠ .commit)
    (h : (shared mint).moves c s r s') : After mint s s' := by
  obtain ⟨m, hp, hrely, _⟩ := h
  have hm : m.committed = s.memory.committed := by
    rw [← Memory.perform_committed mint s.memory s.staged hc, hp]
  refine ⟨⟨hrely.sound, hrely.admits, hrely.complete⟩, ?_, ?_⟩
  · rw [← hm]
    exact hrely.continues
  · intro k g hg hnew
    rw [← hm] at hnew
    exact hrely.own k g hg hnew

/-- Visible rows stay visible. -/
def Sees (s : View) (k : Entity) (g : Guid) : Prop :=
  Tables.Sees s.memory.committed s.staged k g

def Keeps (s s' : View) : Prop := ∀ k g, s.Sees k g → s'.Sees k g

theorem Keeps.trans (h : Keeps s s') (h' : Keeps s' s'') : Keeps s s'' :=
  fun k g hg => h' k g (h k g hg)

theorem After.keeps (h : After mint s s')
    (hstaged : ∀ k g, (s.staged.of k).contains g = true → (s'.staged.of k).contains g = true) :
    Keeps s s' :=
  fun k g hg => hg.imp (h.contains k) (hstaged k g)

theorem After.keeps_of_eq (h : After mint s s') (hstaged : s'.staged = s.staged) : Keeps s s' :=
  h.keeps fun _ _ hg => hstaged ▸ hg

theorem After.keeps_of_put (h : After mint s s') {k : Entity} {g : Guid} {row : k.Of}
    (hstaged : s'.staged = s.staged.set k ((s.staged.of k).put g row)) : Keeps s s' := by
  refine h.keeps fun j g' hg => ?_
  rw [hstaged]
  by_cases hj : j = k
  · subst hj
    rw [Tables.of_set_self]
    exact (Table.contains_put _ _ _ _).mpr (Or.inr hg)
  · rwa [Tables.of_set_ne _ hj]

/-- A row that is found is visible. -/
theorem Fair.sees_of_find? (hs : Fair mint s) {k : Entity} {key : String} {row : k.Of}
    (h : Table.find? (s.staged.of k) (s.memory.committed.of k) key = some row) :
    s.Sees k (Row.guid row) := by
  obtain ⟨_, hstaged | ⟨hcommitted, _⟩⟩ := Table.find?_some h
  · exact Or.inr ((Table.contains_iff _ _).mpr ⟨row, (hs.admits k).get?_of_mem_rows hstaged⟩)
  · exact Or.inl ((Table.contains_iff _ _).mpr ⟨row, (hs.sound k).get?_of_mem_rows hcommitted⟩)

theorem Fair.new_committed (hd : mint.Distinct) (hs : Fair mint s) (k : Entity) :
    (s.memory.committed.of k).contains (mint.guid k (s.memory.given k)) = false :=
  (Table.contains_eq_false_iff _ _).mpr (hs.sound.get?_new hd k)

theorem Fair.new_staged (hd : mint.Distinct) (hs : Fair mint s) (k : Entity) :
    (s.staged.of k).contains (mint.guid k (s.memory.given k)) = false :=
  Table.not_contains_of_given (hd.guid k) (hs.admits k).given

/-! ## What a call can come to -/

/-- Whether a call succeeded, and what it did. -/
def shape {ε α β : Type} (x : Except ε α × β) : Bool × β := (x.1.isOk, x.2)

theorem moves_lookup {c : Call} {r : c.Reply} {r' : Except StoreError c.Reply}
    (h : (shared mint).moves c s r' s')
    (hp : s.memory.perform mint s.staged c = (.ok r, s.memory, s.staged)) :
    r' = .ok r ∧ s'.staged = s.staged := by
  obtain ⟨m, hperform, _⟩ := h
  obtain ⟨hr, hrest⟩ := Prod.mk.inj (hp.symm.trans hperform)
  exact ⟨hr.symm, (Prod.mk.inj hrest).2.symm⟩

theorem moves_createRow {c : Call} {k : Entity} {row : k.Of} {r : Except StoreError c.Reply}
    (h : (shared mint).moves c s r s')
    (hp : shape (s.memory.perform mint s.staged c) = shape (s.memory.createRow s.staged k row)) :
    (r.isOk = true ∧ Table.find? (s.staged.of k) (s.memory.committed.of k) (Row.key row) = none ∧
        s'.staged = s.staged.set k ((s.staged.of k).put (Row.guid row) row)) ∨
      (r.isOk = false ∧ s'.staged = s.staged) := by
  obtain ⟨m, hperform, _⟩ := h
  rw [hperform] at hp
  cases hf : Table.find? (s.staged.of k) (s.memory.committed.of k) (Row.key row) with
  | none =>
    rw [Memory.createRow_of_none hf] at hp
    obtain ⟨hok, hrest⟩ := Prod.mk.inj hp
    exact Or.inl ⟨hok, rfl, (Prod.mk.inj hrest).2⟩
  | some row' =>
    rw [Memory.createRow_of_some hf] at hp
    obtain ⟨hok, hrest⟩ := Prod.mk.inj hp
    exact Or.inr ⟨hok, (Prod.mk.inj hrest).2⟩

theorem moves_updateRow {c : Call} {k : Entity} {g : Guid} {f : k.Of → k.Of} {r : c.Reply}
    (h : (shared mint).moves c s (.ok r) s')
    (hp : shape (s.memory.perform mint s.staged c) = shape (s.memory.updateRow s.staged k g f)) :
    ∃ row, Table.findGuid? (s.staged.of k) (s.memory.committed.of k) g = some row ∧
      s'.staged = s.staged.set k ((s.staged.of k).put g (f row)) := by
  obtain ⟨m, hperform, _⟩ := h
  rw [hperform] at hp
  cases hf : Table.findGuid? (s.staged.of k) (s.memory.committed.of k) g with
  | none =>
    rw [Memory.updateRow_of_none hf] at hp
    cases (Prod.mk.inj hp).1
  | some row =>
    rw [Memory.updateRow_of_some hf f] at hp
    exact ⟨row, rfl, (Prod.mk.inj (Prod.mk.inj hp).2).2⟩

end View

namespace Upsert

open View (Fair After Keeps shape)

variable {mint : Mint} {s : View}

/-- Every course on a shared store ends in an error or as `good` says. -/
abbrev Shares (mint : Mint) {α : Type} (good : α → View → Prop) (x : Step α) (s : View) : Prop :=
  Ends (shared mint) (fun _ _ => True) good x s

theorem shares_lookup {c : Call} {r : c.Reply} (hc : c ≠ .commit)
    (hp : s.memory.perform mint s.staged c = (.ok r, s.memory, s.staged))
    {good : c.Reply → View → Prop}
    (hgood : ∀ s', After mint s s' → s'.staged = s.staged → good r s') :
    Shares mint good (call c) s := by
  refine ends_call (fun h => absurd h hc) (fun r' s' hm => ?_) fun _ _ _ => trivial
  obtain ⟨hr, hstaged⟩ := View.moves_lookup hm hp
  rw [Except.ok.inj hr]
  exact hgood s' (View.after_of_moves hc hm) hstaged

theorem shares_create {c : Call} {k : Entity} {row : k.Of} (hc : c ≠ .commit)
    (hp : shape (s.memory.perform mint s.staged c) = shape (s.memory.createRow s.staged k row))
    {good : Bool → View → Prop}
    (hdone : ∀ s', After mint s s' →
      Table.find? (s.staged.of k) (s.memory.committed.of k) (Row.key row) = none →
      s'.staged = s.staged.set k ((s.staged.of k).put (Row.guid row) row) → good true s')
    (hnot : ∀ s', After mint s s' → s'.staged = s.staged → good false s') :
    Shares mint good (create c) s := by
  refine ends_create (fun h => absurd h hc) (fun r s' hm => ?_) (fun e s' hm _ => ?_)
    fun _ _ _ _ => trivial
  · rcases View.moves_createRow hm hp with ⟨_, hfree, hstaged⟩ | ⟨hok, _⟩
    · exact hdone s' (View.after_of_moves hc hm) hfree hstaged
    · cases hok
  · rcases View.moves_createRow hm hp with ⟨hok, _⟩ | ⟨_, hstaged⟩
    · cases hok
    · exact hnot s' (View.after_of_moves hc hm) hstaged

/-- A creation whose error ends the upsert. -/
theorem shares_insert {c : Call} {k : Entity} {row : k.Of} (hc : c ≠ .commit)
    (hp : shape (s.memory.perform mint s.staged c) = shape (s.memory.createRow s.staged k row))
    {good : c.Reply → View → Prop}
    (hdone : ∀ r s', After mint s s' →
      Table.find? (s.staged.of k) (s.memory.committed.of k) (Row.key row) = none →
      s'.staged = s.staged.set k ((s.staged.of k).put (Row.guid row) row) → good r s') :
    Shares mint good (call c) s := by
  refine ends_call (fun h => absurd h hc) (fun r s' hm => ?_) fun _ _ _ => trivial
  rcases View.moves_createRow hm hp with ⟨_, hfree, hstaged⟩ | ⟨hok, _⟩
  · exact hdone r s' (View.after_of_moves hc hm) hfree hstaged
  · cases hok

theorem shares_update {c : Call} {k : Entity} {g : Guid} {f : k.Of → k.Of} (hc : c ≠ .commit)
    (hp : shape (s.memory.perform mint s.staged c) = shape (s.memory.updateRow s.staged k g f))
    {good : c.Reply → View → Prop}
    (hdone : ∀ r s' row, After mint s s' →
      Table.findGuid? (s.staged.of k) (s.memory.committed.of k) g = some row →
      s'.staged = s.staged.set k ((s.staged.of k).put g (f row)) → good r s') :
    Shares mint good (call c) s := by
  refine ends_call (fun h => absurd h hc) (fun r s' hm => ?_) fun _ _ _ => trivial
  obtain ⟨row, hrow, hstaged⟩ := View.moves_updateRow hm hp
  exact hdone r s' row (View.after_of_moves hc hm) hrow hstaged

/-! ## The stages of an upsert -/

/-- Nothing is staged but periods. -/
structure Blank (s : View) : Prop where
  events : s.staged.events = []
  titles : s.staged.titles = []
  teams : s.staged.teams = []
  teamNames : s.staged.teamNames = []

theorem Blank.of_eq {s' : View} (h : Blank s) (hstaged : s'.staged = s.staged) : Blank s' := by
  obtain ⟨h₁, h₂, h₃, h₄⟩ := h
  constructor <;> rw [hstaged] <;> assumption

theorem shares_found_period (hs : Fair mint s) (hb : Blank s) (code : String) :
    Shares mint (fun row s' => Fair mint s' ∧ Blank s' ∧ s'.Sees .period row.guid)
      (call (.periodByCode code) >>= found .period code) s := by
  refine ends_bind (shares_lookup (by nofun) rfl fun s₁ ha₁ hst₁ => ?_)
  cases hfind : Table.find? s.staged.periods s.memory.committed.periods code with
  | some row =>
    have hsees : s.Sees .period row.guid := hs.sees_of_find? (k := .period) hfind
    exact ends_pure ⟨ha₁.fair, hb.of_eq hst₁, ha₁.keeps_of_eq hst₁ _ _ hsees⟩
  | none => exact ends_throw trivial

theorem shares_period (hs : Fair mint s) (hb : Blank s) (spec : PeriodSpec) :
    Shares mint (fun row s' => Fair mint s' ∧ Blank s' ∧ s'.Sees .period row.guid)
      (period spec) s := by
  unfold period
  refine ends_bind (shares_lookup (by nofun) rfl fun s₁ ha₁ hst₁ => ?_)
  have hb₁ := hb.of_eq hst₁
  cases hfind : Table.find? s.staged.periods s.memory.committed.periods spec.code with
  | some row =>
    have hsees : s.Sees .period row.guid := hs.sees_of_find? (k := .period) hfind
    exact ends_pure ⟨ha₁.fair, hb₁, ha₁.keeps_of_eq hst₁ _ _ hsees⟩
  | none =>
    have hp := congrArg shape (s₁.memory.perform_createPeriod mint s₁.staged
      { code := spec.code, isActive := true, scheduled := spec.scheduled, remark := spec.remark,
        extra := .object [] })
    refine ends_bind (shares_create (by nofun) hp (fun s₂ ha₂ _ hst₂ => ?_) fun s₂ ha₂ hst₂ => ?_)
    · have hb₂ : Blank s₂ := by
        obtain ⟨h₁, h₂, h₃, h₄⟩ := hb₁
        constructor <;> rw [hst₂] <;> assumption
      exact shares_found_period ha₂.fair hb₂ spec.code
    · exact shares_found_period ha₂.fair (hb₁.of_eq hst₂) spec.code

/-- No event and no title is staged, and the staged teams have their names but one. -/
structure Roster (pending : Option Guid) (s : View) : Prop where
  linked : Tables.LinkedTeams pending s.memory.committed s.staged
  events : s.staged.events = []
  titles : s.staged.titles = []

theorem Blank.roster (h : Blank s) : Roster none s :=
  ⟨Tables.linkedTeams_of_nil h.teams h.teamNames, h.events, h.titles⟩

theorem Roster.of_eq {pending : Option Guid} {s' : View} (h : Roster pending s)
    (ha : After mint s s') (hstaged : s'.staged = s.staged) : Roster pending s' := by
  obtain ⟨hlinked, hevents, htitles⟩ := h
  rw [← hstaged] at hlinked hevents htitles
  exact ⟨ha.linkedTeams hlinked, hevents, htitles⟩

/-- The team that was just staged is found again. -/
theorem find?_of_staged_team {pending : Option Guid} (hs : Fair mint s) (hr : Roster pending s)
    {row : Team} (hrow : s.staged.teams.get? row.guid = some row) :
    Table.find? s.staged.teams s.memory.committed.teams (Row.key row) = some row := by
  refine Table.find?_eq_of_staged (Table.mem_rows_of_get? hrow) ?_
  intro r hmem hkey
  have hget := (hs.admits .team).get?_of_mem_rows hmem
  have hnew := hr.linked.new _ ((Table.contains_iff _ _).mpr ⟨r, hget⟩)
  have hnew' := hr.linked.new _ ((Table.contains_iff _ _).mpr ⟨row, hrow⟩)
  have hguid := (hs.admits .team).unique _ _ _ _ hget hrow hnew hnew' hkey
  rw [hguid] at hget
  exact Option.some.inj (hget.symm.trans hrow)

theorem Roster.addTeam {s' : View} (hd : mint.Distinct) (hs : Fair mint s) (hr : Roster none s)
    (ha : After mint s s') {team : Team} (hg : team.guid = mint.row s.memory.rows)
    (hstaged : s'.staged = s.staged.set .team (s.staged.teams.put team.guid team)) :
    Roster (some team.guid) s' := by
  have hcommitted : s.memory.committed.teams.contains team.guid = false :=
    hg ▸ hs.new_committed hd .team
  have hnew : s.staged.teams.contains team.guid = false := hg ▸ hs.new_staged hd .team
  have hlinked := hr.linked.addTeam hcommitted hnew
  rw [← hstaged] at hlinked
  refine ⟨ha.linkedTeams hlinked, ?_, ?_⟩
  · rw [hstaged]
    exact hr.events
  · rw [hstaged]
    exact hr.titles

theorem Roster.addName {s' : View} (hd : mint.Distinct) (hs : Fair mint s) {name : TeamName}
    (hr : Roster (some name.team) s) (hteam : s.staged.teams.contains name.team = true)
    (ha : After mint s s') (hg : name.guid = mint.name s.memory.names)
    (hstaged : s'.staged = s.staged.set .teamName (s.staged.teamNames.put name.guid name)) :
    Roster none s' := by
  have hnew : s.staged.teamNames.get? name.guid = none :=
    (Table.contains_eq_false_iff _ _).mp (hg ▸ hs.new_staged hd .teamName)
  have hlinked := hr.linked.addName hteam hnew
  rw [← hstaged] at hlinked
  refine ⟨ha.linkedTeams hlinked, ?_, ?_⟩
  · rw [hstaged]
    exact hr.events
  · rw [hstaged]
    exact hr.titles

/-- The team is there, and all that was visible still is. -/
structure Joined (mint : Mint) (s : View) (row : Team) (s' : View) : Prop where
  fair : Fair mint s'
  roster : Roster none s'
  keeps : Keeps s s'
  sees : s'.Sees .team row.guid

/-- A team that was created gets its name. -/
theorem shares_named (hd : mint.Distinct) (hs : Fair mint s) {row : Team}
    (hr : Roster (some row.guid) s) (hrow : s.staged.teams.get? row.guid = some row)
    (t : TeamRef) (language : Guid) : Shares mint (Joined mint s) (do
      call (.createTeamName
        { team := row.guid, language, name := t.name, shortName := t.shortName })
      return row) s := by
  have hcontains := (Table.contains_iff _ _).mpr ⟨row, hrow⟩
  have hp := congrArg shape (s.memory.perform_createTeamName mint s.staged
    { team := row.guid, language, name := t.name, shortName := t.shortName })
  refine ends_bind (shares_insert (by nofun) hp fun _ s₁ ha₁ _ hst₁ => ?_)
  have hkeeps := ha₁.keeps_of_put hst₁
  exact ends_pure ⟨ha₁.fair, hr.addName hd hs hcontains ha₁ rfl hst₁, hkeeps,
    hkeeps .team _ (Or.inr hcontains)⟩

theorem shares_team (hd : mint.Distinct) (hs : Fair mint s) (hr : Roster none s) (t : TeamRef)
    (ecosystem language : Guid) :
    Shares mint (Joined mint s) (team t ecosystem language) s := by
  unfold team
  refine ends_bind (shares_lookup (by nofun) rfl fun s₁ ha₁ hst₁ => ?_)
  have hr₁ := hr.of_eq ha₁ hst₁
  have hk₁ := ha₁.keeps_of_eq hst₁
  cases hfind : Table.find? s.staged.teams s.memory.committed.teams
      (pairKey t.externalId ecosystem) with
  | some row =>
    have hsees : s.Sees .team row.guid := hs.sees_of_find? (k := .team) hfind
    exact ends_pure ⟨ha₁.fair, hr₁, hk₁, hk₁ _ _ hsees⟩
  | none =>
    have hp := congrArg shape (s₁.memory.perform_createTeam mint s₁.staged
      { ecosystem, externalId := t.externalId, logo := t.logoUrl })
    obtain ⟨row, hguid, hkey, hrow⟩ : ∃ row : Team, row.guid = mint.row s₁.memory.rows ∧
        Row.key row = pairKey t.externalId ecosystem ∧
        row = TeamDraft.toTeam { ecosystem, externalId := t.externalId, logo := t.logoUrl }
          (mint.row s₁.memory.rows) := ⟨_, rfl, rfl, rfl⟩
    rw [← hrow] at hp
    refine ends_bind (shares_create (by nofun) hp (fun s₂ ha₂ _ hst₂ => ?_) fun s₂ ha₂ hst₂ => ?_)
    · have hr₂ := hr₁.addTeam hd ha₁.fair ha₂ hguid hst₂
      have hget₂ : s₂.staged.teams.get? row.guid = some row := by
        rw [hst₂]
        exact (Table.get?_put _ _ _ _).trans (if_pos rfl)
      refine ends_bind (shares_lookup (by nofun) rfl fun s₃ ha₃ hst₃ => ?_)
      rw [← hkey, find?_of_staged_team ha₂.fair hr₂ hget₂]
      have hget₃ : s₃.staged.teams.get? row.guid = some row := by rw [hst₃, hget₂]
      have hk₃ := hk₁.trans ((ha₂.keeps_of_put hst₂).trans (ha₃.keeps_of_eq hst₃))
      refine ends_bind (ends_pure ?_)
      refine (shares_named hd ha₃.fair (hr₂.of_eq ha₃ hst₃) hget₃ t language).imp fun a s₄ h₄ => ?_
      exact ⟨h₄.fair, h₄.roster, hk₃.trans h₄.keeps, h₄.sees⟩
    · refine ends_bind (shares_lookup (by nofun) rfl fun s₃ ha₃ hst₃ => ?_)
      cases hagain : Table.find? s₂.staged.teams s₂.memory.committed.teams
          (pairKey t.externalId ecosystem) with
      | some row =>
        have hsees : s₂.Sees .team row.guid := ha₂.fair.sees_of_find? (k := .team) hagain
        have hk₃ := ha₃.keeps_of_eq hst₃
        refine ends_bind (ends_pure (ends_pure ⟨ha₃.fair, ?_, ?_, hk₃ _ _ hsees⟩))
        · exact (hr₁.of_eq ha₂ hst₂).of_eq ha₃ hst₃
        · exact hk₁.trans ((ha₂.keeps_of_eq hst₂).trans hk₃)
      | none => exact ends_bind (ends_throw trivial)

theorem shares_teams (hd : mint.Distinct) (hs : Fair mint s) (hr : Roster none s)
    (pair : TeamPair) (language : Guid) :
    Shares mint (fun both s' => Fair mint s' ∧ Roster none s' ∧ Keeps s s' ∧
      s'.Sees .team both.1.guid ∧ s'.Sees .team both.2.guid) (teams pair language) s := by
  unfold teams
  refine ends_bind ((shares_team hd hs hr pair.home pair.ecosystem language).imp ?_)
  intro home s₁ h₁
  refine ends_bind ((shares_team hd h₁.fair h₁.roster pair.away pair.ecosystem language).imp ?_)
  intro away s₂ h₂
  exact ends_pure ⟨h₂.fair, h₂.roster, h₁.keeps.trans h₂.keeps, h₂.keeps _ _ h₁.sees, h₂.sees⟩

/-- The rows that an event is to refer to. -/
structure Refers (s : View) (period : Guid) (teams : Option (Team × Team)) : Prop where
  period : s.Sees .period period
  home : ∀ both, teams = some both → s.Sees .team both.1.guid
  away : ∀ both, teams = some both → s.Sees .team both.2.guid

theorem Refers.keeps {s' : View} {period : Guid} {teams : Option (Team × Team)}
    (h : Refers s period teams) (hk : Keeps s s') : Refers s' period teams :=
  ⟨hk _ _ h.period, fun both he => hk _ _ (h.home both he), fun both he => hk _ _ (h.away both he)⟩

/-- The event of the outcome is staged, alone, and is new exactly if it was created. -/
structure Placed (o : Observation) (outcome : Outcome) (s : View) : Prop where
  event : ∃ e, s.staged.events.get? outcome.guid = some e ∧ e.externalId = o.externalId
  only : ∀ g, s.staged.events.contains g = true → g = outcome.guid
  created : ∀ g, outcome = .created g → s.memory.committed.events.contains g = false
  updated : ∀ g, outcome = .updated g → s.memory.committed.events.contains g = true

theorem Placed.of_eq {o : Observation} {outcome : Outcome} {s' : View} (h : Placed o outcome s)
    (ha : After mint s s') (hstaged : s'.staged.events = s.staged.events) :
    Placed o outcome s' where
  event := by
    rw [hstaged]
    exact h.event
  only g hg := h.only g (hstaged ▸ hg)
  created g he := by
    obtain ⟨e, hget, _⟩ := h.event
    subst he
    refine ha.own .event g ?_ (h.created g rfl)
    change s'.staged.events.contains g = true
    rw [hstaged]
    exact (Table.contains_iff _ _).mpr ⟨e, hget⟩
  updated g he := ha.contains .event (h.updated g he)

theorem linkedEvents_of_eq {s' : View} (h : Tables.LinkedEvents s.memory.committed s.staged)
    (hk : Keeps s s') (hstaged : s'.staged.events = s.staged.events) :
    Tables.LinkedEvents s'.memory.committed s'.staged where
  period g e hg := hk _ _ (h.period g e (hstaged ▸ hg))
  home g e hg := (h.home g e (hstaged ▸ hg)).imp_right (hk .team _)
  away g e hg := (h.away g e (hstaged ▸ hg)).imp_right (hk .team _)

/-- An upsert that has staged its event and has yet to stage its title. -/
structure Untitled (mint : Mint) (o : Observation) (outcome : Outcome) (s : View) : Prop where
  fair : Fair mint s
  teams : Tables.LinkedTeams none s.memory.committed s.staged
  events : Tables.LinkedEvents s.memory.committed s.staged
  titles : s.staged.titles = []
  placed : Placed o outcome s

theorem Untitled.of_eq {o : Observation} {outcome : Outcome} {s' : View}
    (h : Untitled mint o outcome s) (ha : After mint s s') (hstaged : s'.staged = s.staged) :
    Untitled mint o outcome s' := by
  have hevents : s'.staged.events = s.staged.events := by rw [hstaged]
  have hteams := h.teams
  have htitles := h.titles
  rw [← hstaged] at hteams htitles
  exact ⟨ha.fair, ha.linkedTeams hteams,
    linkedEvents_of_eq h.events (ha.keeps_of_eq hstaged) hevents, htitles,
    h.placed.of_eq ha hevents⟩

/-- As long as no event is staged, an event that is found is committed. -/
theorem committed_of_find? (hs : Fair mint s) (hr : Roster none s) {id : String} {row : Event}
    (h : Table.find? s.staged.events s.memory.committed.events id = some row) :
    row.externalId = id ∧ s.memory.committed.events.get? row.guid = some row := by
  obtain ⟨hkey, hstaged | ⟨hcommitted, _⟩⟩ := Table.find?_some h
  · rw [hr.events] at hstaged
    cases hstaged
  · exact ⟨hkey, (hs.sound .event).get?_of_mem_rows hcommitted⟩

/-- The first event that is staged. -/
theorem untitled_of_put {o : Observation} {outcome : Outcome} {s' : View} (hr : Roster none s)
    (ha : After mint s s') {e : Event} {g : Guid}
    (hstaged : s'.staged = s.staged.set .event (s.staged.events.put g e))
    (hid : e.externalId = o.externalId) (hg : outcome.guid = g)
    (hperiod : s'.Sees .period e.period)
    (hhome : Tables.SeesTeam s'.memory.committed s'.staged e.homeTeam)
    (haway : Tables.SeesTeam s'.memory.committed s'.staged e.awayTeam)
    (hcreated : ∀ g', outcome = .created g' → s'.memory.committed.events.contains g' = false)
    (hupdated : ∀ g', outcome = .updated g' → s'.memory.committed.events.contains g' = true) :
    Untitled mint o outcome s' := by
  have hevents : s'.staged.events = [(g, e)] := by
    rw [hstaged]
    change s.staged.events.put g e = _
    rw [hr.events]
    rfl
  have honly : ∀ g' e', s'.staged.events.get? g' = some e' → g' = g ∧ e' = e := by
    intro g' e' hget
    rw [hevents] at hget
    exact (Table.get?_singleton_iff g e g' e').mp hget
  have hteams : Tables.LinkedTeams none s.memory.committed s'.staged := by
    rw [hstaged]
    exact ⟨hr.linked.new, hr.linked.team, hr.linked.named, hr.linked.once⟩
  refine ⟨ha.fair, ha.linkedTeams hteams, ⟨?_, ?_, ?_⟩, ?_,
    ⟨⟨e, ?_, hid⟩, ?_, hcreated, hupdated⟩⟩
  · intro g' e' hget
    rw [(honly g' e' hget).2]
    exact hperiod
  · intro g' e' hget
    rw [(honly g' e' hget).2]
    exact hhome
  · intro g' e' hget
    rw [(honly g' e' hget).2]
    exact haway
  · rw [hstaged]
    exact hr.titles
  · rw [hevents, hg]
    exact (Table.get?_singleton_iff g e g e).mpr ⟨rfl, rfl⟩
  · intro g' hc
    obtain ⟨e', hget⟩ := (Table.contains_iff _ _).mp hc
    rw [hg]
    exact (honly g' e' hget).1

theorem seesTeam_of_teams {period : Guid} {teams : Option (Team × Team)} (h : Refers s period teams)
    {home away : Guid} (hhome : Tables.SeesTeam s.memory.committed s.staged home)
    (haway : Tables.SeesTeam s.memory.committed s.staged away) :
    Tables.SeesTeam s.memory.committed s.staged ((teams.map (·.1.guid)).getD home) ∧
      Tables.SeesTeam s.memory.committed s.staged ((teams.map (·.2.guid)).getD away) := by
  cases hteams : teams with
  | none => exact ⟨hhome, haway⟩
  | some both => exact ⟨Or.inr (h.home both hteams), Or.inr (h.away both hteams)⟩

theorem shares_event (hd : mint.Distinct) (hs : Fair mint s) (hr : Roster none s)
    (o : Observation) {period : Guid} {teams : Option (Team × Team)}
    (href : Refers s period teams) : Shares mint (Untitled mint o) (event o period teams) s := by
  unfold event
  refine ends_bind (shares_lookup (by nofun) rfl fun s₁ ha₁ hst₁ => ?_)
  have hr₁ := hr.of_eq ha₁ hst₁
  have href₁ := href.keeps (ha₁.keeps_of_eq hst₁)
  cases hfind : Table.find? s.staged.events s.memory.committed.events o.externalId with
  | some row =>
    obtain ⟨hkey, hold⟩ := committed_of_find? hs hr hfind
    obtain ⟨row₁, hrow₁, hpart⟩ := ha₁.continues .event row.guid row hold
    have hid : row₁.externalId = o.externalId := (congrArg Prod.fst hpart).trans hkey
    have hp := congrArg shape (s₁.memory.perform_updateEvent mint s₁.staged row.guid
      (patch o period teams))
    refine ends_bind (shares_update (by nofun) hp fun _ s₂ row' ha₂ hseen hst₂ => ?_)
    have href₂ := href₁.keeps (ha₂.keeps_of_put hst₂)
    have hsame : row' = row₁ := by
      rw [Table.findGuid?_eq] at hseen
      change (Table.get? s₁.staged.events _).or _ = _ at hseen
      rw [hr₁.events] at hseen
      exact Option.some.inj (hseen.symm.trans hrow₁)
    have hteam : ∀ g, s₁.memory.committed.HasTeam g →
        Tables.SeesTeam s₂.memory.committed s₂.staged g :=
      fun g hg => hg.imp_right fun hc => Or.inl (ha₂.contains .team hc)
    obtain ⟨hhome, haway⟩ := seesTeam_of_teams href₂
      (hteam _ (ha₁.fair.complete.home _ row₁ hrow₁))
      (hteam _ (ha₁.fair.complete.away _ row₁ hrow₁))
    have hcommitted : s₂.memory.committed.events.contains row.guid = true :=
      ha₂.contains .event ((Table.contains_iff _ _).mpr ⟨row₁, hrow₁⟩)
    subst hsame
    refine ends_pure (untitled_of_put hr₁ ha₂ hst₂ hid rfl href₂.period hhome haway nofun ?_)
    intro g hg
    cases hg
    exact hcommitted
  | none =>
    have hp := congrArg shape (s₁.memory.perform_createEvent mint s₁.staged (draft o period teams))
    refine ends_bind (shares_insert (by nofun) hp fun _ s₂ ha₂ _ hst₂ => ?_)
    have href₂ := href₁.keeps (ha₂.keeps_of_put hst₂)
    obtain ⟨hhome, haway⟩ := seesTeam_of_teams href₂ (Or.inl rfl) (Or.inl rfl)
    have hnew : s₂.memory.committed.events.contains (mint.row s₁.memory.rows) = false := by
      refine ha₂.own .event _ ?_ (ha₁.fair.new_committed hd .event)
      rw [hst₂, Tables.of_set_self]
      exact (Table.contains_put _ _ _ _).mpr (Or.inl rfl)
    have h₂ : Untitled mint o (.created (mint.row s₁.memory.rows)) s₂ := by
      refine untitled_of_put hr₁ ha₂ hst₂ rfl rfl href₂.period hhome haway ?_ nofun
      intro g hg
      cases hg
      exact hnew
    have hfound : Table.find? s₂.staged.events s₂.memory.committed.events o.externalId =
        some ((draft o period teams).toEvent (mint.row s₁.memory.rows)) := by
      have hevents : s₂.staged.events.rows =
          [(draft o period teams).toEvent (mint.row s₁.memory.rows)] := by
        rw [hst₂]
        change (Table.put _ _ s₁.staged.events).rows = _
        rw [hr₁.events]
        rfl
      refine Table.find?_eq_of_staged (hevents ▸ List.mem_cons_self) ?_
      intro r hmem _
      rw [hevents] at hmem
      exact List.mem_singleton.mp hmem
    refine ends_bind (shares_lookup (by nofun) rfl fun s₃ ha₃ hst₃ => ?_)
    rw [hfound]
    exact ends_bind (ends_pure (ends_pure (h₂.of_eq ha₃ hst₃)))

/-- An upsert that has staged all its rows. -/
structure Titled (mint : Mint) (o : Observation) (outcome : Outcome) (s : View) : Prop where
  fair : Fair mint s
  teams : Tables.LinkedTeams none s.memory.committed s.staged
  events : Tables.LinkedEvents s.memory.committed s.staged
  titles : Tables.LinkedTitles s.memory.committed s.staged
  placed : Placed o outcome s

/-- The event of a title that is found by its key, as long as no title is staged. -/
theorem event_of_find? (hslash : mint.Slashless) {o : Observation} {outcome : Outcome}
    (h : Untitled mint o outcome s) {language : Guid} {row : Title}
    (hfind : Table.find? s.staged.titles s.memory.committed.titles
      (pairKey outcome.guid language) = some row) :
    s.memory.committed.events.contains outcome.guid = true := by
  obtain ⟨hkey, hstaged | ⟨hcommitted, _⟩⟩ := Table.find?_some hfind
  · rw [h.titles] at hstaged
    cases hstaged
  · have hget := (h.fair.sound .title).get?_of_mem_rows hcommitted
    have hevent := h.fair.complete.event _ row hget
    obtain ⟨e, he, _⟩ := h.placed.event
    obtain ⟨i, _, hi⟩ := (h.fair.sound .event).given _ hevent
    obtain ⟨j, _, hj⟩ := (h.fair.admits .event).given _ ((Table.contains_iff _ _).mpr ⟨e, he⟩)
    rw [← (Store.pairKey_injective (hi ▸ hslash i) (hj ▸ hslash j) hkey).1]
    exact hevent

theorem titled_of_committed {o : Observation} {outcome : Outcome}
    (h : Untitled mint o outcome s)
    (hcommitted : s.memory.committed.events.contains outcome.guid = true) :
    Titled mint o outcome s := by
  refine ⟨h.fair, h.teams, h.events, ⟨?_, ?_⟩, h.placed⟩
  · intro k l hget
    rw [h.titles] at hget
    cases hget
  · intro g hg hnew
    rw [h.placed.only g hg, hcommitted] at hnew
    cases hnew

theorem titled_of_put {o : Observation} {outcome : Outcome} {s' : View}
    (h : Untitled mint o outcome s) (ha : After mint s s') {l : Title} {k : Guid}
    (hstaged : s'.staged = s.staged.set .title (s.staged.titles.put k l))
    (hsees : s'.Sees .event l.event)
    (htitled : l.event = outcome.guid ∨
      s'.memory.committed.events.contains outcome.guid = true) :
    Titled mint o outcome s' := by
  have htitles : s'.staged.titles = [(k, l)] := by
    rw [hstaged]
    change s.staged.titles.put k l = _
    rw [h.titles]
    rfl
  have hevents : s'.staged.events = s.staged.events := by
    rw [hstaged]
    rfl
  have hteams : Tables.LinkedTeams none s.memory.committed s'.staged := by
    rw [hstaged]
    exact ⟨h.teams.new, h.teams.team, h.teams.named, h.teams.once⟩
  have hplaced := h.placed.of_eq ha hevents
  refine ⟨ha.fair, ha.linkedTeams hteams,
    linkedEvents_of_eq h.events (ha.keeps_of_put hstaged) hevents, ⟨?_, ?_⟩, hplaced⟩
  · intro k' l' hget
    rw [htitles] at hget
    rw [((Table.get?_singleton_iff k l k' l').mp hget).2]
    exact hsees
  · intro g hg hnew
    rcases htitled with he | hcommitted
    · refine ⟨k, l, ?_, he.trans (hplaced.only g hg).symm⟩
      rw [htitles]
      exact (Table.get?_singleton_iff k l k l).mpr ⟨rfl, rfl⟩
    · rw [hplaced.only g hg, hcommitted] at hnew
      cases hnew

theorem shares_title (hslash : mint.Slashless) {o : Observation} {outcome : Outcome}
    (h : Untitled mint o outcome s) :
    Shares mint (fun _ s' => Titled mint o outcome s') (title o outcome.guid) s := by
  unfold title
  refine ends_bind (shares_lookup (by nofun) rfl fun s₁ ha₁ hst₁ => ?_)
  have h₁ := h.of_eq ha₁ hst₁
  cases hfind : Table.find? s.staged.titles s.memory.committed.titles
      (pairKey outcome.guid o.identity.language) with
  | some row =>
    have hcommitted : s₁.memory.committed.events.contains outcome.guid = true :=
      ha₁.contains .event (event_of_find? hslash h hfind)
    by_cases htitle : row.title ≠ o.title
    · simp only [if_pos htitle]
      have hp := congrArg shape (s₁.memory.perform_updateTitle mint s₁.staged row.guid o.title)
      refine shares_update (by nofun) hp fun _ s₂ row' ha₂ hseen hst₂ => ?_
      have hold : s₁.memory.committed.titles.get? row.guid = some row' := by
        rw [Table.findGuid?_eq] at hseen
        change (Table.get? s₁.staged.titles _).or _ = _ at hseen
        rwa [h₁.titles] at hseen
      have hevent := ha₁.fair.complete.event _ row' hold
      exact titled_of_put h₁ ha₂ hst₂ (Or.inl (ha₂.contains .event hevent))
        (Or.inr (ha₂.contains .event hcommitted))
    · simp only [if_neg htitle]
      exact ends_pure (titled_of_committed h₁ hcommitted)
  | none =>
    have hp := congrArg shape (s₁.memory.perform_createTitle mint s₁.staged
      { event := outcome.guid, language := o.identity.language, title := o.title
        rules := o.rules })
    refine shares_insert (by nofun) hp fun _ s₂ ha₂ _ hst₂ => ?_
    obtain ⟨e, he, _⟩ := h₁.placed.event
    have hsees : s₁.Sees .event outcome.guid := Or.inr ((Table.contains_iff _ _).mpr ⟨e, he⟩)
    exact titled_of_put h₁ ha₂ hst₂ (ha₂.keeps_of_put hst₂ _ _ hsees) (Or.inl rfl)

/-! ## Whole upserts -/

/-- An upsert that succeeded: its event is committed, and if it was created, then no event of its
id was committed before. -/
def Written (o : Observation) (r : Except UpsertError Outcome) (s : View) : Prop :=
  ∀ outcome, r = .ok outcome →
    (∃ e, s.memory.committed.events.get? outcome.guid = some e ∧ e.externalId = o.externalId) ∧
      ∀ g, outcome = .created g → s.before.events.row? o.externalId = none

theorem shares_commit {o : Observation} {outcome : Outcome} (h : Titled mint o outcome s) :
    Shares mint (fun _ s' => Written o (.ok outcome) s') (call .commit) s := by
  refine ends_call (fun _ => h.fair.complete.publish h.fair.admits h.teams h.events h.titles)
    (fun r s' hm => ?_) fun _ _ _ => trivial
  obtain ⟨m, hp, hrely, hbefore⟩ := hm
  simp only [Memory.perform] at hp
  cases hc : s.staged.conflict? s.memory.committed with
  | some e =>
    rw [hc] at hp
    cases (Prod.mk.inj hp).1
  | none =>
    rw [hc] at hp
    obtain ⟨_, rfl, _⟩ := by simpa only [Prod.mk.injEq] using hp
    obtain ⟨e, he, hid⟩ := h.placed.event
    intro _ hout
    rw [← Except.ok.inj hout]
    refine ⟨?_, ?_⟩
    · have hpublished : (s.memory.committed.publish s.staged).events.get? outcome.guid = some e :=
        (Tables.get?_publish h.fair.admits .event outcome.guid).trans
          (Option.or_eq_some_iff.mpr (Or.inl he))
      obtain ⟨e', he', hpart⟩ := hrely.continues .event outcome.guid e hpublished
      exact ⟨e', he', (congrArg Prod.fst hpart).trans hid⟩
    · intro g hg
      have hown : e.guid = outcome.guid := (h.fair.admits .event).own _ e he
      have hnew : s.memory.committed.events.contains e.guid = false := by
        rw [hown, hg]
        exact h.placed.created g hg
      have hfree := (Tables.conflict?_eq_none_iff _ _).mp hc .event
      have hnone := (Table.conflict?_eq_none_iff _ _).mp hfree e (Table.mem_rows_of_get? he) hnew
      rw [hbefore, ← hid]
      exact (Table.row?_eq_none_iff _ _).mpr hnone

/-- The last stages: the event, its title and the commit. -/
theorem shares_rest (hd : mint.Distinct) (hslash : mint.Slashless) (hs : Fair mint s)
    (hr : Roster none s) (o : Observation) {period : Guid} {teams : Option (Team × Team)}
    (href : Refers s period teams) :
    Shares mint (fun outcome s' => Written o (.ok outcome) s') (do
      let outcome ← event o period teams
      title o outcome.guid
      call .commit
      return outcome) s := by
  refine ends_bind ((shares_event hd hs hr o href).imp ?_)
  intro outcome s₁ h₁
  refine ends_bind ((shares_title hslash h₁).imp ?_)
  intro _ s₂ h₂
  refine ends_bind ((shares_commit h₂).imp ?_)
  intro _ s₃ h₃
  exact ends_pure h₃

theorem shares_steps (hd : mint.Distinct) (hslash : mint.Slashless) (o : Observation) (s : View) :
    Shares mint (fun outcome s' => Written o (.ok outcome) s') (steps o) s := by
  unfold steps
  refine ends_bind (ends_call nofun (fun _ s₁ hm => ?_) fun _ _ _ => trivial)
  have hs₁ := (View.after_of_moves (by nofun) hm).fair
  obtain ⟨m, hp, _⟩ := hm
  have hstaged : s₁.staged = {} := (Prod.mk.inj (Prod.mk.inj hp).2).2.symm
  have hb₁ : Blank s₁ := by constructor <;> rw [hstaged]
  refine ends_bind ((shares_period hs₁ hb₁ o.period).imp ?_)
  rintro period s₂ ⟨hs₂, hb₂, hperiod⟩
  cases hteams : o.teams with
  | some pair =>
    refine ends_bind (ends_map ((shares_teams hd hs₂ hb₂.roster pair o.identity.language).imp ?_))
    rintro both s₃ ⟨hs₃, hr₃, hk₃, hhome, haway⟩
    refine shares_rest hd hslash hs₃ hr₃ o ⟨hk₃ _ _ hperiod, ?_, ?_⟩
    · rintro _ ⟨⟩
      exact hhome
    · rintro _ ⟨⟩
      exact haway
  | none =>
    exact ends_bind (ends_pure (shares_rest hd hslash hs₂ hb₂.roster o ⟨hperiod, nofun, nofun⟩))

/-- Whatever others commit in between, an upsert commits only what keeps the tables complete. -/
theorem program_written (hd : mint.Distinct) (hslash : mint.Slashless) (o : Observation)
    (s : View) : (program o).Always (shared mint) (Written o) s := by
  refine Program.Always.imp ?_ (shares_steps hd hslash o s)
  intro r s' hr
  cases r with
  | ok outcome => exact hr
  | error e => exact nofun

end Upsert

end LiveEvents
