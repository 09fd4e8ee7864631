import LiveEvents.Proofs.StoreSteps

/-!
# Complete tables

Tables are complete if every reference in them leads to a row: events have their periods, their
teams and at least one title, and every team has exactly one name. Staged rows are linked to the
committed rows if their own references lead to a row of either kind; publishing linked rows keeps
complete tables complete.
-/

namespace LiveEvents.Store

namespace Tables

/-- A team column leads to a team, or stands for none. -/
def HasTeam (t : Tables) (g : Guid) : Prop := g = noTeam ∨ t.teams.contains g = true

structure Complete (t : Tables) : Prop where
  period : ∀ g e, t.events.get? g = some e → t.periods.contains e.period = true
  home : ∀ g e, t.events.get? g = some e → t.HasTeam e.homeTeam
  away : ∀ g e, t.events.get? g = some e → t.HasTeam e.awayTeam
  event : ∀ h l, t.titles.get? h = some l → t.events.contains l.event = true
  titled : ∀ g, t.events.contains g = true → ∃ h l, t.titles.get? h = some l ∧ l.event = g
  team : ∀ h n, t.teamNames.get? h = some n → t.teams.contains n.team = true
  named : ∀ g, t.teams.contains g = true → ∃ h n, t.teamNames.get? h = some n ∧ n.team = g
  once : ∀ h h' n n', t.teamNames.get? h = some n → t.teamNames.get? h' = some n' →
    n.team = n'.team → h = h'

theorem complete_empty : Complete {} := by
  constructor <;> simp [Table.contains]

/-- A guid of a committed or of a staged row. -/
def Sees (committed staged : Tables) (k : Entity) (g : Guid) : Prop :=
  (committed.of k).contains g = true ∨ (staged.of k).contains g = true

def SeesTeam (committed staged : Tables) (g : Guid) : Prop :=
  g = noTeam ∨ Sees committed staged .team g

/-- The staged teams are new and have their names, except for a team that has none yet. -/
structure LinkedTeams (pending : Option Guid) (committed staged : Tables) : Prop where
  new : ∀ g, staged.teams.contains g = true → committed.teams.contains g = false
  team : ∀ h n, staged.teamNames.get? h = some n →
    staged.teams.contains n.team = true ∧ pending ≠ some n.team
  named : ∀ g, staged.teams.contains g = true → pending ≠ some g →
    ∃ h n, staged.teamNames.get? h = some n ∧ n.team = g
  once : ∀ h h' n n', staged.teamNames.get? h = some n → staged.teamNames.get? h' = some n' →
    n.team = n'.team → h = h'

structure LinkedEvents (committed staged : Tables) : Prop where
  period : ∀ g e, staged.events.get? g = some e → Sees committed staged .period e.period
  home : ∀ g e, staged.events.get? g = some e → SeesTeam committed staged e.homeTeam
  away : ∀ g e, staged.events.get? g = some e → SeesTeam committed staged e.awayTeam

structure LinkedTitles (committed staged : Tables) : Prop where
  event : ∀ h l, staged.titles.get? h = some l → Sees committed staged .event l.event
  titled : ∀ g, staged.events.contains g = true → committed.events.contains g = false →
    ∃ h l, staged.titles.get? h = some l ∧ l.event = g

variable {committed committed' staged staged' : Tables} {pending : Option Guid}

/-! ## Staging a team and its name -/

theorem linkedTeams_of_nil (hteams : staged.teams = []) (hnames : staged.teamNames = []) :
    LinkedTeams none committed staged := by
  constructor <;> simp [hteams, hnames, Table.contains]

theorem LinkedTeams.later (h : LinkedTeams pending committed staged)
    (hown : ∀ g, staged.teams.contains g = true → committed.teams.contains g = false →
      committed'.teams.contains g = false) : LinkedTeams pending committed' staged :=
  { h with new := fun g hg => hown g hg (h.new g hg) }

theorem LinkedTeams.addTeam (h : LinkedTeams none committed staged) {team : Team}
    (hcommitted : committed.teams.contains team.guid = false)
    (hstaged : staged.teams.contains team.guid = false) :
    LinkedTeams (some team.guid) committed
      (staged.set .team (staged.teams.put team.guid team)) where
  new g hg := by
    rcases (Table.contains_put _ _ _ _).mp hg with rfl | hg
    · exact hcommitted
    · exact h.new g hg
  team k n hn := by
    obtain ⟨hteam, _⟩ := h.team k n hn
    refine ⟨(Table.contains_put _ _ _ _).mpr (Or.inr hteam), ?_⟩
    intro he
    rw [← Option.some.inj he, hstaged] at hteam
    cases hteam
  named g hg hne := by
    rcases (Table.contains_put _ _ _ _).mp hg with rfl | hg
    · exact absurd rfl hne
    · exact h.named g hg nofun
  once := h.once

theorem LinkedTeams.addName {name : TeamName}
    (h : LinkedTeams (some name.team) committed staged)
    (hteam : staged.teams.contains name.team = true)
    (hnew : staged.teamNames.get? name.guid = none) :
    LinkedTeams none committed (staged.set .teamName (staged.teamNames.put name.guid name)) where
  new := h.new
  team k n hn := by
    refine ⟨?_, nofun⟩
    rcases Table.get?_put_cases hn with ⟨_, rfl⟩ | ⟨_, hn⟩
    · exact hteam
    · exact (h.team k n hn).1
  named g hg _ := by
    by_cases hname : g = name.team
    · refine ⟨name.guid, name, ?_, hname.symm⟩
      exact (Table.get?_put _ _ _ _).trans (if_pos rfl)
    · obtain ⟨k, n, hn, hng⟩ := h.named g hg fun he => hname (Option.some.inj he).symm
      have hne : k ≠ name.guid := by
        rintro rfl
        rw [hnew] at hn
        cases hn
      exact ⟨k, n, (Table.get?_put _ _ _ _).trans ((if_neg hne).trans hn), hng⟩
  once k k' n n' hn hn' he := by
    rcases Table.get?_put_cases hn with ⟨hk, rfl⟩ | ⟨_, hn⟩
    · rcases Table.get?_put_cases hn' with ⟨hk', _⟩ | ⟨_, hn'⟩
      · rw [hk, hk']
      · exact absurd (congrArg some he) (h.team k' n' hn').2
    · rcases Table.get?_put_cases hn' with ⟨_, rfl⟩ | ⟨_, hn'⟩
      · exact absurd (congrArg some he.symm) (h.team k n hn).2
      · exact h.once k k' n n' hn hn' he

/-! ## Publishing linked rows -/

section Publish

variable {f : Entity → ℕ → Guid} {n : Entity → ℕ}

theorem get?_publish (hS : ∀ k, Table.Staged (f k) (n k) (committed.of k) (staged.of k))
    (k : Entity) (g : Guid) : ((committed.publish staged).of k).get? g =
      ((staged.of k).get? g).or ((committed.of k).get? g) := by
  rw [of_publish, Table.get?_putAll _ (hS k).nodup]

theorem contains_publish_iff (hS : ∀ k, Table.Staged (f k) (n k) (committed.of k) (staged.of k))
    (k : Entity) (g : Guid) :
    ((committed.publish staged).of k).contains g = true ↔ Sees committed staged k g := by
  unfold Table.contains Sees
  rw [get?_publish hS, Option.isSome_or, Bool.or_eq_true]
  exact or_comm

theorem staged_or_committed (hS : ∀ k, Table.Staged (f k) (n k) (committed.of k) (staged.of k))
    (k : Entity) {g : Guid} {row : k.Of}
    (h : ((committed.publish staged).of k).get? g = some row) :
    (staged.of k).get? g = some row ∨ (committed.of k).get? g = some row := by
  rw [get?_publish hS] at h
  exact (Option.or_eq_some_iff.mp h).imp_right And.right

theorem get?_publish_of_staged
    (hS : ∀ k, Table.Staged (f k) (n k) (committed.of k) (staged.of k)) (k : Entity) {g : Guid}
    {row : k.Of} (h : (staged.of k).get? g = some row) :
    ((committed.publish staged).of k).get? g = some row := by
  rw [get?_publish hS, h]
  rfl

theorem titled_publish (hS : ∀ k, Table.Staged (f k) (n k) (committed.of k) (staged.of k))
    (hc : committed.Complete) (hl : LinkedTitles committed staged) {g : Guid}
    (hg : (committed.publish staged).events.contains g = true) :
    ∃ h l, (committed.publish staged).titles.get? h = some l ∧ l.event = g := by
  cases hold : committed.events.contains g with
  | true =>
    -- the title may have been changed, but it is still of this event
    obtain ⟨h, l, hh, hlg⟩ := hc.titled g hold
    obtain ⟨l', hh', hp⟩ := continues_publish hS .title h l hh
    have hsame : l'.event = l.event := congrArg Prod.fst hp
    exact ⟨h, l', hh', hsame.trans hlg⟩
  | false =>
    rcases (contains_publish_iff hS .event g).mp hg with hm | hs
    · exact absurd (hm.symm.trans hold) nofun
    · obtain ⟨h, l, hh, hlg⟩ := hl.titled g hs hold
      exact ⟨h, l, get?_publish_of_staged hS .title hh, hlg⟩

theorem named_publish (hS : ∀ k, Table.Staged (f k) (n k) (committed.of k) (staged.of k))
    (hc : committed.Complete) (ht : LinkedTeams none committed staged) {g : Guid}
    (hg : (committed.publish staged).teams.contains g = true) :
    ∃ h n, (committed.publish staged).teamNames.get? h = some n ∧ n.team = g := by
  rcases (contains_publish_iff hS .team g).mp hg with hm | hs
  · obtain ⟨h, n, hh, hng⟩ := hc.named g hm
    obtain ⟨n', hh', hp⟩ := continues_publish hS .teamName h n hh
    have hsame : n' = n := hp
    exact ⟨h, n', hh', hsame ▸ hng⟩
  · obtain ⟨h, n, hh, hng⟩ := ht.named g hs nofun
    exact ⟨h, n, get?_publish_of_staged hS .teamName hh, hng⟩

/-- A staged name is of a staged team, and a committed name of a committed one. -/
theorem LinkedTeams.team_ne (ht : LinkedTeams none committed staged) (hc : committed.Complete)
    {h h' : Guid} {name name' : TeamName} (hs : staged.teamNames.get? h = some name)
    (hm : committed.teamNames.get? h' = some name') : name.team ≠ name'.team := by
  intro he
  have hold := hc.team h' name' hm
  rw [← he, ht.new _ (ht.team h name hs).1] at hold
  cases hold

theorem named_once_publish (hS : ∀ k, Table.Staged (f k) (n k) (committed.of k) (staged.of k))
    (hc : committed.Complete) (ht : LinkedTeams none committed staged) {h h' : Guid}
    {name name' : TeamName} (hh : (committed.publish staged).teamNames.get? h = some name)
    (hh' : (committed.publish staged).teamNames.get? h' = some name')
    (hsame : name.team = name'.team) : h = h' := by
  rcases staged_or_committed hS .teamName hh with hs | hm
  · rcases staged_or_committed hS .teamName hh' with hs' | hm'
    · exact ht.once h h' name name' hs hs' hsame
    · exact absurd hsame (ht.team_ne hc hs hm')
  · rcases staged_or_committed hS .teamName hh' with hs' | hm'
    · exact absurd hsame.symm (ht.team_ne hc hs' hm)
    · exact hc.once h h' name name' hm hm' hsame

theorem Complete.publish (hS : ∀ k, Table.Staged (f k) (n k) (committed.of k) (staged.of k))
    (hc : committed.Complete) (ht : LinkedTeams none committed staged)
    (he : LinkedEvents committed staged) (hl : LinkedTitles committed staged) :
    (committed.publish staged).Complete := by
  have hteam : ∀ g, SeesTeam committed staged g → (committed.publish staged).HasTeam g :=
    fun g hg => hg.imp_right (contains_publish_iff hS .team g).mpr
  refine ⟨?period, ?home, ?away, ?event, fun g => titled_publish hS hc hl, ?team,
    fun g => named_publish hS hc ht, fun h h' n n' => named_once_publish hS hc ht⟩
  case period =>
    intro g e hg
    refine (contains_publish_iff hS .period _).mpr ?_
    rcases staged_or_committed hS .event hg with hs | hm
    · exact he.period g e hs
    · exact Or.inl (hc.period g e hm)
  case home =>
    intro g e hg
    refine hteam _ ?_
    rcases staged_or_committed hS .event hg with hs | hm
    · exact he.home g e hs
    · exact (hc.home g e hm).imp_right Or.inl
  case away =>
    intro g e hg
    refine hteam _ ?_
    rcases staged_or_committed hS .event hg with hs | hm
    · exact he.away g e hs
    · exact (hc.away g e hm).imp_right Or.inl
  case event =>
    intro h l hh
    refine (contains_publish_iff hS .event _).mpr ?_
    rcases staged_or_committed hS .title hh with hs | hm
    · exact hl.event h l hs
    · exact Or.inl (hc.event h l hm)
  case team =>
    intro h n hh
    refine (contains_publish_iff hS .team _).mpr ?_
    rcases staged_or_committed hS .teamName hh with hs | hm
    · exact Or.inr (ht.team h n hs).1
    · exact Or.inl (hc.team h n hm)

end Publish

end Tables

end LiveEvents.Store
