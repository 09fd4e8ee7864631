import LiveEvents.Proofs.RivalStakes

/-!
# Upserts beside a rival

Beside a rival that writes another event, no call of an upsert fails before the commit. The commit
fails only if both have staged a new period or a new team under one key and the rival was first to
commit it.
-/

namespace LiveEvents

open Store (Call Entity Memory Mint Row StoreError Table Tables pairKey)

namespace Upsert

open Scene (Ground Joined Keeps Next Opening)

variable {mint : Mint} {m₀ : Memory} {o o' : Observation} {s : Scene}
  {bad : UpsertError → Scene → Prop}

/-- The teams of an observation have been found under their keys. -/
def FindsTeams (o : Observation) (teams : Option (Team × Team)) (s : Scene) : Prop :=
  ∀ pair, o.teams = some pair → ∃ both, teams = some both ∧
    s.memory.committed.Finds s.staged .team both.1.guid
      (pairKey pair.home.externalId pair.ecosystem) ∧
    s.memory.committed.Finds s.staged .team both.2.guid
      (pairKey pair.away.externalId pair.ecosystem)

theorem FindsTeams.keeps {teams : Option (Team × Team)} {s' : Scene} (h : FindsTeams o teams s)
    (hk : Keeps s s') : FindsTeams o teams s' := by
  intro pair hpair
  obtain ⟨both, hboth, hhome, haway⟩ := h pair hpair
  exact ⟨both, hboth, hk .team trivial _ _ hhome, hk .team trivial _ _ haway⟩

/-- The event of an upsert is the only one that it has staged, with references to rows that are
found, and it collides with no committed event. -/
structure Seated (o : Observation) (outcome : Outcome) (e : Event) (m : Memory) (staged : Tables) :
    Prop where
  events : staged.events = [(outcome.guid, e)]
  key : e.externalId = o.externalId
  refers : ∀ k key g, o.Refers e k key g → m.committed.Finds staged k g key
  free : Table.conflict? staged.events m.committed.events = none

theorem Seated.rival (hne : o.externalId ≠ o'.externalId) {outcome : Outcome} {e : Event}
    {m m' : Memory} {staged : Tables} (h : Seated o outcome e m staged)
    (hr : m.Rivals mint o' staged m') : Seated o outcome e m' staged where
  events := h.events
  key := h.key
  refers k key g hg := (h.refers k key g hg).later hr.grows.continues
  free := by
    refine hr.conflict?_eq_none (k := .event) h.free fun row hrow _ r _ htouched hkey => ?_
    rw [show (staged.of .event).rows = [e] by rw [show staged.of .event = _ from h.events]; rfl,
      List.mem_singleton] at hrow
    subst hrow
    exact hne (h.key.symm.trans (hkey.symm.trans htouched))

/-- An upsert that has staged its event and has yet to stage its title. -/
structure EventStaged (mint : Mint) (m₀ : Memory) (o o' : Observation) (outcome : Outcome)
    (s : Scene) : Prop where
  ground : Ground mint m₀ o o' s
  stakes : Stakes m₀ o none s.memory s.staged
  seated : ∃ e, Seated o outcome e s.memory s.staged
  titles : s.staged.titles = []

theorem EventStaged.next (hslash : mint.Slashless) (hne : o.externalId ≠ o'.externalId)
    {outcome : Outcome} {s' : Scene} (h : EventStaged mint m₀ o o' outcome s)
    (hn : Next mint m₀ o o' s s') (hst : s'.staged = s.staged) :
    EventStaged mint m₀ o o' outcome s' := by
  obtain ⟨-, hstakes, ⟨e, hseated⟩, htitles⟩ := h
  rw [← hst] at hstakes hseated htitles
  exact ⟨hn.ground, hstakes.rival hslash hn.rivals, ⟨e, hseated.rival hne hn.rivals⟩, htitles⟩

theorem eventStaged_of_put (hslash : mint.Slashless) (hne : o.externalId ≠ o'.externalId)
    {s' : Scene} (h : Opening mint m₀ o o' none s) (hn : Next mint m₀ o o' s s')
    {outcome : Outcome} {e : Event}
    (hst : s'.staged = s.staged.set .event (s.staged.events.put outcome.guid e))
    (hkey : e.externalId = o.externalId)
    (hrefers : ∀ k key g, o.Refers e k key g → s.memory.committed.Finds s.staged k g key)
    (hfree : s.memory.committed.events.contains e.guid = true ∨
      ∀ r ∈ s.memory.committed.events.rows, r.externalId ≠ o.externalId) :
    EventStaged mint m₀ o o' outcome s' := by
  have hevents : s'.staged.events = [(outcome.guid, e)] := by
    rw [hst]
    change s.staged.events.put outcome.guid e = _
    rw [h.events]
    rfl
  have hstakes : Stakes m₀ o none s.memory s'.staged := by
    rw [hst]
    exact h.stakes.set (Or.inl rfl) _
  have hseated : Seated o outcome e s.memory s'.staged := by
    refine ⟨hevents, hkey, ?_, ?_⟩
    · intro k key g hg
      have hshared := o.shared_of_refers hg
      rw [hst]
      exact (hrefers k key g hg).put (j := .event) e (by rintro rfl; exact hshared.elim)
    · rw [hevents, Table.conflict?_eq_none_iff]
      intro row hrow hnew r hr hsame
      obtain rfl : row = e := List.mem_singleton.mp hrow
      rcases hfree with hold | hnone
      · exact absurd (hnew.symm.trans hold) nofun
      · exact hnone r hr (hsame.trans hkey)
  refine ⟨hn.ground, hstakes.rival hslash hn.rivals, ⟨e, hseated.rival hne hn.rivals⟩, ?_⟩
  rw [hst]
  exact h.titles

/-- No title of the rival's is a title of this event. -/
theorem Seated.title_ne (hslash : mint.Slashless) (hne : o.externalId ≠ o'.externalId)
    {outcome : Outcome} {e : Event} {m : Memory} {staged : Tables}
    (h : Seated o outcome e m staged) (hm : m.Sound mint) (hs : m.Admits mint staged) {l : Title}
    (hl : m.committed.Touched o' .title l) (language : Guid) :
    Row.key l ≠ pairKey outcome.guid language := by
  intro hkey
  obtain ⟨e', he', hid, language', hkey'⟩ := hl
  have hget : m.committed.events.get? e'.guid = some e' := (hm .event).get?_of_mem_rows he'
  have hstaged : staged.events.get? outcome.guid = some e := by
    rw [h.events]
    exact (Table.get?_singleton_iff _ _ _ _).mpr ⟨rfl, rfl⟩
  obtain ⟨i, -, hi⟩ := (hm .event).given _ ((Table.contains_iff _ _).mpr ⟨e', hget⟩)
  obtain ⟨j, -, hj⟩ := (hs .event).given _ ((Table.contains_iff _ _).mpr ⟨e, hstaged⟩)
  have hsame := (Store.pairKey_injective (hi ▸ hslash i) (hj ▸ hslash j)
    (hkey'.symm.trans hkey)).1
  rw [hsame] at hget
  have hpart := (hs .event).fixed _ e e' hstaged hget
  exact hne (h.key.symm.trans ((congrArg Prod.fst hpart).trans hid))

/-- An upsert that has staged all its rows. -/
structure AllStaged (mint : Mint) (m₀ : Memory) (o o' : Observation) (outcome : Outcome)
    (s : Scene) : Prop where
  ground : Ground mint m₀ o o' s
  stakes : Stakes m₀ o none s.memory s.staged
  seated : ∃ e, Seated o outcome e s.memory s.staged
  titles : ∀ l ∈ s.staged.titles.rows,
    Row.key l = pairKey outcome.guid o.identity.language
  free : Table.conflict? s.staged.titles s.memory.committed.titles = none

theorem EventStaged.allStaged {outcome : Outcome} (h : EventStaged mint m₀ o o' outcome s) :
    AllStaged mint m₀ o o' outcome s := by
  refine ⟨h.ground, h.stakes, h.seated, ?_, ?_⟩
  · rw [h.titles]
    exact fun _ hl => nomatch hl
  · rw [h.titles]
    rfl

theorem allStaged_of_put (hslash : mint.Slashless) (hne : o.externalId ≠ o'.externalId)
    {s' : Scene} {outcome : Outcome} (h : EventStaged mint m₀ o o' outcome s)
    (hn : Next mint m₀ o o' s s') {l : Title} {g : Guid}
    (hst : s'.staged = s.staged.set .title (s.staged.titles.put g l))
    (hkey : Row.key l = pairKey outcome.guid o.identity.language)
    (hfree : s.memory.committed.titles.contains l.guid = true ∨
      ∀ r ∈ s.memory.committed.titles.rows,
        Row.key r ≠ pairKey outcome.guid o.identity.language) :
    AllStaged mint m₀ o o' outcome s' := by
  obtain ⟨-, hstakes, ⟨e, hseated⟩, htitles⟩ := h
  have hrows : s'.staged.titles = [(g, l)] := by
    rw [hst]
    change s.staged.titles.put g l = _
    rw [htitles]
    rfl
  have hstakes' : Stakes m₀ o none s.memory s'.staged := by
    rw [hst]
    exact hstakes.set (Or.inr rfl) _
  have hseated' : Seated o outcome e s'.memory s'.staged := by
    refine Seated.rival hne ?_ hn.rivals
    rw [hst]
    refine ⟨hseated.events, hseated.key, fun k key g' hg => ?_, hseated.free⟩
    have hshared := o.shared_of_refers hg
    exact (hseated.refers k key g' hg).put (j := .title) l (by rintro rfl; exact hshared.elim)
  have honly : ∀ row ∈ s'.staged.titles.rows, row = l := by
    rw [hrows]
    exact fun row hrow => List.mem_singleton.mp hrow
  refine ⟨hn.ground, hstakes'.rival hslash hn.rivals, ⟨e, hseated'⟩, ?_, ?_⟩
  · intro row hrow
    rw [honly row hrow]
    exact hkey
  · refine hn.rivals.conflict?_eq_none (k := .title) ?_ ?_
    · refine (Table.conflict?_eq_none_iff _ _).mpr fun row hrow hnew r hr hsame => ?_
      rw [honly row hrow] at hnew hsame
      rcases hfree with hold | hnone
      · exact absurd (hnew.symm.trans hold) nofun
      · exact hnone r hr (hsame.trans hkey)
    · intro row hrow _ r _ htouched
      rw [honly row hrow, hkey]
      exact hseated'.title_ne hslash hne hn.ground.sound hn.ground.admits htouched _

theorem refers_of_found {period : Guid} {teams : Option (Team × Team)} {e : Event}
    (hperiod : s.memory.committed.Finds s.staged .period period o.period.code)
    (hteams : FindsTeams o teams s) (he : e.period = period)
    (hteam : ∀ both, teams = some both → e.homeTeam = both.1.guid ∧ e.awayTeam = both.2.guid) :
    ∀ k key g, o.Refers e k key g → s.memory.committed.Finds s.staged k g key := by
  intro k key g hg
  cases k with
  | event | title | teamName => exact hg.elim
  | period =>
    obtain ⟨rfl, rfl⟩ := hg
    rw [he]
    exact hperiod
  | team =>
    obtain ⟨pair, hpair, hside⟩ := hg
    obtain ⟨both, hboth, hhome, haway⟩ := hteams pair hpair
    obtain ⟨hh, ha⟩ := hteam both hboth
    rcases hside with ⟨rfl, rfl⟩ | ⟨rfl, rfl⟩
    · rw [hh]
      exact hhome
    · rw [ha]
      exact haway

/-- The error of a call, if it got one, and what the call did. -/
def told {ε α β : Type} (x : Except ε α × β) : Option ε × β :=
  (match x.1 with
    | .ok _ => none
    | .error e => some e, x.2)

section Duels

variable (hd : mint.Distinct) (hslash : mint.Slashless)
include hd hslash

/-- A lookup beside a rival is as good as one alone, but that the rival goes on then. -/
theorem duels_lookup (hs : Ground mint m₀ o o' s) {c : Call} {r : c.Reply} (hc : c ≠ .commit)
    (hp : s.memory.perform mint s.staged c = (.ok r, s.memory, s.staged))
    {good : c.Reply → Scene → Prop}
    (hgood : ∀ s', Next mint m₀ o o' s s' → s'.staged = s.staged → good r s') :
    Ends (duel mint o o') bad good (call c) s := by
  refine ends_call ⟨hs.unpublished, fun h => absurd h hc⟩ (fun r' s' hm => ?_) (fun e s' hm => ?_)
  · have hn := Scene.next_of_moves hd hslash hs hc hm
    obtain ⟨m, hperform, -⟩ := hm
    obtain ⟨hr, hrest⟩ := Prod.mk.inj (hp.symm.trans hperform)
    rw [← Except.ok.inj hr]
    exact hgood s' hn (Prod.mk.inj hrest).2.symm
  · obtain ⟨m, hperform, -⟩ := hm
    exact nomatch (Prod.mk.inj (hp.symm.trans hperform)).1

theorem duels_create (hs : Ground mint m₀ o o' s) {c : Call} {k : Entity} {row : k.Of}
    (hc : c ≠ .commit)
    (hp : told (s.memory.perform mint s.staged c) = told (s.memory.createRow s.staged k row))
    {good : Bool → Scene → Prop}
    (hdone : ∀ s', Next mint m₀ o o' s s' →
      Table.find? (s.staged.of k) (s.memory.committed.of k) (Row.key row) = none →
      s'.staged = s.staged.set k ((s.staged.of k).put (Row.guid row) row) → good true s')
    (hnot : ∀ s' row', Next mint m₀ o o' s s' →
      Table.find? (s.staged.of k) (s.memory.committed.of k) (Row.key row) = some row' →
      s'.staged = s.staged → good false s') :
    Ends (duel mint o o') bad good (create c) s := by
  have hcases : ∀ {r : Except StoreError c.Reply} {s' : Scene},
      (duel mint o o').moves c s r s' →
      (Table.find? (s.staged.of k) (s.memory.committed.of k) (Row.key row) = none ∧
        (∃ a, r = .ok a) ∧ s'.staged = s.staged.set k ((s.staged.of k).put (Row.guid row) row)) ∨
      ∃ row' e, Table.find? (s.staged.of k) (s.memory.committed.of k) (Row.key row) = some row' ∧
        r = .error e ∧ e.isDuplicate = true ∧ s'.staged = s.staged := by
    rintro r s' ⟨m, hperform, -⟩
    rw [hperform] at hp
    cases hf : Table.find? (s.staged.of k) (s.memory.committed.of k) (Row.key row) with
    | none =>
      rw [Memory.createRow_of_none hf] at hp
      obtain ⟨hr, hrest⟩ := Prod.mk.inj hp
      cases r with
      | ok a => exact Or.inl ⟨rfl, ⟨a, rfl⟩, (Prod.mk.inj hrest).2⟩
      | error e => exact nomatch hr
    | some row' =>
      rw [Memory.createRow_of_some hf] at hp
      obtain ⟨hr, hrest⟩ := Prod.mk.inj hp
      cases r with
      | ok a => exact nomatch hr
      | error e =>
        refine Or.inr ⟨row', e, rfl, rfl, ?_, (Prod.mk.inj hrest).2⟩
        rw [Option.some.inj hr]
        rfl
  refine ends_create ⟨hs.unpublished, fun h => absurd h hc⟩ (fun r s' hm => ?_)
    (fun e s' hm _ => ?_) fun e s' hm hd' => ?_
  · have hn := Scene.next_of_moves hd hslash hs hc hm
    rcases hcases hm with ⟨hf, -, hst⟩ | ⟨_, _, _, hr, _⟩
    · exact hdone s' hn hf hst
    · exact nomatch hr
  · have hn := Scene.next_of_moves hd hslash hs hc hm
    rcases hcases hm with ⟨_, ⟨_, hr⟩, _⟩ | ⟨row', _, hf, _, _, hst⟩
    · exact nomatch hr
    · exact hnot s' row' hn hf hst
  · rcases hcases hm with ⟨_, ⟨_, hr⟩, _⟩ | ⟨_, _, _, hr, hdup, _⟩
    · exact nomatch hr
    · cases hr
      exact absurd (hdup.symm.trans hd') nofun

/-- A call that gets no error. -/
theorem duels_call (hs : Ground mint m₀ o o' s) {c : Call} {m : Memory} {staged : Tables}
    (hc : c ≠ .commit) (hp : told (s.memory.perform mint s.staged c) = (none, m, staged))
    {good : c.Reply → Scene → Prop}
    (hdone : ∀ r s', Next mint m₀ o o' s s' → s'.staged = staged → good r s') :
    Ends (duel mint o o') bad good (call c) s := by
  refine ends_call ⟨hs.unpublished, fun h => absurd h hc⟩ (fun r s' hm => ?_) (fun e s' hm => ?_)
  · have hn := Scene.next_of_moves hd hslash hs hc hm
    obtain ⟨m', hperform, -⟩ := hm
    rw [hperform] at hp
    exact hdone r s' hn (Prod.mk.inj (Prod.mk.inj hp).2).2
  · obtain ⟨m', hperform, -⟩ := hm
    rw [hperform] at hp
    exact nomatch (Prod.mk.inj hp).1

/-- A creation under a free key. -/
theorem duels_insert (hs : Ground mint m₀ o o' s) {c : Call} {k : Entity} {row : k.Of}
    (hc : c ≠ .commit)
    (hp : told (s.memory.perform mint s.staged c) = told (s.memory.createRow s.staged k row))
    (hfree : Table.find? (s.staged.of k) (s.memory.committed.of k) (Row.key row) = none)
    {good : c.Reply → Scene → Prop}
    (hdone : ∀ r s', Next mint m₀ o o' s s' →
      s'.staged = s.staged.set k ((s.staged.of k).put (Row.guid row) row) → good r s') :
    Ends (duel mint o o') bad good (call c) s := by
  rw [Memory.createRow_of_none hfree] at hp
  exact duels_call hd hslash hs hc hp hdone

theorem duels_update (hs : Ground mint m₀ o o' s) {c : Call} {k : Entity} {g : Guid}
    {f : k.Of → k.Of} {row : k.Of} (hc : c ≠ .commit)
    (hp : told (s.memory.perform mint s.staged c) = told (s.memory.updateRow s.staged k g f))
    (hseen : Table.findGuid? (s.staged.of k) (s.memory.committed.of k) g = some row)
    {good : c.Reply → Scene → Prop}
    (hdone : ∀ r s', Next mint m₀ o o' s s' →
      s'.staged = s.staged.set k ((s.staged.of k).put g (f row)) → good r s') :
    Ends (duel mint o o') bad good (call c) s := by
  rw [Memory.updateRow_of_some hseen f] at hp
  exact duels_call hd hslash hs hc hp hdone

/-! ## The stages of an upsert -/

/-- The second look at a period. -/
theorem duels_period_again (h : Opening mint m₀ o o' none s) {row : Period}
    (hfound : Table.find? s.staged.periods s.memory.committed.periods o.period.code = some row) :
    Ends (duel mint o o') bad (fun row s' => Opening mint m₀ o o' none s' ∧
      s'.memory.committed.Finds s'.staged .period row.guid o.period.code)
      (call (.periodByCode o.period.code) >>= found .period o.period.code) s := by
  refine ends_bind (duels_lookup hd hslash h.ground (by nofun) rfl fun s₁ hn₁ hst₁ => ?_)
  have hfinds := finds_of_find? (k := .period) h.ground.sound h.ground.admits hfound
  rw [hfound]
  exact ends_pure ⟨h.next hslash hn₁ hst₁, hn₁.keeps_of_eq hst₁ .period trivial _ _ hfinds⟩

theorem duels_period (h : Opening mint m₀ o o' none s) :
    Ends (duel mint o o') bad (fun row s' => Opening mint m₀ o o' none s' ∧
      s'.memory.committed.Finds s'.staged .period row.guid o.period.code) (period o.period) s := by
  unfold period
  refine ends_bind (duels_lookup hd hslash h.ground (by nofun) rfl fun s₁ hn₁ hst₁ => ?_)
  have h₁ := h.next hslash hn₁ hst₁
  cases hfind : Table.find? s.staged.periods s.memory.committed.periods o.period.code with
  | some row =>
    have hfinds := finds_of_find? (k := .period) h.ground.sound h.ground.admits hfind
    exact ends_pure ⟨h₁, hn₁.keeps_of_eq hst₁ .period trivial _ _ hfinds⟩
  | none =>
    have hp := congrArg told (s₁.memory.perform_createPeriod mint s₁.staged (periodDraft o.period))
    obtain ⟨row, hguid, hkey, hrow⟩ : ∃ row : Period, row.guid = mint.row s₁.memory.rows ∧
        Row.key row = o.period.code ∧
        row = (periodDraft o.period).toPeriod (mint.row s₁.memory.rows) := ⟨_, rfl, rfl, rfl⟩
    rw [← hrow] at hp
    refine ends_bind (duels_create hd hslash h₁.ground (by nofun) hp
      (fun s₂ hn₂ hfree hst₂ => ?_) fun s₂ row' hn₂ hseen hst₂ => ?_)
    · have h₂ := h₁.put hslash (k := .period) trivial (h₁.stakes.addPeriod hd h₁.ground.start
        h₁.ground.sound h₁.ground.grows.continues hguid hkey hfree) hn₂ hst₂
      have hget : s₂.staged.periods.get? row.guid = some row := by
        rw [hst₂]
        exact (Table.get?_put _ _ _ _).trans (if_pos rfl)
      exact duels_period_again hd hslash h₂
        (hkey ▸ h₂.stakes.find?_staged h₂.ground.admits (k := .period) trivial hget)
    · obtain ⟨row'', hfound⟩ := h₁.find?_next (k := .period) hn₂ hst₂ hseen
      exact duels_period_again hd hslash (h₁.next hslash hn₂ hst₂) (hkey ▸ hfound)

/-- A team that was created gets its name. -/
theorem duels_named {row : Team} (h : Opening mint m₀ o o' (some row.guid) s)
    {key : String} (hfinds : s.memory.committed.Finds s.staged .team row.guid key) (t : TeamRef) :
    Ends (duel mint o o') bad (Joined mint m₀ o o' key s) (do
      call (.createTeamName (teamNameDraft t row.guid o.identity.language))
      return row) s := by
  have hp := congrArg told (s.memory.perform_createTeamName mint s.staged
    (teamNameDraft t row.guid o.identity.language))
  have hfree : Table.find? s.staged.teamNames s.memory.committed.teamNames
      (pairKey row.guid o.identity.language) = none := by
    obtain ⟨hteam, hunnamed⟩ := h.stakes.unnamed row.guid rfl
    refine (Table.find?_eq_none_iff _ _ _).mpr ⟨?_, fun n hn hkey => absurd hkey (hunnamed n hn)⟩
    intro n hn hkey
    obtain ⟨hstaged, hne⟩ := h.stakes.names n hn
    obtain ⟨i, -, hi⟩ := (h.ground.admits .team).given _ hstaged
    obtain ⟨j, -, hj⟩ := (h.ground.admits .team).given _ hteam
    have hsame := (Store.pairKey_injective (hi ▸ hslash i) (hj ▸ hslash j) hkey).1
    exact hne (congrArg some hsame)
  refine ends_bind (duels_insert hd hslash h.ground (by nofun) hp hfree fun _ s₁ hn₁ hst₁ => ?_)
  have hstakes : Stakes m₀ o none s.memory s₁.staged := by
    rw [hst₁]
    exact h.stakes.addName rfl
  have hk₁ := hn₁.keeps_of_put hst₁ nofun
  refine ends_pure ⟨⟨hn₁.ground, hstakes.rival hslash hn₁.rivals, ?_, ?_⟩, hk₁,
    hk₁ .team trivial _ _ hfinds⟩
  · rw [hst₁]
    exact h.events
  · rw [hst₁]
    exact h.titles

theorem duels_team (h : Opening mint m₀ o o' none s) {t : TeamRef} {ecosystem : Guid}
    (huses : o.Uses .team (pairKey t.externalId ecosystem)) :
    Ends (duel mint o o') bad (Joined mint m₀ o o' (pairKey t.externalId ecosystem) s)
      (team t ecosystem o.identity.language) s := by
  unfold team
  refine ends_bind (duels_lookup hd hslash h.ground (by nofun) rfl fun s₁ hn₁ hst₁ => ?_)
  have h₁ := h.next hslash hn₁ hst₁
  have hk₁ := hn₁.keeps_of_eq hst₁
  cases hfind : Table.find? s.staged.teams s.memory.committed.teams
      (pairKey t.externalId ecosystem) with
  | some row =>
    have hfinds := finds_of_find? (k := .team) h.ground.sound h.ground.admits hfind
    exact ends_pure ⟨h₁, hk₁, hk₁ .team trivial _ _ hfinds⟩
  | none =>
    have hp := congrArg told (s₁.memory.perform_createTeam mint s₁.staged (teamDraft t ecosystem))
    obtain ⟨row, hguid, hkey, hrow⟩ : ∃ row : Team, row.guid = mint.row s₁.memory.rows ∧
        Row.key row = pairKey t.externalId ecosystem ∧
        row = (teamDraft t ecosystem).toTeam (mint.row s₁.memory.rows) := ⟨_, rfl, rfl, rfl⟩
    rw [← hrow] at hp
    refine ends_bind (duels_create hd hslash h₁.ground (by nofun) hp
      (fun s₂ hn₂ hfree hst₂ => ?_) fun s₂ row' hn₂ hseen hst₂ => ?_)
    · have h₂ := h₁.put hslash (k := .team) trivial (h₁.stakes.addTeam hd h₁.ground.start
        h₁.ground.sound h₁.ground.admits h₁.ground.grows.continues h₁.ground.unforeseen hguid
        (hkey ▸ huses) hfree) hn₂ hst₂
      have hget : s₂.staged.teams.get? row.guid = some row := by
        rw [hst₂]
        exact (Table.get?_put _ _ _ _).trans (if_pos rfl)
      have hk₂ := hk₁.trans (hn₂.keeps_of_put hst₂ fun _ => by
        rw [show Row.guid row = mint.guid .team (s₁.memory.given .team) from hguid]
        exact Table.not_contains_of_given (hd.guid .team) (h₁.ground.admits .team).given)
      have hfound := h₂.stakes.find?_staged h₂.ground.admits (k := .team) trivial hget
      have hfinds := finds_of_find? (k := .team) h₂.ground.sound h₂.ground.admits hfound
      refine ends_bind (duels_lookup hd hslash h₂.ground (by nofun) rfl fun s₃ hn₃ hst₃ => ?_)
      rw [← hkey, show Table.find? s₂.staged.teams s₂.memory.committed.teams (Row.key row) =
        some row from hfound]
      have hk₃ := hn₃.keeps_of_eq hst₃
      refine ends_bind (ends_pure (.imp (duels_named hd hslash (h₂.next hslash hn₃ hst₃)
        (hk₃ .team trivial _ _ hfinds) t) fun a s₄ h₄ => ?_))
      exact ⟨h₄.opening, hk₂.trans (hk₃.trans h₄.keeps), h₄.finds⟩
    · obtain ⟨row'', hfound⟩ := h₁.find?_next (k := .team) hn₂ hst₂ hseen
      have h₂ := h₁.next hslash hn₂ hst₂
      have hfinds := finds_of_find? (k := .team) h₂.ground.sound h₂.ground.admits hfound
      refine ends_bind (duels_lookup hd hslash h₂.ground (by nofun) rfl fun s₃ hn₃ hst₃ => ?_)
      rw [← hkey, show Table.find? s₂.staged.teams s₂.memory.committed.teams (Row.key row) =
        some row'' from hfound]
      have hk₃ := hn₃.keeps_of_eq hst₃
      exact ends_bind (ends_pure (ends_pure ⟨h₂.next hslash hn₃ hst₃,
        hk₁.trans ((hn₂.keeps_of_eq hst₂).trans hk₃), hk₃ .team trivial _ _ hfinds⟩))

theorem duels_players (h : Opening mint m₀ o o' none s) :
    Ends (duel mint o o') bad (fun teams s' => Opening mint m₀ o o' none s' ∧ Keeps s s' ∧
      FindsTeams o teams s') (players o) s := by
  unfold players
  cases hteams : o.teams with
  | none => exact ends_pure ⟨h, fun _ _ _ _ hg => hg, fun pair hpair => by
      rw [hteams] at hpair
      cases hpair⟩
  | some pair =>
    have hhome : o.Uses .team (pairKey pair.home.externalId pair.ecosystem) :=
      ⟨pair, hteams, Or.inl rfl⟩
    have haway : o.Uses .team (pairKey pair.away.externalId pair.ecosystem) :=
      ⟨pair, hteams, Or.inr rfl⟩
    refine ends_map (ends_bind (.imp (duels_team hd hslash h hhome) fun home s₁ h₁ => ?_))
    refine ends_bind (.imp (duels_team hd hslash h₁.opening haway) fun away s₂ h₂ => ?_)
    refine ends_pure ⟨h₂.opening, h₁.keeps.trans h₂.keeps, fun pair' hpair => ?_⟩
    rw [hteams] at hpair
    cases hpair
    exact ⟨(home, away), rfl, h₂.keeps .team trivial _ _ h₁.finds, h₂.finds⟩

theorem duels_event (hne : o.externalId ≠ o'.externalId) (h : Opening mint m₀ o o' none s)
    {period : Guid} {teams : Option (Team × Team)}
    (hperiod : s.memory.committed.Finds s.staged .period period o.period.code)
    (hteams : FindsTeams o teams s) :
    Ends (duel mint o o') bad (fun outcome s' => EventStaged mint m₀ o o' outcome s')
      (event o period teams) s := by
  unfold event
  refine ends_bind (duels_lookup hd hslash h.ground (by nofun) rfl fun s₁ hn₁ hst₁ => ?_)
  have h₁ := h.next hslash hn₁ hst₁
  have hk₁ := hn₁.keeps_of_eq hst₁
  have hperiod₁ := hk₁ .period trivial _ _ hperiod
  have hteams₁ := hteams.keeps hk₁
  cases hfind : Table.find? s.staged.events s.memory.committed.events o.externalId with
  | some row =>
    obtain ⟨hkey, hold⟩ : row.externalId = o.externalId ∧
        s.memory.committed.events.get? row.guid = some row := by
      obtain ⟨hkey, hstaged | ⟨hcommitted, -⟩⟩ := Table.find?_some hfind
      · rw [h.events] at hstaged
        cases hstaged
      · exact ⟨hkey, (h.ground.sound .event).get?_of_mem_rows hcommitted⟩
    obtain ⟨row₁, hrow₁, hpart⟩ := hn₁.rivals.grows.continues .event row.guid row hold
    have hid : row₁.externalId = o.externalId := (congrArg Prod.fst hpart).trans hkey
    have hseen : Table.findGuid? s₁.staged.events s₁.memory.committed.events row.guid =
        some row₁ := by
      rw [h₁.events]
      exact hrow₁
    have hp := congrArg told (s₁.memory.perform_updateEvent mint s₁.staged row.guid
      (patch o period teams))
    refine ends_bind (duels_update hd hslash h₁.ground (by nofun) hp hseen
      fun _ s₂ hn₂ hst₂ => ends_pure ?_)
    have hown : row₁.guid = row.guid := (h₁.ground.sound .event).own _ row₁ hrow₁
    refine eventStaged_of_put hslash hne h₁ hn₂ hst₂ hid
      (refers_of_found hperiod₁ hteams₁ rfl ?_) (Or.inl ?_)
    · rintro both rfl
      exact ⟨rfl, rfl⟩
    · change s₁.memory.committed.events.contains row₁.guid = true
      rw [hown]
      exact (Table.contains_iff _ _).mpr ⟨row₁, hrow₁⟩
  | none =>
    have habsent : ∀ r ∈ s₁.memory.committed.events.rows, r.externalId ≠ o.externalId := by
      intro r hr hsame
      rcases hn₁.rivals.grows.rows .event r hr with hold | htouched
      · have hhidden := ((Table.find?_eq_none_iff _ _ _).mp hfind).2 r hold hsame
        rw [h.events] at hhidden
        cases hhidden
      · exact hne (hsame.symm.trans htouched)
    have hfree : Table.find? s₁.staged.events s₁.memory.committed.events o.externalId = none := by
      rw [h₁.events]
      exact (Table.find?_eq_none_iff _ _ _).mpr
        ⟨(fun _ hr => nomatch hr), fun r hr hsame => absurd hsame (habsent r hr)⟩
    have hp := congrArg told (s₁.memory.perform_createEvent mint s₁.staged (draft o period teams))
    refine ends_bind (duels_insert hd hslash h₁.ground (by nofun) hp hfree
      fun _ s₂ hn₂ hst₂ => ?_)
    have h₂ : EventStaged mint m₀ o o' (.created (mint.row s₁.memory.rows)) s₂ := by
      refine eventStaged_of_put hslash hne h₁ hn₂ hst₂ rfl
        (refers_of_found hperiod₁ hteams₁ rfl ?_) (Or.inr habsent)
      rintro both rfl
      exact ⟨rfl, rfl⟩
    have hfound : Table.find? s₂.staged.events s₂.memory.committed.events o.externalId =
        some ((draft o period teams).toEvent (mint.row s₁.memory.rows)) := by
      have hevents : s₂.staged.events.rows =
          [(draft o period teams).toEvent (mint.row s₁.memory.rows)] := by
        rw [hst₂]
        change (Table.put _ _ s₁.staged.events).rows = _
        rw [h₁.events]
        rfl
      refine Table.find?_eq_of_staged (hevents ▸ List.mem_cons_self) ?_
      intro r hmem _
      rw [hevents] at hmem
      exact List.mem_singleton.mp hmem
    refine ends_bind (duels_lookup hd hslash h₂.ground (by nofun) rfl fun s₃ hn₃ hst₃ => ?_)
    rw [hfound]
    exact ends_bind (ends_pure (ends_pure (h₂.next hslash hne hn₃ hst₃)))

theorem duels_title (hne : o.externalId ≠ o'.externalId) {outcome : Outcome}
    (h : EventStaged mint m₀ o o' outcome s) :
    Ends (duel mint o o') bad (fun _ s' => AllStaged mint m₀ o o' outcome s')
      (title o outcome.guid) s := by
  unfold title
  refine ends_bind (duels_lookup hd hslash h.ground (by nofun) rfl fun s₁ hn₁ hst₁ => ?_)
  have h₁ := h.next hslash hne hn₁ hst₁
  cases hfind : Table.find? s.staged.titles s.memory.committed.titles
      (pairKey outcome.guid o.identity.language) with
  | some row =>
    by_cases htitle : row.title ≠ o.title
    · simp only [if_pos htitle]
      have hold : s.memory.committed.titles.get? row.guid = some row := by
        obtain ⟨-, hstaged | ⟨hcommitted, -⟩⟩ := Table.find?_some hfind
        · rw [h.titles] at hstaged
          cases hstaged
        · exact (h.ground.sound .title).get?_of_mem_rows hcommitted
      obtain ⟨row₁, hrow₁, hpart⟩ := hn₁.rivals.grows.continues .title row.guid row hold
      have hseen : Table.findGuid? s₁.staged.titles s₁.memory.committed.titles row.guid =
          some row₁ := by
        rw [h₁.titles]
        exact hrow₁
      have hp := congrArg told (s₁.memory.perform_updateTitle mint s₁.staged row.guid o.title)
      refine duels_update hd hslash h₁.ground (by nofun) hp hseen fun _ s₂ hn₂ hst₂ => ?_
      refine allStaged_of_put hslash hne h₁ hn₂ hst₂ ?_ (Or.inl ?_)
      · exact (Store.Fixed.key_eq hpart).trans (Table.find?_some hfind).1
      · have hown : row₁.guid = row.guid := (h₁.ground.sound .title).own _ row₁ hrow₁
        change s₁.memory.committed.titles.contains row₁.guid = true
        rw [hown]
        exact (Table.contains_iff _ _).mpr ⟨row₁, hrow₁⟩
    · simp only [if_neg htitle]
      exact ends_pure h₁.allStaged
  | none =>
    have habsent : ∀ r ∈ s₁.memory.committed.titles.rows,
        Row.key r ≠ pairKey outcome.guid o.identity.language := by
      intro r hr hsame
      rcases hn₁.rivals.grows.rows .title r hr with hold | htouched
      · have hhidden := ((Table.find?_eq_none_iff _ _ _).mp hfind).2 r hold hsame
        rw [h.titles] at hhidden
        cases hhidden
      · obtain ⟨e, hseated⟩ := h₁.seated
        exact hseated.title_ne hslash hne h₁.ground.sound h₁.ground.admits htouched _ hsame
    have hfree : Table.find? s₁.staged.titles s₁.memory.committed.titles
        (pairKey outcome.guid o.identity.language) = none := by
      rw [h₁.titles]
      exact (Table.find?_eq_none_iff _ _ _).mpr
        ⟨(fun _ hr => nomatch hr), fun r hr hsame => absurd hsame (habsent r hr)⟩
    have hp := congrArg told (s₁.memory.perform_createTitle mint s₁.staged
      (titleDraft o outcome.guid))
    refine duels_insert hd hslash h₁.ground (by nofun) hp hfree fun _ s₂ hn₂ hst₂ => ?_
    exact allStaged_of_put hslash hne h₁ hn₂ hst₂ rfl (Or.inr habsent)

end Duels

/-! ## The commit -/

/-- The event of an upsert is committed, and it refers to committed rows of the right keys. -/
def Landed (o : Observation) (outcome : Outcome) (t : Tables) : Prop :=
  ∃ e, t.events.get? outcome.guid = some e ∧ e.externalId = o.externalId ∧
    ∀ k key g, o.Refers e k key g → t.Holds k g key

/-- Two upserts have staged a new row under one key, and the rival was first to commit its own. -/
structure Collision (m₀ : Memory) (o o' : Observation) (k : Entity) (key : String)
    (staged committed : Tables) : Prop where
  shared : k.Shared
  own : o.Uses k key
  rival : o'.Uses k key
  first : ∀ row ∈ (m₀.committed.of k).rows, Row.key row ≠ key
  staged : ∃ row ∈ (staged.of k).rows,
    Row.key row = key ∧ (committed.of k).contains (Row.guid row) = false
  committed : ∃ row ∈ (committed.of k).rows, Row.key row = key

/-- The commit of an upsert was refused for a collision. -/
def Refused (m₀ : Memory) (o o' : Observation) (e : UpsertError) (s : Scene) : Prop :=
  s.published = false ∧ ∃ k key staged committed, e = .store (.duplicate k.name key) ∧
    s.last = some (.commit, staged, committed) ∧ Collision m₀ o o' k key staged committed

/-- How an upsert beside a rival may end. -/
def Settles (m₀ : Memory) (o o' : Observation) (r : Except UpsertError Outcome) (s : Scene) :
    Prop :=
  match r with
  | .ok outcome => Landed o outcome s.memory.committed
  | .error e => Refused m₀ o o' e s

theorem Landed.rival (hne : o.externalId ≠ o'.externalId) {outcome : Outcome} {m m' : Memory}
    {staged : Tables} (h : Landed o outcome m.committed) (hm : m.Sound mint)
    (hr : m.Rivals mint o' staged m') : Landed o outcome m'.committed := by
  obtain ⟨e, hget, hid, hrefers⟩ := h
  obtain ⟨e', hget', hpart⟩ := hr.grows.continues .event _ e hget
  have hid' : e'.externalId = o.externalId := (congrArg Prod.fst hpart).trans hid
  have hsame : e' = e := by
    rcases hr.grows.rows .event e' (Table.mem_rows_of_get? hget') with hold | htouched
    · have hagain := (hm .event).get?_of_mem_rows hold
      rw [show Row.guid e' = outcome.guid from (hr.sound .event).own _ e' hget'] at hagain
      exact Option.some.inj (hagain.symm.trans hget)
    · exact absurd (hid'.symm.trans htouched) hne
  subst hsame
  exact ⟨e', hget', hid, fun k key g hg => (hrefers k key g hg).later hr.grows.continues⟩

theorem AllStaged.event {outcome : Outcome} {e : Event} {m : Memory} {staged : Tables}
    (h : Seated o outcome e m staged) : staged.events.get? outcome.guid = some e := by
  rw [h.events]
  exact (Table.get?_singleton_iff _ _ _ _).mpr ⟨rfl, rfl⟩

/-- An upsert that has staged all its rows may commit them. -/
theorem AllStaged.owned {outcome : Outcome} (h : AllStaged mint m₀ o o' outcome s) :
    s.memory.committed.Owned o s.staged := by
  obtain ⟨e, hseated⟩ := h.seated
  intro k row hrow
  cases k with
  | period => exact h.stakes.keys .period trivial row hrow
  | team => exact h.stakes.keys .team trivial row hrow
  | teamName =>
    obtain ⟨team, hteam⟩ := (Table.contains_iff _ _).mp (h.stakes.names row hrow).1
    exact (Table.contains_iff _ _).mpr
      ⟨team, Tables.get?_publish_of_staged h.ground.admits .team hteam⟩
  | event =>
    change row ∈ s.staged.events.rows at hrow
    rw [hseated.events] at hrow
    rw [List.mem_singleton.mp hrow]
    exact hseated.key
  | title =>
    have hget := AllStaged.event hseated
    refine ⟨e, Table.mem_rows_of_get?
      (Tables.get?_publish_of_staged h.ground.admits .event hget), hseated.key,
      o.identity.language, ?_⟩
    rw [show e.guid = outcome.guid from (h.ground.admits .event).own _ e hget]
    exact h.titles row hrow

theorem duels_commit (hne : o.externalId ≠ o'.externalId) {outcome : Outcome}
    (h : AllStaged mint m₀ o o' outcome s) :
    Ends (duel mint o o') (Refused m₀ o o')
      (fun _ s' => Landed o outcome s'.memory.committed) (call .commit) s := by
  obtain ⟨e, hseated⟩ := h.seated
  refine ends_call ⟨h.ground.unpublished, fun _ => h.owned⟩ ?_ ?_
  · rintro r s' ⟨m, hp, hrivals, -⟩
    have hsound := (Memory.perform_step mint s.memory s.staged .commit).sound h.ground.sound
      h.ground.admits
    cases hc : s.staged.conflict? s.memory.committed with
    | some err =>
      rw [Memory.perform_commit_of_conflict mint hc] at hp
      exact nomatch (Prod.mk.inj hp).1
    | none =>
      rw [Memory.perform_commit_of_free mint hc] at hp hsound
      obtain ⟨rfl, -⟩ := Prod.mk.inj (Prod.mk.inj hp).2
      refine Landed.rival hne ⟨e, ?_, hseated.key, fun k key g hg => ?_⟩ hsound hrivals
      · exact Tables.get?_publish_of_staged h.ground.admits .event (AllStaged.event hseated)
      · rcases hseated.refers k key g hg with ⟨row, hget, hkey⟩ | hold
        · exact ⟨row, Tables.get?_publish_of_staged h.ground.admits k hget, hkey⟩
        · exact hold.later (Tables.continues_publish h.ground.admits)
  · rintro err s' ⟨m, hp, -, hlast, hpublished⟩
    cases hc : s.staged.conflict? s.memory.committed with
    | none =>
      rw [Memory.perform_commit_of_free mint hc] at hp
      exact nomatch (Prod.mk.inj hp).1
    | some err' =>
      rw [Memory.perform_commit_of_conflict mint hc] at hp
      obtain ⟨k, row, hrow, hnew, ⟨r, hr, hkey⟩, he⟩ := Tables.conflict?_eq_some hc
      have hfree : Table.conflict? (s.staged.of k) (s.memory.committed.of k) ≠ none := by
        rw [ne_eq, Table.conflict?_eq_none_iff]
        exact fun hnone => hnone row hrow hnew r hr hkey
      have hshared : k.Shared := by
        cases k with
        | period | team => trivial
        | event => exact hfree hseated.free
        | title => exact hfree h.free
        | teamName => exact hfree h.stakes.free
      have hnone : s'.published = false := by
        rw [hpublished, h.ground.unpublished]
        rfl
      refine ⟨hnone, k, Row.key row, _, _, ?_, hlast, hshared, h.stakes.keys k hshared row hrow, ?_,
        h.stakes.first k hshared row hrow, ⟨row, hrow, rfl, hnew⟩, ⟨r, hr, hkey⟩⟩
      · rw [← he, ← Except.error.inj (Prod.mk.inj hp).1]
      · rcases h.ground.grows.rows k r hr with hold | htouched
        · exact absurd hkey (h.stakes.first k hshared row hrow r hold)
        · rw [← hkey]
          cases k with
          | period | team => exact htouched
          | event | title | teamName => exact hshared.elim

theorem duels_prepare (hd : mint.Distinct) (hslash : mint.Slashless)
    (hne : o.externalId ≠ o'.externalId) (hs : Ground mint m₀ o o' s) :
    Ends (duel mint o o') bad (fun outcome s' => AllStaged mint m₀ o o' outcome s')
      (prepare o) s := by
  refine ends_bind (ends_call ⟨hs.unpublished, nofun⟩ (fun _ s₁ hm => ?_) fun e s₁ hm => ?_)
  · have hn := Scene.next_of_moves hd hslash hs (by nofun) hm
    obtain ⟨m, hp, -⟩ := hm
    have hst : s₁.staged = {} := (Prod.mk.inj (Prod.mk.inj hp).2).2.symm
    have h₁ : Opening mint m₀ o o' none s₁ := by
      refine ⟨hn.ground, ?_, ?_, ?_⟩
      · rw [hst]
        exact stakes_empty m₀ o _
      · rw [hst]
      · rw [hst]
    refine ends_bind (.imp (duels_period hd hslash h₁) fun period s₂ h₂ => ?_)
    refine ends_bind (.imp (duels_players hd hslash h₂.1) fun teams s₃ h₃ => ?_)
    obtain ⟨hopening, hkeeps, hteams⟩ := h₃
    refine ends_bind (.imp (duels_event hd hslash hne hopening
      (hkeeps .period trivial _ _ h₂.2) hteams) fun outcome s₄ h₄ => ?_)
    exact ends_bind (.imp (duels_title hd hslash hne h₄) fun _ s₅ h₅ => ends_pure h₅)
  · obtain ⟨m, hp, -⟩ := hm
    exact nomatch (Prod.mk.inj hp).1

/-- Beside a rival, an upsert lands its event or is refused for a collision. -/
theorem program_settles (hd : mint.Distinct) (hslash : mint.Slashless)
    (hne : o.externalId ≠ o'.externalId) (hs : Ground mint m₀ o o' s) :
    (program o).Always (duel mint o o') (Settles m₀ o o') s := by
  have hsteps : Ends (duel mint o o') (Refused m₀ o o')
      (fun outcome s' => Landed o outcome s'.memory.committed) (steps o) s := by
    rw [steps_eq]
    refine ends_bind (.imp (duels_prepare hd hslash hne hs) fun outcome s₁ h₁ => ?_)
    exact ends_bind (.imp (duels_commit hne h₁) fun _ s₂ h₂ => ends_pure h₂)
  refine Program.Always.imp ?_ hsteps
  intro r s' hr
  cases r with
  | ok outcome => exact hr
  | error e => exact hr

end Upsert

end LiveEvents
