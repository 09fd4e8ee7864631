import LiveEvents.Proofs.CommittedRows
import LiveEvents.Proofs.FaultyCourses
import LiveEvents.Proofs.FirstUses

/-!
# Upserts one after another

What a list of observations leaves in the five tables, up to the guids of the rows. A row is made
by the first observation that uses its natural key. Of an event the last observation decides the
scores, the state and the period, the last one with teams decides the teams, and the last one that
enforces a visibility decides whether it is online; of a title the last one decides the text.
Nothing else ever changes. Upserts that are run one after another leave exactly that.
-/

namespace LiveEvents.Upsert

open Store (Entity Memory Mint Row Table Tables listed pairKey)

/-- The guids of rows by their natural keys. -/
abbrev Naming := Entity → String → Guid

/-- A team as an observation mentions it. -/
structure TeamUse where
  team : TeamRef
  ecosystem : Guid
  language : Guid

def TeamUse.key (u : TeamUse) : String := pairKey u.team.externalId u.ecosystem

def teamUses (o : Observation) : List TeamUse :=
  match o.teams with
  | some pair =>
    [⟨pair.home, pair.ecosystem, o.identity.language⟩,
      ⟨pair.away, pair.ecosystem, o.identity.language⟩]
  | none => []

/-! ## What observations leave -/

def titleKey (o : Observation) : String × Guid := (o.externalId, o.identity.language)

def homeGuid (names : Naming) (pair : TeamPair) : Guid :=
  names .team (pairKey pair.home.externalId pair.ecosystem)

def awayGuid (names : Naming) (pair : TeamPair) : Guid :=
  names .team (pairKey pair.away.externalId pair.ecosystem)

/-- The event that all observations of its id leave, of which one is the first. -/
def describedEvent (names : Naming) (os : List Observation) (first : Observation) : Event :=
  let same := os.filter (·.externalId = first.externalId)
  let last := same.getLast?.getD first
  let teams := (same.filterMap (·.teams)).getLast?
  { guid := names .event first.externalId
    externalId := first.externalId
    category := first.identity.category
    ecosystem := first.identity.ecosystem
    isSports := first.isSports
    createdAt := first.observedAt
    period := names .period last.period.code
    mainScore := last.mainScore
    clusterScore := last.clusterScore
    live := last.live
    stage := last.stage
    info := last.info
    updatedAt := last.observedAt
    homeTeam := (teams.map (homeGuid names)).getD noTeam
    awayTeam := (teams.map (awayGuid names)).getD noTeam
    isOnline := (same.filterMap (·.online)).getLast?.getD false }

def describedTitle (names : Naming) (os : List Observation) (first : Observation) : Title :=
  let same := os.filter (titleKey · = titleKey first)
  { guid := names .title (pairKey (names .event first.externalId) first.identity.language)
    event := names .event first.externalId
    language := first.identity.language
    title := (same.getLast?.getD first).title
    rules := first.rules }

def describedPeriod (names : Naming) (first : Observation) : Period :=
  (periodDraft first.period).toPeriod (names .period first.period.code)

def describedTeam (names : Naming) (first : TeamUse) : Team :=
  (teamDraft first.team first.ecosystem).toTeam (names .team first.key)

def describedTeamName (names : Naming) (first : TeamUse) : TeamName :=
  (teamNameDraft first.team (names .team first.key) first.language).toTeamName
    (names .teamName (pairKey (names .team first.key) first.language))

/-- All that a list of observations leaves in the store. -/
def described (names : Naming) (os : List Observation) : Tables where
  events := listed (describedEvent names os) (firsts (·.externalId) os)
  titles := listed (describedTitle names os) (firsts titleKey os)
  periods := listed (describedPeriod names) (firsts (·.period.code) os)
  teams := listed (describedTeam names) (firsts TeamUse.key (os.flatMap teamUses))
  teamNames := listed (describedTeamName names) (firsts TeamUse.key (os.flatMap teamUses))

variable {mint : Mint} {names : Naming} {m : Memory} {os : List Observation} {o first : Observation}

/-! ## One more observation -/

/-- The last value that the elements have to give. -/
theorem getLast?_filterMap_snoc {α β : Type} (f : α → Option β) (as : List α) (a : α) :
    ((as ++ [a]).filterMap f).getLast? = (f a).or (as.filterMap f).getLast? := by
  rw [List.filterMap_append, List.getLast?_append]
  cases h : f a with
  | some b => simp [h]
  | none => simp [h]

theorem filter_key_snoc_same {α β : Type} [DecidableEq β] (key : α → β) {a b : α}
    (h : key a = key b) (as : List α) :
    (as ++ [a]).filter (key · = key b) = as.filter (key · = key b) ++ [a] := by
  simp [List.filter_append, h]

theorem filter_key_snoc_other {α β : Type} [DecidableEq β] (key : α → β) {a b : α}
    (h : key a ≠ key b) (as : List α) :
    (as ++ [a]).filter (key · = key b) = as.filter (key · = key b) := by
  simp [List.filter_append, h]

theorem filter_key_of_none {α β : Type} [DecidableEq β] (key : α → β) {as : List α} {a : α}
    (h : ∀ b ∈ as, key b ≠ key a) : as.filter (key · = key a) = [] := by
  simpa [List.filter_eq_nil_iff] using h

theorem describedEvent_new (h : ∀ p ∈ os, p.externalId ≠ o.externalId)
    (teams : Option (Team × Team)) (hhome : teams.map (·.1.guid) = o.teams.map (homeGuid names))
    (haway : teams.map (·.2.guid) = o.teams.map (awayGuid names)) :
    describedEvent names (os ++ [o]) o =
      (draft o (names .period o.period.code) teams).toEvent (names .event o.externalId) := by
  have hsame := filter_key_snoc_same Observation.externalId (rfl : o.externalId = _) os
  rw [filter_key_of_none Observation.externalId h] at hsame
  simp only [describedEvent, hsame, getLast?_filterMap_snoc, draft, EventDraft.toEvent, hhome,
    haway]
  simp

theorem describedEvent_same (h : o.externalId = first.externalId) (teams : Option (Team × Team))
    (hhome : teams.map (·.1.guid) = o.teams.map (homeGuid names))
    (haway : teams.map (·.2.guid) = o.teams.map (awayGuid names)) :
    describedEvent names (os ++ [o]) first =
      (patch o (names .period o.period.code) teams).apply (describedEvent names os first) := by
  have hsame := filter_key_snoc_same Observation.externalId h os
  simp only [describedEvent, hsame, getLast?_filterMap_snoc, patch, EventPatch.apply, hhome, haway]
  cases o.teams with
  | some pair => cases o.online with
    | some b => simp
    | none => simp
  | none => cases o.online with
    | some b => simp
    | none => simp

theorem describedEvent_other (h : o.externalId ≠ first.externalId) :
    describedEvent names (os ++ [o]) first = describedEvent names os first := by
  simp only [describedEvent, filter_key_snoc_other Observation.externalId h os]

theorem describedTitle_new (h : ∀ p ∈ os, titleKey p ≠ titleKey o) :
    describedTitle names (os ++ [o]) o = (titleDraft o (names .event o.externalId)).toTitle
      (names .title (pairKey (names .event o.externalId) o.identity.language)) := by
  have hsame := filter_key_snoc_same titleKey (rfl : titleKey o = _) os
  rw [filter_key_of_none titleKey h] at hsame
  simp only [describedTitle, hsame]
  rfl

theorem describedTitle_same (h : titleKey o = titleKey first) :
    describedTitle names (os ++ [o]) first =
      { describedTitle names os first with title := o.title } := by
  simp only [describedTitle, filter_key_snoc_same titleKey h os, List.getLast?_append,
    List.getLast?_singleton, Option.some_or, Option.getD_some]

theorem describedTitle_other (h : titleKey o ≠ titleKey first) :
    describedTitle names (os ++ [o]) first = describedTitle names os first := by
  simp only [describedTitle, filter_key_snoc_other titleKey h os]

/-! ## Names of rows -/

/-- The guids of all rows are those of their natural keys. -/
def Named (names : Naming) (t : Tables) : Prop :=
  ∀ k g row, (t.of k).get? g = some row → names k (Row.key row) = g

def namesOf (t : Tables) : Naming := fun k key => ((t.of k).row? key).elim "" Row.guid

theorem named_namesOf (hm : m.Sound mint) : Named (namesOf m.committed) m.committed := by
  intro k g row hrow
  have hown := (hm k).own g row hrow
  have hget : (m.committed.of k).get? (Row.guid row) = some row := by rwa [hown]
  have hfind := ((hm k).row?_eq_some_iff (Row.key row) row).mpr ⟨hget, rfl⟩
  rw [namesOf, hfind]
  exact hown

theorem Named.early {early late : Tables} (h : Named names late) (hc : early.Continues late) :
    Named names early := by
  intro k g row hrow
  obtain ⟨row', hrow', hp⟩ := hc k g row hrow
  rw [← Store.Fixed.key_eq hp]
  exact h k g row' hrow'

/-- The guid of a row that is found by its key. -/
theorem Named.guid_of_row? {k : Entity} {key : String} {row : k.Of} (hm : m.Sound mint)
    (h : Named names m.committed) (hrow : (m.committed.of k).row? key = some row) :
    Row.guid row = names k key := by
  obtain ⟨hget, rfl⟩ := ((hm k).row?_eq_some_iff key row).mp hrow
  exact (h k _ row hget).symm

theorem Named.guid_of_add {k : Entity} {row : k.Of} (h : Named names (m.add k row).committed) :
    Row.guid row = names k (Row.key row) := (h k _ row (Memory.get?_add m k row)).symm

/-! ## One more upsert -/

theorem ensurePeriod_described (hd : mint.Distinct) (hm : m.Sound mint)
    (hold : m.committed.periods = listed (describedPeriod names) (firsts (·.period.code) os))
    (hn : Named names (ensurePeriod mint m o.period).2.committed) :
    (ensurePeriod mint m o.period).2.committed = m.committed.set .period
        (listed (describedPeriod names) (firsts (·.period.code) (os ++ [o]))) ∧
      (ensurePeriod mint m o.period).1.guid = names .period o.period.code := by
  cases hrow : m.committed.periods.row? o.period.code with
  | some row =>
    rw [ensurePeriod_of_some hrow] at hn ⊢
    refine ⟨?_, hn.guid_of_row? hm (k := .period) hrow⟩
    rw [hold] at hrow
    rw [(Store.firsts_of_row?_some hrow fun _ _ h => h).1, ← hold]
    rfl
  | none =>
    rw [ensurePeriod_of_none hrow] at hn ⊢
    have hguid : mint.row m.rows = names .period o.period.code := hn.guid_of_add
    refine ⟨?_, hguid⟩
    have hnew : m.committed.periods.get? (mint.row m.rows) = none := hm.get?_new hd .period
    rw [hold] at hrow hnew
    have hself : describedPeriod names o = (periodDraft o.period).toPeriod (mint.row m.rows) := by
      rw [describedPeriod, hguid]
    have hput : Table.put (mint.row m.rows) ((periodDraft o.period).toPeriod (mint.row m.rows)) _ =
        listed (describedPeriod names) (firsts (·.period.code) os ++ [o]) :=
      Store.listed_put_new hnew (fun _ _ => rfl) hself
    rw [(Store.firsts_of_row?_none hrow fun _ _ h => h).2, ← hput, ← hold]
    rfl

theorem ensureTeam_described (hd : mint.Distinct) (hm : m.Sound mint) {uses : List TeamUse}
    (u : TeamUse)
    (hteams : m.committed.teams = listed (describedTeam names) (firsts TeamUse.key uses))
    (hteamNames : m.committed.teamNames =
      listed (describedTeamName names) (firsts TeamUse.key uses))
    (hn : Named names (ensureTeam mint m u.team u.ecosystem u.language).2.committed) :
    (ensureTeam mint m u.team u.ecosystem u.language).2.committed =
        (m.committed.set .team
          (listed (describedTeam names) (firsts TeamUse.key (uses ++ [u])))).set .teamName
          (listed (describedTeamName names) (firsts TeamUse.key (uses ++ [u]))) ∧
      (ensureTeam mint m u.team u.ecosystem u.language).1.guid = names .team u.key := by
  cases hrow : m.committed.teams.row? (pairKey u.team.externalId u.ecosystem) with
  | some row =>
    rw [ensureTeam_of_some hrow] at hn ⊢
    refine ⟨?_, hn.guid_of_row? hm (k := .team) hrow⟩
    rw [hteams] at hrow
    rw [(Store.firsts_of_row?_some hrow fun _ _ h => h).1, ← hteams, ← hteamNames]
    rfl
  | none =>
    rw [ensureTeam_of_none hrow] at hn ⊢
    have hguid : mint.row m.rows = names .team u.key :=
      (hn .team _ _ (Memory.get?_add m .team ((teamDraft u.team u.ecosystem).toTeam _))).symm
    have hnameGuid : mint.name m.names =
        names .teamName (pairKey (mint.row m.rows) u.language) := hn.guid_of_add
    refine ⟨?_, hguid⟩
    have hnew : m.committed.teams.get? (mint.row m.rows) = none := hm.get?_new hd .team
    have hnewName : m.committed.teamNames.get? (mint.name m.names) = none :=
      hm.get?_new hd .teamName
    rw [hteams] at hrow hnew
    rw [hteamNames] at hnewName
    have hself : describedTeam names u =
        (teamDraft u.team u.ecosystem).toTeam (mint.row m.rows) := by
      rw [describedTeam, hguid]
    have hput : Table.put (mint.row m.rows) ((teamDraft u.team u.ecosystem).toTeam
        (mint.row m.rows)) _ = listed (describedTeam names) (firsts TeamUse.key uses ++ [u]) :=
      Store.listed_put_new hnew (fun _ _ => rfl) hself
    have hselfName : describedTeamName names u = (teamNameDraft u.team (mint.row m.rows)
        u.language).toTeamName (mint.name m.names) := by
      rw [describedTeamName, ← hguid, ← hnameGuid]
    have hputName : Table.put (mint.name m.names) ((teamNameDraft u.team (mint.row m.rows)
        u.language).toTeamName (mint.name m.names)) _ =
          listed (describedTeamName names) (firsts TeamUse.key uses ++ [u]) :=
      Store.listed_put_new hnewName (fun _ _ => rfl) hselfName
    rw [(Store.firsts_of_row?_none hrow fun _ _ h => h).2, ← hput, ← hputName, ← hteams,
      ← hteamNames]
    rfl

/-- Home and away team are two uses of teams. -/
theorem ensurePlayers_described (hd : mint.Distinct) (hm : m.Sound mint)
    (hnew : mint.Unforeseen o.identity.language m) (uses : List TeamUse)
    (hteams : m.committed.teams = listed (describedTeam names) (firsts TeamUse.key uses))
    (hteamNames : m.committed.teamNames =
      listed (describedTeamName names) (firsts TeamUse.key uses))
    (hn : Named names (ensurePlayers mint m o).2.committed) :
    (ensurePlayers mint m o).2.committed =
        (m.committed.set .team
          (listed (describedTeam names) (firsts TeamUse.key (uses ++ teamUses o)))).set .teamName
          (listed (describedTeamName names) (firsts TeamUse.key (uses ++ teamUses o))) ∧
      (ensurePlayers mint m o).1.map (·.1.guid) = o.teams.map (homeGuid names) ∧
      (ensurePlayers mint m o).1.map (·.2.guid) = o.teams.map (awayGuid names) := by
  cases hpair : o.teams with
  | none =>
    rw [ensurePlayers_of_none hpair]
    have huses : teamUses o = [] := by simp only [teamUses, hpair]
    rw [huses, List.append_nil, ← hteams, ← hteamNames]
    exact ⟨rfl, rfl, rfl⟩
  | some pair =>
    rw [ensurePlayers_of_some hpair] at hn ⊢
    have hsound := (writes_ensureTeam hnew pair.home pair.ecosystem).sound hm
    have hnew' := unforeseen_ensureTeam hd hnew pair.home pair.ecosystem
    have hlater := (writes_ensureTeam hnew' pair.away pair.ecosystem).continues hd hsound
    obtain ⟨hhome, hhomeGuid⟩ := ensureTeam_described hd hm
      ⟨pair.home, pair.ecosystem, o.identity.language⟩ hteams hteamNames (hn.early hlater)
    obtain ⟨haway, hawayGuid⟩ := ensureTeam_described hd hsound
      ⟨pair.away, pair.ecosystem, o.identity.language⟩ (by rw [hhome]; rfl) (by rw [hhome]; rfl) hn
    have huses : teamUses o = [⟨pair.home, pair.ecosystem, o.identity.language⟩] ++
        [⟨pair.away, pair.ecosystem, o.identity.language⟩] := by simp only [teamUses, hpair]; rfl
    refine ⟨?_, congrArg some hhomeGuid, congrArg some hawayGuid⟩
    rw [huses, ← List.append_assoc]
    exact haway.trans (by rw [hhome]; rfl)

theorem writeEvent_described (hd : mint.Distinct) (hm : m.Sound mint)
    (hold : m.committed.events = listed (describedEvent names os) (firsts (·.externalId) os))
    {period : Guid} (hperiod : period = names .period o.period.code)
    {teams : Option (Team × Team)} (hhome : teams.map (·.1.guid) = o.teams.map (homeGuid names))
    (haway : teams.map (·.2.guid) = o.teams.map (awayGuid names))
    (hn : Named names (writeEvent mint m o period teams).2.committed) :
    (writeEvent mint m o period teams).2.committed = m.committed.set .event
        (listed (describedEvent names (os ++ [o])) (firsts (·.externalId) (os ++ [o]))) ∧
      (writeEvent mint m o period teams).1.guid = names .event o.externalId := by
  subst hperiod
  cases hrow : m.committed.events.row? o.externalId with
  | some row =>
    rw [writeEvent_of_some hrow] at hn ⊢
    have hget : m.committed.events.get? row.guid = some row :=
      (((hm .event).row?_eq_some_iff o.externalId row).mp hrow).1
    have hearly := hn.early (Memory.continues_change .event hget rfl)
    refine ⟨?_, hearly.guid_of_row? hm (k := .event) hrow⟩
    have ht : Table.Committed (mint.guid .event) (m.given .event)
        (listed (describedEvent names os) (firsts (·.externalId) os)) := hold ▸ hm .event
    rw [hold] at hrow hget
    obtain ⟨hfirsts, b, _, rfl, hkey⟩ := Store.firsts_of_row?_some hrow fun _ _ h => h
    have hsame : ∀ a ∈ firsts (·.externalId) os,
        describedEvent names os a = describedEvent names os b →
          describedEvent names (os ++ [o]) a =
            (patch o (names .period o.period.code) teams).apply (describedEvent names os b) := by
      intro a _ he
      have hid : a.externalId = b.externalId := congrArg (fun e : Event => e.externalId) he
      rw [describedEvent_same (hkey.symm.trans hid.symm) teams hhome haway, he]
    have hother : ∀ a ∈ firsts (·.externalId) os,
        Row.key (describedEvent names os a) ≠ Row.key (describedEvent names os b) →
          describedEvent names (os ++ [o]) a = describedEvent names os a :=
      fun a _ hne => describedEvent_other fun he => hne (he.symm.trans hkey.symm)
    have hput : Table.put (Row.guid (describedEvent names os b))
        ((patch o (names .period o.period.code) teams).apply (describedEvent names os b)) _ =
          listed (describedEvent names (os ++ [o])) (firsts (·.externalId) os) :=
      Store.listed_put_change ht hget rfl hsame hother
    rw [hfirsts, ← hput, ← hold]
    rfl
  | none =>
    rw [writeEvent_of_none hrow] at hn ⊢
    have hguid : mint.row m.rows = names .event o.externalId := hn.guid_of_add
    refine ⟨?_, hguid⟩
    have hnew : m.committed.events.get? (mint.row m.rows) = none := hm.get?_new hd .event
    rw [hold] at hrow hnew
    obtain ⟨hnone, hfirsts⟩ := Store.firsts_of_row?_none hrow fun _ _ h => h
    have hself : describedEvent names (os ++ [o]) o =
        (draft o (names .period o.period.code) teams).toEvent (mint.row m.rows) := by
      rw [describedEvent_new hnone teams hhome haway, hguid]
    have hother : ∀ b ∈ firsts (·.externalId) os,
        describedEvent names os b = describedEvent names (os ++ [o]) b :=
      fun b hb => (describedEvent_other (Ne.symm (hnone b (mem_of_mem_firsts hb)))).symm
    have hput : Table.put (mint.row m.rows)
        ((draft o (names .period o.period.code) teams).toEvent (mint.row m.rows)) _ =
          listed (describedEvent names (os ++ [o])) (firsts (·.externalId) os ++ [o]) :=
      Store.listed_put_new hnew hother hself
    rw [hfirsts, ← hput, ← hold]
    rfl

theorem writeTitle_described (hd : mint.Distinct) (hm : m.Sound mint)
    (hold : m.committed.titles = listed (describedTitle names os) (firsts titleKey os))
    (hkeys : ∀ p ∈ os, pairKey (names .event p.externalId) p.identity.language =
      pairKey (names .event o.externalId) o.identity.language → titleKey p = titleKey o)
    {event : Guid} (hevent : event = names .event o.externalId)
    (hn : Named names (writeTitle mint m o event).committed) :
    (writeTitle mint m o event).committed = m.committed.set .title
      (listed (describedTitle names (os ++ [o])) (firsts titleKey (os ++ [o]))) := by
  subst hevent
  have hback : ∀ p ∈ os, titleKey p = titleKey o → Row.key (describedTitle names os p) =
      pairKey (names .event o.externalId) o.identity.language := by
    intro p _ hp
    obtain ⟨hid, hlang⟩ := Prod.mk.inj hp
    change pairKey (names .event p.externalId) p.identity.language = _
    rw [hid, hlang]
  cases hrow : m.committed.titles.row? (pairKey (names .event o.externalId) o.identity.language)
    with
  | some row =>
    rw [writeTitle_of_some hrow]
    have hget : m.committed.titles.get? row.guid = some row :=
      (((hm .title).row?_eq_some_iff _ row).mp hrow).1
    have ht : Table.Committed (mint.guid .title) (m.given .title)
        (listed (describedTitle names os) (firsts titleKey os)) := hold ▸ hm .title
    rw [hold] at hrow hget
    obtain ⟨hfirsts, b, hb, rfl, hkey⟩ := Store.firsts_of_row?_some hrow hkeys
    have hbkey := hback b (mem_of_mem_firsts hb) hkey
    have hsame : ∀ a ∈ firsts titleKey os,
        describedTitle names os a = describedTitle names os b →
        describedTitle names (os ++ [o]) a =
          { describedTitle names os b with title := o.title } := by
      intro a ha he
      have hk : titleKey a = titleKey o :=
        hkeys a (mem_of_mem_firsts ha) ((congrArg Row.key he).trans hbkey)
      rw [describedTitle_same hk.symm, he]
    have hother : ∀ a ∈ firsts titleKey os,
        Row.key (describedTitle names os a) ≠ Row.key (describedTitle names os b) →
          describedTitle names (os ++ [o]) a = describedTitle names os a := by
      intro a ha hne
      refine describedTitle_other fun he => hne ?_
      exact (hback a (mem_of_mem_firsts ha) he.symm).trans hbkey.symm
    have hput : Table.put (Row.guid (describedTitle names os b))
        { describedTitle names os b with title := o.title } _ =
          listed (describedTitle names (os ++ [o])) (firsts titleKey os) :=
      Store.listed_put_change ht hget rfl hsame hother
    by_cases htitle : (describedTitle names os b).title = o.title
    · rw [← htitle] at hput
      have hkept := (Table.put_self hget).symm.trans hput
      rw [if_neg (not_not.mpr htitle), hfirsts, ← hkept, ← hold]
      rfl
    · rw [if_pos htitle, hfirsts, ← hput, ← hold]
      rfl
  | none =>
    rw [writeTitle_of_none hrow] at hn ⊢
    have hguid : mint.row m.rows = names .title
        (pairKey (names .event o.externalId) o.identity.language) := hn.guid_of_add
    have hnew : m.committed.titles.get? (mint.row m.rows) = none := hm.get?_new hd .title
    rw [hold] at hrow hnew
    obtain ⟨hnone, hfirsts⟩ := Store.firsts_of_row?_none hrow hback
    have hself : describedTitle names (os ++ [o]) o =
        (titleDraft o (names .event o.externalId)).toTitle (mint.row m.rows) := by
      rw [describedTitle_new hnone, hguid]
    have hother : ∀ b ∈ firsts titleKey os,
        describedTitle names os b = describedTitle names (os ++ [o]) b :=
      fun b hb => (describedTitle_other (Ne.symm (hnone b (mem_of_mem_firsts hb)))).symm
    have hput : Table.put (mint.row m.rows)
        ((titleDraft o (names .event o.externalId)).toTitle (mint.row m.rows)) _ =
          listed (describedTitle names (os ++ [o])) (firsts titleKey os ++ [o]) :=
      Store.listed_put_new hnew hother hself
    rw [hfirsts, ← hput, ← hold]
    rfl

/-- The tables are what these observations leave. -/
structure Described (mint : Mint) (os : List Observation) (m : Memory) : Prop where
  sound : m.Sound mint
  tables : ∀ names, Named names m.committed → m.committed = described names os

theorem described_empty (mint : Mint) : Described mint [] {} :=
  ⟨Memory.sound_empty mint, fun _ _ => rfl⟩

/-- Every team that has a name is a row of the store. -/
theorem Described.unforeseen (hd : mint.Distinct) (hs : mint.Slashless)
    (h : Described mint os m) (language : Guid) : mint.Unforeseen language m := by
  refine h.sound.unforeseen hd hs ?_ language
  intro name hname
  have htables := h.tables _ (named_namesOf h.sound)
  have hteams := congrArg Tables.teams htables
  have hteamNames := congrArg Tables.teamNames htables
  rw [hteamNames] at hname
  change name ∈ (listed _ _).rows at hname
  rw [Store.rows_listed] at hname
  obtain ⟨u, hu, rfl⟩ := List.mem_map.mp hname
  have hmem : describedTeam (namesOf m.committed) u ∈ m.committed.teams.rows := by
    rw [hteams]
    change _ ∈ (listed _ _).rows
    rw [Store.rows_listed]
    exact List.mem_map_of_mem hu
  exact (Table.contains_iff _ _).mpr ⟨_, (h.sound .team).get?_of_mem_rows hmem⟩

theorem exists_event (hm : m.Sound mint)
    (hold : m.committed.events = listed (describedEvent names os) (firsts (·.externalId) os))
    (h : o ∈ os) : ∃ row, m.committed.events.get? (names .event o.externalId) = some row ∧
      row.externalId = o.externalId := by
  obtain ⟨b, hb, hkey⟩ : ∃ b ∈ firsts (·.externalId) os, b.externalId = o.externalId :=
    exists_mem_firsts h
  have hmem : describedEvent names os b ∈ m.committed.events.rows := by
    rw [hold, Store.rows_listed]
    exact List.mem_map_of_mem hb
  refine ⟨describedEvent names os b, ?_, hkey⟩
  rw [← hkey]
  exact (hm .event).get?_of_mem_rows hmem

/-- The keys of two titles differ unless they are of one event in one language. -/
theorem titleKey_of_pairKey (hs : mint.Slashless) (hm : m.Sound mint)
    (hold : m.committed.events = listed (describedEvent names os) (firsts (·.externalId) os))
    {p q : Observation} (hp : p ∈ os) (hq : q ∈ os)
    (h : pairKey (names .event p.externalId) p.identity.language =
      pairKey (names .event q.externalId) q.identity.language) : titleKey p = titleKey q := by
  obtain ⟨row, hrow, hid⟩ := exists_event hm hold hp
  obtain ⟨row', hrow', hid'⟩ := exists_event hm hold hq
  obtain ⟨i, _, hi⟩ := (hm .event).given _ ((Table.contains_iff _ _).mpr ⟨row, hrow⟩)
  obtain ⟨j, _, hj⟩ := (hm .event).given _ ((Table.contains_iff _ _).mpr ⟨row', hrow'⟩)
  obtain ⟨hguid, hlang⟩ := Store.pairKey_injective (hi ▸ hs i) (hj ▸ hs j) h
  rw [hguid, hrow'] at hrow
  rw [Option.some.inj hrow] at hid'
  exact Prod.ext (hid.symm.trans hid') hlang

/-- One more observation is written, and the tables are again what all observations leave. -/
theorem Described.write (hd : mint.Distinct) (hs : mint.Slashless) (h : Described mint os m)
    (o : Observation) : Described mint (os ++ [o]) (write mint m o).2 := by
  have hnew := h.unforeseen hd hs o.identity.language
  let m₁ := (ensurePeriod mint m o.period).2
  let m₂ := (ensurePlayers mint m₁ o).2
  let period := (ensurePeriod mint m o.period).1.guid
  let teams := (ensurePlayers mint m₁ o).1
  let m₃ := (writeEvent mint m₂ o period teams).2
  have hw₁ : m.Writes mint m₁ := writes_ensurePeriod m o.period
  have hs₁ := hw₁.sound h.sound
  have hnew₁ : mint.Unforeseen o.identity.language m₁ := unforeseen_ensurePeriod hnew o.period
  have hw₂ : m₁.Writes mint m₂ := writes_ensurePlayers hd o hnew₁
  have hs₂ := hw₂.sound hs₁
  have hw₃ : m₂.Writes mint m₃ := writes_writeEvent hs₂ o period teams
  have hs₃ := hw₃.sound hs₂
  have hw₄ := writes_writeTitle hs₃ o (writeEvent mint m₂ o period teams).1.guid
  refine ⟨hw₄.sound hs₃, fun names hn => ?_⟩
  have hn₃ : Named names m₃.committed := hn.early (hw₄.continues hd hs₃)
  have hn₂ : Named names m₂.committed := hn₃.early (hw₃.continues hd hs₂)
  have hn₁ : Named names m₁.committed := hn₂.early (hw₂.continues hd hs₁)
  have h₀ := h.tables names (hn₁.early (hw₁.continues hd h.sound))
  obtain ⟨h₁, hperiod⟩ := ensurePeriod_described hd h.sound (congrArg Tables.periods h₀) hn₁
  rw [h₀] at h₁
  obtain ⟨h₂, hhome, haway⟩ := ensurePlayers_described hd hs₁ hnew₁ (os.flatMap teamUses)
    (congrArg Tables.teams h₁) (congrArg Tables.teamNames h₁) hn₂
  rw [h₁] at h₂
  obtain ⟨h₃, hevent⟩ := writeEvent_described hd hs₂ (congrArg Tables.events h₂) hperiod hhome
    haway hn₃
  rw [h₂] at h₃
  have hmem : o ∈ os ++ [o] := List.mem_append_right os List.mem_cons_self
  have hkeys := fun p (hp : p ∈ os) =>
    titleKey_of_pairKey hs hs₃ (congrArg Tables.events h₃) (List.mem_append_left [o] hp) hmem
  have h₄ := writeTitle_described hd hs₃ (congrArg Tables.titles h₃) hkeys hevent hn
  rw [h₃] at h₄
  refine h₄.trans ?_
  unfold described
  rw [List.flatMap_append, List.flatMap_singleton]
  rfl

/-! ## Whole runs -/

/-- Upserts one after another, each in a transaction of its own. -/
def runAll (mint : Mint) (m : Memory) :
    List Observation → List (Except UpsertError Outcome) × Memory
  | [] => ([], m)
  | o :: os =>
    let (result, m, _) := m.run mint {} (program o)
    let (results, m) := runAll mint m os
    (result :: results, m)

theorem length_runAll (mint : Mint) (m : Memory) (os : List Observation) :
    (runAll mint m os).1.length = os.length := by
  induction os generalizing m with
  | nil => rfl
  | cons o os ih => exact congrArg (· + 1) (ih _)

theorem Described.runAll (hd : mint.Distinct) (hs : mint.Slashless) (h : Described mint os m)
    (later : List Observation) :
    (∀ r ∈ (runAll mint m later).1, ∃ outcome, r = .ok outcome) ∧
      Described mint (os ++ later) (runAll mint m later).2 := by
  induction later generalizing os m with
  | nil =>
    rw [List.append_nil]
    exact ⟨fun r hr => absurd hr List.not_mem_nil, h⟩
  | cons o later ih =>
    obtain ⟨hresult, hmemory⟩ :=
      run_program hd h.sound (h.unforeseen hd hs o.identity.language)
    obtain ⟨hrest, hdescribed⟩ := ih (h.write hd hs o)
    rw [← hmemory] at hrest hdescribed
    rw [List.append_assoc] at hdescribed
    refine ⟨?_, hdescribed⟩
    intro r hr
    rcases List.mem_cons.mp hr with rfl | hr
    · exact ⟨_, hresult⟩
    · exact hrest r hr

/-- Upserts that follow one another on an empty store all succeed, and leave in the five tables
what their observations leave, under guids that are different in each table. -/
theorem serial_upserts_described (hd : mint.Distinct) (hs : mint.Slashless)
    (os : List Observation) :
    (runAll mint {} os).1.length = os.length ∧
      (∀ r ∈ (runAll mint {} os).1, ∃ outcome, r = .ok outcome) ∧
      (∃ names, (runAll mint {} os).2.committed = described names os) ∧
      ∀ k, ((runAll mint {} os).2.committed.of k).WellKeyed := by
  obtain ⟨hok, hdescribed⟩ := (described_empty mint).runAll hd hs os
  refine ⟨length_runAll mint {} os, hok, ?_, fun k => (hdescribed.sound k).wellKeyed⟩
  exact ⟨_, hdescribed.tables _ (named_namesOf hdescribed.sound)⟩

def tipOff : Observation :=
  { finals with
    mainScore := "0", clusterScore := "0", live := .upcoming, stage := "Q1", online := none
    title := "Game 7", rules := "First to 4 wins." }

/-- A game is seen before it begins and after it has ended. -/
theorem tipOff_finals_described : Mint.serial.Distinct ∧ Mint.serial.Slashless ∧
    (∃ names, (runAll .serial {} [tipOff, finals]).2.committed = described names [tipOff, finals]) ∧
    (runAll .serial {} [tipOff, finals]).2.committed.events.rows.map
      (fun e => (e.mainScore, e.isOnline, e.homeTeam)) = [("106", true, Store.hexGuid 'a' 1)] ∧
    (runAll .serial {} [tipOff, finals]).2.committed.titles.rows.map
      (fun t => (t.title, t.rules)) = [("Celtics vs Mavericks", "First to 4 wins.")] := by
  obtain ⟨_, _, hnames, _⟩ :=
    serial_upserts_described Mint.serial_distinct Mint.serial_slashless [tipOff, finals]
  exact ⟨Mint.serial_distinct, Mint.serial_slashless, hnames, by decide +kernel, by decide +kernel⟩

end LiveEvents.Upsert
