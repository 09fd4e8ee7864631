import LiveEvents.Proofs.LoneTransactions
import LiveEvents.Proofs.SerialGuids
import LiveEvents.Upsert

/-!
# Writing without transactions

`Upsert.write` writes an observation straight into the tables: it finds or adds the period and the
teams, changes or adds the event, and then its title. It is what an upsert does that is alone on a
store, with the staging and the second looks taken out.
-/

namespace LiveEvents

open Store (Entity Memory Mint pairKey Row Table)

namespace Store

theorem pairKey_left_injective {owner owner' part : String}
    (h : pairKey owner part = pairKey owner' part) : owner = owner' := by
  have hlist := congrArg String.toList h
  simp only [pairKey, String.toList_append] at hlist
  exact String.toList_inj.mp (List.append_cancel_right (List.append_cancel_right hlist))

/-- No name of a team in this language is committed under a guid that is still to be given out:
guids are random, and nobody can tell one beforehand. -/
def Mint.Unforeseen (mint : Mint) (language : Guid) (m : Memory) : Prop :=
  ∀ i, m.rows ≤ i → ∀ name ∈ m.committed.teamNames.rows,
    Row.key name ≠ pairKey (mint.row i) language

/-- A name whose team is in the store was not foreseen: the guid of the team is given out. -/
theorem Memory.Sound.unforeseen {mint : Mint} {m : Memory} (hd : mint.Distinct)
    (hs : mint.Slashless) (hm : m.Sound mint)
    (hteam : ∀ name ∈ m.committed.teamNames.rows, m.committed.teams.contains name.team = true)
    (language : Guid) : mint.Unforeseen language m := by
  intro i hi name hname hkey
  obtain ⟨j, hj, hguid⟩ := (hm .team).given _ (hteam name hname)
  have hkey' : pairKey (mint.row j) name.language = pairKey (mint.row i) language :=
    (congrArg (pairKey · name.language) hguid).trans hkey
  have hrow := hd.row (pairKey_injective (hs j) (hs i) hkey').1
  have hlt : j < m.rows := hj
  omega

end Store

namespace Upsert

variable {mint : Mint} {language : Guid} {m : Memory}

def periodDraft (spec : PeriodSpec) : PeriodDraft where
  code := spec.code
  isActive := true
  scheduled := spec.scheduled
  remark := spec.remark
  extra := .object []

def teamDraft (t : TeamRef) (ecosystem : Guid) : TeamDraft where
  ecosystem := ecosystem
  externalId := t.externalId
  logo := t.logoUrl

def teamNameDraft (t : TeamRef) (team language : Guid) : TeamNameDraft where
  team := team
  language := language
  name := t.name
  shortName := t.shortName

def titleDraft (o : Observation) (event : Guid) : TitleDraft where
  event := event
  language := o.identity.language
  title := o.title
  rules := o.rules

def ensurePeriod (mint : Mint) (m : Memory) (spec : PeriodSpec) : Period × Memory :=
  match m.committed.periods.row? spec.code with
  | some row => (row, m)
  | none =>
    let row := (periodDraft spec).toPeriod (mint.row m.rows)
    (row, m.add .period row)

/-- A team that is added gets its name. -/
def ensureTeam (mint : Mint) (m : Memory) (t : TeamRef) (ecosystem language : Guid) :
    Team × Memory :=
  match m.committed.teams.row? (pairKey t.externalId ecosystem) with
  | some row => (row, m)
  | none =>
    let row := (teamDraft t ecosystem).toTeam (mint.row m.rows)
    let name := (teamNameDraft t row.guid language).toTeamName (mint.name m.names)
    (row, (m.add .team row).add .teamName name)

def ensureTeams (mint : Mint) (m : Memory) (pair : TeamPair) (language : Guid) :
    (Team × Team) × Memory :=
  let home := ensureTeam mint m pair.home pair.ecosystem language
  let away := ensureTeam mint home.2 pair.away pair.ecosystem language
  ((home.1, away.1), away.2)

def ensurePlayers (mint : Mint) (m : Memory) (o : Observation) : Option (Team × Team) × Memory :=
  match o.teams with
  | some pair =>
    let both := ensureTeams mint m pair o.identity.language
    (some both.1, both.2)
  | none => (none, m)

def writeEvent (mint : Mint) (m : Memory) (o : Observation) (period : Guid)
    (teams : Option (Team × Team)) : Outcome × Memory :=
  match m.committed.events.row? o.externalId with
  | some row => (.updated row.guid, m.change .event row.guid ((patch o period teams).apply row))
  | none =>
    let row := (draft o period teams).toEvent (mint.row m.rows)
    (.created row.guid, m.add .event row)

def writeTitle (mint : Mint) (m : Memory) (o : Observation) (event : Guid) : Memory :=
  match m.committed.titles.row? (pairKey event o.identity.language) with
  | some row =>
    if row.title ≠ o.title then m.change .title row.guid { row with title := o.title } else m
  | none => m.add .title ((titleDraft o event).toTitle (mint.row m.rows))

def writeBoth (mint : Mint) (m : Memory) (o : Observation) (period : Guid)
    (teams : Option (Team × Team)) : Outcome × Memory :=
  ((writeEvent mint m o period teams).1, writeTitle mint (writeEvent mint m o period teams).2 o
    (writeEvent mint m o period teams).1.guid)

def write (mint : Mint) (m : Memory) (o : Observation) : Outcome × Memory :=
  writeBoth mint (ensurePlayers mint (ensurePeriod mint m o.period).2 o).2 o
    (ensurePeriod mint m o.period).1.guid (ensurePlayers mint (ensurePeriod mint m o.period).2 o).1

def celtics : TeamRef := { externalId := "bos", name := "Celtics", shortName := "BOS" }

def finals : Observation where
  externalId := "finals-7"
  identity := { category := "sports", ecosystem := "nba", language := "en" }
  period := { code := "2024-06-01", scheduled := "2024-06-01 00:00:00", remark := "" }
  teams := some
    { ecosystem := "nba"
      home := celtics
      away := { externalId := "dal", name := "Mavericks", shortName := "DAL" } }
  mainScore := "106"
  clusterScore := "88"
  live := .finished
  stage := "FT"
  info := .object []
  title := "Celtics vs Mavericks"
  rules := ""
  isSports := true
  online := some true
  observedAt := ⟨.epoch, 0, 0⟩

/-! ## What each write does -/

theorem ensurePeriod_of_some {spec : PeriodSpec} {row : Period}
    (h : m.committed.periods.row? spec.code = some row) : ensurePeriod mint m spec = (row, m) := by
  simp only [ensurePeriod, h]

theorem ensurePeriod_of_none {spec : PeriodSpec} (h : m.committed.periods.row? spec.code = none) :
    ensurePeriod mint m spec =
      ((periodDraft spec).toPeriod (mint.row m.rows),
        m.add .period ((periodDraft spec).toPeriod (mint.row m.rows))) := by
  simp only [ensurePeriod, h]

theorem ensureTeam_of_some {t : TeamRef} {ecosystem : Guid} {row : Team}
    (h : m.committed.teams.row? (pairKey t.externalId ecosystem) = some row) :
    ensureTeam mint m t ecosystem language = (row, m) := by
  simp only [ensureTeam, h]

theorem ensureTeam_of_none {t : TeamRef} {ecosystem : Guid}
    (h : m.committed.teams.row? (pairKey t.externalId ecosystem) = none) :
    ensureTeam mint m t ecosystem language =
      ((teamDraft t ecosystem).toTeam (mint.row m.rows),
        (m.add .team ((teamDraft t ecosystem).toTeam (mint.row m.rows))).add .teamName
          ((teamNameDraft t (mint.row m.rows) language).toTeamName (mint.name m.names))) := by
  simp only [ensureTeam, h]
  rfl

theorem ensurePlayers_of_some {o : Observation} {pair : TeamPair} (h : o.teams = some pair) :
    ensurePlayers mint m o = (some (ensureTeams mint m pair o.identity.language).1,
      (ensureTeams mint m pair o.identity.language).2) := by
  simp only [ensurePlayers, h]

theorem ensurePlayers_of_none {o : Observation} (h : o.teams = none) :
    ensurePlayers mint m o = (none, m) := by
  simp only [ensurePlayers, h]

theorem writeEvent_of_some {o : Observation} {row : Event}
    (h : m.committed.events.row? o.externalId = some row) (period : Guid)
    (teams : Option (Team × Team)) : writeEvent mint m o period teams =
      (.updated row.guid, m.change .event row.guid ((patch o period teams).apply row)) := by
  simp only [writeEvent, h]

theorem writeEvent_of_none {o : Observation} (h : m.committed.events.row? o.externalId = none)
    (period : Guid) (teams : Option (Team × Team)) : writeEvent mint m o period teams =
      (.created (mint.row m.rows),
        m.add .event ((draft o period teams).toEvent (mint.row m.rows))) := by
  simp only [writeEvent, h]
  rfl

theorem writeTitle_of_some {o : Observation} {event : Guid} {row : Title}
    (h : m.committed.titles.row? (pairKey event o.identity.language) = some row) :
    writeTitle mint m o event =
      if row.title ≠ o.title then m.change .title row.guid { row with title := o.title }
      else m := by
  simp only [writeTitle, h]

theorem writeTitle_of_none {o : Observation} {event : Guid}
    (h : m.committed.titles.row? (pairKey event o.identity.language) = none) :
    writeTitle mint m o event = m.add .title ((titleDraft o event).toTitle (mint.row m.rows)) := by
  simp only [writeTitle, h]

/-! ## Names that nobody could foresee -/

theorem unforeseen_ensurePeriod (h : mint.Unforeseen language m) (spec : PeriodSpec) :
    mint.Unforeseen language (ensurePeriod mint m spec).2 := by
  cases hrow : m.committed.periods.row? spec.code with
  | some row =>
    rw [ensurePeriod_of_some hrow]
    exact h
  | none =>
    rw [ensurePeriod_of_none hrow]
    exact fun i hi => h i (Nat.le_of_succ_le hi)

theorem unforeseen_ensureTeam (hd : mint.Distinct) (h : mint.Unforeseen language m) (t : TeamRef)
    (ecosystem : Guid) : mint.Unforeseen language (ensureTeam mint m t ecosystem language).2 := by
  cases hrow : m.committed.teams.row? (pairKey t.externalId ecosystem) with
  | some row =>
    rw [ensureTeam_of_some hrow]
    exact h
  | none =>
    rw [ensureTeam_of_none hrow]
    intro i hi name hname hkey
    have hlt : m.rows < i := hi
    rcases Table.mem_rows_put hname with rfl | hold
    · have hg : mint.row m.rows = mint.row i := Store.pairKey_left_injective hkey
      have := hd.row hg
      omega
    · exact h i (Nat.le_of_lt hlt) name hold hkey

/-! ## Every write adds or changes rows -/

theorem writes_ensurePeriod (m : Memory) (spec : PeriodSpec) :
    m.Writes mint (ensurePeriod mint m spec).2 := by
  cases hrow : m.committed.periods.row? spec.code with
  | some row =>
    rw [ensurePeriod_of_some hrow]
    exact .nothing
  | none =>
    rw [ensurePeriod_of_none hrow]
    exact Memory.Writes.nothing.add (k := .period) rfl hrow

theorem writes_ensureTeam (h : mint.Unforeseen language m) (t : TeamRef) (ecosystem : Guid) :
    m.Writes mint (ensureTeam mint m t ecosystem language).2 := by
  cases hrow : m.committed.teams.row? (pairKey t.externalId ecosystem) with
  | some row =>
    rw [ensureTeam_of_some hrow]
    exact .nothing
  | none =>
    rw [ensureTeam_of_none hrow]
    have hfree := (Table.row?_eq_none_iff _ _).mpr (h m.rows (Nat.le_refl _))
    have hteam : m.Writes mint (m.add .team ((teamDraft t ecosystem).toTeam (mint.row m.rows))) :=
      .add .nothing rfl hrow
    exact hteam.add (k := .teamName) rfl hfree

theorem writes_ensurePlayers (hd : mint.Distinct) (o : Observation)
    (h : mint.Unforeseen o.identity.language m) : m.Writes mint (ensurePlayers mint m o).2 := by
  cases hpair : o.teams with
  | some pair =>
    rw [ensurePlayers_of_some hpair]
    have haway := unforeseen_ensureTeam hd h pair.home pair.ecosystem
    exact (writes_ensureTeam h pair.home pair.ecosystem).trans
      (writes_ensureTeam haway pair.away pair.ecosystem)
  | none =>
    rw [ensurePlayers_of_none hpair]
    exact .nothing

theorem writes_writeEvent (hm : m.Sound mint) (o : Observation) (period : Guid)
    (teams : Option (Team × Team)) : m.Writes mint (writeEvent mint m o period teams).2 := by
  cases hrow : m.committed.events.row? o.externalId with
  | some row =>
    rw [writeEvent_of_some hrow]
    have hget := (((hm .event).row?_eq_some_iff o.externalId row).mp hrow).1
    exact Memory.Writes.nothing.change (k := .event) hget rfl rfl
  | none =>
    rw [writeEvent_of_none hrow]
    exact Memory.Writes.nothing.add (k := .event) rfl hrow

theorem writes_writeTitle (hm : m.Sound mint) (o : Observation) (event : Guid) :
    m.Writes mint (writeTitle mint m o event) := by
  cases hrow : m.committed.titles.row? (pairKey event o.identity.language) with
  | some row =>
    rw [writeTitle_of_some hrow]
    have hget := (((hm .title).row?_eq_some_iff _ row).mp hrow).1
    split
    · exact Memory.Writes.nothing.change (k := .title) hget rfl rfl
    · exact .nothing
  | none =>
    rw [writeTitle_of_none hrow]
    exact Memory.Writes.nothing.add (k := .title) rfl hrow

end Upsert

end LiveEvents
