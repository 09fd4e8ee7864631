import LiveEvents.Duration
import LiveEvents.Observation
import LiveEvents.Store.Call

/-!
# Writing an observation

One observation is written in one transaction: its period and its teams are found or created,
its event is updated or created, then its title, and all is committed. Another writer may
create a period or a team first; the row is then read again and the transaction goes on. Every
other error ends it.
-/

namespace LiveEvents

open Store (Call Entity StoreError)

inductive Outcome where
  | created (guid : Guid)
  | updated (guid : Guid)
  deriving DecidableEq, Repr

namespace Outcome

def guid : Outcome → Guid
  | created guid | updated guid => guid

def label : Outcome → String
  | created _ => "created"
  | updated _ => "updated"

end Outcome

inductive UpsertError where
  | store (cause : StoreError)
  | timedOut (externalId : String) (after : Duration)
  | missingAfterInsert (entity key : String)
  deriving DecidableEq, Repr

def UpsertError.message : UpsertError → String
  | store cause => cause.message
  | timedOut externalId after => "upsert of " ++ externalId ++ " timed out after " ++ after.text
  | missingAfterInsert entity key => entity ++ " " ++ Text.quoted key ++ " missing after insert"

namespace Upsert

abbrev Step := ExceptT UpsertError Store.Program

def call (c : Call) : Step c.Reply :=
  ExceptT.mk do
    match ← Store.Program.call c with
    | .ok reply => return .ok reply
    | .error e => return .error (.store e)

/-- A creation that another writer may have been first to; tells whether it was done here. -/
def create (c : Call) : Step Bool :=
  ExceptT.mk do
    match ← Store.Program.call c with
    | .ok _ => return .ok true
    | .error e => return if e.isDuplicate then .ok false else .error (.store e)

def found (entity : Entity) (key : String) : Option α → Step α
  | some row => return row
  | none => throw (.missingAfterInsert entity.name key)

def period (spec : PeriodSpec) : Step Period := do
  match ← call (.periodByCode spec.code) with
  | some row => return row
  | none =>
    let _ ← create (.createPeriod {
      code := spec.code, isActive := true, scheduled := spec.scheduled, remark := spec.remark,
      extra := .object [] })
    found .period spec.code (← call (.periodByCode spec.code))

/-- Finds or creates a team; a team created here also gets its name. -/
def team (t : TeamRef) (ecosystem language : Guid) : Step Team := do
  match ← call (.team t.externalId ecosystem) with
  | some row => return row
  | none =>
    let createdHere ← create (.createTeam {
      ecosystem, externalId := t.externalId, logo := t.logoUrl })
    let row ← found .team t.externalId (← call (.team t.externalId ecosystem))
    if createdHere then
      call (.createTeamName
        { team := row.guid, language, name := t.name, shortName := t.shortName })
    return row

def teams (pair : TeamPair) (language : Guid) : Step (Team × Team) := do
  let home ← team pair.home pair.ecosystem language
  let away ← team pair.away pair.ecosystem language
  return (home, away)

def patch (o : Observation) (period : Guid) (teams : Option (Team × Team)) : EventPatch where
  period := period
  mainScore := o.mainScore
  clusterScore := o.clusterScore
  live := o.live
  stage := o.stage
  info := o.info
  homeTeam := teams.map (·.1.guid)
  awayTeam := teams.map (·.2.guid)
  isOnline := o.online
  updatedAt := o.observedAt

def draft (o : Observation) (period : Guid) (teams : Option (Team × Team)) : EventDraft where
  externalId := o.externalId
  category := o.identity.category
  ecosystem := o.identity.ecosystem
  period := period
  homeTeam := (teams.map (·.1.guid)).getD noTeam
  awayTeam := (teams.map (·.2.guid)).getD noTeam
  mainScore := o.mainScore
  clusterScore := o.clusterScore
  info := o.info
  isOnline := o.online.getD false
  live := o.live
  isSports := o.isSports
  stage := o.stage
  createdAt := o.observedAt

def event (o : Observation) (period : Guid) (teams : Option (Team × Team)) : Step Outcome := do
  match ← call (.eventByExternalId o.externalId) with
  | some row =>
    call (.updateEvent row.guid (patch o period teams))
    return .updated row.guid
  | none =>
    call (.createEvent (draft o period teams))
    let row ← found .event o.externalId (← call (.eventByExternalId o.externalId))
    return .created row.guid

/-- A title is changed only if it differs; its rules are never changed. -/
def title (o : Observation) (event : Guid) : Step Unit := do
  match ← call (.title event o.identity.language) with
  | some row =>
    if row.title ≠ o.title then call (.updateTitle row.guid o.title)
  | none =>
    call (.createTitle {
      event, language := o.identity.language, title := o.title, rules := o.rules })

def steps (o : Observation) : Step Outcome := do
  call .begin
  let period ← period o.period
  let teams ← match o.teams with
    | some pair => some <$> teams pair o.identity.language
    | none => pure none
  let outcome ← event o period.guid teams
  title o outcome.guid
  call .commit
  return outcome

def program (o : Observation) : Store.Program (Except UpsertError Outcome) :=
  (steps o).run

def abandoned (o : Observation) (timeout : Duration) : UpsertError :=
  .timedOut o.externalId timeout

end Upsert

end LiveEvents
