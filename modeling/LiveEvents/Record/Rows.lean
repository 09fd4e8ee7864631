import LiveEvents.Record.Observations
import LiveEvents.Store.Memory

/-!
# Records of rows

Rows, drafts and store calls as JSON records. Guids are written and read through a given map.
-/

namespace LiveEvents.Record

def asEvent (j : Json) : Read Event := do
  return {
    guid := ← getString j "guid"
    externalId := ← getString j "external_id"
    category := ← getString j "category_guid"
    ecosystem := ← getString j "ecosystem_guid"
    period := ← getString j "event_period_guid"
    homeTeam := ← getString j "main_team_group_guid"
    awayTeam := ← getString j "cluster_team_group_guid"
    mainScore := ← getString j "main_score"
    clusterScore := ← getString j "cluster_score"
    info := ← field j "info"
    isOnline := ← getBool j "is_online"
    live := ← get asLive j "is_live"
    isSports := ← getBool j "is_sports"
    stage := ← getString j "stage"
    createdAt := ← get asInstantText j "created_at"
    updatedAt := ← get asInstantText j "updated_at" }

def asPatch (j : Json) : Read EventPatch := do
  return {
    period := ← getString j "event_period_guid"
    mainScore := ← getString j "main_score"
    clusterScore := ← getString j "cluster_score"
    live := ← get asLive j "is_live"
    stage := ← getString j "stage"
    info := ← field j "info"
    homeTeam := ← getOptString j "main_team_group_guid"
    awayTeam := ← getOptString j "cluster_team_group_guid"
    isOnline := ← get (asOption asBool) j "is_online"
    updatedAt := ← get asInstantText j "updated_at" }

def asPeriodDraft (j : Json) : Read PeriodDraft := do
  return {
    code := ← getString j "code"
    isActive := ← getBool j "is_active"
    scheduled := ← getString j "scheduled"
    remark := ← getString j "remark"
    extra := ← field j "extra" }

def asEventDraft (j : Json) : Read EventDraft := do
  return {
    externalId := ← getString j "external_id"
    category := ← getString j "category_guid"
    ecosystem := ← getString j "ecosystem_guid"
    period := ← getString j "event_period_guid"
    homeTeam := ← getString j "main_team_group_guid"
    awayTeam := ← getString j "cluster_team_group_guid"
    mainScore := ← getString j "main_score"
    clusterScore := ← getString j "cluster_score"
    info := ← field j "info"
    isOnline := ← getBool j "is_online"
    live := ← get asLive j "is_live"
    isSports := ← getBool j "is_sports"
    stage := ← getString j "stage"
    createdAt := ← get asInstantText j "created_at" }

def asTeamDraft (j : Json) : Read TeamDraft := do
  return {
    ecosystem := ← getString j "ecosystem_guid"
    externalId := ← getString j "external_id"
    logo := ← getString j "logo" }

def asCall (guid : String → Guid) (j : Json) : Read (Option Store.Call) := do
  let getGuid (j : Json) (key : String) : Read Guid := guid <$> getString j key
  match ← getString j "do" with
  | "begin" => return some .begin
  | "commit" => return some .commit
  | "event_period_by_code" => return some (.periodByCode (← getString j "code"))
  | "create_event_period" => return some (.createPeriod (← get asPeriodDraft j "row"))
  | "event_by_external_id" => return some (.eventByExternalId (← getString j "external_id"))
  | "create_event" => return some (.createEvent (← get asEventDraft j "row"))
  | "update_event_fields" =>
    return some (.updateEvent (← getGuid j "guid") (← get asPatch j "patch"))
  | "event_language" =>
    return some (.title (← getGuid j "event_guid") (← getString j "language_guid"))
  | "create_event_language" =>
    let row ← field j "row"
    return some (.createTitle {
      event := ← getGuid row "event_guid", language := ← getString row "language_guid"
      title := ← getString row "title", rules := ← getString row "rules" })
  | "update_event_language_title" =>
    return some (.updateTitle (← getGuid j "guid") (← getString j "title"))
  | "team_group_by_external_id" =>
    return some (.team (← getString j "external_id") (← getString j "ecosystem_guid"))
  | "create_team_group" => return some (.createTeam (← get asTeamDraft j "row"))
  | "create_team_group_language" =>
    let row ← field j "row"
    return some (.createTeamName {
      team := ← getGuid row "team_group_guid", language := ← getString row "language_guid"
      name := ← getString row "name", shortName := ← getString row "alias" })
  | _ => return none

def ofEvent (guid : Guid → Guid) (e : Event) : Json :=
  .object [
    ("guid", .string (guid e.guid)),
    ("external_id", .string e.externalId),
    ("category_guid", .string e.category),
    ("ecosystem_guid", .string e.ecosystem),
    ("event_period_guid", .string (guid e.period)),
    ("main_team_group_guid", .string (guid e.homeTeam)),
    ("cluster_team_group_guid", .string (guid e.awayTeam)),
    ("main_score", .string e.mainScore),
    ("cluster_score", .string e.clusterScore),
    ("info", e.info),
    ("is_online", .bool e.isOnline),
    ("is_live", .string (liveName e.live)),
    ("is_sports", .bool e.isSports),
    ("stage", .string e.stage),
    ("created_at", .string e.createdAt.text),
    ("updated_at", .string e.updatedAt.text)]

def ofPeriod (guid : Guid → Guid) (p : Period) : Json :=
  .object [
    ("guid", .string (guid p.guid)), ("code", .string p.code), ("is_active", .bool p.isActive),
    ("scheduled", .string p.scheduled), ("remark", .string p.remark), ("extra", p.extra)]

def ofTitle (guid : Guid → Guid) (t : Title) : Json :=
  .object [
    ("guid", .string (guid t.guid)), ("event_guid", .string (guid t.event)),
    ("language_guid", .string t.language), ("title", .string t.title), ("rules", .string t.rules)]

def ofTeamRow (guid : Guid → Guid) (t : Team) : Json :=
  .object [
    ("guid", .string (guid t.guid)), ("ecosystem_guid", .string t.ecosystem),
    ("external_id", .string t.externalId), ("logo", .string t.logo)]

def ofTeamName (guid : Guid → Guid) (n : TeamName) : Json :=
  .object [
    ("team_group_guid", .string (guid n.team)), ("language_guid", .string n.language),
    ("name", .string n.name), ("alias", .string n.shortName)]

def sortedBy (key : α → String × String) (rows : List α) : List α :=
  rows.mergeSort fun a b =>
    let (a1, a2) := key a
    let (b1, b2) := key b
    decide (a1 < b1) || (a1 == b1 && !decide (b2 < a2))

end LiveEvents.Record
