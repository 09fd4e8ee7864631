import LiveEvents.Sql.Statement
import LiveEvents.Store.Table

/-!
# Store calls as statements

Each call within a transaction is one statement with its parameters, and the answer of the
database is its reply. An insertion that inserts nothing found its natural key taken; a unique
violation says the same. An update that changes nothing found no row.
-/

namespace LiveEvents.Sql

open Store (Call Entity StoreError)

namespace Record

variable (r : Record)

def text? (column : String) : Option String :=
  match r.lookup column with
  | some (.text s) => some s
  | _ => none

def bool? (column : String) : Option Bool :=
  match r.lookup column with
  | some (.bool b) => some b
  | _ => none

def small? (column : String) : Option Int :=
  match r.lookup column with
  | some (.small i) => some i
  | _ => none

/-- A JSON column that is missing holds null. -/
def json? (column : String) : Option Json :=
  match r.lookup column with
  | some (.json j) => some j
  | some _ => none
  | none => some .null

def time? (column : String) : Option Instant :=
  match r.lookup column with
  | some (.time t) => some t
  | _ => none

def event? : Option Event := do
  return {
    guid := ← text? r "guid"
    externalId := ← text? r "external_id"
    category := ← text? r "category_guid"
    ecosystem := ← text? r "ecosystem_guid"
    period := ← text? r "event_period_guid"
    homeTeam := ← text? r "main_team_group_guid"
    awayTeam := ← text? r "cluster_team_group_guid"
    mainScore := ← text? r "main_score"
    clusterScore := ← text? r "cluster_score"
    info := ← json? r "info"
    isOnline := ← bool? r "is_online"
    live := .ofCode (← small? r "is_live")
    isSports := ← bool? r "is_sports"
    stage := ← text? r "stage"
    createdAt := ← time? r "created_at"
    updatedAt := ← time? r "updated_at" }

def period? : Option Period := do
  return {
    guid := ← text? r "guid"
    code := ← text? r "code"
    isActive := ← bool? r "is_active"
    scheduled := ← text? r "scheduled"
    remark := ← text? r "remark"
    extra := ← json? r "extra" }

def title? : Option Title := do
  return {
    guid := ← text? r "guid"
    event := ← text? r "event_guid"
    language := ← text? r "language_guid"
    title := ← text? r "title"
    rules := ← text? r "rules" }

def team? : Option Team := do
  return {
    guid := ← text? r "guid"
    ecosystem := ← text? r "ecosystem_guid"
    externalId := ← text? r "external_id"
    logo := ← text? r "logo" }

end Record

def selectPeriod : Select where
  columns := ["guid", "code", "is_active", "scheduled", "remark", "extra"].map .plain
  table := "event_period"
  keys := ["code"]

def insertPeriod : Insert where
  table := "event_period"
  values := [
    ("code", .bind 1), ("is_active", .bind 2), ("scheduled", .bind 3), ("remark", .bind 4),
    ("extra", .bind 5)]
  unique := ["code"]

def selectEvent : Select where
  columns := ["guid", "external_id", "category_guid", "ecosystem_guid", "event_period_guid",
      "main_team_group_guid", "cluster_team_group_guid"].map .plain ++
    [.asText "main_score", .asText "cluster_score"] ++
    ["info", "is_online", "is_live", "is_sports", "stage", "created_at", "updated_at"].map .plain
  table := "event"
  keys := ["external_id"]

def insertEvent : Insert where
  table := "event"
  values := [
    ("external_id", .bind 1), ("category_guid", .bind 2), ("ecosystem_guid", .bind 3),
    ("event_period_guid", .bind 4), ("main_team_group_guid", .bind 5),
    ("cluster_team_group_guid", .bind 6), ("main_score", .numeric 7),
    ("cluster_score", .numeric 8), ("info", .bind 9), ("is_online", .bind 10),
    ("is_live", .bind 11), ("is_sports", .bind 12), ("stage", .bind 13),
    ("created_at", .bind 14), ("updated_at", .bind 14)]
  unique := ["external_id"]
  spaced := true

def updateEvent : Update where
  table := "event"
  changes := [
    ("event_period_guid", .bind 2), ("main_score", .numeric 3), ("cluster_score", .numeric 4),
    ("is_live", .bind 5), ("stage", .bind 6), ("info", .bind 7),
    ("main_team_group_guid", .orOld 8), ("cluster_team_group_guid", .orOld 9),
    ("is_online", .orOld 10), ("updated_at", .bind 11)]

def selectTitle : Select where
  columns := ["guid", "event_guid", "language_guid", "title", "rules"].map .plain
  table := "event_language"
  keys := ["event_guid", "language_guid"]

def insertTitle : Insert where
  table := "event_language"
  values := [
    ("event_guid", .bind 1), ("language_guid", .bind 2), ("title", .bind 3), ("rules", .bind 4)]
  unique := ["event_guid", "language_guid"]

def updateTitle : Update where
  table := "event_language"
  changes := [("title", .bind 2)]

def selectTeam : Select where
  columns := ["guid", "ecosystem_guid", "external_id", "logo"].map .plain
  table := "team_group"
  keys := ["external_id", "ecosystem_guid"]

def insertTeam : Insert where
  table := "team_group"
  values := [("ecosystem_guid", .bind 1), ("external_id", .bind 2), ("logo", .bind 3)]
  unique := ["external_id", "ecosystem_guid"]

def insertTeamName : Insert where
  table := "team_group_language"
  values := [
    ("team_group_guid", .bind 1), ("language_guid", .bind 2), ("name", .bind 3),
    ("alias", .bind 4)]
  unique := ["team_group_guid", "language_guid"]

def draftParams (d : EventDraft) : List Param :=
  [
    .text d.externalId, .text d.category, .text d.ecosystem, .text d.period, .text d.homeTeam,
    .text d.awayTeam, .text d.mainScore, .text d.clusterScore, .json d.info, .bool d.isOnline,
    .small d.live.code, .bool d.isSports, .text d.stage, .time d.createdAt]

def optional (f : α → Param) : Option α → Param
  | some a => f a
  | none => .null

def patchParams (guid : Guid) (p : EventPatch) : List Param :=
  [
    .text guid, .text p.period, .text p.mainScore, .text p.clusterScore, .small p.live.code,
    .text p.stage, .json p.info, optional .text p.homeTeam, optional .text p.awayTeam,
    optional .bool p.isOnline, .time p.updatedAt]

def statement : Call → Statement × List Param
  | .begin => (.plain "BEGIN", [])
  | .commit => (.plain "COMMIT", [])
  | .periodByCode code => (.select selectPeriod, [.text code])
  | .createPeriod d =>
    (.insert insertPeriod,
      [.text d.code, .bool d.isActive, .text d.scheduled, .text d.remark, .json d.extra])
  | .eventByExternalId externalId => (.select selectEvent, [.text externalId])
  | .createEvent d => (.insert insertEvent, draftParams d)
  | .updateEvent guid p => (.update updateEvent, patchParams guid p)
  | .title event language => (.select selectTitle, [.text event, .text language])
  | .createTitle d =>
    (.insert insertTitle, [.text d.event, .text d.language, .text d.title, .text d.rules])
  | .updateTitle guid title => (.update updateTitle, [.text guid, .text title])
  | .team externalId ecosystem => (.select selectTeam, [.text externalId, .text ecosystem])
  | .createTeam d => (.insert insertTeam, [.text d.ecosystem, .text d.externalId, .text d.logo])
  | .createTeamName d =>
    (.insert insertTeamName, [.text d.team, .text d.language, .text d.name, .text d.shortName])

inductive Answer where
  | rows (records : List Record)
  | affected (count : Nat)
  | failed (code message : String)
  deriving Repr

namespace Answer

def uniqueViolation : String := "23505"

def row (read : Record → Option α) : Answer → Except StoreError (Option α)
  | rows (r :: _) =>
    match read r with
    | some a => .ok (some a)
    | none => .error (.backend "a column has no value of its type")
  | rows [] | affected _ => .ok none
  | failed _ message => .error (.backend message)

def inserted (entity : Entity) (key : String) : Answer → Except StoreError Unit
  | affected 0 => .error (.duplicate entity.name key)
  | affected _ | rows _ => .ok ()
  | failed code message =>
    .error (if code = uniqueViolation then .duplicate entity.name key else .backend message)

def updated (entity : Entity) (guid : Guid) : Answer → Except StoreError Unit
  | affected 0 => .error (.notFound entity.name guid)
  | affected _ | rows _ => .ok ()
  | failed _ message => .error (.backend message)

def done : Answer → Except StoreError Unit
  | failed _ message => .error (.backend message)
  | _ => .ok ()

end Answer

def reply (a : Answer) : (c : Call) → Except StoreError c.Reply
  | .begin | .commit => a.done
  | .periodByCode _ => a.row Record.period?
  | .createPeriod d => a.inserted .period d.code
  | .eventByExternalId _ => a.row Record.event?
  | .createEvent d => a.inserted .event d.externalId
  | .updateEvent guid _ => a.updated .event guid
  | .title _ _ => a.row Record.title?
  | .createTitle d => a.inserted .title (Store.pairKey d.event d.language)
  | .updateTitle guid _ => a.updated .title guid
  | .team _ _ => a.row Record.team?
  | .createTeam d => a.inserted .team d.externalId
  | .createTeamName d => a.inserted .teamName (Store.pairKey d.team d.language)

end LiveEvents.Sql
