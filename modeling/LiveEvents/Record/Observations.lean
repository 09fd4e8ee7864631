import LiveEvents.Observation
import LiveEvents.Record.Reading

/-!
# Records of observations

Games and observations as JSON records.
-/

namespace LiveEvents.Record

def ofNat (n : Nat) : Json := .ofInt n

def ofDuration (d : Duration) : Json :=
  .array [ofNat d.seconds, ofNat d.subsecond]

def liveName : LiveState → String
  | .live => "Live"
  | .upcoming => "Upcoming"
  | .finished => "Finished"

def statusName : GameStatus → String
  | .scheduled => "Scheduled"
  | .inProgress => "InProgress"
  | .closed => "Closed"

def ofIdentity (i : Identity) : Json :=
  .object [
    ("category_guid", .string i.category),
    ("ecosystem_guid", .string i.ecosystem),
    ("language_guid", .string i.language)]

def ofTeam (t : TeamRef) : Json :=
  .object [
    ("external_id", .string t.externalId), ("name", .string t.name), ("alias", .string t.shortName)]

def ofOptBool : Option Bool → Json := .ofOption .bool

def ofOptInt : Option Int → Json := .ofOption .ofInt

def ofGame (g : Game) : Json :=
  .object [
    ("game_id", .string g.id),
    ("status", .string (statusName g.status)),
    ("raw_status", .string g.rawStatus),
    ("scheduled", .string g.scheduled),
    ("home", ofTeam g.home),
    ("away", ofTeam g.away),
    ("home_points", ofOptInt g.homePoints),
    ("away_points", ofOptInt g.awayPoints),
    ("season", .object [
      ("id", .string g.season.id), ("year", .ofInt g.season.year),
      ("kind", .string g.season.kind)]),
    ("details", g.details)]

def ofObservation (o : Observation) : Json :=
  .object [
    ("external_id", .string o.externalId),
    ("identity", ofIdentity o.identity),
    ("period", .object [
      ("code", .string o.period.code),
      ("scheduled", .string o.period.scheduled),
      ("remark", .string o.period.remark)]),
    ("teams", .ofOption (fun (p : TeamPair) => .object [
      ("ecosystem_guid", .string p.ecosystem), ("home", ofTeam p.home), ("away", ofTeam p.away)])
      o.teams),
    ("main_score", .string o.mainScore),
    ("cluster_score", .string o.clusterScore),
    ("live", .string (liveName o.live)),
    ("stage", .string o.stage),
    ("info", o.info),
    ("title", .string o.title),
    ("rules", .string o.rules),
    ("is_sports", .bool o.isSports),
    ("online", ofOptBool o.online),
    ("observed_at", .string o.observedAt.text)]

def asExchange (j : Json) : Read Exchange := do
  let s ← asString j
  need "exchange" (Exchange.all.find? (·.label == s))

def asInstantText (j : Json) : Read Instant := do
  need "instant" (Instant.ofText? (← asString j))

def asLive (j : Json) : Read LiveState := do
  match ← asString j with
  | "Live" => return .live
  | "Upcoming" => return .upcoming
  | "Finished" => return .finished
  | _ => throw "live state"

def asStatus (j : Json) : Read GameStatus := do
  match ← asString j with
  | "Scheduled" => return .scheduled
  | "InProgress" => return .inProgress
  | "Closed" => return .closed
  | _ => throw "status"

def asIdentity (j : Json) : Read Identity := do
  return {
    category := ← getString j "category_guid"
    ecosystem := ← getString j "ecosystem_guid"
    language := ← getString j "language_guid" }

def asTeam (j : Json) : Read TeamRef := do
  return {
    externalId := ← getString j "external_id"
    name := ← getString j "name"
    shortName := ← getString j "alias" }

def asSeason (j : Json) : Read Season := do
  return { id := ← getString j "id", year := ← getInt j "year", kind := ← getString j "kind" }

def asGame (j : Json) : Read Game := do
  return {
    id := ← getString j "game_id"
    status := ← get asStatus j "status"
    rawStatus := ← getString j "raw_status"
    scheduled := ← getString j "scheduled"
    home := ← get asTeam j "home"
    away := ← get asTeam j "away"
    homePoints := ← get (asOption asInt) j "home_points"
    awayPoints := ← get (asOption asInt) j "away_points"
    season := ← get asSeason j "season"
    details := ← field j "details" }

/-- A point in time given in Unix seconds; none if it is out of range. -/
def getAt (j : Json) : Read (Option Instant) := do
  return Instant.ofUnix? (← getInt j "at") (← getD asNat j "at_nanos" 0)

def asTeamPair (j : Json) : Read TeamPair := do
  return {
    ecosystem := ← getString j "ecosystem_guid"
    home := ← get asTeam j "home", away := ← get asTeam j "away" }

def asObservation (j : Json) : Read Observation := do
  let period ← field j "period"
  return {
    externalId := ← getString j "external_id"
    identity := ← get asIdentity j "identity"
    period := {
      code := ← getString period "code", scheduled := ← getString period "scheduled"
      remark := ← getString period "remark" }
    teams := ← get (asOption asTeamPair) j "teams"
    mainScore := ← getString j "main_score"
    clusterScore := ← getString j "cluster_score"
    live := ← get asLive j "live"
    stage := ← getString j "stage"
    info := ← field j "info"
    title := ← getString j "title"
    rules := ← getString j "rules"
    isSports := ← getBool j "is_sports"
    online := ← get (asOption asBool) j "online"
    observedAt := ← get asInstantText j "observed_at" }

end LiveEvents.Record
