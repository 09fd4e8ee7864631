import LiveEvents.Game
import LiveEvents.Json.Fields

/-!
# Schedule documents

The games of one day as the provider sends them. A game needs an id; everything else has a
fallback. A record becomes a game together with the league of its document.
-/

namespace LiveEvents.Schedule

open Json

structure TimeZones where
  venue : String := ""
  home : String := ""
  away : String := ""
  deriving DecidableEq, Repr

def TimeZones.ofNode? (n : Node) : Option TimeZones := do
  let f ← Fields.ofNode? ["venue", "home", "away"] n
  return {
    venue := ← f.orElse? "venue" "" Node.text?
    home := ← f.orElse? "home" "" Node.text?
    away := ← f.orElse? "away" "" Node.text? }

structure TeamRecord where
  id : String := ""
  name : String := ""
  shortName : String := ""
  srId : String := ""
  reference : String := ""
  deriving DecidableEq, Repr

namespace TeamRecord

def ofNode? (n : Node) : Option TeamRecord := do
  let f ← Fields.ofNode? ["id", "name", "alias", "sr_id", "reference"] n
  return {
    id := ← f.orElse? "id" "" Node.text?
    name := ← f.orElse? "name" "" Node.text?
    shortName := ← f.orElse? "alias" "" Node.text?
    srId := ← f.orElse? "sr_id" "" Node.text?
    reference := ← f.orElse? "reference" "" Node.text? }

def toTeam (t : TeamRecord) : TeamRef :=
  { externalId := t.id, name := t.name, shortName := t.shortName }

end TeamRecord

structure League where
  id : String := ""
  name : String := ""
  shortName : String := ""
  deriving DecidableEq, Repr

def League.ofNode? (n : Node) : Option League := do
  let f ← Fields.ofNode? ["id", "name", "alias"] n
  return {
    id := ← f.orElse? "id" "" Node.text?
    name := ← f.orElse? "name" "" Node.text?
    shortName := ← f.orElse? "alias" "" Node.text? }

def seasonOfNode? (n : Node) : Option Season := do
  let f ← Fields.ofNode? ["id", "year", "type"] n
  return {
    id := ← f.orElse? "id" "" Node.text?
    year := ← f.orElse? "year" 0 (Node.int? 32)
    kind := ← f.orElse? "type" "" Node.text? }

def noSeason : Season := ⟨"", 0, ""⟩

structure GameRecord where
  id : String
  status : String := ""
  scheduled : String := ""
  homePoints : Option Int := none
  awayPoints : Option Int := none
  coverage : String := ""
  trackOnCourt : Bool := false
  srId : String := ""
  reference : String := ""
  timeZones : TimeZones := {}
  season : Season := noSeason
  home : TeamRecord := {}
  away : TeamRecord := {}
  deriving DecidableEq, Repr

namespace GameRecord

def fieldNames : List String :=
  ["id", "status", "scheduled", "home_points", "away_points", "coverage", "track_on_court",
    "sr_id", "reference", "time_zones", "season", "home", "away"]

def ofNode? (n : Node) : Option GameRecord := do
  let f ← Fields.ofNode? fieldNames n
  return {
    id := ← f.required? "id" Node.text?
    status := ← f.orElse? "status" "" Node.text?
    scheduled := ← f.orElse? "scheduled" "" Node.text?
    homePoints := ← f.optional? "home_points" (Node.int? 64)
    awayPoints := ← f.optional? "away_points" (Node.int? 64)
    coverage := ← f.orElse? "coverage" "" Node.text?
    trackOnCourt := ← f.orElse? "track_on_court" false Node.bool?
    srId := ← f.orElse? "sr_id" "" Node.text?
    reference := ← f.orElse? "reference" "" Node.text?
    timeZones := ← f.orElse? "time_zones" {} TimeZones.ofNode?
    season := ← f.orElse? "season" noSeason seasonOfNode?
    home := ← f.orElse? "home" {} TeamRecord.ofNode?
    away := ← f.orElse? "away" {} TeamRecord.ofNode? }

def details (g : GameRecord) (league : League) : Json :=
  .object [
    ("sr_id", .string g.srId),
    ("reference", .string g.reference),
    ("coverage", .string g.coverage),
    ("track_on_court", .bool g.trackOnCourt),
    ("league_id", .string league.id),
    ("league_name", .string league.name),
    ("time_zones", .object [
      ("venue", .string g.timeZones.venue),
      ("home", .string g.timeZones.home),
      ("away", .string g.timeZones.away)])]

def toGame (g : GameRecord) (league : League) : Game where
  id := g.id
  status := .ofText g.status
  rawStatus := g.status
  scheduled := g.scheduled
  home := g.home.toTeam
  away := g.away.toTeam
  homePoints := g.homePoints
  awayPoints := g.awayPoints
  season := g.season
  details := g.details league

end GameRecord

structure Document where
  date : String := ""
  games : List GameRecord := []
  league : League := {}
  deriving DecidableEq, Repr

namespace Document

def ofNode? (n : Node) : Option Document := do
  let f ← Fields.ofNode? ["date", "games", "league"] n
  return {
    date := ← f.orElse? "date" "" Node.text?
    games := ← f.orElse? "games" [] (Node.list? GameRecord.ofNode?)
    league := ← f.orElse? "league" {} League.ofNode? }

def ofString? (text : String) : Option Document :=
  Node.ofString? text >>= ofNode?

def toGames (d : Document) : List Game :=
  d.games.map (·.toGame d.league)

end Document

end LiveEvents.Schedule
