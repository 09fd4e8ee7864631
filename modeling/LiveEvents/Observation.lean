import LiveEvents.Exchange
import LiveEvents.Game
import LiveEvents.Tick

/-!
# Observations

What an adapter has seen of one event, in the form in which it is written to the store. Prices
and games differ only in how they become observations.
-/

namespace LiveEvents

structure Identity where
  category : Guid
  ecosystem : Guid
  language : Guid
  deriving DecidableEq, Repr

structure PeriodSpec where
  code : String
  scheduled : String
  remark : String
  deriving DecidableEq, Repr

structure TeamPair where
  ecosystem : Guid
  home : TeamRef
  away : TeamRef
  deriving DecidableEq, Repr

structure Observation where
  externalId : String
  identity : Identity
  period : PeriodSpec
  teams : Option TeamPair
  mainScore : String
  clusterScore : String
  live : LiveState
  stage : String
  info : Json
  title : String
  rules : String
  isSports : Bool
  /-- Visibility to enforce; without one a new event is hidden and an old one keeps its own. -/
  online : Option Bool
  observedAt : Instant
  deriving Repr

namespace Observation

def tickInfo (x : Exchange) (t : Tick) (at_ : Instant) : Json :=
  .object [
    ("external_id", .string (x.externalId t.symbol)),
    ("exchange", .string x.label),
    ("symbol", .string t.symbol),
    ("price", .string t.price),
    ("timestamp", .ofInt at_.unixSeconds)]

def ofTick (x : Exchange) (identity : Identity) (t : Tick) (at_ : Instant) : Observation where
  externalId := x.externalId t.symbol
  identity := identity
  period :=
    { code := x.periodCode at_
      scheduled := at_.display
      remark := "Crypto price date: " ++ at_.date.text }
  teams := none
  mainScore := t.price
  clusterScore := "0"
  live := .live
  stage := "LIVE"
  info := tickInfo x t at_
  title := t.symbol ++ " Price"
  rules := "Real-time price tracking for " ++ t.symbol ++ " on " ++ x.displayName
  isSports := false
  online := none
  observedAt := at_

def gameFacts (g : Game) : List (String × Json) :=
  [
    ("external_id", .string g.id),
    ("game_id", .string g.id),
    ("status", .string g.rawStatus),
    ("scheduled", .string g.scheduled),
    ("open_time", .string g.scheduledDisplay),
    ("season_id", .string g.season.id),
    ("season_year", .ofInt g.season.year),
    ("season_type", .string g.season.kind)]

/-- The facts of a game, and the details whose key is not the key of a fact. -/
def gameInfo (g : Game) : Json :=
  match g.details with
  | .object details => .object (Json.addMissing (gameFacts g) details)
  | _ => .object (gameFacts g)

def ofGame (identity : Identity) (teamEcosystem : Guid) (g : Game) (at_ : Instant) :
    Observation where
  externalId := g.id
  identity := identity
  period :=
    { code := g.id
      scheduled := g.scheduledDisplay
      remark := "NBA game date: " ++ g.scheduledDisplay }
  teams := some { ecosystem := teamEcosystem, home := g.home, away := g.away }
  mainScore := g.homeScore
  clusterScore := g.awayScore
  live := g.status.liveState
  stage := g.status.stage
  info := gameInfo g
  title := g.home.name ++ " vs " ++ g.away.name
  rules := "NBA " ++ g.season.kind ++ " season game. Home: " ++ g.home.name ++ ", Away: " ++
    g.away.name ++ "."
  isSports := true
  online := g.status.online?
  observedAt := at_

end Observation

end LiveEvents
