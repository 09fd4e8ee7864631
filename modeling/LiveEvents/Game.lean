import LiveEvents.Rows
import LiveEvents.Text.Case

/-!
# Games

The state of one game as a schedule tells it. The status decides how live the event is, its
stage and whether it is published; points that are missing count as zero.
-/

namespace LiveEvents

inductive GameStatus where
  | scheduled
  | inProgress
  | closed
  deriving DecidableEq, Repr

namespace GameStatus

/-- Reads a status in ASCII letters of any case; every other text means scheduled. -/
def ofText (raw : String) : GameStatus :=
  let lowered := raw.map Char.toLower
  if lowered = "inprogress" then inProgress
  else if lowered = "closed" then closed
  else scheduled

def liveState : GameStatus → LiveState
  | scheduled => .upcoming
  | inProgress => .live
  | closed => .finished

def stage : GameStatus → String
  | scheduled | inProgress => "Q1"
  | closed => "FT"

/-- A closed game is published; the others leave the event as visible as it is. -/
def online? : GameStatus → Option Bool
  | closed => some true
  | scheduled | inProgress => none

end GameStatus

structure TeamRef where
  externalId : String
  name : String
  shortName : String
  deriving DecidableEq, Repr

def TeamRef.logoUrl (t : TeamRef) : String :=
  "https://cdn.sportradar.com/images/nba/teams/" ++ Text.lower t.shortName ++ ".png"

structure Season where
  id : String
  year : Int
  kind : String
  deriving DecidableEq, Repr

/-- A scheduled time for display, in its own offset; a text that is no time stays as it is. -/
def displayTime (raw : String) : String :=
  match Instant.ofRfc3339? raw.toList with
  | some (t, _) => t.display
  | none =>
    match Instant.ofPlain? raw.toList with
    | some t => t.display
    | none => raw

structure Game where
  id : String
  status : GameStatus
  rawStatus : String
  scheduled : String
  home : TeamRef
  away : TeamRef
  homePoints : Option Int
  awayPoints : Option Int
  season : Season
  /-- Further facts that are copied into the event. -/
  details : Json
  deriving Repr

namespace Game

def pointsText : Option Int → String
  | none => "0"
  | some points => String.ofList (Text.decimalInt points)

def homeScore (g : Game) : String := pointsText g.homePoints

def awayScore (g : Game) : String := pointsText g.awayPoints

def scheduledDisplay (g : Game) : String := displayTime g.scheduled

end Game

end LiveEvents
