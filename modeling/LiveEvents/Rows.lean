import LiveEvents.Instant
import LiveEvents.Json.Basic

/-!
# Rows of the event store

Five kinds of rows: events, their titles by language, the periods that group them, the teams
that play in them, and the names of teams by language. A draft is a row before the store has
given it its guid.
-/

namespace LiveEvents

abbrev Guid := String

inductive LiveState where
  | live
  | upcoming
  | finished
  deriving DecidableEq, Repr

namespace LiveState

def code : LiveState → Int
  | live => 0
  | upcoming => 1
  | finished => 2

/-- Codes that name no state count as upcoming. -/
def ofCode (code : Int) : LiveState :=
  if code = 0 then live else if code = 2 then finished else upcoming

@[simp] theorem ofCode_code (s : LiveState) : ofCode s.code = s := by
  cases s <;> rfl

end LiveState

/-- Stands for the guid of a team in events that have none. -/
def noTeam : Guid := "0"

structure EventDraft where
  externalId : String
  category : Guid
  ecosystem : Guid
  period : Guid
  homeTeam : Guid
  awayTeam : Guid
  mainScore : String
  clusterScore : String
  info : Json
  isOnline : Bool
  live : LiveState
  isSports : Bool
  stage : String
  createdAt : Instant
  deriving Repr

structure Event extends EventDraft where
  guid : Guid
  updatedAt : Instant
  deriving Repr

def EventDraft.toEvent (d : EventDraft) (guid : Guid) : Event :=
  { d with guid, updatedAt := d.createdAt }

/-- What a new observation of an event changes; a missing field keeps its value. -/
structure EventPatch where
  period : Guid
  mainScore : String
  clusterScore : String
  live : LiveState
  stage : String
  info : Json
  homeTeam : Option Guid
  awayTeam : Option Guid
  isOnline : Option Bool
  updatedAt : Instant
  deriving Repr

def EventPatch.apply (p : EventPatch) (e : Event) : Event :=
  { e with
    period := p.period
    mainScore := p.mainScore
    clusterScore := p.clusterScore
    live := p.live
    stage := p.stage
    info := p.info
    homeTeam := p.homeTeam.getD e.homeTeam
    awayTeam := p.awayTeam.getD e.awayTeam
    isOnline := p.isOnline.getD e.isOnline
    updatedAt := p.updatedAt }

structure TitleDraft where
  event : Guid
  language : Guid
  title : String
  rules : String
  deriving DecidableEq, Repr

structure Title extends TitleDraft where
  guid : Guid
  deriving DecidableEq, Repr

def TitleDraft.toTitle (d : TitleDraft) (guid : Guid) : Title :=
  { d with guid }

structure PeriodDraft where
  code : String
  isActive : Bool
  scheduled : String
  remark : String
  extra : Json
  deriving Repr

structure Period extends PeriodDraft where
  guid : Guid
  deriving Repr

def PeriodDraft.toPeriod (d : PeriodDraft) (guid : Guid) : Period :=
  { d with guid }

structure TeamDraft where
  ecosystem : Guid
  externalId : String
  logo : String
  deriving DecidableEq, Repr

structure Team extends TeamDraft where
  guid : Guid
  deriving DecidableEq, Repr

def TeamDraft.toTeam (d : TeamDraft) (guid : Guid) : Team :=
  { d with guid }

structure TeamNameDraft where
  team : Guid
  language : Guid
  name : String
  shortName : String
  deriving DecidableEq, Repr

structure TeamName extends TeamNameDraft where
  guid : Guid
  deriving DecidableEq, Repr

def TeamNameDraft.toTeamName (d : TeamNameDraft) (guid : Guid) : TeamName :=
  { d with guid }

end LiveEvents
