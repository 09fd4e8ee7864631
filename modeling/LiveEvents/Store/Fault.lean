import LiveEvents.Store.Memory

/-!
# Faults of a store

A store may fail on purpose: a call returns an error without being performed, never returns,
does not see a row, or another transaction creates the same row and commits right before or
right after it.
-/

namespace LiveEvents.Store

inductive Fault where
  | fail (error : StoreError)
  | hang
  /-- A lookup finds nothing. -/
  | absent
  /-- Another writer is first. -/
  | rival
  /-- Another writer is second, and commits first. -/
  | rivalAfter
  deriving DecidableEq, Repr

namespace Call

def name : Call → String
  | begin => "begin"
  | periodByCode _ => "event_period_by_code"
  | createPeriod _ => "create_event_period"
  | eventByExternalId _ => "event_by_external_id"
  | createEvent _ => "create_event"
  | updateEvent _ _ => "update_event_fields"
  | title _ _ => "event_language"
  | createTitle _ => "create_event_language"
  | updateTitle _ _ => "update_event_language_title"
  | team _ _ => "team_group_by_external_id"
  | createTeam _ => "create_team_group"
  | createTeamName _ => "create_team_group_language"
  | commit => "commit"

def isCreation : Call → Bool
  | createPeriod _ | createEvent _ | createTitle _ | createTeam _ | createTeamName _ => true
  | _ => false

def absentReply? : (c : Call) → Option c.Reply
  | periodByCode _ => some none
  | eventByExternalId _ => some none
  | title _ _ => some none
  | team _ _ => some none
  | _ => none

end Call

/-- A fault at the `nth` use of a call within one program. -/
structure FaultRule where
  call : String
  nth : Nat
  fault : Fault
  deriving DecidableEq, Repr

def faultAt? (rules : List FaultRule) (before : List String) (c : Call) : Option Fault :=
  (rules.find? fun r => r.call == c.name && r.nth == before.count c.name + 1).map (·.fault)

namespace Memory

variable (mint : Mint)

/-- Another transaction makes one call and commits. -/
def rival (m : Memory) (c : Call) : Memory :=
  let (_, m, staged) := m.perform mint {} c
  let (_, m, _) := m.perform mint staged .commit
  m

/-- One call under a fault; no reply if it hangs. -/
def performFaulty (m : Memory) (staged : Tables) (fault : Option Fault) (c : Call) :
    Option (Except StoreError c.Reply) × Memory × Tables :=
  let usual (m : Memory) :=
    let (reply, m, staged) := m.perform mint staged c
    (some reply, m, staged)
  match fault with
  | none => usual m
  | some (.fail e) => (some (.error e), m, staged)
  | some .hang => (none, m, staged)
  | some .absent =>
    match c.absentReply? with
    | some reply => (some (.ok reply), m, staged)
    | none => usual m
  | some .rival => usual (if c.isCreation then m.rival mint c else m)
  | some .rivalAfter =>
    let (reply, m, staged) := usual m
    match reply with
    | some (.ok _) => (reply, if c.isCreation then m.rival mint c else m, staged)
    | reply => (reply, m, staged)

/-- Runs a program under faults in one transaction; no result if a call hangs. -/
def runFaulty (rules : List FaultRule) (before : List String) (m : Memory) (staged : Tables) :
    Program α → Option α × Memory
  | .done a => (some a, m)
  | .ask c next =>
    let (reply, m, staged) := m.performFaulty mint staged (faultAt? rules before c) c
    match reply with
    | none => (none, m)
    | some reply => runFaulty rules (c.name :: before) m staged (next reply)

end Memory

end LiveEvents.Store
