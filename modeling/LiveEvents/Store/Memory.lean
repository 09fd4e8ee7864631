import LiveEvents.Store.Table

/-!
# The memory store

Committed rows are kept in five tables. A transaction stages its writes in tables of its own;
its commit checks each table for collisions and then publishes all staged rows at once, or
publishes none. A transaction that is dropped leaves nothing behind.
-/

namespace LiveEvents.Store

structure Tables where
  events : Table Event := []
  titles : Table Title := []
  periods : Table Period := []
  teams : Table Team := []
  teamNames : Table TeamName := []
  deriving Repr

namespace Tables

/-- Collisions are looked for table by table. -/
def conflict? (staged committed : Tables) : Option StoreError :=
  (Table.conflict? staged.events committed.events).or <|
  (Table.conflict? staged.titles committed.titles).or <|
  (Table.conflict? staged.periods committed.periods).or <|
  (Table.conflict? staged.teams committed.teams).or <|
  Table.conflict? staged.teamNames committed.teamNames

def publish (committed staged : Tables) : Tables where
  events := committed.events.putAll staged.events
  titles := committed.titles.putAll staged.titles
  periods := committed.periods.putAll staged.periods
  teams := committed.teams.putAll staged.teams
  teamNames := committed.teamNames.putAll staged.teamNames

end Tables

/-- Where guids come from: the guid of each number. Names of teams are numbered apart. -/
structure Mint where
  row : Nat → Guid
  name : Nat → Guid

def hexGuid (lead : Char) (n : Nat) : Guid :=
  let digits := Nat.toDigits 16 n
  String.ofList (lead :: (List.replicate (31 - digits.length) '0' ++ digits))

def Mint.serial : Mint where
  row := hexGuid 'a'
  name := hexGuid 'b'

structure Memory where
  committed : Tables := {}
  rows : Nat := 0
  names : Nat := 0
  deriving Repr

namespace Memory

variable (mint : Mint)

def perform (m : Memory) (staged : Tables) :
    (c : Call) → Except StoreError c.Reply × Memory × Tables
  | .begin => (.ok (), m, {})
  | .periodByCode code => (.ok (Table.find? staged.periods m.committed.periods code), m, staged)
  | .createPeriod draft =>
    match Table.insert staged.periods m.committed.periods (draft.toPeriod (mint.row m.rows)) with
    | .ok periods => (.ok (), { m with rows := m.rows + 1 }, { staged with periods })
    | .error e => (.error e, m, staged)
  | .eventByExternalId externalId =>
    (.ok (Table.find? staged.events m.committed.events externalId), m, staged)
  | .createEvent draft =>
    match Table.insert staged.events m.committed.events (draft.toEvent (mint.row m.rows)) with
    | .ok events => (.ok (), { m with rows := m.rows + 1 }, { staged with events })
    | .error e => (.error e, m, staged)
  | .updateEvent guid patch =>
    match Table.findGuid? staged.events m.committed.events guid with
    | some event =>
      (.ok (), m, { staged with events := staged.events.put guid (patch.apply event) })
    | none => (.error (.notFound Entity.event.name guid), m, staged)
  | .title event language =>
    (.ok (Table.find? staged.titles m.committed.titles (pairKey event language)), m, staged)
  | .createTitle draft =>
    match Table.insert staged.titles m.committed.titles (draft.toTitle (mint.row m.rows)) with
    | .ok titles => (.ok (), { m with rows := m.rows + 1 }, { staged with titles })
    | .error e => (.error e, m, staged)
  | .updateTitle guid title =>
    match Table.findGuid? staged.titles m.committed.titles guid with
    | some row => (.ok (), m, { staged with titles := staged.titles.put guid { row with title } })
    | none => (.error (.notFound Entity.title.name guid), m, staged)
  | .team externalId ecosystem =>
    (.ok (Table.find? staged.teams m.committed.teams (pairKey externalId ecosystem)), m, staged)
  | .createTeam draft =>
    match Table.insert staged.teams m.committed.teams (draft.toTeam (mint.row m.rows)) with
    | .ok teams => (.ok (), { m with rows := m.rows + 1 }, { staged with teams })
    | .error e => (.error e, m, staged)
  | .createTeamName draft =>
    match Table.insert staged.teamNames m.committed.teamNames
        (draft.toTeamName (mint.name m.names)) with
    | .ok teamNames => (.ok (), { m with names := m.names + 1 }, { staged with teamNames })
    | .error e => (.error e, m, staged)
  | .commit =>
    match Tables.conflict? staged m.committed with
    | some e => (.error e, m, {})
    | none => (.ok (), { m with committed := m.committed.publish staged }, {})

/-- Runs a program in one transaction without anything between its calls. -/
def run (m : Memory) (staged : Tables) : Program α → α × Memory × Tables
  | .done a => (a, m, staged)
  | .ask c next =>
    let (reply, m, staged) := m.perform mint staged c
    run m staged (next reply)

end Memory

/-- A memory store with the transactions that are open on it, each under its name. -/
structure Sessions (κ : Type) where
  memory : Memory := {}
  active : List (κ × Tables) := []

namespace Sessions

variable {κ : Type} [DecidableEq κ] (mint : Mint)

def erase (name : κ) (active : List (κ × Tables)) : List (κ × Tables) :=
  active.filter (·.1 ≠ name)

/-- Opens a transaction, dropping an open one of that name. -/
def begin (s : Sessions κ) (name : κ) : Sessions κ :=
  { s with active := (name, {}) :: erase name s.active }

/-- Drops a transaction; tells whether it was open. -/
def rollback (s : Sessions κ) (name : κ) : Bool × Sessions κ :=
  ((s.active.lookup name).isSome, { s with active := erase name s.active })

/-- One call of an open transaction. After a commit it is no longer open. -/
def call (s : Sessions κ) (name : κ) (c : Call) :
    Option (Except StoreError c.Reply) × Sessions κ :=
  match s.active.lookup name with
  | none => (none, s)
  | some staged =>
    let (reply, memory, staged) := s.memory.perform mint staged c
    let active := match c with
      | .commit => erase name s.active
      | _ => (name, staged) :: erase name s.active
    (some reply, { memory, active })

end Sessions

end LiveEvents.Store
