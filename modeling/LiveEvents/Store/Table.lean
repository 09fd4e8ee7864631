import LiveEvents.Store.Call

/-!
# Tables of the memory store

A table holds rows under their guids. A transaction sees the committed rows overlaid with the
rows that it has staged. Natural keys are unique: a row is not inserted beside a visible row of
its key, and staged rows that are new collide with committed rows of their key.
-/

namespace LiveEvents.Store

class Row (α : Type) where
  entity : Entity
  guid : α → Guid
  key : α → String

abbrev Table (α : Type) := List (Guid × α)

namespace Table

variable {α : Type}

def rows (t : Table α) : List α :=
  t.map Prod.snd

def get? (t : Table α) (guid : Guid) : Option α :=
  t.lookup guid

def contains (t : Table α) (guid : Guid) : Bool :=
  (t.get? guid).isSome

def put (guid : Guid) (row : α) : Table α → Table α
  | [] => [(guid, row)]
  | (g, r) :: rest => if g = guid then (guid, row) :: rest else (g, r) :: put guid row rest

def putAll (t staged : Table α) : Table α :=
  staged.foldl (fun t (guid, row) => t.put guid row) t

variable [Row α]

/-- The visible row of a natural key. -/
def find? (staged committed : Table α) (key : String) : Option α :=
  match staged.rows.find? (Row.key · == key) with
  | some row => some row
  | none => committed.rows.find? fun row => Row.key row == key && !staged.contains (Row.guid row)

def findGuid? (staged committed : Table α) (guid : Guid) : Option α :=
  match staged.get? guid with
  | some row => some row
  | none => committed.get? guid

def insert (staged committed : Table α) (row : α) : Except StoreError (Table α) :=
  if (find? staged committed (Row.key row)).isSome then
    .error (.duplicate (Row.entity α).name (Row.key row))
  else .ok (staged.put (Row.guid row) row)

/-- The first collision of a new staged row with a committed row. -/
def conflict? (staged committed : Table α) : Option StoreError :=
  (staged.rows.find? fun row =>
      !committed.contains (Row.guid row) && committed.rows.any (Row.key · == Row.key row)).map
    fun row => .duplicate (Row.entity α).name (Row.key row)

end Table

instance : Row Event := ⟨.event, Event.guid, fun e => e.externalId⟩

def pairKey (owner part : String) : String :=
  owner ++ "/" ++ part

instance : Row Title := ⟨.title, Title.guid, fun t => pairKey t.event t.language⟩

instance : Row Period := ⟨.period, Period.guid, fun p => p.code⟩

instance : Row Team := ⟨.team, Team.guid, fun t => pairKey t.externalId t.ecosystem⟩

instance : Row TeamName := ⟨.teamName, TeamName.guid, fun n => pairKey n.team n.language⟩

end LiveEvents.Store
