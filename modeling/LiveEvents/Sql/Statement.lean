import LiveEvents.Json.Basic
import LiveEvents.Instant

/-!
# Statements of the database store

The few forms of statements that the store sends. Values are never written into a statement:
they are sent beside it, and the statement names them by number from one. A statement has its
text and, where it writes a row, the row that it writes.
-/

namespace LiveEvents.Sql

inductive Param where
  | null
  | text (value : String)
  | bool (value : Bool)
  | small (value : Int)
  | json (value : Json)
  | time (value : Instant)
  deriving Repr

abbrev Record := List (String × Param)

inductive Source where
  | bind (n : Nat)
  /-- The parameter, read as a number. -/
  | numeric (n : Nat)
  /-- The parameter, or the old value if the parameter is null. -/
  | orOld (n : Nat)
  deriving DecidableEq, Repr

inductive Column where
  | plain (name : String)
  /-- A number that is read as text. -/
  | asText (name : String)
  deriving DecidableEq, Repr

structure Select where
  columns : List Column
  table : String
  keys : List String
  deriving DecidableEq, Repr

/-- Inserts a row unless there is one with the same unique columns. -/
structure Insert where
  table : String
  values : List (String × Source)
  unique : List String
  /-- The list of columns stands on lines of its own. -/
  spaced : Bool := false
  deriving DecidableEq, Repr

/-- Changes the row whose guid is the first parameter. -/
structure Update where
  table : String
  changes : List (String × Source)
  deriving DecidableEq, Repr

def place (n : Nat) : String :=
  "$" ++ toString n

namespace Source

def text (column : String) : Source → String
  | bind n => place n
  | numeric n => place n ++ "::numeric"
  | orOld n => "COALESCE(" ++ place n ++ ", " ++ column ++ ")"

def param (params : List Param) (n : Nat) : Param :=
  (params[n - 1]?).getD .null

def value (params : List Param) (old : Param) : Source → Param
  | bind n | numeric n => param params n
  | orOld n =>
    match param params n with
    | .null => old
    | p => p

end Source

def commas (parts : List String) : String :=
  ", ".intercalate parts

def Column.text : Column → String
  | plain name => name
  | asText name => name ++ "::text AS " ++ name

def Select.text (s : Select) : String :=
  "SELECT " ++ commas (s.columns.map (·.text)) ++ " FROM " ++ s.table ++ " WHERE " ++
    " AND ".intercalate ((s.keys.zipIdx 1).map fun (key, n) => key ++ " = " ++ place n)

namespace Insert

def text (i : Insert) : String :=
  let columns := commas (i.values.map Prod.fst)
  "INSERT INTO " ++ i.table ++ " (" ++ (if i.spaced then " " ++ columns ++ " " else columns) ++
    ") VALUES (" ++ commas (i.values.map fun (column, source) => source.text column) ++
    ") ON CONFLICT (" ++ commas i.unique ++ ") DO NOTHING"

def record (i : Insert) (params : List Param) : Record :=
  i.values.map fun (column, source) => (column, source.value params .null)

end Insert

namespace Update

def text (u : Update) : String :=
  "UPDATE " ++ u.table ++ " SET " ++
    commas (u.changes.map fun (column, source) => column ++ " = " ++ source.text column) ++
    " WHERE guid = $1"

def record (u : Update) (params : List Param) (old : Record) : Record :=
  old.map fun (column, value) =>
    match u.changes.lookup column with
    | some source => (column, source.value params value)
    | none => (column, value)

end Update

inductive Statement where
  | select (s : Select)
  | insert (i : Insert)
  | update (u : Update)
  | plain (text : String)
  deriving DecidableEq, Repr

def Statement.text : Statement → String
  | select s => s.text
  | insert i => i.text
  | update u => u.text
  | plain text => text

end LiveEvents.Sql
