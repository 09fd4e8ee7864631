import LiveEvents.Sql.Calls
import LiveEvents.Sql.Schema

/-!
# Sessions with a database

A session sends statements over one connection and takes the answers in order. At most one
transaction is open; one that is dropped without a successful commit is rolled back.
-/

namespace LiveEvents.Sql

open Store (Call Program StoreError)

/-- A statement that was sent; those that control transactions take no parameters. -/
structure Sent where
  sql : String
  params : Option (List Param)
  deriving Repr

/-- An answer to come, perhaps reserved for a statement that controls transactions. -/
structure Pending where
  control : Bool
  answer : Answer
  deriving Repr

structure Session where
  pending : List Pending := []
  /-- What was sent, latest first. -/
  sent : List Sent := []
  inTransaction : Bool := false
  deriving Repr

namespace Session

def log (s : Session) (entry : Sent) : Session :=
  { s with sent := entry :: s.sent }

/-- Sends a statement that controls transactions; it succeeds unless its failure is pending. -/
def control (s : Session) (sql : String) : Answer × Session :=
  let s := s.log ⟨sql, none⟩
  match s.pending with
  | ⟨true, answer⟩ :: rest => (answer, { s with pending := rest })
  | _ => (.affected 0, s)

/-- Sends any other statement; with no answer pending it affects one row or finds none. -/
def execute (s : Session) (sql : String) (params : List Param) : Answer × Session :=
  let s := s.log ⟨sql, some params⟩
  match s.pending with
  | ⟨_, answer⟩ :: rest => (answer, { s with pending := rest })
  | [] => (.affected 1, s)

def rollback (s : Session) : Bool × Session :=
  if s.inTransaction then (true, { (s.control "ROLLBACK").2 with inTransaction := false })
  else (false, s)

/-- One call. A transaction that cannot begin or commit is rolled back at once. -/
def call (s : Session) (c : Call) : Except StoreError c.Reply × Session :=
  let (statement, params) := statement c
  match c with
  | .begin =>
    let (answer, s) := s.control statement.text
    match answer.done with
    | .ok _ => (.ok (), { s with inTransaction := true })
    | .error e => (.error e, (s.control "ROLLBACK").2)
  | .commit =>
    let (answer, s) := s.control statement.text
    match answer.done with
    | .ok _ => (.ok (), { s with inTransaction := false })
    | .error e => (.error e, s.rollback.2)
  | c =>
    let (answer, s) := s.execute statement.text params
    (reply answer c, s)

/-- Runs a program of calls and drops the transaction that it leaves open. -/
def run (s : Session) : Store.Program α → α × Session
  | .done a => (a, s.rollback.2)
  | .ask c next =>
    let (reply, s) := s.call c
    run s (next reply)

/-- Sends the statements of the schema up to the first that fails. -/
def createSchema (s : Session) : List String → Except StoreError Unit × Session
  | [] => (.ok (), s)
  | sql :: rest =>
    let (answer, s) := s.execute sql []
    match answer.done with
    | .ok _ => createSchema s rest
    | .error e => (.error e, s)

/-- Whether the database answers; an open transaction keeps the only connection busy. -/
def isHealthy (s : Session) : Bool × Session :=
  if s.inTransaction then (false, s)
  else
    let (answer, s) := s.execute "SELECT 1" []
    (answer.done.isOk, s)

end Session

end LiveEvents.Sql
