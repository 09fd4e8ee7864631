import LiveEvents.Sql.Session
import LiveEvents.Upsert

/-!
# Upserts over a connection

The statements of an upsert go over a connection that may be lost, and there is a deadline for the
upsert as a whole. Either may come before a statement has reached the database, or after that, while
the answer is awaited. What the database does with a statement that has reached it does not depend
on what becomes of the answer.
-/

namespace LiveEvents.Sql

open Store (Call Program StoreError)

inductive Passage where
  | answered
  /-- The connection is lost before or after the statement has reached the database. -/
  | lost (reached : Bool) (cause : String)
  /-- The deadline passes before or after the statement has reached the database. -/
  | late (reached : Bool)
  deriving DecidableEq, Repr

namespace Passage

def reached : Passage → Bool
  | answered => true
  | lost reached _ | late reached => reached

/-- The statement has reached the database, and its answer does not arrive, or too late. -/
def missed : Passage → Bool
  | answered => false
  | lost reached _ | late reached => reached

end Passage

/-- A call whose statement was to be sent, and what the database answers when it has it. -/
structure Leg where
  call : Call
  passage : Passage
  answer : Answer

namespace Leg

def sendsCommit : Leg → Bool
  | ⟨.commit, passage, _⟩ => passage.reached
  | _ => false

def commits : Leg → Bool
  | ⟨.commit, passage, answer⟩ => passage.reached && answer.done.isOk
  | _ => false

end Leg

def Session.answer (s : Session) (c : Call) : Answer × Session :=
  let (statement, params) := statement c
  match c with
  | .begin | .commit => s.control statement.text
  | _ => s.execute statement.text params

/-- A session, and what becomes of the statements to come. When none is left they are answered. -/
structure Connection where
  session : Session := {}
  passages : List Passage := []
  /-- What was to be sent, latest first. -/
  log : List Leg := []

namespace Connection

def passage (c : Connection) : Passage := c.passages.head?.getD .answered

def leg (c : Connection) (q : Call) : Leg := ⟨q, c.passage, (c.session.answer q).1⟩

/-- The session after one call. A database that loses the connection drops the transaction, and an
upsert that is late drops it. -/
def after (c : Connection) (q : Call) : Session :=
  let arrived := (c.session.answer q).2
  match c.passage with
  | .answered => (c.session.call q).2
  | .lost reached _ => { (if reached then arrived else c.session) with inTransaction := false }
  | .late reached =>
    (if reached then { arrived with inTransaction := true } else c.session).rollback.2

/-- One call; no reply if it is late. -/
def call (c : Connection) (q : Call) : Option (Except StoreError q.Reply) × Connection :=
  let reply := match c.passage with
    | .answered => some (c.session.call q).1
    | .lost _ cause => some (.error (.backend cause))
    | .late _ => none
  (reply, { session := c.after q, passages := c.passages.tail, log := c.leg q :: c.log })

def run (c : Connection) : Store.Program α → Option α × Connection
  | .done a => (some a, c)
  | .ask q next =>
    match c.call q with
    | (some reply, c) => run c (next reply)
    | (none, c) => (none, c)

def dropped (c : Connection) : Connection :=
  { c with session := c.session.rollback.2 }

/-- The upsert of an observation, given up when its deadline passes. -/
def upsert (c : Connection) (timeout : Duration) (o : Observation) :
    Except UpsertError Outcome × Connection :=
  match c.run (Upsert.program o) with
  | (some result, c) => (result, c.dropped)
  | (none, c) => (.error (Upsert.abandoned o timeout), c)

def committed (c : Connection) : Bool := c.log.any (·.commits)

end Connection

end LiveEvents.Sql
