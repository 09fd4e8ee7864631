/-!
# TOML values

A table remembers how it came to be, since that decides how it may grow: by a header, on the
way to the table of a header, by a dotted key, or as a value in braces, which never grows.
-/

namespace LiveEvents.Toml

inductive TableKind where
  | header
  | implied
  | dotted
  | inline
  deriving DecidableEq, Repr

inductive Value where
  | string (text : String)
  | integer (value : Int)
  | bool (value : Bool)
  /-- A float or a time, of which only the presence counts. -/
  | other
  | array (items : List Value)
  | table (kind : TableKind) (members : List (String × Value))
  /-- The tables that headers with double brackets have opened, in reverse. -/
  | tables (reversed : List Value)
  deriving Repr

abbrev Members := List (String × Value)

def Members.replace (key : String) (value : Value) : Members → Members
  | [] => []
  | (k, v) :: rest => if k = key then (k, value) :: rest else (k, v) :: replace key value rest

abbrev Draft := TableKind × Members

/-- Changes the table at the end of a path, opening tables that are missing on the way. -/
def alter (dotted : Bool) (change : Draft → Option Draft) : List String → Draft → Option Draft
  | [], draft => change draft
  | key :: path, (kind, members) =>
    match members.lookup key with
    | none => do
      let (k, ms) ← alter dotted change path (if dotted then .dotted else .implied, [])
      return (kind, members ++ [(key, .table k ms)])
    | some (.table k ms) =>
      if k = .inline || (dotted && k = .header) then none
      else do
        let (k, ms) ← alter dotted change path (k, ms)
        return (kind, Members.replace key (.table k ms) members)
    | some (.tables (.table k ms :: earlier)) => do
      let (k, ms) ← alter dotted change path (k, ms)
      return (kind, Members.replace key (.tables (.table k ms :: earlier)) members)
    | some _ => none

/-- Adds a value under a key, which is the last of a dotted key if `viaDots`. Only a table that
dotted keys have opened takes dotted keys. -/
def addValue (viaDots : Bool) (key : String) (value : Value) : Draft → Option Draft
  | (kind, members) =>
    if (kind == .dotted) != viaDots || (members.lookup key).isSome then none
    else some (kind, members ++ [(key, value)])

/-- Opens the table of a header; it may have been implied before. -/
def openTable (key : String) : Draft → Option Draft
  | (kind, members) =>
    match members.lookup key with
    | none => some (kind, members ++ [(key, .table .header [])])
    | some (.table .implied ms) => some (kind, Members.replace key (.table .header ms) members)
    | some _ => none

def openElement (key : String) : Draft → Option Draft
  | (kind, members) =>
    match members.lookup key with
    | none => some (kind, members ++ [(key, .tables [.table .header []])])
    | some (.tables reversed) =>
      some (kind, Members.replace key (.tables (.table .header [] :: reversed)) members)
    | some _ => none

structure Path where
  way : List String
  last : String
  deriving Repr

def Path.all (p : Path) : List String := p.way ++ [p.last]

inductive Statement where
  | header (path : Path)
  | element (path : Path)
  | pair (path : Path) (value : Value)
  deriving Repr

def setPath (path : Path) (value : Value) : Draft → Option Draft :=
  alter true (addValue (!path.way.isEmpty) path.last value) path.way

structure Document where
  current : List String := []
  root : Draft := (.header, [])
  deriving Repr

def Document.add (d : Document) : Statement → Option Document
  | .header path => do
    return { current := path.all, root := ← alter false (openTable path.last) path.way d.root }
  | .element path => do
    return { current := path.all, root := ← alter false (openElement path.last) path.way d.root }
  | .pair path value => do
    return { d with root := ← alter false (setPath path value) d.current d.root }

end LiveEvents.Toml
