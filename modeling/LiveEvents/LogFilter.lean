import LiveEvents.Text.Affix
import LiveEvents.Text.Blank
import LiveEvents.Text.Digits

/-!
# Filters of log messages

A filter is a list of directives between commas. A directive names the least urgent level that
is let through, for the targets whose names begin as it says or for all of them. Of several that
speak about a target the one with the longest name decides, and of two with the same name the
later one. A filter that says nothing lets errors through only, and what cannot be understood is
as good as not written.
-/

namespace LiveEvents

inductive LogLevel where
  | error
  | warn
  | info
  | debug
  | trace
  deriving DecidableEq, Repr

namespace LogLevel

/-- The more urgent a level, the lower. -/
def rank : LogLevel → Nat
  | error => 1
  | warn => 2
  | info => 3
  | debug => 4
  | trace => 5

def name : LogLevel → String
  | error => "ERROR"
  | warn => "WARN"
  | info => "INFO"
  | debug => "DEBUG"
  | trace => "TRACE"

/-- The name in any case, or the rank. The result is the rank of the least urgent level. -/
def limit? (text : String) : Option Nat :=
  let cs := text.toList
  match Text.number? 20 (if cs.head? = some '+' then cs.drop 1 else cs) with
  | some (n, []) => if n ≤ trace.rank then some n else none
  | _ =>
    match text.toLower with
    | "off" => some 0
    | "error" => some error.rank
    | "warn" => some warn.rank
    | "info" => some info.rank
    | "debug" => some debug.rank
    | "trace" => some trace.rank
    | _ => none

end LogLevel

structure LogDirective where
  target : String
  limit : Nat
  deriving DecidableEq, Repr

namespace LogDirective

def opensName (c : Char) : Bool :=
  c.isAlphanum || 128 ≤ c.toNat || c == '-' || c == ':' || c == '_'

/-- A directive that is about spans says nothing about messages outside them. -/
def ofText? (text : String) : Option LogDirective := do
  let cs := (Text.dropBlanks (Text.dropBlanks text.toList).reverse).reverse
  let name := cs.takeWhile (· ≠ '=')
  guard (cs.head?.any opensName && !name.contains '[')
  match cs.drop name.length with
  | [] =>
    match LogLevel.limit? (String.ofList name) with
    | some limit => return { target := "", limit }
    | none => return { target := String.ofList name, limit := LogLevel.trace.rank }
  | [_] => return { target := String.ofList name, limit := LogLevel.trace.rank }
  | _ :: level =>
    return { target := String.ofList name, limit := ← LogLevel.limit? (String.ofList level) }

def covers (d : LogDirective) (target : String) : Bool :=
  (Text.withoutStart? d.target target).isSome

end LogDirective

abbrev LogFilter := List LogDirective

namespace LogFilter

def ofText (text : String) : LogFilter :=
  (text.splitOn ",").filterMap LogDirective.ofText?

/-- Of two directives the one that decides, if the second one comes later. -/
def stronger (a b : LogDirective) : LogDirective :=
  if a.target.utf8ByteSize ≤ b.target.utf8ByteSize then b else a

def limit (f : LogFilter) (target : String) : Nat :=
  match f, f.filter (·.covers target) with
  | [], _ => LogLevel.error.rank
  | _ :: _, [] => 0
  | _ :: _, d :: rest => (rest.foldl stronger d).limit

def allows (f : LogFilter) (level : LogLevel) (target : String) : Bool :=
  level.rank ≤ f.limit target

end LogFilter

end LiveEvents
