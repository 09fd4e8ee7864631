import LiveEvents.Proofs.MetricCounts
import LiveEvents.Proofs.SyncedDays
import Mathlib.Data.List.Forall2

/-!
# What a sync reports

A sync hands over each game of each day that was fetched, in the order of the days and of their
documents, whatever came of the games and days before. Its report and its metrics are kept game by
game and day by day, so they add up along the days as what was handed over does.
-/

namespace LiveEvents.Poll

namespace Deed

def handed? : Deed → Option Observation
  | ⟨.write o, _⟩ => some o
  | _ => none

def result? : Deed → Option (Except UpsertError Outcome)
  | ⟨.write _, result, _⟩ => some result
  | _ => none

end Deed

def handed (log : List Deed) : List Observation := log.filterMap Deed.handed?

def results (log : List Deed) : List (Except UpsertError Outcome) := log.filterMap Deed.result?

def measured (log : List Deed) : List Measurement := log.filterMap Deed.measurement?

theorem handed_append (early late : List Deed) :
    handed (early ++ late) = handed early ++ handed late :=
  List.filterMap_append

theorem results_append (early late : List Deed) :
    results (early ++ late) = results early ++ results late :=
  List.filterMap_append

theorem measured_append (early late : List Deed) :
    measured (early ++ late) = measured early ++ measured late :=
  List.filterMap_append

namespace Schedules

variable (s : SchedulePollSettings) (identity : Identity)

/-- A day with the document that was fetched for it, if one was. -/
abbrev Day := Date × Option Schedule.Document

def Day.games (day : Day) : List Game := (day.2.map (·.toGames)).getD []

/-- What is handed over is made of the games, each as of when it is handed over. -/
def Handing (games : List Game) (observations : List Observation) : Prop :=
  List.Forall₂ (fun g o => ∃ now, o = Observation.ofGame identity identity.ecosystem g now) games
    observations

/-- How days are reported: their games are handed over one by one and counted by what came of it,
and the days without a document are counted. -/
structure Reported (days : List Day) (log : List Deed) (report : SyncReport) : Prop where
  handed : Handing identity (days.flatMap Day.games) (handed log)
  games : report.games = (Poll.handed log).length
  upserted : report.upserted = (results log).countP Except.isOk
  failed : report.failed = (results log).countP (!·.isOk)
  daysFailed : report.daysFailed = days.countP (·.2.isNone)
  measured : (measured log).countP (·.upsertSource? == some source) = (Poll.handed log).length

variable {s identity}

theorem Reported.append {days days' : List Day} {log log' : List Deed} {report report' : SyncReport}
    (h : Reported identity days log report) (h' : Reported identity days' log' report') :
    Reported identity (days ++ days') (log ++ log') (report.add report') where
  handed := by
    rw [List.flatMap_append, handed_append]
    exact List.rel_append h.handed h'.handed
  games := by
    rw [handed_append, List.length_append, ← h.games, ← h'.games]
    rfl
  upserted := by
    rw [results_append, List.countP_append, ← h.upserted, ← h'.upserted]
    rfl
  failed := by
    rw [results_append, List.countP_append, ← h.failed, ← h'.failed]
    rfl
  daysFailed := by
    rw [List.countP_append, ← h.daysFailed, ← h'.daysFailed]
    rfl
  measured := by
    rw [measured_append, List.countP_append, handed_append, List.length_append, h.measured,
      h'.measured]

end Schedules

end LiveEvents.Poll
