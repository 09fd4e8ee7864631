import LiveEvents.Proofs.HeedingPollers
import Mathlib.Data.List.Basic

/-!
# How cycles are counted

A poller does its deeds in a world that answers each action by all that was done before. The looks
for a stop aside, what a cycle does is a tour: one visit to each of its places, where a document is
fetched and what is read from it is written. A cycle that is told of a stop counts nothing. Any
other one counts itself once, and by its label the schedules tell whether every visit was made in
full, but the prices only whether every document was fetched.
-/

namespace LiveEvents.Poll

/-- An action and the reply to it. -/
structure Deed where
  action : Action
  reply : action.Reply

namespace Deed

def tellsStop : Deed → Bool
  | ⟨.stopRequested, stopped⟩ => stopped
  | _ => false

def losesWrite : Deed → Bool
  | ⟨.write _, result, _⟩ => !result.isOk
  | _ => false

def measurement? : Deed → Option Measurement
  | ⟨.count m, _⟩ => some m
  | _ => none

end Deed

/-- The reply to each action, by all that was done before it. -/
abbrev Replies := List Deed → (a : Action) → a.Reply

/-- What a task does in a world after some deeds, and its result. -/
def Task.course {α : Type} (world : Replies) (past : List Deed) : Task α → List Deed × α
  | .done a => ([], a)
  | .ask a next =>
    let deed : Deed := ⟨a, world past a⟩
    let rest := course world (past ++ [deed]) (next deed.reply)
    (deed :: rest.1, rest.2)

theorem Task.runs_course {α : Type} (world : Replies) (past : List Deed) (t : Task α) :
    t.Runs Deed.mk (t.course world past).1 (t.course world past).2 := by
  induction t generalizing past with
  | done a => exact ⟨rfl, rfl⟩
  | ask a next ih => exact ⟨world past a, _, rfl, ih _ _⟩

/-! ## What is seen of deeds -/

/-- Some of the deeds told of a stop. -/
def told (log : List Deed) : Bool := log.any Deed.tellsStop

def work (log : List Deed) : List Deed := log.filter fun d => d.action.isWork

def counted (m : Metrics) (log : List Deed) : Metrics :=
  (log.filterMap Deed.measurement?).foldl Metrics.record m

def Uncounted (log : List Deed) : Prop := ∀ m, (counted m log).polls = m.polls

theorem told_append (early late : List Deed) : told (early ++ late) = (told early || told late) :=
  List.any_append

theorem work_append (early late : List Deed) : work (early ++ late) = work early ++ work late :=
  List.filter_append ..

theorem counted_append (m : Metrics) (early late : List Deed) :
    counted m (early ++ late) = counted (counted m early) late := by
  unfold counted
  rw [List.filterMap_append, List.foldl_append]

theorem uncounted_nil : Uncounted [] := fun _ => rfl

theorem Uncounted.append {early late : List Deed} (h : Uncounted early) (h' : Uncounted late) :
    Uncounted (early ++ late) := by
  intro m
  rw [counted_append, h', h]

theorem uncounted_work {d : Deed} (h : d.action.isWork = true) : Uncounted [d] := by
  intro m
  obtain ⟨action, reply⟩ := d
  cases action with
  | count x =>
    cases x with
    | poll source result => cases h
    | _ => rfl
  | _ => rfl

theorem uncounted_stopRequested (stopped : Bool) : Uncounted [⟨.stopRequested, stopped⟩] :=
  fun _ => rfl

structure Plain (log : List Deed) : Prop where
  told : told log = false
  work : work log = log
  uncounted : Uncounted log

theorem plain_work {d : Deed} (h : d.action.isWork = true) : Plain [d] where
  told := by
    obtain ⟨action, reply⟩ := d
    cases action with
    | stopRequested => cases h
    | _ => rfl
  work := by
    unfold Poll.work
    exact List.filter_cons_of_pos h
  uncounted := uncounted_work h

theorem Plain.append {early late : List Deed} (h : Plain early) (h' : Plain late) :
    Plain (early ++ late) where
  told := by rw [told_append, h.told, h'.told, Bool.or_false]
  work := by rw [work_append, h.work, h'.work]
  uncounted := h.uncounted.append h'.uncounted

namespace Task

variable {α : Type} {log : List Deed}

theorem plain_of_works {t : Task α} {a : α} (h : Works t) (hrun : t.Runs Deed.mk log a) :
    Plain log := by
  induction t generalizing log with
  | done b =>
    obtain ⟨rfl, -⟩ := hrun
    exact ⟨rfl, rfl, uncounted_nil⟩
  | ask action next ih =>
    obtain ⟨r, rest, rfl, hrest⟩ := hrun
    exact (plain_work h.1).append (ih r (h.2 r) hrest)

/-- What comes of a part that can be stopped: it is done, looks for a stop aside, or it has been
told of a stop. It counts no cycle either way. -/
structure Settles (t : Task α) (log : List Deed) (result : Option α) : Prop where
  told : told log = result.isNone
  done : ∀ a, result = some a → t.Runs Deed.mk (work log) a
  uncounted : Uncounted log

theorem Settles.unlessStopped {t : Task α} {next : Task (Option α)} {result : Option α}
    (h : ∀ log, next.Runs Deed.mk log result → Settles t log result)
    (hrun : (unlessStopped next).Runs Deed.mk log result) : Settles t log result := by
  obtain ⟨stopped, rest, rfl, hrest⟩ := hrun
  cases stopped with
  | true =>
    obtain ⟨rfl, rfl⟩ := hrest
    exact ⟨rfl, nofun, uncounted_stopRequested true⟩
  | false =>
    have hnext := h rest hrest
    exact ⟨hnext.told, hnext.done, (uncounted_stopRequested false).append hnext.uncounted⟩

theorem settles_guarded {t : Task α} (h : Works t) {result : Option α}
    (hrun : (guarded t).Runs Deed.mk log result) : Settles t log result := by
  induction t generalizing log with
  | done a =>
    obtain ⟨rfl, rfl⟩ := hrun
    apply Settles.mk rfl _ uncounted_nil
    rintro b ⟨⟩
    exact ⟨rfl, rfl⟩
  | ask action next ih =>
    obtain ⟨r, rest, rfl, hrest⟩ := hrun
    have hnext : Settles (next r) rest result := by
      dsimp only at hrest
      split_ifs at hrest
      · exact Settles.unlessStopped (fun log => ih r (h.2 r)) hrest
      · exact ih r (h.2 r) hrest
    have hplain : Plain [⟨action, r⟩] := plain_work h.1
    apply Settles.mk
    · exact (told_append [⟨action, r⟩] rest).trans (by rw [hplain.told, hnext.told]; rfl)
    · intro a ha
      exact ⟨r, work rest, List.filter_cons_of_pos h.1, hnext.done a ha⟩
    · exact hplain.uncounted.append hnext.uncounted

theorem settles_interruptible {t : Task α} (h : Works t) {result : Option α}
    (hrun : (interruptible t).Runs Deed.mk log result) : Settles t log result :=
  Settles.unlessStopped (fun _ => settles_guarded h) hrun

theorem runs_write {source : String} {observe : Instant → Observation} {written : Bool}
    (hrun : (write source observe).Runs Deed.mk log written) : ∃ now result elapsed,
      log = [⟨.count (.tick source), ()⟩, ⟨.clock, now⟩, ⟨.write (observe now), result, elapsed⟩,
        ⟨.count (.upsert source result elapsed), ()⟩] ∧ written = result.isOk := by
  obtain ⟨_, _, rfl, now, _, rfl, ⟨result, elapsed⟩, _, rfl, _, _, rfl, rfl, rfl⟩ := hrun
  exact ⟨now, result, elapsed, rfl, rfl⟩

end Task

/-! ## Tours -/

/-- What came of a visit: whether the document was fetched, and what came of writing each
observation in it. -/
structure Visit where
  fetched : Bool
  writes : List (Except UpsertError Outcome)

def Visit.isFull (v : Visit) : Bool := v.fetched && v.writes.all Except.isOk

/-- Observations are written one after another, each as of when the clock was read for it. -/
inductive Writes (source : String) : List (Instant → Observation) → List Deed →
    List (Except UpsertError Outcome) → Prop
  | nil : Writes source [] [] []
  | cons {observe : Instant → Observation} {rest : List (Instant → Observation)}
      {log : List Deed} {results : List (Except UpsertError Outcome)} (now : Instant)
      (result : Except UpsertError Outcome) (elapsed : Duration)
      (hrest : Writes source rest log results) :
      Writes source (observe :: rest)
        ([⟨.count (.tick source), ()⟩, ⟨.clock, now⟩, ⟨.write (observe now), result, elapsed⟩,
          ⟨.count (.upsert source result elapsed), ()⟩] ++ log) (result :: results)

/-- A document is fetched, and if it is there, all that is observed in it is written. -/
inductive Visits {ε δ : Type} (source : String) (fetch : Task (Except ε δ))
    (observed : δ → List (Instant → Observation)) : List Deed → Visit → Prop
  | fetched {document : δ} {early late : List Deed} {results : List (Except UpsertError Outcome)}
      (hfetch : fetch.Runs Deed.mk early (.ok document))
      (hwrites : Writes source (observed document) late results) :
      Visits source fetch observed (early ++ late) ⟨true, results⟩
  | missed {e : ε} {log : List Deed} (hfetch : fetch.Runs Deed.mk log (.error e)) :
      Visits source fetch observed log ⟨false, []⟩

/-- One visit to each place, in order. -/
inductive Tour {ι : Type} (visits : ι → List Deed → Visit → Prop) :
    List ι → List Deed → List Visit → Prop
  | nil : Tour visits [] [] []
  | cons {place : ι} {places : List ι} {early late : List Deed} {v : Visit} {vs : List Visit}
      (hvisit : visits place early v) (hrest : Tour visits places late vs) :
      Tour visits (place :: places) (early ++ late) (v :: vs)

/-- How a cycle is counted: not at all if it is told of a stop and broken off, and otherwise once,
by what came of the visits of its tour. -/
structure Accounted (source : String) (well : List Visit → Bool)
    (tour : List Deed → List Visit → Prop) (log : List Deed) (completed : Bool) : Prop where
  completed : completed = !told log
  broken : told log = true → Uncounted log
  whole : told log = false → ∃ visits, tour (work log) visits ∧
    ∀ m, (counted m log).polls = m.polls.bump [cycleLabel (well visits), source]

namespace Accounted

variable {source : String} {well well' : List Visit → Bool}
  {tour tour' : List Deed → List Visit → Prop} {early late : List Deed} {completed : Bool}

/-- A cycle after which nothing is left but to count it. -/
theorem count {visits : List Visit} {complete : Bool} (htour : tour [] visits)
    (hwell : well visits = complete) :
    Accounted source well tour [⟨.count (.poll source (cycleLabel complete)), ()⟩] true := by
  subst hwell
  exact ⟨rfl, nofun, fun _ => ⟨visits, htour, fun _ => rfl⟩⟩

/-- A cycle that is told of a stop. -/
theorem stopped (h : told early = true) (h' : Uncounted early) :
    Accounted source well tour early false := by
  apply Accounted.mk
  · rw [h]
    rfl
  · exact fun _ => h'
  · intro hfree
    rw [h] at hfree
    cases hfree

/-- A cycle of which the early deeds tell of no stop and count no cycle. -/
theorem after (hfree : told early = false) (huncounted : Uncounted early)
    (h : Accounted source well tour late completed)
    (htour : ∀ visits, tour (work late) visits →
      ∃ visits', tour' (work early ++ work late) visits' ∧ well' visits' = well visits) :
    Accounted source well' tour' (early ++ late) completed := by
  have htold : told (early ++ late) = told late := by
    rw [told_append, hfree, Bool.false_or]
  apply Accounted.mk
  · rw [htold]
    exact h.completed
  · intro hstop
    exact huncounted.append (h.broken (htold.symm.trans hstop))
  · intro hwhole
    obtain ⟨visits, hvisits, hcount⟩ := h.whole (htold.symm.trans hwhole)
    obtain ⟨visits', hvisits', hwell⟩ := htour visits hvisits
    apply Exists.intro visits'
    constructor
    · rw [work_append]
      exact hvisits'
    · intro m
      rw [counted_append, hcount, huncounted, hwell]

end Accounted

open LiveEvents.Poll.Task

/-! ## The two pollers -/

namespace Prices

variable (s : PricePollSettings) (identity : Identity)

def Visited (symbol : String) : List Deed → Visit → Prop :=
  Visits source (fetch s symbol) fun t => [Observation.ofTick .binance identity t]

theorem accounted_cycleFrom (complete : Bool) (symbols : List String) {log : List Deed}
    {completed : Bool} (hrun : (cycleFrom s identity complete symbols).Runs Deed.mk log completed) :
    Accounted source (fun visits => complete && visits.all Visit.fetched)
      (Tour (Visited s identity) symbols) log completed := by
  induction symbols generalizing complete log with
  | nil =>
    obtain ⟨_, _, rfl, rfl, rfl⟩ := hrun
    exact .count .nil (Bool.and_true complete)
  | cons symbol symbols ih =>
    obtain ⟨result, early, late, rfl, hearly, hlate⟩ := (Program.runs_bind ..).mp hrun
    have hsettles := settles_interruptible (works_fetch _ _ _ _) hearly
    cases result with
    | none =>
      obtain ⟨rfl, rfl⟩ := hlate
      rw [List.append_nil]
      exact .stopped hsettles.told hsettles.uncounted
    | some fetched =>
      cases fetched with
      | ok t =>
        -- What came of the write belongs to the visit, but it leaves `complete` as it is.
        obtain ⟨written, wrote, rest, rfl, hwrote, hrest⟩ := (Program.runs_bind ..).mp hlate
        have hplain := plain_of_works (works_write _ _) hwrote
        obtain ⟨now, result, elapsed, hdeeds, -⟩ := runs_write hwrote
        have hvisit : Visited s identity symbol (work early ++ wrote) ⟨true, [result]⟩ := by
          apply Visits.fetched (hsettles.done _ rfl)
          rw [hdeeds]
          exact .cons now result elapsed .nil
        rw [← List.append_assoc]
        apply Accounted.after _ (hsettles.uncounted.append hplain.uncounted) (ih complete hrest)
        · intro visits hvisits
          rw [work_append, hplain.work]
          exact ⟨_, .cons hvisit hvisits, rfl⟩
        · rw [told_append, hsettles.told, hplain.told]
          rfl
      | error e =>
        have hvisit : Visited s identity symbol (work early) ⟨false, []⟩ :=
          .missed (hsettles.done _ rfl)
        apply Accounted.after hsettles.told hsettles.uncounted (ih false hlate)
        intro visits hvisits
        refine ⟨_, .cons hvisit hvisits, ?_⟩
        simp

end Prices

namespace Schedules

variable (s : SchedulePollSettings) (identity : Identity)

def Visited (date : Date) : List Deed → Visit → Prop :=
  Visits source (fetch s date) fun d =>
    d.toGames.map (Observation.ofGame identity identity.ecosystem)

/-- The clock is read, and each day from that day as far as the poller looks ahead is visited. -/
def Toured (log : List Deed) (visits : List Visit) : Prop :=
  ∃ now rest, log = ⟨.clock, now⟩ :: rest ∧
    Tour (Visited s identity) ((window s now.date).1.through (window s now.date).2) rest visits

/-- What writing some games adds to the report. -/
def reportOf (results : List (Except UpsertError Outcome)) : SyncReport where
  games := results.length
  upserted := results.countP Except.isOk
  failed := results.countP (!·.isOk)

def visitReport (v : Visit) : SyncReport :=
  if v.fetched then reportOf v.writes else .ofFailedDay

def total (visits : List Visit) : SyncReport :=
  visits.foldr (fun v report => (visitReport v).add report) {}

@[simp] theorem add_empty (a : SyncReport) : a.add {} = a := rfl

@[simp] theorem empty_add (a : SyncReport) : SyncReport.add {} a = a := by
  simp [SyncReport.add]

theorem add_assoc (a b c : SyncReport) : (a.add b).add c = a.add (b.add c) := by
  simp [SyncReport.add, Nat.add_assoc]

theorem reportOf_cons (result : Except UpsertError Outcome)
    (results : List (Except UpsertError Outcome)) :
    reportOf (result :: results) = (SyncReport.ofGame result.isOk).add (reportOf results) := by
  cases result <;>
    simp [reportOf, SyncReport.ofGame, SyncReport.add, List.countP_cons, Except.isOk, Except.toBool,
      Nat.add_comm]

theorem isComplete_add (a b : SyncReport) :
    (a.add b).isComplete = (a.isComplete && b.isComplete) := by
  unfold SyncReport.isComplete SyncReport.add
  rw [Bool.eq_iff_iff]
  simp
  omega

theorem isComplete_reportOf (results : List (Except UpsertError Outcome)) :
    (reportOf results).isComplete = results.all Except.isOk := by
  induction results with
  | nil => rfl
  | cons result results ih =>
    have hgame : (SyncReport.ofGame result.isOk).isComplete = result.isOk := by
      cases result <;> rfl
    rw [reportOf_cons, isComplete_add, hgame, ih, List.all_cons]

theorem isComplete_total (visits : List Visit) :
    (total visits).isComplete = visits.all Visit.isFull := by
  induction visits with
  | nil => rfl
  | cons v visits ih =>
    have hvisit : (visitReport v).isComplete = v.isFull := by
      obtain ⟨fetched, writes⟩ := v
      cases fetched with
      | true => exact isComplete_reportOf writes
      | false => rfl
    change ((visitReport v).add (total visits)).isComplete = _
    rw [isComplete_add, hvisit, ih, List.all_cons]

theorem runs_writeAll {report report' : SyncReport} {games : List Game} {log : List Deed}
    (hrun : (writeAll identity report games).Runs Deed.mk log report') :
    ∃ results, Writes source (games.map (Observation.ofGame identity identity.ecosystem)) log
        results ∧ report' = report.add (reportOf results) := by
  induction games generalizing report log with
  | nil =>
    obtain ⟨rfl, rfl⟩ := hrun
    exact ⟨[], .nil, (add_empty _).symm⟩
  | cons game games ih =>
    obtain ⟨written, wrote, rest, rfl, hwrote, hrest⟩ := (Program.runs_bind ..).mp hrun
    obtain ⟨now, result, elapsed, rfl, rfl⟩ := runs_write hwrote
    obtain ⟨results, hwrites, hreport⟩ := ih hrest
    refine ⟨result :: results, .cons now result elapsed hwrites, ?_⟩
    rw [hreport, reportOf_cons, add_assoc]

def dayReport : Except (Abandoned Http.FetchError) SyncReport → SyncReport
  | .ok day => day
  | .error _ => .ofFailedDay

theorem visited_syncDate {date : Date} {log : List Deed}
    {result : Except (Abandoned Http.FetchError) SyncReport}
    (hrun : (syncDate s identity date).Runs Deed.mk log result) :
    ∃ v, Visited s identity date log v ∧ dayReport result = visitReport v := by
  obtain ⟨fetched, early, late, rfl, hearly, hlate⟩ := (Program.runs_bind ..).mp hrun
  cases fetched with
  | ok document =>
    obtain ⟨day, wrote, _, rfl, hwrote, rfl, rfl⟩ := (Program.runs_bind ..).mp hlate
    obtain ⟨results, hwrites, hreport⟩ := runs_writeAll identity hwrote
    rw [List.append_nil]
    exact ⟨_, .fetched hearly hwrites, hreport.trans (empty_add _)⟩
  | error e =>
    obtain ⟨rfl, rfl⟩ := hlate
    rw [List.append_nil]
    exact ⟨_, .missed hearly, rfl⟩

theorem toured_syncAll {report report' : SyncReport} {dates : List Date} {log : List Deed}
    (hrun : (syncAll s identity report dates).Runs Deed.mk log report') :
    ∃ visits, Tour (Visited s identity) dates log visits ∧
      report' = report.add (total visits) := by
  induction dates generalizing report log with
  | nil =>
    obtain ⟨rfl, rfl⟩ := hrun
    exact ⟨[], .nil, (add_empty _).symm⟩
  | cons date dates ih =>
    obtain ⟨result, early, late, rfl, hearly, hlate⟩ := (Program.runs_bind ..).mp hrun
    obtain ⟨v, hvisit, hday⟩ := visited_syncDate s identity hearly
    have hrest : ∃ visits, Tour (Visited s identity) dates late visits ∧
        report' = (report.add (visitReport v)).add (total visits) := by
      rw [← hday]
      cases result <;> exact ih hlate
    obtain ⟨visits, hvisits, hreport⟩ := hrest
    refine ⟨v :: visits, .cons hvisit hvisits, ?_⟩
    rw [hreport, add_assoc]
    rfl

/-- A whole range of days is visited, and reported as it went. -/
theorem toured_syncRange {first final : Date} {report : SyncReport} {log : List Deed}
    (hrun : (syncRange s identity first final).Runs Deed.mk log report) :
    ∃ visits, Tour (Visited s identity) (first.through final) log visits ∧
      report = total visits := by
  obtain ⟨visits, hvisits, hreport⟩ := toured_syncAll s identity hrun
  exact ⟨visits, hvisits, hreport.trans (empty_add _)⟩

theorem accounted_cycle {log : List Deed} {completed : Bool}
    (hrun : (cycle s identity).Runs Deed.mk log completed) :
    Accounted source (·.all Visit.isFull) (Toured s identity) log completed := by
  obtain ⟨now, _, rest, rfl, ⟨_, _, rfl, rfl, rfl⟩, hrest⟩ := (Program.runs_bind ..).mp hrun
  obtain ⟨result, early, late, rfl, hearly, hlate⟩ := (Program.runs_bind ..).mp hrest
  have hsettles := settles_interruptible (works_syncAll s identity _ _) hearly
  -- The look at the clock comes before the part that can be stopped, and is part of the tour.
  have htold : told (⟨.clock, now⟩ :: early) = result.isNone := hsettles.told
  have huncounted : Uncounted (⟨.clock, now⟩ :: early) :=
    (plain_work rfl).uncounted.append hsettles.uncounted
  cases result with
  | none =>
    obtain ⟨rfl, rfl⟩ := hlate
    rw [List.append_nil]
    exact .stopped htold huncounted
  | some report =>
    obtain ⟨_, _, rfl, rfl, rfl⟩ := hlate
    obtain ⟨visits, hvisits, rfl⟩ := toured_syncRange s identity (hsettles.done _ rfl)
    have hcount : Accounted source (·.all Visit.isFull) (fun log vs => log = [] ∧ vs = visits)
        [⟨.count (.poll source (cycleLabel (total visits).isComplete)), ()⟩] true :=
      .count ⟨rfl, rfl⟩ (isComplete_total visits).symm
    apply Accounted.after htold huncounted hcount
    rintro _ ⟨hnil, rfl⟩
    rw [hnil, List.append_nil]
    exact ⟨_, ⟨now, work early, rfl, hvisits⟩, rfl⟩

end Schedules

/-- In every world a cycle of either poller is broken off exactly if it is told of a stop, and then
it is not counted. Any other cycle is a tour of all its places and is counted once: that of the
prices as ok exactly if the price of every symbol was fetched, whatever came of writing them, and
that of the schedules exactly if every day was fetched and every game on it was written. -/
theorem cycles_counted (world : Replies) (past : List Deed) (identity : Identity) :
    (∀ s : PricePollSettings,
      let (log, completed) := (Prices.cycle s identity).course world past
      Accounted Prices.source (·.all Visit.fetched)
        (Tour (Prices.Visited s identity) s.symbols) log completed) ∧
    ∀ s : SchedulePollSettings,
      let (log, completed) := (Schedules.cycle s identity).course world past
      Accounted Schedules.source (·.all Visit.isFull) (Schedules.Toured s identity)
        log completed := by
  constructor
  · intro s
    exact Prices.accounted_cycleFrom s identity true s.symbols (runs_course world past _)
  · intro s
    exact Schedules.accounted_cycle s identity (runs_course world past _)

/-- A world without stops, where every price is one and nothing can be written. -/
def fullStore : Replies := fun _ a =>
  match a with
  | .get _ => .ok ⟨.ok, Text.Utf8.encode "\x7b\"price\":\"1\"\x7d"⟩
  | .draw _ => 0
  | .pause _ => ()
  | .write _ => (.error (.store (.backend "disk full")), .zero)
  | .clock => ⟨⟨19875, by decide, by decide⟩, 43200, 0⟩
  | .count _ => ()
  | .stopRequested => false
  | .nextCycle => true

/-- A cycle of the prices is counted as ok, though the price was not written. -/
theorem unwritten_price_ok :
    let s : PricePollSettings :=
      ⟨"", ["A"], .ofSeconds 60, .ofSeconds 10, 1, ⟨.ofSeconds 3, .ofSeconds 30, .ofSeconds 2⟩⟩
    let (log, completed) := (Prices.cycle s ⟨"cat", "eco", "lang"⟩).course fullStore []
    completed = true ∧ told log = false ∧ log.any Deed.losesWrite = true ∧
      (counted {} log).polls = [(["ok", "binance_rest"], 1)] := by
  decide +kernel

end LiveEvents.Poll
