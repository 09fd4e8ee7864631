import LiveEvents.Proofs.CountedCycles
import LiveEvents.Proofs.DateTexts

/-!
# The days of a sync

What is requested while a range of days is synced names the days one after another, each as often
as its schedule was tried and none again later, whatever comes of them. Every day of the range is
there, except that the last day of the calendar never is.
-/

namespace LiveEvents.Poll

def Deed.request? : Deed → Option Http.Request
  | ⟨.get request, _⟩ => some request
  | _ => none

def requests (log : List Deed) : List Http.Request := log.filterMap Deed.request?

theorem requests_append (early late : List Deed) :
    requests (early ++ late) = requests early ++ requests late :=
  List.filterMap_append

theorem requests_writes {source : String} {observed : List (Instant → Observation)}
    {log : List Deed} {results : List (Except UpsertError Outcome)}
    (h : Writes source observed log results) : requests log = [] := by
  induction h with
  | nil => rfl
  | cons now result elapsed hrest ih =>
    rw [requests_append, ih]
    rfl

/-- A request that is made so many times, with a pause before each time but the first. -/
inductive Tried (request : Http.Request) : Nat → List Deed → Prop
  | once (reply : Except String Http.Response) : Tried request 1 [⟨.get request, reply⟩]
  | again {times : Nat} {log : List Deed} (reply : Except String Http.Response)
      (greatest drawn : Nat) (time : Duration) (hrest : Tried request times log) :
      Tried request (times + 1)
        ([⟨.get request, reply⟩, ⟨.draw greatest, drawn⟩, ⟨.pause time, ()⟩] ++ log)

theorem requests_tried {request : Http.Request} {times : Nat} {log : List Deed}
    (h : Tried request times log) : requests log = List.replicate times request := by
  induction h with
  | once reply => rfl
  | again reply greatest drawn time hrest ih =>
    rw [requests_append, ih]
    rfl

namespace Task

variable {α : Type} {request : Http.Request}
  {read : Except String Http.Response → Except Http.FetchError α} {backoff : RetryBackoff}
  {log : List Deed}

theorem runs_get {result : Except Http.FetchError α}
    (hrun : (read <$> act (.get request)).Runs Deed.mk log result) :
    ∃ reply, log = [⟨.get request, reply⟩] := by
  obtain ⟨reply, _, rfl, rfl, -⟩ := hrun
  exact ⟨reply, rfl⟩

theorem runs_pauseAfter {retries : Nat}
    (hrun : (pauseAfter backoff retries).Runs Deed.mk log ()) :
    ∃ greatest drawn time, log = [⟨.draw greatest, drawn⟩, ⟨.pause time, ()⟩] := by
  obtain ⟨drawn, _, rfl, _, _, rfl, rfl, -⟩ := hrun
  exact ⟨_, drawn, _, rfl⟩

/-- Each attempt makes the same request, and there is at least one. -/
theorem tried_attempts {attempt left : Nat} {result : Except (Abandoned Http.FetchError) α}
    (hrun : (Retry.attempts (fun _ => read <$> act (.get request)) (pauseAfter backoff)
      attempt left : Task _).Runs Deed.mk log result) :
    ∃ more ≤ left, Tried request (more + 1) log := by
  induction left generalizing attempt log with
  | zero =>
    obtain ⟨_, early, _, rfl, hearly, rfl, -⟩ := (Program.runs_bind ..).mp hrun
    obtain ⟨reply, rfl⟩ := runs_get hearly
    exact ⟨0, Nat.le_refl 0, .once reply⟩
  | succ left ih =>
    obtain ⟨ending, early, late, rfl, hearly, hlate⟩ := (Program.runs_bind ..).mp hrun
    obtain ⟨reply, rfl⟩ := runs_get hearly
    have hlast (h : late = []) :
        ∃ more ≤ left + 1, Tried request (more + 1) ([⟨.get request, reply⟩] ++ late) := by
      subst h
      exact ⟨0, Nat.zero_le _, .once reply⟩
    cases ending with
    | ok value => exact hlast hlate.1
    | error e =>
      dsimp only at hlate
      split_ifs at hlate
      · obtain ⟨_, paused, rest, rfl, hpaused, hrest⟩ := (Program.runs_bind ..).mp hlate
        obtain ⟨greatest, drawn, time, rfl⟩ := runs_pauseAfter hpaused
        obtain ⟨more, hmore, htried⟩ := ih hrest
        exact ⟨more + 1, Nat.succ_le_succ hmore, .again reply greatest drawn time htried⟩
      · exact hlast hlate.1

end Task

namespace Schedules

variable (s : SchedulePollSettings)

/-- The requests name these days one after another, each once or as often as there may be
attempts. -/
inductive Requested : List Date → List Http.Request → Prop
  | nil : Requested [] []
  | cons {date : Date} {dates : List Date} {rest : List Http.Request} (attempts : Nat)
      (hfirst : 1 ≤ attempts) (hlast : attempts ≤ max 1 s.maxAttempts)
      (hrest : Requested dates rest) :
      Requested (date :: dates) (List.replicate attempts (request s date) ++ rest)

theorem request_injective : Function.Injective (request s) := by
  intro d d' h
  have hurl : url s d = url s d' := congrArg Http.Request.url h
  unfold url at hurl
  rw [String.append_left_inj, String.append_right_inj, String.ofList_inj] at hurl
  exact Date.charsWith_injective '/' hurl

theorem tried_fetch {date : Date} {log : List Deed}
    {result : Except (Abandoned Http.FetchError) Schedule.Document}
    (hrun : (fetch s date).Runs Deed.mk log result) : ∃ attempts, 1 ≤ attempts ∧
      attempts ≤ max 1 s.maxAttempts ∧ Tried (request s date) attempts log := by
  obtain ⟨more, hmore, htried⟩ := Task.tried_attempts hrun
  exact ⟨more + 1, Nat.succ_pos more, by omega, htried⟩

theorem requests_visited {identity : Identity} {date : Date} {log : List Deed} {v : Visit}
    (h : Visited s identity date log v) : ∃ attempts, 1 ≤ attempts ∧
      attempts ≤ max 1 s.maxAttempts ∧
      requests log = List.replicate attempts (request s date) := by
  cases h with
  | fetched hfetch hwrites =>
    obtain ⟨attempts, hfirst, hlast, htried⟩ := tried_fetch s hfetch
    refine ⟨attempts, hfirst, hlast, ?_⟩
    rw [requests_append, requests_writes hwrites, List.append_nil, requests_tried htried]
  | missed hfetch =>
    obtain ⟨attempts, hfirst, hlast, htried⟩ := tried_fetch s hfetch
    exact ⟨attempts, hfirst, hlast, requests_tried htried⟩

theorem requested_tour {identity : Identity} {dates : List Date} {log : List Deed}
    {visits : List Visit} (h : Tour (Visited s identity) dates log visits) :
    Requested s dates (requests log) := by
  induction h with
  | nil => exact .nil
  | cons hvisit hrest ih =>
    obtain ⟨attempts, hfirst, hlast, hrequests⟩ := requests_visited s hvisit
    rw [requests_append, hrequests]
    exact .cons attempts hfirst hlast ih

/-- These days are visited one after another, each with one fetch, and nothing is requested but
what these fetches request. -/
structure Synced (identity : Identity) (days : List Date) (log : List Deed) : Prop where
  toured : ∃ visits, Tour (Visited s identity) days log visits
  requested : Requested s days (requests log)

theorem synced_syncRange (identity : Identity) (world : Replies) (past : List Deed)
    (first final : Date) : Synced s identity (first.through final)
      ((syncRange s identity first final).course world past).1 := by
  obtain ⟨visits, htour, -⟩ := toured_syncRange s identity (Task.runs_course world past _)
  exact ⟨⟨visits, htour⟩, requested_tour s htour⟩

/-- The days of a window whose last day can be named. -/
theorem map_day_window {today final : Date} (h : today.addDays? s.lookaheadDays = some final) :
    ((window s today).1.through (window s today).2).map Date.day =
      (List.range (if final = Date.last then s.lookaheadDays else s.lookaheadDays + 1)).map
        (fun i : Nat => today.day + i) := by
  have hday := Date.addDays?_eq_some_iff.mp h
  have hle := final.le_last
  unfold window Date.through
  rw [h, Option.getD_some, Date.map_day_daysFrom]
  dsimp only
  congr 2
  split_ifs with hlast
  · rw [hlast] at hday ⊢
    simp only [Date.last_day] at hday ⊢
    omega
  · rw [Date.eq_iff_day] at hlast
    rw [Date.last_day] at hlast ⊢
    omega

/-- In every world a sync fetches the days of its range once each and in the order of the calendar,
whatever comes of them; what a fetch requests names its day, and no request names two. Every day of
the range is among them except the last day of the calendar. So the sync of a window takes today
and as many days as the poller looks ahead, and one less if the window ends with the calendar. -/
theorem days_synced (s : SchedulePollSettings) (identity : Identity) (world : Replies)
    (past : List Deed) :
    Function.Injective (request s) ∧
    (∀ first final : Date, ∃ days : List Date,
      Synced s identity days ((syncRange s identity first final).course world past).1 ∧
      (days.Pairwise fun d e => d.civil.Before e.civil) ∧
      ∀ c : Civil, c ∈ days.map Date.civil ↔
        c.Valid ∧ ¬c.Before first.civil ∧ ¬final.civil.Before c ∧ c ≠ ⟨262142, 12, 31⟩) ∧
    ∀ today final : Date, today.addDays? s.lookaheadDays = some final → ∃ days : List Date,
      Synced s identity days
        ((syncRange s identity (window s today).1 (window s today).2).course world past).1 ∧
      days.map Date.day =
        (List.range (if final = Date.last then s.lookaheadDays else s.lookaheadDays + 1)).map
          (fun i : Nat => today.day + i) := by
  refine ⟨request_injective s, fun first final => ?_, fun today final h => ?_⟩
  · refine ⟨first.through final, synced_syncRange s identity world past first final,
      Date.pairwise_before_through first final, fun c => ?_⟩
    exact Date.mem_map_civil_through
  · exact ⟨_, synced_syncRange s identity world past _ _, map_day_window s h⟩

/-- Settings of a poller that looks ahead so many days. -/
def lookingAhead (days : Nat) : SchedulePollSettings where
  baseUrl := ""
  apiKey := "key"
  accessLevel := "trial"
  languageCode := "en"
  pollInterval := .ofSeconds 300
  lookaheadDays := days
  requestTimeout := .ofSeconds 30
  maxAttempts := 3
  backoff := ⟨.ofSeconds 1, .ofSeconds 10, .ofMillis 500⟩

/-- Four days around a new year. -/
theorem new_year_synced :
    let s := lookingAhead 3
    let today : Date := ⟨20087, by decide, by decide⟩
    ∃ days : List Date,
      Synced s ⟨"cat", "eco", "lang"⟩ days ((syncRange s ⟨"cat", "eco", "lang"⟩ (window s today).1
        (window s today).2).course fullStore []).1 ∧
      days.map Date.civil =
        [⟨2024, 12, 30⟩, ⟨2024, 12, 31⟩, ⟨2025, 1, 1⟩, ⟨2025, 1, 2⟩] := by
  intro s today
  obtain ⟨days, hsynced, hdays⟩ := (days_synced s ⟨"cat", "eco", "lang"⟩ fullStore []).2.2 today
    ⟨20090, by decide, by decide⟩ (by decide)
  refine ⟨days, hsynced, ?_⟩
  have hcivil : days.map Date.civil = (days.map Date.day).map Civil.ofDayNumber :=
    List.map_map.symm
  rw [hcivil, hdays]
  decide

/-- On the last day of the calendar a window of that day alone requests nothing, and reports no
day as failed. -/
theorem last_day_unsynced :
    let s := lookingAhead 0
    let (log, report) := (syncRange s ⟨"cat", "eco", "lang"⟩ (window s .last).1
      (window s .last).2).course fullStore []
    window s .last = (.last, .last) ∧ Date.last.addDays? s.lookaheadDays = some .last ∧
      requests log = [] ∧ report = {} := by
  decide

end Schedules

end LiveEvents.Poll
