import LiveEvents.Proofs.CallProtocol
import LiveEvents.Sql.Connection
import Mathlib.Tactic.SplitIfs

/-!
# Commits that are not reported

An upsert sends its commit last, and whether the database has committed depends on more than what
the upsert reports. It reports success when the answer to the commit arrives in time. If that answer
is missed, the upsert reports an error although the database may have committed. There is no other
way for the two to differ.
-/

namespace LiveEvents.Sql

open Store (Call Program StoreError Turn)
open Upsert (Step prepare steps program abandoned)

variable {α β : Type}

/-- Whatever the replies are, the program does not commit. -/
def Uncommitting : Store.Program α → Prop
  | .done _ => True
  | .ask q next => q ≠ .commit ∧ ∀ reply, Uncommitting (next reply)

/-- Every program has turns that lead to its end. -/
theorem exists_leads (p : Store.Program α) : ∃ turns a, p.Leads turns a :=
  ⟨_, _, Store.Program.leads_turns (fun _ _ => .error (.backend "")) [] p⟩

theorem uncommitting_of_leads {p : Store.Program α}
    (h : ∀ turns a, p.Leads turns a → ∀ x ∈ turns, x.call ≠ .commit) : Uncommitting p := by
  induction p with
  | done a => trivial
  | ask q next ih =>
    have hcons : ∀ reply turns a, Store.Program.Leads (next reply) turns a →
        ∀ x ∈ (⟨q, reply⟩ :: turns : List Turn), x.call ≠ .commit :=
      fun reply turns a hlater => h _ a ⟨reply, turns, rfl, hlater⟩
    constructor
    · obtain ⟨turns, a, hlater⟩ := exists_leads (next (.error (.backend "")))
      exact hcons _ turns a hlater _ (List.mem_cons_self ..)
    · exact fun reply => ih reply fun turns a hlater x hx =>
        hcons reply turns a hlater x (List.mem_cons_of_mem _ hx)

theorem uncommitting_prepare (o : Observation) : Uncommitting (prepare o).run :=
  uncommitting_of_leads fun turns r h =>
    have hall : Upsert.Preparing o [] r turns := Upsert.prepares_prepare turns r h
    hall.open_

namespace Connection

variable {c : Connection}

theorem run_bind (c : Connection) (p : Store.Program α) (f : α → Store.Program β) :
    c.run (p >>= f) = match c.run p with
      | (some a, c') => c'.run (f a)
      | (none, c') => (none, c') := by
  induction p generalizing c with
  | done a => rfl
  | ask q next ih =>
    change c.run (.ask q fun reply => next reply >>= f) = _
    simp only [run]
    cases h : c.call q with
    | mk reply c' =>
      cases reply with
      | some reply => exact ih reply c'
      | none => rfl

theorem log_run {p : Store.Program α} (h : Uncommitting p) (c : Connection) :
    ∃ legs, (c.run p).2.log = legs ++ c.log ∧ ∀ leg ∈ legs, leg.call ≠ .commit := by
  induction p generalizing c with
  | done a => exact ⟨[], rfl, by simp⟩
  | ask q next ih =>
    have hlog : (c.call q).2.log = c.leg q :: c.log := rfl
    simp only [run]
    cases hcall : c.call q with
    | mk reply c' =>
      rw [hcall] at hlog
      cases reply with
      | some reply =>
        obtain ⟨legs, hlegs, hother⟩ := ih reply (h.2 reply) c'
        refine ⟨legs ++ [c.leg q], ?_, ?_⟩
        · rw [hlegs, hlog, List.append_assoc]
          rfl
        · exact List.forall_mem_append.mpr ⟨hother, List.forall_mem_singleton.mpr h.1⟩
      | none => exact ⟨[c.leg q], hlog, List.forall_mem_singleton.mpr h.1⟩

/-- Over a connection on which every statement is answered a run is a session's. -/
theorem run_answered {c : Connection} (h : ∀ passage ∈ c.passages, passage = .answered)
    (p : Store.Program α) :
    (c.run p).1 = some (c.session.run p).1 ∧
      (c.run p).2.dropped.session = (c.session.run p).2 := by
  induction p generalizing c with
  | done a => exact ⟨rfl, rfl⟩
  | ask q next ih =>
    have hpassage : c.passage = .answered := by
      unfold passage
      cases hpassages : c.passages with
      | nil => rfl
      | cons passage rest => exact h passage (hpassages ▸ List.mem_cons_self ..)
    have hcall : c.call q = (some (c.session.call q).1,
        { session := (c.session.call q).2
          passages := c.passages.tail
          log := c.leg q :: c.log }) := by
      simp only [call, after, hpassage]
    simp only [run, hcall, Session.run]
    exact ih _ fun passage hlater => h passage (List.mem_of_mem_tail hlater)

theorem upsert_answered {c : Connection} (h : ∀ passage ∈ c.passages, passage = .answered)
    (timeout : Duration) (o : Observation) :
    (c.upsert timeout o).1 = (c.session.run (program o)).1 ∧
      (c.upsert timeout o).2.session = (c.session.run (program o)).2 := by
  obtain ⟨hresult, hsession⟩ := run_answered h (program o)
  unfold upsert
  cases hrun : c.run (program o) with
  | mk result c' =>
    rw [hrun] at hresult hsession
    subst hresult
    exact ⟨rfl, hsession⟩

theorem call_commit (s : Session) : (s.call .commit).1 = (s.answer .commit).1.done := by
  simp only [Session.call, Session.answer]
  cases (s.control (statement .commit).1.text).1.done with
  | ok _ => rfl
  | error e => rfl

/-- What an upsert reports whose rows are all in place. No report is made if it is late. -/
def report (outcome : Outcome) (passage : Passage) (answer : Answer) :
    Option (Except UpsertError Outcome) :=
  match passage with
  | .answered => some (answer.done.map (fun _ => outcome) |>.mapError .store)
  | .lost _ cause => some (.error (.store (.backend cause)))
  | .late _ => none

theorem run_commit (c : Connection) (outcome : Outcome) :
    c.run (do Upsert.call .commit; return outcome : Step Outcome).run =
      (report outcome c.passage (c.session.answer .commit).1, (c.call .commit).2) := by
  change c.run (.ask .commit fun reply => _) = _
  simp only [run, call]
  cases hpassage : c.passage with
  | answered =>
    simp only [call_commit, report]
    cases (c.session.answer .commit).1.done <;> rfl
  | lost reached cause => rfl
  | late reached => rfl

/-- An upsert ends with an error before its commit, or it ends with its commit. -/
theorem upsert_cases (c : Connection) (timeout : Duration) (o : Observation) :
    ∃ legs, (∀ leg ∈ legs, leg.call ≠ .commit) ∧
      (((∃ e, (c.upsert timeout o).1 = .error e) ∧
          (c.upsert timeout o).2.log = legs ++ c.log) ∨
        ∃ outcome passage answer,
          (c.upsert timeout o).1 =
            (report outcome passage answer).getD (.error (abandoned o timeout)) ∧
          (c.upsert timeout o).2.log = ⟨.commit, passage, answer⟩ :: legs ++ c.log) := by
  obtain ⟨legs, hlegs, hother⟩ := log_run (uncommitting_prepare o) c
  refine ⟨legs, hother, ?_⟩
  unfold upsert
  -- the commit follows what prepares it, so only the result of that decides whether it is sent
  rw [program, Upsert.steps_eq, ExceptT.run_bind, run_bind]
  cases hrun : c.run (prepare o).run with
  | mk result c' =>
    rw [hrun] at hlegs
    cases result with
    | none => exact .inl ⟨⟨_, rfl⟩, hlegs⟩
    | some r =>
      cases r with
      | error e => exact .inl ⟨⟨e, rfl⟩, hlegs⟩
      | ok outcome =>
        right
        simp only [run_commit]
        refine ⟨outcome, c'.passage, (c'.session.answer .commit).1, ?_, ?_⟩
        · cases report outcome c'.passage (c'.session.answer .commit).1 <;> rfl
        · have hlog : (c'.call .commit).2.log = c'.leg .commit :: legs ++ c.log :=
            congrArg (c'.leg .commit :: ·) hlegs
          cases report outcome c'.passage (c'.session.answer .commit).1 <;> exact hlog

end Connection

/-! ## What the database was sent -/

def Session.SentCommit (s : Session) : Prop := ∃ x ∈ s.sent, x.sql = "COMMIT"

instance (s : Session) : Decidable s.SentCommit :=
  inferInstanceAs (Decidable (∃ x ∈ s.sent, x.sql = "COMMIT"))

namespace Session

variable {s : Session}

theorem sent_control (s : Session) (sql : String) :
    (s.control sql).2.sent = ⟨sql, none⟩ :: s.sent := by
  unfold control
  dsimp only [log]
  split <;> rfl

theorem sent_execute (s : Session) (sql : String) (params : List Param) :
    (s.execute sql params).2.sent = ⟨sql, some params⟩ :: s.sent := by
  unfold execute
  dsimp only [log]
  split <;> rfl

theorem sentCommit_cons {x : Sent} {rest : List Sent} (h : s.sent = x :: rest) :
    s.SentCommit ↔ x.sql = "COMMIT" ∨ ∃ y ∈ rest, y.sql = "COMMIT" := by
  simp [SentCommit, h]

theorem sentCommit_control (s : Session) :
    (s.control "ROLLBACK").2.SentCommit ↔ s.SentCommit := by
  rw [sentCommit_cons (sent_control s "ROLLBACK")]
  simp [SentCommit]

theorem sentCommit_rollback (s : Session) : s.rollback.2.SentCommit ↔ s.SentCommit := by
  unfold rollback
  split_ifs
  · exact sentCommit_control s
  · rfl

theorem sent_answer (s : Session) (q : Call) :
    ∃ params, (s.answer q).2.sent = ⟨(statement q).1.text, params⟩ :: s.sent := by
  cases q with
  | begin | commit => exact ⟨none, sent_control s _⟩
  | _ => exact ⟨_, sent_execute s _ _⟩

theorem append_ne_of_head? {start text : String} (hsome : start.toList ≠ [])
    (hne : start.toList.head? ≠ text.toList.head?) (rest : String) : start ++ rest ≠ text := by
  rintro rfl
  rw [String.toList_append, List.head?_append_of_ne_nil _ hsome] at hne
  exact hne rfl

/-- A statement that selects or writes rows is told from a commit by its first letter. -/
theorem text_eq_commit_iff (q : Call) : (statement q).1.text = "COMMIT" ↔ q = .commit := by
  have hselect : ∀ x : Select, x.text ≠ "COMMIT" := by
    intro x
    unfold Select.text
    simp only [String.append_assoc]
    exact append_ne_of_head? (by decide) (by decide) _
  have hinsert : ∀ x : Insert, x.text ≠ "COMMIT" := by
    intro x
    unfold Insert.text
    simp only [String.append_assoc]
    exact append_ne_of_head? (by decide) (by decide) _
  have hupdate : ∀ x : Update, x.text ≠ "COMMIT" := by
    intro x
    unfold Update.text
    simp only [String.append_assoc]
    exact append_ne_of_head? (by decide) (by decide) _
  cases q with
  | begin => exact iff_of_false (by decide) nofun
  | commit => exact iff_of_true rfl rfl
  | periodByCode | eventByExternalId | title | team => exact iff_of_false (hselect _) nofun
  | createPeriod | createEvent | createTitle | createTeam | createTeamName =>
    exact iff_of_false (hinsert _) nofun
  | updateEvent | updateTitle => exact iff_of_false (hupdate _) nofun

theorem sentCommit_answer (s : Session) (q : Call) :
    (s.answer q).2.SentCommit ↔ q = .commit ∨ s.SentCommit := by
  obtain ⟨params, hsent⟩ := sent_answer s q
  rw [sentCommit_cons hsent, text_eq_commit_iff]
  rfl

/-- A call sends the statement of the call, and perhaps a rollback. -/
theorem sentCommit_call (s : Session) (q : Call) :
    (s.call q).2.SentCommit ↔ q = .commit ∨ s.SentCommit := by
  rw [← sentCommit_answer]
  cases q with
  | begin =>
    simp only [call, answer]
    cases (s.control (statement .begin).1.text).1.done with
    | ok _ => rfl
    | error e => exact sentCommit_control _
  | commit =>
    simp only [call, answer]
    cases (s.control (statement .commit).1.text).1.done with
    | ok _ => rfl
    | error e => exact sentCommit_rollback _
  | _ => rfl

end Session

namespace Connection

/-- What the log says of commits is what the database was sent. -/
def Logged (c : Connection) : Prop :=
  c.session.SentCommit ↔ ∃ leg ∈ c.log, leg.sendsCommit = true

theorem sendsCommit_leg (c : Connection) (q : Call) :
    (c.leg q).sendsCommit = true ↔ q = .commit ∧ c.passage.reached = true := by
  cases q <;> simp [leg, Leg.sendsCommit]

theorem sentCommit_after (c : Connection) (q : Call) :
    (c.after q).SentCommit ↔ (c.leg q).sendsCommit = true ∨ c.session.SentCommit := by
  have harrived := Session.sentCommit_answer c.session q
  rw [sendsCommit_leg]
  unfold after
  cases hpassage : c.passage with
  | answered => simpa [Passage.reached] using Session.sentCommit_call c.session q
  | lost reached cause =>
    cases reached with
    | true => exact harrived.trans (by simp [Passage.reached])
    | false => simp [Passage.reached, Session.SentCommit]
  | late reached =>
    dsimp only
    rw [Session.sentCommit_rollback]
    cases reached with
    | true => exact harrived.trans (by simp [Passage.reached])
    | false => simp [Passage.reached]

theorem Logged.call {c : Connection} (h : c.Logged) (q : Call) : (c.call q).2.Logged := by
  refine (sentCommit_after c q).trans ?_
  unfold Logged at h
  rw [h]
  simp [Connection.call]

theorem Logged.run {c : Connection} (h : c.Logged) (p : Store.Program α) :
    (c.run p).2.Logged := by
  induction p generalizing c with
  | done a => exact h
  | ask q next ih =>
    have hcall := h.call q
    simp only [Connection.run]
    cases hreply : c.call q with
    | mk reply c' =>
      rw [hreply] at hcall
      cases reply with
      | some reply => exact ih reply hcall
      | none => exact hcall

theorem Logged.upsert {c : Connection} (h : c.Logged) (timeout : Duration) (o : Observation) :
    (c.upsert timeout o).2.Logged := by
  have hrun := h.run (program o)
  unfold Connection.upsert
  cases hresult : c.run (program o) with
  | mk result c' =>
    rw [hresult] at hrun
    cases result with
    | some r => exact (Session.sentCommit_rollback _).trans hrun
    | none => exact hrun

/-! ## What is reported and what is committed -/

/-- A connection over which nothing was sent yet, with the answers of the database. -/
def start (pending : List Pending) (passages : List Passage) : Connection where
  session := { pending }
  passages := passages

theorem missed_iff (passage : Passage) :
    passage.missed = true ↔ passage.reached = true ∧ passage ≠ .answered := by
  cases passage <;> simp [Passage.missed, Passage.reached]

theorem report_eq_ok_iff (outcome : Outcome) (passage : Passage) (answer : Answer)
    (e : UpsertError) :
    (∃ outcome', (report outcome passage answer).getD (.error e) = .ok outcome') ↔
      passage = .answered ∧ answer.done = .ok () := by
  cases passage with
  | answered => cases h : answer.done <;> simp [report, h, Except.map, Except.mapError]
  | lost reached cause => simp [report]
  | late reached => simp [report]

theorem isOk_iff {e : Except StoreError Unit} : e.isOk = true ↔ e = .ok () := by
  cases e <;> simp [Except.isOk, Except.toBool]

theorem error_iff_not_ok (r : Except UpsertError Outcome) :
    (∃ e, r = .error e) ↔ ¬∃ outcome, r = .ok outcome := by
  cases r <;> simp

theorem quiet_of_ne_commit {leg : Leg} (h : leg.call ≠ .commit) :
    leg.sendsCommit = false ∧ leg.commits = false := by
  obtain ⟨q, passage, answer⟩ := leg
  cases q with
  | commit => exact absurd rfl h
  | _ => exact ⟨rfl, rfl⟩

/-- What is known of a commit from the log of an upsert that did not come to it. -/
theorem unsent_of_log {c : Connection} (h : c.Logged) (hother : ∀ leg ∈ c.log, leg.call ≠ .commit) :
    ¬c.session.SentCommit ∧ c.committed = false := by
  constructor
  · intro hsent
    obtain ⟨leg, hleg, hsends⟩ := h.mp hsent
    simp [(quiet_of_ne_commit (hother leg hleg)).1] at hsends
  · rw [committed, List.any_eq_false]
    intro leg hleg
    simp [(quiet_of_ne_commit (hother leg hleg)).2]

/-- What is known of a commit from the log of an upsert that ended with it. -/
theorem sent_of_log {c : Connection} {passage : Passage} {answer : Answer} {legs : List Leg}
    (h : c.Logged) (hlog : c.log = ⟨.commit, passage, answer⟩ :: legs)
    (hother : ∀ leg ∈ legs, leg.call ≠ .commit) :
    (c.session.SentCommit ↔ passage.reached = true) ∧
      (c.committed = true ↔ passage.reached = true ∧ answer.done = .ok ()) := by
  constructor
  · refine Iff.trans h ?_
    rw [hlog]
    constructor
    · rintro ⟨leg, hleg, hsends⟩
      rcases List.mem_cons.mp hleg with rfl | hearlier
      · exact hsends
      · simp [(quiet_of_ne_commit (hother leg hearlier)).1] at hsends
    · exact fun hreached => ⟨_, List.mem_cons_self .., hreached⟩
  · have hrest : legs.any (·.commits) = false := by
      rw [List.any_eq_false]
      intro leg hleg
      simp [(quiet_of_ne_commit (hother leg hleg)).2]
    rw [committed, hlog, List.any_cons, hrest]
    simp [Leg.commits, isOk_iff]

/-- An upsert reports success if and only if the database has committed and its answer arrived in
time. When it reports an error, the commit was sent if and only if it was refused or its answer was
missed, and then it was the last statement; and the database has committed nevertheless if and only
if the answer that was missed says so. -/
theorem commit_hidden_iff (pending : List Pending) (passages : List Passage) (timeout : Duration)
    (o : Observation) :
    let (r, c) := (start pending passages).upsert timeout o
    ((∃ outcome, r = .ok outcome) ↔ ∃ answer,
      c.log.head? = some ⟨.commit, .answered, answer⟩ ∧ answer.done = .ok ()) ∧
    ((∃ e, r = .error e) ∧ c.session.SentCommit ↔ ∃ passage answer,
      c.log.head? = some ⟨.commit, passage, answer⟩ ∧ passage.reached = true ∧
        (passage.missed = true ∨ answer.done ≠ .ok ())) ∧
    ((∃ e, r = .error e) ∧ c.committed = true ↔ ∃ passage answer,
      c.log.head? = some ⟨.commit, passage, answer⟩ ∧ passage.missed = true ∧
        answer.done = .ok ()) ∧
    ∀ leg ∈ c.log.tail, leg.call ≠ .commit := by
  have hstart : (start pending passages).Logged := by simp [Logged, start, Session.SentCommit]
  have hlogged := hstart.upsert timeout o
  obtain ⟨legs, hother, hcases⟩ := upsert_cases (start pending passages) timeout o
  have hfresh : (start pending passages).log = [] := rfl
  simp only [hfresh, List.append_nil] at hcases
  revert hlogged hcases
  generalize (start pending passages).upsert timeout o = done
  obtain ⟨r, c⟩ := done
  intro hlogged hcases
  rcases hcases with ⟨⟨e, rfl⟩, rfl⟩ | ⟨outcome, passage, answer, rfl, hlog⟩
  · obtain ⟨hunsent, hopen⟩ := unsent_of_log hlogged hother
    have hnone : ∀ passage answer, c.log.head? ≠ some ⟨.commit, passage, answer⟩ :=
      fun passage answer heq => hother _ (List.mem_of_head? heq) rfl
    refine ⟨by simp [hnone], by simp [hnone, hunsent], by simp [hnone, hopen], ?_⟩
    exact fun leg hleg => hother leg (List.mem_of_mem_tail hleg)
  · obtain ⟨hsent, hcommitted⟩ := sent_of_log hlogged hlog hother
    change c.log = ⟨.commit, passage, answer⟩ :: legs at hlog
    have hlast : ∀ passage' answer', c.log.head? = some ⟨.commit, passage', answer'⟩ ↔
        passage = passage' ∧ answer = answer' := by
      intro passage' answer'
      simp [hlog]
    simp only [error_iff_not_ok, report_eq_ok_iff, hsent, hcommitted, missed_iff, hlast,
      and_assoc, exists_and_left, exists_eq_left']
    refine ⟨by tauto, by tauto, by tauto, ?_⟩
    rw [hlog]
    exact hother

/-- The finals without their teams, as the database finds the period and the event. -/
def finalsFound : List Pending :=
  [
    ⟨false, .rows [[
      ("guid", .text "p"), ("code", .text "2024-06-01"), ("is_active", .bool true),
      ("scheduled", .text "2024-06-01 00:00:00"), ("remark", .text ""),
      ("extra", .json (.object []))]]⟩,
    ⟨false, .rows [[
      ("guid", .text "e"), ("external_id", .text "finals-7"), ("category_guid", .text "sports"),
      ("ecosystem_guid", .text "nba"), ("event_period_guid", .text "p"),
      ("main_team_group_guid", .text noTeam), ("cluster_team_group_guid", .text noTeam),
      ("main_score", .text "0"), ("cluster_score", .text "0"), ("info", .json (.object [])),
      ("is_online", .bool true), ("is_live", .small 1), ("is_sports", .bool true),
      ("stage", .text ""), ("created_at", .time ⟨.epoch, 0, 0⟩),
      ("updated_at", .time ⟨.epoch, 0, 0⟩)]]⟩]

/-- The commit reaches the database, its answer comes after the deadline: the upsert has timed out
and the event is changed. -/
theorem late_commit_hidden :
    let (r, c) := (start finalsFound (List.replicate 6 .answered ++ [.late true])).upsert .zero
      { Upsert.finals with teams := none }
    r = .error (.timedOut "finals-7" .zero) ∧ c.session.SentCommit ∧ c.committed = true := by
  decide +kernel

end Connection

end LiveEvents.Sql
