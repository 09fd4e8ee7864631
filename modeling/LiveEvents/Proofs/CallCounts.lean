import LiveEvents.Proofs.ProgramCourses
import Mathlib.Data.Nat.Notation

/-!
# How many calls an upsert makes

An upsert ends within eighteen calls whatever the answers: one to begin, three for its period, four
for each of its teams, three for its event, two for its title, and its commit.
-/

namespace LiveEvents.Upsert

open Store (Call Entity)

/-- Calls may be made as long as there are some left, and each may have any answer. -/
def countdown : StoreSetting ℕ where
  ready _ n := 0 < n
  moves _ n _ n' := n = n' + 1

/-- A step makes at most so many calls. -/
def Takes {α : Type} (calls : ℕ) (x : Step α) : Prop :=
  ∀ n k, k + calls ≤ n → Ends countdown (fun _ _ => True) (fun _ n' => k ≤ n') x n

section Takes

variable {α β : Type} {i j : ℕ}

theorem takes_pure (a : α) : Takes i (pure a : Step α) := by
  intro n k h
  exact ends_pure (by omega)

theorem takes_bind {x : Step α} {f : α → Step β} (hx : Takes i x) (hf : ∀ a, Takes j (f a)) :
    Takes (i + j) (x >>= f) := by
  intro n k h
  refine ends_bind (.imp (hx n (k + j) (by omega)) fun a n' hn' => ?_)
  exact hf a n' k hn'

theorem takes_call (c : Call) : Takes 1 (call c) := by
  intro n k h
  refine ends_call (Nat.lt_of_lt_of_le (Nat.succ_pos k) h) (fun _ n' hm => ?_) fun _ _ _ => trivial
  change n = n' + 1 at hm
  omega

theorem takes_create (c : Call) : Takes 1 (create c) := by
  intro n k h
  have hleft : ∀ n' : ℕ, n = n' + 1 → k ≤ n' := by omega
  exact ends_create (Nat.lt_of_lt_of_le (Nat.succ_pos k) h) (fun _ n' hm => hleft n' hm)
    (fun _ n' hm _ => hleft n' hm) fun _ _ _ _ => trivial

theorem takes_found (entity : Entity) (key : String) (row : Option α) :
    Takes 0 (found entity key row) := by
  intro n k h
  cases row with
  | some row => exact ends_pure (by omega)
  | none => exact ends_throw trivial

theorem takes_period (spec : PeriodSpec) : Takes 3 (period spec) := by
  refine takes_bind (j := 2) (takes_call _) fun row => ?_
  cases row with
  | some row => exact takes_pure row
  | none =>
    refine takes_bind (j := 1) (takes_create _) fun _ => ?_
    exact takes_bind (j := 0) (takes_call _) fun again => takes_found _ _ again

theorem takes_team (t : TeamRef) (ecosystem language : Guid) :
    Takes 4 (team t ecosystem language) := by
  refine takes_bind (j := 3) (takes_call _) fun row => ?_
  cases row with
  | some row => exact takes_pure row
  | none =>
    refine takes_bind (j := 2) (takes_create _) fun made => ?_
    refine takes_bind (j := 1) (takes_call _) fun again => ?_
    refine takes_bind (j := 1) (takes_found _ _ again) fun row => ?_
    cases made with
    | true => exact takes_bind (j := 0) (takes_call _) fun _ => takes_pure row
    | false => exact takes_pure row

theorem takes_players (o : Observation) : Takes 8 (players o) := by
  unfold players
  cases o.teams with
  | none => exact takes_pure none
  | some pair =>
    have hteams : Takes 8 (teams pair o.identity.language) := by
      refine takes_bind (j := 4) (takes_team _ _ _) fun home => ?_
      exact takes_bind (takes_team _ _ _) fun away => takes_pure (i := 0) (home, away)
    exact fun n k h => ends_map (hteams n k h)

theorem takes_event (o : Observation) (period : Guid) (teams : Option (Team × Team)) :
    Takes 3 (event o period teams) := by
  refine takes_bind (j := 2) (takes_call _) fun row => ?_
  cases row with
  | some row =>
    exact takes_bind (j := 1) (takes_call _) fun _ => takes_pure (Outcome.updated row.guid)
  | none =>
    refine takes_bind (j := 1) (takes_call _) fun _ => ?_
    refine takes_bind (j := 0) (takes_call _) fun again => ?_
    exact takes_bind (j := 0) (takes_found _ _ again) fun row =>
      takes_pure (Outcome.created row.guid)

theorem takes_title (o : Observation) (event : Guid) : Takes 2 (title o event) := by
  refine takes_bind (j := 1) (takes_call _) fun row => ?_
  cases row with
  | none => exact takes_call _
  | some row =>
    by_cases htitle : row.title ≠ o.title
    · simp only [if_pos htitle]
      exact takes_call _
    · simp only [if_neg htitle]
      exact takes_pure ()

theorem takes_steps (o : Observation) : Takes 18 (steps o) := by
  have hprepare : Takes 17 (prepare o) := by
    refine takes_bind (j := 16) (takes_call _) fun _ => ?_
    refine takes_bind (j := 13) (takes_period _) fun period => ?_
    refine takes_bind (j := 5) (takes_players o) fun teams => ?_
    refine takes_bind (j := 2) (takes_event _ _ _) fun outcome => ?_
    exact takes_bind (j := 0) (takes_title _ _) fun _ => takes_pure outcome
  rw [steps_eq]
  refine takes_bind (j := 1) hprepare fun outcome => ?_
  exact takes_bind (j := 0) (takes_call _) fun _ => takes_pure outcome

end Takes

/-- An upsert ends within eighteen calls, whatever the answers. -/
theorem program_calls (o : Observation) :
    (program o).Always countdown (fun _ _ => True) 18 :=
  Program.Always.imp (fun _ _ _ => trivial) (takes_steps o 18 0 (Nat.le_refl _))

end LiveEvents.Upsert
