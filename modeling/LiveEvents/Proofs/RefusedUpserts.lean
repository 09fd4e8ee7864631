import LiveEvents.Proofs.CallCounts
import LiveEvents.Proofs.InterruptedUpserts
import LiveEvents.Proofs.RefusedCourses
import Mathlib.Data.List.Induction

/-!
# Upserts that lose a race

An upsert that races with others fails only if it is abandoned, or if the store refuses to create
its event or its title or to commit, because another upsert has been first. It never misses a row
that it has seen. An upsert that no other one disturbs from its first call to its last succeeds,
whenever it begins.
-/

namespace LiveEvents.Upsert

open Store (Call Memory Mint StoreError)

variable {mint : Mint} {moves : List Move} {i : ℕ} {w : Writer}

/-- A move at which a call of an upsert was refused, after which this is left of it. -/
def Race.RefusedAt (mint : Mint) (moves : List Move) (i : ℕ) (w : Writer) (c : Call)
    (e : StoreError) : Prop :=
  ∃ past later w₀ next, moves = past ++ .advance i :: later ∧
    (Race.after mint past).writers[i]? = some w₀ ∧ w₀.rest = .ask c next ∧
    ((Race.after mint past).memory.perform mint w₀.staged c).1 = .error e ∧
    w.rest = next (.error e)

/-- What is known of the last call of an upsert, and of how it can go on. -/
def Race.Answers (mint : Mint) (moves : List Move) (i : ℕ) (w : Writer) : Prop :=
  ∃ before refused, (∀ c e, refused = some (c, e) → Race.RefusedAt mint moves i w c e) ∧
    ∀ m', (Race.after mint moves).memory.Rely mint w.staged m' →
      w.rest.Always (answering mint) (fun r s => ∀ e, r = .error e → EndsRefused e s)
        ⟨⟨before, m', w.staged⟩, refused⟩

/-- An upsert that has been abandoned. -/
def Race.Dropped (moves : List Move) (i : ℕ) (w : Writer) : Prop :=
  ∃ timeout, .abandon i timeout ∈ moves ∧
    w.rest = .done (.error (abandoned w.observation timeout))

namespace Race

theorem after_snoc (move : Move) :
    Race.after mint (moves ++ [move]) = (Race.after mint moves).act mint move :=
  from_snoc move

theorem RefusedAt.snoc {c : Call} {e : StoreError} (h : RefusedAt mint moves i w c e)
    (move : Move) : RefusedAt mint (moves ++ [move]) i w c e := by
  obtain ⟨past, later, w₀, next, rfl, hrest⟩ := h
  exact ⟨past, later ++ [move], w₀, next, by rw [List.append_assoc]; rfl, hrest⟩

/-- An upsert that makes no call can rely on what the others do. -/
theorem Answers.snoc (h : Answers mint moves i w) {move : Move}
    (hrely : (Race.after mint moves).memory.Rely mint w.staged
      ((Race.after mint moves).act mint move).memory) :
    Answers mint (moves ++ [move]) i w := by
  obtain ⟨before, refused, hlast, hcourse⟩ := h
  refine ⟨before, refused, fun c e he => (hlast c e he).snoc move, fun m' hm' => ?_⟩
  rw [after_snoc] at hm'
  exact hcourse m' (hrely.trans hm')

theorem Answers.start (hd : mint.Distinct) (hslash : mint.Slashless) (o : Observation) :
    Answers mint moves i { observation := o, rest := program o } := by
  refine ⟨{}, none, ?_, ?_⟩
  · intro c e he
    cases he
  · intro m' _
    exact program_refused hd hslash o _

/-- The call of an upsert. -/
theorem Answers.advance (h : Answers mint moves i w)
    (hsafe : (Race.after mint moves).Safe mint)
    (hi : (Race.after mint moves).writers[i]? = some w) {c : Call}
    {next : Except StoreError c.Reply → Store.Program (Except UpsertError Outcome)}
    (hrest : w.rest = .ask c next) :
    Answers mint (moves ++ [.advance i]) i { w with
      rest := next ((Race.after mint moves).memory.perform mint w.staged c).1
      staged := ((Race.after mint moves).memory.perform mint w.staged c).2.2 } := by
  obtain ⟨before, refused, -, hcourse⟩ := h
  have hnow := hcourse _ (hsafe.rely (hsafe.writers i w hi).admits)
  rw [hrest] at hnow
  generalize hm : (Race.after mint moves).memory = m at hnow
  refine ⟨m.committed, (refusal? (m.perform mint w.staged c).1).map (c, ·), ?_, ?_⟩
  · intro c' e he
    obtain ⟨e', hrefused, hpair⟩ := Option.map_eq_some_iff.mp he
    obtain ⟨rfl, rfl⟩ := Prod.mk.inj hpair
    have hreply : (m.perform mint w.staged c).1 = .error e' := by
      cases hr : (m.perform mint w.staged c).1 with
      | ok r =>
        rw [hr] at hrefused
        cases hrefused
      | error e =>
        rw [hr] at hrefused
        rw [Option.some.inj hrefused]
    exact ⟨moves, [], w, next, rfl, hi, hrest, hm ▸ hreply, congrArg next hreply⟩
  · intro m' hm'
    rw [after_snoc, act_of_ask hi hrest, hm] at hm'
    exact hnow.2 _ _ ⟨⟨_, rfl, hm', rfl⟩, rfl⟩

theorem Dropped.snoc (h : Dropped moves i w) (move : Move) : Dropped (moves ++ [move]) i w := by
  obtain ⟨timeout, hmem, hrest⟩ := h
  exact ⟨timeout, List.mem_append_left _ hmem, hrest⟩

/-- Every upsert of a race has been abandoned, or it goes on as its last reply says. -/
theorem answers_or_dropped (hd : mint.Distinct) (hslash : mint.Slashless) (moves : List Move) :
    ∀ i w, (Race.after mint moves).writers[i]? = some w →
      Answers mint moves i w ∨ Dropped moves i w := by
  induction moves using List.reverseRecOn with
  | nil => exact fun _ _ hi => nomatch hi
  | append_singleton moves move ih =>
    intro i w hi
    have hsafe := Race.safe_after hd hslash moves
    have hstill : ∀ w, (Race.after mint moves).writers[i]? = some w →
        (Race.after mint moves).memory.Rely mint w.staged (Race.after mint moves).memory :=
      fun w hold => hsafe.rely (hsafe.writers i w hold).admits
    have hstays : ∀ w, (Race.after mint moves).writers[i]? = some w →
        (Race.after mint moves).memory.Rely mint w.staged
          ((Race.after mint moves).act mint move).memory →
        Answers mint (moves ++ [move]) i w ∨ Dropped (moves ++ [move]) i w :=
      fun w hold hrely => (ih i w hold).imp (·.snoc hrely) (·.snoc move)
    rw [after_snoc] at hi
    cases move with
    | start o =>
      rcases getElem?_snoc_cases hi with hold | ⟨_, rfl⟩
      · exact hstays w hold (hstill w hold)
      · exact Or.inl (Answers.start hd hslash o)
    | advance j =>
      cases hj : (Race.after mint moves).writers[j]? with
      | none =>
        simp only [act, hj] at hi hstays
        exact hstays w hi (hstill w hi)
      | some w₀ =>
        cases hrest : w₀.rest with
        | done result =>
          rw [act_of_done hj hrest] at hi hstays
          exact hstays w hi (hstill w hi)
        | ask c next =>
          have hw₀ := hsafe.writers j w₀ hj
          have hstep := Memory.perform_step mint (Race.after mint moves).memory w₀.staged c
          have hcomplete := hw₀.complete hsafe.sound hsafe.complete hrest
          rw [act_of_ask hj hrest] at hi hstays
          rcases getElem?_set_cases hi with ⟨rfl, rfl⟩ | ⟨hij, hold⟩
          · rcases ih i w₀ hj with hanswers | ⟨timeout, _, hdone⟩
            · exact Or.inl (hanswers.advance hsafe hj hrest)
            · rw [hrest] at hdone
              cases hdone
          · exact hstays w hold (hsafe.others hd hj hstep hcomplete i w hij hold).1
    | abandon j timeout =>
      cases hj : (Race.after mint moves).writers[j]? with
      | none =>
        simp only [act, hj] at hi hstays
        exact hstays w hi (hstill w hi)
      | some w₀ =>
        simp only [act, hj] at hi hstays
        rcases getElem?_set_cases hi with ⟨rfl, rfl⟩ | ⟨_, hold⟩
        · cases hrest : w₀.rest with
          | done result =>
            simp only [Writer.abandon, hrest]
            exact hstays w₀ hj (hstill w₀ hj)
          | ask c next =>
            simp only [Writer.abandon, hrest]
            exact Or.inr ⟨timeout, by simp, rfl⟩
        · exact hstays w hold (hstill w hold)

end Race

/-! ## Upserts that are left alone -/

/-- A move that neither disturbs an upsert by a call of another one nor abandons it. -/
def Move.Spares (i : ℕ) : Move → Prop
  | .start _ => True
  | .advance j => j = i
  | .abandon j _ => j ≠ i

def Move.isCall : Move → Bool
  | .advance _ => true
  | _ => false

/-- If only one upsert makes calls, and enough of them, it runs as if it were alone. -/
theorem Race.run_undisturbed (mint : Mint) {moves : List Move}
    (hmoves : ∀ move ∈ moves, move.Spares i) {r : Race} {w : Writer} {n : ℕ}
    (hi : r.writers[i]? = some w) (hcalls : w.rest.Always countdown (fun _ _ => True) n)
    (hn : n ≤ moves.countP Move.isCall) :
    ∃ w', (moves.foldl (Race.act mint) r).writers[i]? = some w' ∧
      w'.result? = some (r.memory.run mint w.staged w.rest).1 ∧
      (moves.foldl (Race.act mint) r).memory = (r.memory.run mint w.staged w.rest).2.1 := by
  induction moves generalizing r w n with
  | nil =>
    cases hrest : w.rest with
    | done result => exact ⟨w, hi, by simp only [Writer.result?, hrest]; rfl, rfl⟩
    | ask c next =>
      rw [hrest] at hcalls
      have hleft : 0 < n := hcalls.1
      simp at hn
      omega
  | cons move moves ih =>
    obtain ⟨hmove, hlater⟩ := List.forall_mem_cons.mp hmoves
    cases move with
    | start o =>
      have hi' : (r.act mint (.start o)).writers[i]? = some w := by
        obtain ⟨hlt, -⟩ := List.getElem?_eq_some_iff.mp hi
        exact (List.getElem?_append_left hlt).trans hi
      exact ih hlater hi' hcalls hn
    | advance j =>
      obtain rfl : j = i := hmove
      rw [List.countP_cons_of_pos rfl] at hn
      cases hrest : w.rest with
      | done result =>
        rw [List.foldl_cons, act_of_done hi hrest, ← hrest]
        exact ih (n := 0) hlater hi (by rw [hrest]; trivial) (Nat.zero_le _)
      | ask c next =>
        rw [hrest] at hcalls
        obtain ⟨hleft, hnext⟩ := hcalls
        have hleft' : n = n - 1 + 1 := by
          have : 0 < n := hleft
          omega
        have hi' : (r.act mint (.advance j)).writers[j]? = some { w with
            rest := next (r.memory.perform mint w.staged c).1
            staged := (r.memory.perform mint w.staged c).2.2 } := by
          rw [act_of_ask hi hrest]
          obtain ⟨hlt, -⟩ := List.getElem?_eq_some_iff.mp hi
          exact List.getElem?_set_self hlt
        have hmemory : (r.act mint (.advance j)).memory =
            (r.memory.perform mint w.staged c).2.1 := by
          rw [act_of_ask hi hrest]
        have hrun := ih hlater hi' (hnext _ (n - 1) hleft') (by omega)
        rw [hmemory] at hrun
        exact hrun
    | abandon j timeout =>
      have hne : j ≠ i := hmove
      have hsame : (r.act mint (.abandon j timeout)).writers[i]? = some w ∧
          (r.act mint (.abandon j timeout)).memory = r.memory := by
        cases hj : r.writers[j]? with
        | none =>
          simp only [Race.act, hj]
          exact ⟨hi, trivial⟩
        | some w₀ =>
          simp only [Race.act, hj]
          exact ⟨(List.getElem?_set_ne hne).trans hi, trivial⟩
      rw [List.countP_cons_of_neg Bool.false_ne_true] at hn
      have hrun := ih hlater hsame.1 hcalls hn
      rw [hsame.2] at hrun
      exact hrun

/-- The first call of an upsert drops what was staged. -/
theorem run_program_staged (m : Memory) (staged : Store.Tables) (o : Observation) :
    m.run mint staged (program o) = m.run mint {} (program o) := rfl

/-- In every order of calls, an upsert fails only because it has been abandoned, or because the
store has refused as a duplicate its creation of the event or of the title, or its commit. If it
makes all its calls while no other upsert makes one, it succeeds, whenever it begins. -/
theorem racing_upserts_refused (hd : mint.Distinct) (hslash : mint.Slashless)
    (moves : List Move) :
    let r := Race.after mint moves
    (∀ (i : ℕ) (w : Writer) (e : UpsertError), r.writers[i]? = some w →
      w.result? = some (.error e) →
        (∃ c entity key, e = .store (.duplicate entity key) ∧
          Decides c (.duplicate entity key) ∧
          Race.RefusedAt mint moves i w c (.duplicate entity key)) ∨
        ∃ timeout, e = .timedOut w.observation.externalId timeout ∧
          .abandon i timeout ∈ moves) ∧
      ∀ (i : ℕ) (w : Writer) (alone : List Move), r.writers[i]? = some w →
        w.rest = program w.observation → (∀ move ∈ alone, move.Spares i) →
          18 ≤ alone.countP Move.isCall →
            ∃ w' outcome, (Race.after mint (moves ++ alone)).writers[i]? = some w' ∧
              w'.result? = some (.ok outcome) := by
  have hsafe := Race.safe_after hd hslash moves
  refine ⟨?_, ?_⟩
  · intro i w e hi he
    have hrest : w.rest = .done (.error e) := by
      unfold Writer.result? at he
      cases hrest : w.rest with
      | done result =>
        rw [hrest] at he
        rw [Option.some.inj he]
      | ask c next =>
        rw [hrest] at he
        cases he
    rcases Race.answers_or_dropped hd hslash moves i w hi with
      ⟨before, refused, hlast, hcourse⟩ | ⟨timeout, hmem, hdone⟩
    · have hnow := hcourse _ (hsafe.rely (hsafe.writers i w hi).admits)
      rw [hrest] at hnow
      obtain ⟨c, cause, hrefused, hdecides, rfl⟩ := hnow e rfl
      obtain ⟨entity, key, rfl⟩ := hdecides.duplicate
      exact Or.inl ⟨c, entity, key, rfl, hdecides, hlast c _ hrefused⟩
    · rw [hrest] at hdone
      cases hdone
      exact Or.inr ⟨timeout, rfl, hmem⟩
  · intro i w alone hi hw hspares hcalls
    have htakes : w.rest.Always countdown (fun _ _ => True) 18 := hw ▸ program_calls w.observation
    obtain ⟨w', hw', hresult, -⟩ := Race.run_undisturbed mint hspares hi htakes hcalls
    rw [hw, run_program_staged] at hresult
    have hnew := unforeseen_after hd hslash moves w.observation.identity.language
    rw [(run_program hd hsafe.sound hnew).1] at hresult
    refine ⟨w', _, ?_, hresult⟩
    rw [Race.after, List.foldl_append]
    exact hw'

/-- The third upsert of the photo finish is refused when it commits. One that begins then and is
left alone succeeds. -/
theorem photoFinish_refused : Mint.serial.Distinct ∧ Mint.serial.Slashless ∧
    (∃ w c, (Race.after .serial photoFinish).writers[2]? = some w ∧
      w.result? = some (.error (.store (.duplicate "event" "finals-7"))) ∧
      Decides c (.duplicate "event" "finals-7") ∧
      Race.RefusedAt .serial photoFinish 2 w c (.duplicate "event" "finals-7")) ∧
    ∃ w outcome, (Race.after .serial (photoFinish ++ [.start finals] ++
        List.replicate 18 (.advance 4))).writers[4]? = some w ∧
      w.result? = some (.ok outcome) := by
  refine ⟨Mint.serial_distinct, Mint.serial_slashless, ?_, ?_⟩
  · have hthird : ((Race.after .serial photoFinish).writers.map Writer.result?)[2]? =
        some (some (.error (.store (.duplicate "event" "finals-7")))) := by decide +kernel
    rw [List.getElem?_map] at hthird
    obtain ⟨w, hw, hresult⟩ := Option.map_eq_some_iff.mp hthird
    rcases (racing_upserts_refused Mint.serial_distinct Mint.serial_slashless photoFinish).1 2 w _
      hw hresult with ⟨c, entity, key, ⟨⟩, hdecides, hrefused⟩ | ⟨timeout, herror, -⟩
    · exact ⟨w, c, hw, hresult, hdecides, hrefused⟩
    · cases herror
  · have hfour : (Race.after .serial photoFinish).writers.length = 4 := by decide +kernel
    have hnew : (Race.after .serial (photoFinish ++ [.start finals])).writers[4]? =
        some { observation := finals, rest := program finals } := by
      rw [Race.after_snoc, ← hfour]
      exact List.getElem?_concat_length
    have hspares : ∀ move ∈ List.replicate 18 (Move.advance 4), move.Spares 4 := by
      intro move hmove
      rw [List.eq_of_mem_replicate hmove]
      rfl
    obtain ⟨-, halone⟩ := racing_upserts_refused Mint.serial_distinct Mint.serial_slashless
      (photoFinish ++ [.start finals])
    exact halone 4 { observation := finals, rest := program finals }
      (List.replicate 18 (.advance 4)) hnew rfl hspares (by decide)

end LiveEvents.Upsert
