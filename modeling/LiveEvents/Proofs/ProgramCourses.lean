import LiveEvents.Upsert

/-!
# Courses of a program

A setting says in which states a question may be asked and how the state may change with each
answer. `Always` holds of a program if every course that the setting allows asks only what may be
asked and ends as wanted. It is read off a program piece by piece: along `bind`, and for the steps
of an upsert along their calls, whose errors end the upsert. `Runs` says which questions and answers
a single course is made of.
-/

namespace LiveEvents

/-- The states in which a question may be asked, and what an answer may do to the state. -/
structure Setting (Question : Type) (Answer : Question → Type) (σ : Type) where
  ready : Question → σ → Prop
  moves : (q : Question) → σ → Answer q → σ → Prop

namespace Program

variable {Question : Type} {Answer : Question → Type} {α β σ : Type}
  {W : Setting Question Answer σ}

instance : LawfulMonad (Program Question Answer) :=
  have hdone {α : Type} (p : Program Question Answer α) : p.bind done = p := by
    induction p with
    | done a => rfl
    | ask q next ih => exact congrArg (ask q) (funext ih)
  .mk' _ hdone (fun _ _ => rfl) fun p f g => by
    induction p with
    | done a => rfl
    | ask q next ih => exact congrArg (ask q) (funext ih)

def Always (W : Setting Question Answer σ) (post : α → σ → Prop) :
    Program Question Answer α → σ → Prop
  | done a, s => post a s
  | ask q next, s => W.ready q s ∧ ∀ r s', W.moves q s r s' → Always W post (next r) s'

theorem always_bind (post : β → σ → Prop) (p : Program Question Answer α)
    (f : α → Program Question Answer β) (s : σ) :
    (p >>= f).Always W post s ↔ p.Always W (fun a s' => (f a).Always W post s') s := by
  induction p generalizing s with
  | done a => rfl
  | ask q next ih =>
    exact and_congr_right fun _ => forall_congr' fun r => forall_congr' fun s' =>
      imp_congr_right fun _ => ih r s'

theorem Always.imp {post post' : α → σ → Prop} (h : ∀ a s, post a s → post' a s)
    {p : Program Question Answer α} {s : σ} (hp : p.Always W post s) : p.Always W post' s := by
  induction p generalizing s with
  | done a => exact h a s hp
  | ask q next ih => exact ⟨hp.1, fun r s' hm => ih r (hp.2 r s' hm)⟩

/-! ## Turns -/

variable {Turn : Type} {turn : (q : Question) → Answer q → Turn}

/-- A program may take these turns, a question and its answer each, and end with this result. -/
def Runs (turn : (q : Question) → Answer q → Turn) :
    Program Question Answer α → List Turn → α → Prop
  | done a, turns, b => turns = [] ∧ b = a
  | ask q next, turns, b => ∃ r rest, turns = turn q r :: rest ∧ Runs turn (next r) rest b

theorem runs_bind (p : Program Question Answer α) (f : α → Program Question Answer β)
    (turns : List Turn) (b : β) : (p >>= f).Runs turn turns b ↔
      ∃ a early late, turns = early ++ late ∧ p.Runs turn early a ∧ (f a).Runs turn late b := by
  induction p generalizing turns with
  | done a =>
    constructor
    · exact fun h => ⟨a, [], turns, rfl, ⟨rfl, rfl⟩, h⟩
    · rintro ⟨_, _, late, rfl, ⟨rfl, rfl⟩, h⟩
      exact h
  | ask q next ih =>
    constructor
    · rintro ⟨r, rest, rfl, h⟩
      obtain ⟨a, early, late, rfl, hp, hf⟩ := (ih r rest).mp h
      exact ⟨a, turn q r :: early, late, rfl, ⟨r, early, rfl, hp⟩, hf⟩
    · rintro ⟨a, _, late, rfl, ⟨r, rest, rfl, hp⟩, hf⟩
      exact ⟨r, rest ++ late, rfl, (ih r _).mpr ⟨a, rest, late, rfl, hp, hf⟩⟩

end Program

namespace Upsert

open Store (Call StoreError)

/-- The teams of an observation, if it has any. -/
def players (o : Observation) : Step (Option (Team × Team)) :=
  match o.teams with
  | some pair => some <$> teams pair o.identity.language
  | none => pure none

/-- An upsert up to its commit. -/
def prepare (o : Observation) : Step Outcome := do
  call .begin
  let period ← period o.period
  let teams ← players o
  let outcome ← event o period.guid teams
  title o outcome.guid
  return outcome

theorem steps_eq (o : Observation) : steps o = (do
    let outcome ← prepare o
    call .commit
    return outcome) := by
  unfold steps prepare players
  cases o.teams <;> simp only [bind_assoc, pure_bind]

/-- Which answers a store may give to calls, with whatever else changes between them. -/
abbrev StoreSetting (σ : Type) := Setting Call (fun c => Except StoreError c.Reply) σ

variable {α β σ : Type} {W : StoreSetting σ} {bad : UpsertError → σ → Prop}

/-- Every course of a step ends in an error as `bad` says or with a result as `good` says. -/
def Ends (W : StoreSetting σ) (bad : UpsertError → σ → Prop) (good : α → σ → Prop) (x : Step α)
    (s : σ) : Prop :=
  x.run.Always W (fun r s' => match r with
    | .ok a => good a s'
    | .error e => bad e s') s

theorem Ends.imp {good good' : α → σ → Prop} {x : Step α} {s : σ} (hx : Ends W bad good x s)
    (h : ∀ a s', good a s' → good' a s') : Ends W bad good' x s := by
  refine Program.Always.imp ?_ hx
  intro r s' hr
  cases r with
  | ok a => exact h a s' hr
  | error e => exact hr

theorem ends_pure {good : α → σ → Prop} {a : α} {s : σ} (h : good a s) :
    Ends W bad good (pure a) s := h

theorem ends_throw {good : α → σ → Prop} {e : UpsertError} {s : σ} (h : bad e s) :
    Ends W bad good (throw e) s := h

theorem ends_bind {good : β → σ → Prop} {x : Step α} {f : α → Step β} {s : σ}
    (h : Ends W bad (fun a s' => Ends W bad good (f a) s') x s) :
    Ends W bad good (x >>= f) s := by
  unfold Ends
  rw [ExceptT.run_bind, Program.always_bind]
  refine Program.Always.imp ?_ h
  intro r s' hr
  cases r with
  | ok a => exact hr
  | error e => exact hr

theorem ends_map {good : β → σ → Prop} {x : Step α} {f : α → β} {s : σ}
    (h : Ends W bad (fun a s' => good (f a) s') x s) : Ends W bad good (f <$> x) s := by
  refine (Program.always_bind _ x.run _ s).mpr (Program.Always.imp ?_ h)
  intro r s' hr
  cases r with
  | ok a => exact hr
  | error e => exact hr

/-- A call whose error ends the step. -/
theorem ends_call {c : Call} {good : c.Reply → σ → Prop} {s : σ} (hready : W.ready c s)
    (hok : ∀ r s', W.moves c s (.ok r) s' → good r s')
    (herror : ∀ e s', W.moves c s (.error e) s' → bad (.store e) s') :
    Ends W bad good (call c) s := by
  refine ⟨hready, ?_⟩
  intro r s' hm
  cases r with
  | ok a => exact hok a s' hm
  | error e => exact herror e s' hm

/-- A creation that goes on after a duplicate. -/
theorem ends_create {c : Call} {good : Bool → σ → Prop} {s : σ} (hready : W.ready c s)
    (hok : ∀ r s', W.moves c s (.ok r) s' → good true s')
    (hduplicate : ∀ e s', W.moves c s (.error e) s' → e.isDuplicate = true → good false s')
    (herror : ∀ e s', W.moves c s (.error e) s' → e.isDuplicate = false → bad (.store e) s') :
    Ends W bad good (create c) s := by
  refine ⟨hready, ?_⟩
  intro r s' hm
  cases r with
  | ok a => exact hok a s' hm
  | error e =>
    change Program.Always W _ (.done (if e.isDuplicate = true then
      (Except.ok false : Except UpsertError Bool) else Except.error (.store e))) s'
    cases hd : e.isDuplicate with
    | true => exact hduplicate e s' hm hd
    | false => exact herror e s' hm hd

end Upsert

end LiveEvents
