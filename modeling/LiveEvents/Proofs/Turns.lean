import LiveEvents.Proofs.ProgramCourses

/-!
# Turns of a program with a store

The store may be any function from the calls made so far to the reply to the next one. What a
program says to it and hears is a list of turns, and `Leads` describes the lists that are possible
at all: those of a `bind` are concatenations, and those of a step of an upsert are read off its
calls.
-/

namespace LiveEvents

namespace Store

structure Turn where
  call : Call
  reply : Except StoreError call.Reply

/-- The reply to each call, by the calls made before it. -/
abbrev Replies := List Call → (c : Call) → Except StoreError c.Reply

namespace Program

variable {α β : Type}

/-- The turns of a program with a store that has heard `past`, and its result. -/
def turns (store : Replies) (past : List Call) : Program α → List Turn × α
  | .done a => ([], a)
  | .ask c next =>
    let rest := turns store (past ++ [c]) (next (store past c))
    (⟨c, store past c⟩ :: rest.1, rest.2)

/-- A program may have these turns and end with this result. -/
def Leads : Program α → List Turn → α → Prop
  | .done a, t, b => t = [] ∧ b = a
  | .ask c next, t, b => ∃ reply rest, t = ⟨c, reply⟩ :: rest ∧ Leads (next reply) rest b

theorem leads_turns (store : Replies) (past : List Call) (p : Program α) :
    p.Leads (turns store past p).1 (turns store past p).2 := by
  induction p generalizing past with
  | done a => exact ⟨rfl, rfl⟩
  | ask c next ih => exact ⟨store past c, _, rfl, ih _ _⟩

theorem leads_iff_runs (p : Program α) (t : List Turn) (a : α) :
    p.Leads t a ↔ p.Runs Turn.mk t a := by
  induction p generalizing t with
  | done b => rfl
  | ask c next ih =>
    exact exists_congr fun _ => exists_congr fun rest => and_congr_right' (ih _ rest)

theorem leads_bind (p : Program α) (f : α → Program β) (t : List Turn) (b : β) :
    (p >>= f).Leads t b ↔
      ∃ a early late, t = early ++ late ∧ p.Leads early a ∧ (f a).Leads late b := by
  simp only [leads_iff_runs]
  exact LiveEvents.Program.runs_bind p f t b

end Program

end Store

namespace Upsert

open Store (Call Entity Turn StoreError)

variable {α β : Type}

/-- A step may have these turns and end with this result. -/
def Goes (x : Step α) (t : List Turn) (r : Except UpsertError α) : Prop := x.run.Leads t r

theorem goes_pure {a : α} {t : List Turn} {r : Except UpsertError α}
    (h : Goes (pure a) t r) : t = [] ∧ r = .ok a := h

theorem goes_bind {x : Step α} {f : α → Step β} {t : List Turn} {r : Except UpsertError β}
    (h : Goes (x >>= f) t r) :
    (∃ e, r = .error e ∧ Goes x t (.error e)) ∨
      ∃ a early late, t = early ++ late ∧ Goes x early (.ok a) ∧ Goes (f a) late r := by
  unfold Goes at h
  rw [ExceptT.run_bind] at h
  obtain ⟨a, early, late, rfl, hx, hf⟩ := (Store.Program.leads_bind _ _ _ _).mp h
  cases a with
  | ok a => exact Or.inr ⟨a, early, late, rfl, hx, hf⟩
  | error e =>
    obtain ⟨rfl, rfl⟩ := hf
    rw [List.append_nil]
    exact Or.inl ⟨e, rfl, hx⟩

theorem goes_bind_ok {x : Step α} {f : α → Step β} {t : List Turn} {b : β}
    (h : Goes (x >>= f) t (.ok b)) :
    ∃ a early late, t = early ++ late ∧ Goes x early (.ok a) ∧ Goes (f a) late (.ok b) := by
  rcases goes_bind h with ⟨e, hr, -⟩ | hrest
  · exact nomatch hr
  · exact hrest

theorem goes_map {x : Step α} {f : α → β} {t : List Turn} {r : Except UpsertError β}
    (h : Goes (f <$> x) t r) :
    (∃ e, r = .error e ∧ Goes x t (.error e)) ∨ ∃ a, r = .ok (f a) ∧ Goes x t (.ok a) := by
  obtain ⟨a, early, late, rfl, hx, hf⟩ := (Store.Program.leads_bind x.run _ _ _).mp h
  cases a with
  | ok a =>
    obtain ⟨rfl, rfl⟩ := hf
    rw [List.append_nil]
    exact Or.inr ⟨a, rfl, hx⟩
  | error e =>
    obtain ⟨rfl, rfl⟩ := hf
    rw [List.append_nil]
    exact Or.inl ⟨e, rfl, hx⟩

theorem goes_call {c : Call} {t : List Turn} {r : Except UpsertError c.Reply}
    (h : Goes (call c) t r) :
    (∃ a, t = [⟨c, .ok a⟩] ∧ r = .ok a) ∨
      ∃ e, t = [⟨c, .error e⟩] ∧ r = .error (.store e) := by
  obtain ⟨reply, rest, rfl, hrest⟩ := h
  cases reply with
  | ok a =>
    obtain ⟨rfl, rfl⟩ := hrest
    exact Or.inl ⟨a, rfl, rfl⟩
  | error e =>
    obtain ⟨rfl, rfl⟩ := hrest
    exact Or.inr ⟨e, rfl, rfl⟩

theorem goes_call_bind {c : Call} {f : c.Reply → Step α} {t : List Turn}
    {r : Except UpsertError α} (h : Goes (call c >>= f) t r) :
    (∃ e, t = [⟨c, .error e⟩] ∧ r = .error (.store e)) ∨
      ∃ a rest, t = ⟨c, .ok a⟩ :: rest ∧ Goes (f a) rest r := by
  rcases goes_bind h with ⟨e, rfl, hc⟩ | ⟨a, early, late, rfl, hc, hf⟩
  · rcases goes_call hc with ⟨a, -, hr⟩ | ⟨cause, rfl, hr⟩
    · exact nomatch hr
    · cases hr
      exact Or.inl ⟨cause, rfl, rfl⟩
  · rcases goes_call hc with ⟨a', rfl, hr⟩ | ⟨cause, -, hr⟩
    · cases hr
      exact Or.inr ⟨a, late, rfl, hf⟩
    · exact nomatch hr

theorem goes_call_bind_ok {c : Call} {f : c.Reply → Step α} {t : List Turn} {b : α}
    (h : Goes (call c >>= f) t (.ok b)) :
    ∃ a rest, t = ⟨c, .ok a⟩ :: rest ∧ Goes (f a) rest (.ok b) := by
  rcases goes_call_bind h with ⟨e, -, hr⟩ | hrest
  · exact nomatch hr
  · exact hrest

theorem goes_create {c : Call} {t : List Turn} {r : Except UpsertError Bool}
    (h : Goes (create c) t r) :
    (∃ a, t = [⟨c, .ok a⟩] ∧ r = .ok true) ∨
      (∃ e, t = [⟨c, .error e⟩] ∧ e.isDuplicate = true ∧ r = .ok false) ∨
      ∃ e, t = [⟨c, .error e⟩] ∧ e.isDuplicate = false ∧ r = .error (.store e) := by
  obtain ⟨reply, rest, rfl, hrest⟩ := h
  cases reply with
  | ok a =>
    obtain ⟨rfl, rfl⟩ := hrest
    exact Or.inl ⟨a, rfl, rfl⟩
  | error e =>
    obtain ⟨rfl, hr⟩ := hrest
    cases hd : e.isDuplicate with
    | true =>
      rw [hd] at hr
      exact Or.inr (Or.inl ⟨e, rfl, hd, hr⟩)
    | false =>
      rw [hd] at hr
      exact Or.inr (Or.inr ⟨e, rfl, hd, hr⟩)

theorem goes_found_ok {entity : Entity} {key : String} {row : Option α} {t : List Turn} {a : α}
    (h : Goes (found entity key row) t (.ok a)) : t = [] ∧ row = some a := by
  cases row with
  | some b =>
    obtain ⟨rfl, hr⟩ := goes_pure h
    cases hr
    exact ⟨rfl, rfl⟩
  | none => exact nomatch h.2

end Upsert

end LiveEvents
