import LiveEvents.Proofs.CallCounts
import LiveEvents.Proofs.InterruptedUpserts
import LiveEvents.Proofs.RivalCourses
import Mathlib.Data.Fin.VecNotation
import Mathlib.Data.List.Induction

/-!
# Upserts of two events

Two upserts of different events take turns on a store that any transactions have written before. An
upsert makes at most eighteen calls, so both end when each has had that many turns. At least one of
them succeeds. The other one may fail, but only at its commit: when it has staged a new period or a
new team whose key the first upsert has taken in the meantime. If both succeed, both events refer
to the same rows where they share a period or a team.
-/

namespace LiveEvents.Upsert

open Store (Call Entity Memory Mint Row Sessions Table Tables)

namespace Race

def result? (r : Race) (i : ℕ) : Option (Except UpsertError Outcome) :=
  r.writers[i]?.bind Writer.result?

/-- Two upserts that take turns on a store. -/
def rivals (mint : Mint) (m : Memory) (os : Fin 2 → Observation) (turns : List (Fin 2)) : Race :=
  Race.from mint m ([.start (os 0), .start (os 1)] ++ turns.map fun i => .advance i)

theorem rivals_snoc (mint : Mint) (m : Memory) (os : Fin 2 → Observation) (turns : List (Fin 2))
    (i : Fin 2) :
    rivals mint m os (turns ++ [i]) = (rivals mint m os turns).act mint (.advance i) := by
  unfold rivals
  rw [List.map_append, ← List.append_assoc]
  exact from_snoc _

end Race

/-- The commit of an upsert was refused: the other upsert had succeeded by then, and with it had
taken the key of a period or a team which was new to both and which this upsert has staged too. -/
def Beaten (mint : Mint) (m : Memory) (os : Fin 2 → Observation) (turns : List (Fin 2)) (i : Fin 2)
    (e : UpsertError) : Prop :=
  ∃ past later w next outcome k key, turns = past ++ i :: later ∧
    (Race.rivals mint m os past).writers[(i : ℕ)]? = some w ∧ w.rest = .ask .commit next ∧
    (Race.rivals mint m os past).result? i.rev = some (.ok outcome) ∧
    e = .store (.duplicate k.name key) ∧
    Collision m (os i) (os i.rev) k key w.staged (Race.rivals mint m os past).memory.committed

variable {mint : Mint} {m m' : Memory} {os : Fin 2 → Observation} {turns : List (Fin 2)}

theorem Beaten.snoc {i : Fin 2} {e : UpsertError} (h : Beaten mint m os turns i e) (j : Fin 2) :
    Beaten mint m os (turns ++ [j]) i e := by
  obtain ⟨past, later, w, next, outcome, k, key, rfl, hrest⟩ := h
  exact ⟨past, later ++ [j], w, next, outcome, k, key, by simp, hrest⟩

/-- An upsert beside a rival: whatever the rival goes on to do, it ends as it should. -/
structure Writer.Stands (mint : Mint) (m₀ m : Memory) (o o' : Observation) (published : Bool)
    (w : Writer) : Prop where
  admits : m.Admits mint w.staged
  course : ∃ last, ∀ m', m.Rivals mint o' w.staged m' →
    w.rest.Always (duel mint o o') (Settles m₀ o o') ⟨m', w.staged, last, published⟩

section Stands

variable {m₀ : Memory} {o o' : Observation} {published : Bool} {w : Writer}

theorem Writer.stands_start (hd : mint.Distinct) (hslash : mint.Slashless)
    (hne : o.externalId ≠ o'.externalId) (hm : m₀.Sound mint)
    (hnew : mint.Unforeseen o.identity.language m₀) :
    Writer.Stands mint m₀ m₀ o o' false { observation := o, rest := program o } := by
  refine ⟨Memory.admits_empty mint _, none, fun m' hr => ?_⟩
  exact program_settles hd hslash hne ⟨hm, hr.sound, hr.admits, hr.grows,
    Memory.unforeseen_grows hd hslash hr.sound hnew hr.grows, rfl⟩

/-- The rival has made a call. -/
theorem Writer.Stands.later (h : w.Stands mint m₀ m o o' published)
    (hr : m.Rivals mint o' w.staged m') : w.Stands mint m₀ m' o o' published := by
  obtain ⟨last, hcourse⟩ := h.course
  exact ⟨hr.admits, last, fun m'' hr' => hcourse m'' (hr.trans hr')⟩

/-- No upsert that has committed makes a further call. -/
theorem Writer.Stands.ready (h : w.Stands mint m₀ m o o' published) (hm : m.Sound mint) {c : Call}
    {next : Except Store.StoreError c.Reply → Store.Program (Except UpsertError Outcome)}
    (hrest : w.rest = .ask c next) :
    published = false ∧ (c = .commit → m.committed.Owned o w.staged) := by
  obtain ⟨last, hcourse⟩ := h.course
  have hnow := hcourse m (Memory.Rivals.refl hm h.admits)
  rw [hrest] at hnow
  exact hnow.1

/-- What is left to an upsert after a call and after what the rival has done then. -/
theorem Writer.Stands.course_next (h : w.Stands mint m₀ m o o' published) (hm : m.Sound mint)
    {c : Call} {next : Except Store.StoreError c.Reply → Store.Program (Except UpsertError Outcome)}
    (hrest : w.rest = .ask c next)
    (hr : (m.perform mint w.staged c).2.1.Rivals mint o' (m.perform mint w.staged c).2.2 m') :
    (next (m.perform mint w.staged c).1).Always (duel mint o o') (Settles m₀ o o')
      ⟨m', (m.perform mint w.staged c).2.2, some (c, w.staged, m.committed),
        published || c.publishes (m.perform mint w.staged c).1⟩ := by
  obtain ⟨last, hcourse⟩ := h.course
  have hnow := hcourse m (Memory.Rivals.refl hm h.admits)
  rw [hrest] at hnow
  exact hnow.2 _ _ ⟨(m.perform mint w.staged c).2.1, rfl, hr, rfl, rfl⟩

theorem Writer.Stands.next (hd : mint.Distinct) (h : w.Stands mint m₀ m o o' published)
    (hm : m.Sound mint) {c : Call}
    {next : Except Store.StoreError c.Reply → Store.Program (Except UpsertError Outcome)}
    (hrest : w.rest = .ask c next) :
    Writer.Stands mint m₀ (m.perform mint w.staged c).2.1 o o'
      (published || c.publishes (m.perform mint w.staged c).1)
      { w with
        rest := next (m.perform mint w.staged c).1
        staged := (m.perform mint w.staged c).2.2 } := by
  have hstep := Memory.perform_step mint m w.staged c
  exact ⟨hstep.admits hd hm h.admits, _, fun m' hr => h.course_next hm hrest hr⟩

theorem Writer.Stands.settles (h : w.Stands mint m₀ m o o' published) (hm : m.Sound mint)
    {x : Except UpsertError Outcome} (hx : w.result? = some x) :
    ∃ last, Settles m₀ o o' x ⟨m, w.staged, last, published⟩ := by
  obtain ⟨last, hcourse⟩ := h.course
  exact ⟨last, Writer.of_result? hx (hcourse m (Memory.Rivals.refl hm h.admits))⟩

/-- An upsert that has committed has succeeded. -/
theorem Writer.Stands.succeeds (h : w.Stands mint m₀ m o o' true) (hm : m.Sound mint) :
    ∃ outcome, w.result? = some (.ok outcome) := by
  cases hrest : w.rest with
  | ask c next => exact nomatch (h.ready hm hrest).1
  | done x =>
    have hx : w.result? = some x := by
      unfold Writer.result?
      rw [hrest]
    obtain ⟨last, hsettles⟩ := h.settles hm hx
    cases x with
    | ok outcome => exact ⟨outcome, hx⟩
    | error e => exact nomatch hsettles.1

end Stands

/-- The committed rows change only with a commit that succeeds. -/
theorem perform_unpublished (mint : Mint) (m : Memory) (staged : Tables) {c : Call}
    (h : c.publishes (m.perform mint staged c).1 = false) :
    (m.perform mint staged c).2.1.committed = m.committed := by
  by_cases hc : c = .commit
  · subst hc
    cases hconflict : staged.conflict? m.committed with
    | some err => rw [Memory.perform_commit_of_conflict mint hconflict]
    | none =>
      rw [Memory.perform_commit_of_free mint hconflict] at h
      cases h
  · exact Memory.perform_committed mint m staged hc

theorem eq_or_eq_rev (i j : Fin 2) : j = i ∨ j = i.rev := by
  revert i j
  decide

theorem rev_ne (i : Fin 2) : i.rev ≠ i := by
  revert i
  decide

/-- What two upserts of different events keep while they take turns. -/
structure Rivalry (mint : Mint) (m : Memory) (os : Fin 2 → Observation) (turns : List (Fin 2))
    (ws : Fin 2 → Writer) (published : Fin 2 → Bool) : Prop where
  writers : ∀ i : Fin 2, (Race.rivals mint m os turns).writers[(i : ℕ)]? = some (ws i)
  sound : (Race.rivals mint m os turns).memory.Sound mint
  stands : ∀ i, (ws i).Stands mint m (Race.rivals mint m os turns).memory (os i) (os i.rev)
    (published i)
  apart : ∀ i, (Race.rivals mint m os turns).memory.committed.Apart (ws i).staged (ws i.rev).staged
  kept : (∀ i, published i = false) →
    (Race.rivals mint m os turns).memory.committed = m.committed
  calls : ∀ i, (ws i).rest.Always countdown (fun _ _ => True) (18 - turns.count i)
  beaten : ∀ i e, (ws i).result? = some (.error e) →
    published i.rev = true ∧ Beaten mint m os turns i e

namespace Rivalry

variable {ws : Fin 2 → Writer} {published : Fin 2 → Bool}

theorem start (hd : mint.Distinct) (hslash : mint.Slashless) (hm : m.Sound mint)
    (hne : (os 0).externalId ≠ (os 1).externalId)
    (hnew : ∀ i, mint.Unforeseen (os i).identity.language m) :
    Rivalry mint m os [] (fun i => { observation := os i, rest := program (os i) })
      fun _ => false where
  writers i := by
    match i with
    | 0 => rfl
    | 1 => rfl
  sound := hm
  stands i := by
    refine Writer.stands_start hd hslash ?_ hm (hnew i)
    match i with
    | 0 => exact hne
    | 1 => exact hne.symm
  apart _ := Tables.Apart.empty _ _
  kept _ := rfl
  calls i := program_calls (os i)
  beaten _ _ := nofun

/-- A commit that is refused comes after the commit of the other upsert. -/
theorem refused (hd : mint.Distinct) (h : Rivalry mint m os turns ws published) {i : Fin 2}
    {c : Call}
    {next : Except Store.StoreError c.Reply → Store.Program (Except UpsertError Outcome)}
    (hrest : (ws i).rest = .ask c next) {e : UpsertError}
    (he : Writer.result? { ws i with
      rest := next ((Race.rivals mint m os turns).memory.perform mint (ws i).staged c).1
      staged := ((Race.rivals mint m os turns).memory.perform mint (ws i).staged c).2.2 } =
        some (.error e)) :
    published i.rev = true ∧ Beaten mint m os (turns ++ [i]) i e := by
  have hstep := Memory.perform_step mint (Race.rivals mint m os turns).memory (ws i).staged c
  have hsound := hstep.sound h.sound (h.stands i).admits
  have hadmits := hstep.admits hd h.sound (h.stands i).admits
  obtain ⟨-, k, key, staged, committed, hduplicate, hlast, hcollision⟩ :=
    Writer.of_result? he
      ((h.stands i).course_next h.sound hrest (Memory.Rivals.refl hsound hadmits))
  obtain ⟨rfl, hbefore⟩ := Prod.mk.inj (Option.some.inj hlast)
  obtain ⟨rfl, rfl⟩ := Prod.mk.inj hbefore
  have hpublished : published i.rev = true := by
    by_contra hnot
    obtain ⟨row, hrow, hkey⟩ := hcollision.committed
    refine hcollision.first row ?_ hkey
    rw [← h.kept fun j => ?_]
    · exact hrow
    · rcases eq_or_eq_rev i j with rfl | rfl
      · exact ((h.stands j).ready h.sound hrest).1
      · simpa using hnot
  have hrival := h.stands i.rev
  rw [hpublished] at hrival
  obtain ⟨outcome, hok⟩ := hrival.succeeds h.sound
  refine ⟨hpublished, turns, [], ws i, next, outcome, k, key, rfl, h.writers i, hrest, ?_,
    hduplicate, hcollision⟩
  unfold Race.result?
  rw [h.writers i.rev]
  exact hok

theorem count_snoc_of_ne {i j : Fin 2} (h : j ≠ i) : (turns ++ [i]).count j = turns.count j := by
  rw [List.count_append, List.count_singleton, if_neg (by simpa using h.symm), Nat.add_zero]

theorem ended (h : Rivalry mint m os turns ws published) {i : Fin 2}
    {x : Except UpsertError Outcome} (hrest : (ws i).rest = .done x) :
    Rivalry mint m os (turns ++ [i]) ws published := by
  have hsame : Race.rivals mint m os (turns ++ [i]) = Race.rivals mint m os turns := by
    rw [Race.rivals_snoc]
    exact Race.act_of_done (h.writers i) hrest
  refine ⟨hsame ▸ h.writers, hsame ▸ h.sound, hsame ▸ h.stands, hsame ▸ h.apart, hsame ▸ h.kept,
    fun j => ?_, fun j e he => ?_⟩
  · rcases eq_or_eq_rev i j with rfl | rfl
    · rw [hrest]
      trivial
    · rw [count_snoc_of_ne (rev_ne i)]
      exact h.calls i.rev
  · exact ⟨(h.beaten j e he).1, (h.beaten j e he).2.snoc i⟩

theorem call (hd : mint.Distinct) (h : Rivalry mint m os turns ws published) {i : Fin 2} {c : Call}
    {next : Except Store.StoreError c.Reply → Store.Program (Except UpsertError Outcome)}
    (hrest : (ws i).rest = .ask c next) :
    Rivalry mint m os (turns ++ [i])
      (Function.update ws i { ws i with
        rest := next ((Race.rivals mint m os turns).memory.perform mint (ws i).staged c).1
        staged := ((Race.rivals mint m os turns).memory.perform mint (ws i).staged c).2.2 })
      (Function.update published i
        (c.publishes ((Race.rivals mint m os turns).memory.perform mint (ws i).staged c).1)) := by
  have hown := h.stands i
  have hrival := h.stands i.rev
  rw [Fin.rev_rev] at hrival
  obtain ⟨hnot, hready⟩ := hown.ready h.sound hrest
  have hstep := Memory.perform_step mint (Race.rivals mint m os turns).memory (ws i).staged c
  have hsound := hstep.sound h.sound hown.admits
  have hapart := hstep.apart hd hrival.admits (h.apart i)
  have hnext := hown.next hd h.sound hrest
  rw [hnot, Bool.false_or] at hnext
  have hothers := hrival.later (Memory.rivals_perform h.sound hown.admits hrival.admits (h.apart i)
    hready)
  have hafter := Race.rivals_snoc mint m os turns i
  rw [Race.act_of_ask (h.writers i) hrest] at hafter
  have hne := rev_ne i
  refine ⟨fun j => ?_, ?_, fun j => ?_, fun j => ?_, fun hnone => ?_, fun j => ?_, fun j e he => ?_⟩
  · rw [hafter]
    rcases eq_or_eq_rev i j with rfl | rfl
    · rw [Function.update_self, List.getElem?_set_self', h.writers j]
      rfl
    · rw [Function.update_of_ne hne, List.getElem?_set_ne (fun hv => hne (Fin.ext hv.symm))]
      exact h.writers i.rev
  · rw [hafter]
    exact hsound
  · rw [hafter]
    rcases eq_or_eq_rev i j with rfl | rfl
    · rw [Function.update_self, Function.update_self]
      exact hnext
    · rw [Function.update_of_ne hne, Function.update_of_ne hne, Fin.rev_rev]
      exact hothers
  · rw [hafter]
    rcases eq_or_eq_rev i j with rfl | rfl
    · rw [Function.update_self, Function.update_of_ne hne]
      exact hapart
    · rw [Fin.rev_rev, Function.update_self, Function.update_of_ne hne]
      exact hapart.symm
  · rw [hafter]
    have hquiet := hnone i
    rw [Function.update_self] at hquiet
    refine (perform_unpublished mint _ _ hquiet).trans (h.kept fun j => ?_)
    rcases eq_or_eq_rev i j with rfl | rfl
    · exact hnot
    · have hother := hnone i.rev
      rwa [Function.update_of_ne hne] at hother
  · rcases eq_or_eq_rev i j with rfl | rfl
    · have hcalls := h.calls j
      rw [hrest] at hcalls
      rw [Function.update_self]
      refine hcalls.2 _ _ ?_
      change 18 - turns.count j = 18 - (turns ++ [j]).count j + 1
      have hleft : 0 < 18 - turns.count j := hcalls.1
      rw [List.count_append, List.count_singleton_self]
      omega
    · rw [Function.update_of_ne hne, count_snoc_of_ne hne]
      exact h.calls i.rev
  · rcases eq_or_eq_rev i j with rfl | rfl
    · rw [Function.update_self] at he
      rw [Function.update_of_ne hne]
      exact refused hd h hrest he
    · -- the other upsert is refused only after this one has made its last call
      rw [Function.update_of_ne hne] at he
      have hdone := (h.beaten i.rev e he).1
      rw [Fin.rev_rev, hnot] at hdone
      cases hdone

theorem after (hd : mint.Distinct) (hslash : mint.Slashless) (hm : m.Sound mint)
    (hne : (os 0).externalId ≠ (os 1).externalId)
    (hnew : ∀ i, mint.Unforeseen (os i).identity.language m) (turns : List (Fin 2)) :
    ∃ ws published, Rivalry mint m os turns ws published := by
  induction turns using List.reverseRecOn with
  | nil => exact ⟨_, _, start hd hslash hm hne hnew⟩
  | append_singleton turns i ih =>
    obtain ⟨ws, published, h⟩ := ih
    cases hrest : (ws i).rest with
    | done x => exact ⟨_, _, h.ended hrest⟩
    | ask c next => exact ⟨_, _, h.call hd hrest⟩

theorem result?_eq (h : Rivalry mint m os turns ws published) (i : Fin 2) :
    (Race.rivals mint m os turns).result? i = (ws i).result? := by
  unfold Race.result?
  rw [h.writers i]
  rfl

/-- An upsert that has had all its turns has ended. -/
theorem ends (h : Rivalry mint m os turns ws published) {i : Fin 2} (hi : 18 ≤ turns.count i) :
    ∃ x, (ws i).result? = some x := by
  have hcalls := h.calls i
  unfold Writer.result?
  cases hrest : (ws i).rest with
  | done x => exact ⟨x, rfl⟩
  | ask c next =>
    rw [hrest] at hcalls
    have hleft : 0 < 18 - turns.count i := hcalls.1
    omega

theorem landed (h : Rivalry mint m os turns ws published) {i : Fin 2} {outcome : Outcome}
    (hok : (ws i).result? = some (.ok outcome)) :
    Landed (os i) outcome (Race.rivals mint m os turns).memory.committed := by
  obtain ⟨_, hsettles⟩ := (h.stands i).settles h.sound hok
  exact hsettles

end Rivalry

/-- Where the observations of two events share a period or a team, both events refer to the only
row of its key. -/
def Joint (os : Fin 2 → Observation) (es : Fin 2 → Event) (t : Tables) : Prop :=
  ∀ (k : Entity) (key : String) (gs : Fin 2 → Guid), (∀ i, (os i).Refers (es i) k key (gs i)) →
    ∃ row ∈ (t.of k).rows, Row.key row = key ∧ (∀ i, gs i = Row.guid row) ∧
      ∀ row' ∈ (t.of k).rows, Row.key row' = key → row' = row

theorem joint_of_holds (hm : m.Sound mint) {es : Fin 2 → Event}
    (h : ∀ i k key g, (os i).Refers (es i) k key g → m.committed.Holds k g key) :
    Joint os es m.committed := by
  intro k key gs hrefers
  obtain ⟨row, hget, hkey⟩ := h 0 k key (gs 0) (hrefers 0)
  have hguid : Row.guid row = gs 0 := (hm k).own _ row hget
  refine ⟨row, Table.mem_rows_of_get? hget, hkey, fun i => ?_, fun row' hrow' hkey' => ?_⟩
  · obtain ⟨row', hget', hkey'⟩ := h i k key (gs i) (hrefers i)
    rw [hguid]
    exact (hm k).unique _ _ row' row hget' hget (hkey'.trans hkey.symm)
  · have hget' := (hm k).get?_of_mem_rows hrow'
    have hsame := (hm k).unique _ _ row' row hget' hget (hkey'.trans hkey.symm)
    rw [hsame] at hget'
    exact Option.some.inj (hget'.symm.trans hget)

/-- How two upserts may have ended when each has had all its turns. -/
structure Settled (mint : Mint) (m : Memory) (os : Fin 2 → Observation) (turns : List (Fin 2)) :
    Prop where
  ended : ∀ i : Fin 2, ∃ x, (Race.rivals mint m os turns).result? i = some x
  won : ∃ (i : Fin 2) (outcome : Outcome),
    (Race.rivals mint m os turns).result? i = some (.ok outcome)
  beaten : ∀ (i : Fin 2) (e : UpsertError),
    (Race.rivals mint m os turns).result? i = some (.error e) → Beaten mint m os turns i e
  landed : ∀ (i : Fin 2) (outcome : Outcome),
    (Race.rivals mint m os turns).result? i = some (.ok outcome) →
      Landed (os i) outcome (Race.rivals mint m os turns).memory.committed
  joint : ∀ outcomes : Fin 2 → Outcome,
    (∀ i : Fin 2, (Race.rivals mint m os turns).result? i = some (.ok (outcomes i))) →
      ∃ es : Fin 2 → Event,
        (∀ i, (Race.rivals mint m os turns).memory.committed.events.get? (outcomes i).guid =
            some (es i) ∧ (es i).externalId = (os i).externalId) ∧
          Joint os es (Race.rivals mint m os turns).memory.committed

theorem Rivalry.settled {ws : Fin 2 → Writer} {published : Fin 2 → Bool}
    (h : Rivalry mint m os turns ws published) (hturns : ∀ i, 18 ≤ turns.count i) :
    Settled mint m os turns := by
  constructor <;> simp only [h.result?_eq]
  case ended => exact fun i => h.ends (hturns i)
  case won =>
    obtain ⟨x, hx⟩ := h.ends (hturns 0)
    cases x with
    | ok outcome => exact ⟨0, outcome, hx⟩
    | error e =>
      have hrival := h.stands 1
      rw [show published 1 = true from (h.beaten 0 e hx).1] at hrival
      obtain ⟨outcome, hok⟩ := hrival.succeeds h.sound
      exact ⟨1, outcome, hok⟩
  case beaten => exact fun i e he => (h.beaten i e he).2
  case landed => exact fun i outcome hok => h.landed hok
  case joint =>
    intro outcomes hok
    choose es hget hid hrefers using fun i => h.landed (hok i)
    exact ⟨es, fun i => ⟨hget i, hid i⟩, joint_of_holds h.sound hrefers⟩

/-- However two upserts of different events take turns, both end and at least one succeeds. One
that fails is refused at its commit, for a new period or team that the other one has brought in
first. If both succeed, they refer to the same rows under all keys that they share. -/
theorem rival_upserts_settle {κ : Type} [DecidableEq κ] (hd : mint.Distinct)
    (hslash : mint.Slashless) (history : List (Sessions.Action κ))
    (hne : (os 0).externalId ≠ (os 1).externalId)
    (hnew : ∀ i, mint.Unforeseen (os i).identity.language (Sessions.after mint {} history).memory)
    (hturns : ∀ i, 18 ≤ turns.count i) :
    Settled mint (Sessions.after mint {} history).memory os turns := by
  have hm := ((Sessions.sound_empty mint).after hd history).1.memory
  obtain ⟨_, _, h⟩ := Rivalry.after hd hslash hm hne hnew turns
  exact h.settled hturns

/-- Where only upserts have written, two upserts of different events settle so in any case. -/
theorem settled_after (hd : mint.Distinct) (hslash : mint.Slashless) (moves : List Move)
    (hne : (os 0).externalId ≠ (os 1).externalId) (hturns : ∀ i, 18 ≤ turns.count i) :
    Settled mint (Race.after mint moves).memory os turns := by
  have hm := (Race.safe_after hd hslash moves).sound
  obtain ⟨_, _, h⟩ := Rivalry.after hd hslash hm hne
    (fun i => unforeseen_after hd hslash moves _) turns
  exact h.settled hturns

/-- The finals and another game of the same teams on the same day. -/
def gameDay : Fin 2 → Observation :=
  ![finals, { finals with externalId := "finals-8" }]

/-- The first upsert has staged all its rows when the second one does all of its work. -/
def lateCommit : List (Fin 2) :=
  List.replicate 14 0 ++ List.replicate 18 1 ++ List.replicate 18 0

/-- The first upsert has looked for the period when the second one does all of its work. -/
def earlyLook : List (Fin 2) :=
  List.replicate 2 0 ++ List.replicate 18 1 ++ List.replicate 18 0

theorem gameDay_unforeseen (i : Fin 2) : Mint.serial.Unforeseen (gameDay i).identity.language
    (Sessions.after .serial {} homeHistory).memory :=
  match i with
  | 0 => serial_unforeseen_home
  | 1 => serial_unforeseen_home

theorem lateCommit_run :
    (Race.rivals .serial (Sessions.after .serial {} homeHistory).memory gameDay
      lateCommit).result? 0 = some (.error (.store (.duplicate "event period" "2024-06-01"))) := by
  decide +kernel

theorem earlyLook_run : ∀ i : Fin 2,
    (Race.rivals .serial (Sessions.after .serial {} homeHistory).memory gameDay
      earlyLook).result? i = some (.ok (.created (Store.hexGuid 'a' (![5, 3] i)))) := by
  decide +kernel

/-- The first upsert is refused if it has staged the period before the second one commits it, and
it takes over the period and the teams if it looks for them later. -/
theorem gameDay_settles : Mint.serial.Distinct ∧ Mint.serial.Slashless ∧
    (gameDay 0).externalId ≠ (gameDay 1).externalId ∧
    (∀ i, Mint.serial.Unforeseen (gameDay i).identity.language
      (Sessions.after .serial {} homeHistory).memory) ∧
    (∀ i, 18 ≤ lateCommit.count i ∧ 18 ≤ earlyLook.count i) ∧
    (∃ e, Beaten .serial (Sessions.after .serial {} homeHistory).memory gameDay lateCommit 0 e) ∧
    ∃ es : Fin 2 → Event, (∀ i, (es i).externalId = (gameDay i).externalId) ∧
      Joint gameDay es (Race.rivals .serial (Sessions.after .serial {} homeHistory).memory gameDay
        earlyLook).memory.committed := by
  have hne : (gameDay 0).externalId ≠ (gameDay 1).externalId := by decide
  have hlate : ∀ i, 18 ≤ lateCommit.count i := by decide
  have hearly : ∀ i, 18 ≤ earlyLook.count i := by decide
  have hrefused := rival_upserts_settle Mint.serial_distinct Mint.serial_slashless homeHistory hne
    gameDay_unforeseen hlate
  have htaken := rival_upserts_settle Mint.serial_distinct Mint.serial_slashless homeHistory hne
    gameDay_unforeseen hearly
  obtain ⟨es, hes, hshared⟩ := htaken.joint _ earlyLook_run
  exact ⟨Mint.serial_distinct, Mint.serial_slashless, hne, gameDay_unforeseen,
    fun i => ⟨hlate i, hearly i⟩, ⟨_, hrefused.beaten 0 _ lateCommit_run⟩, es,
    fun i => (hes i).2, hshared⟩

/-- Not every upsert that runs beside another one of a different event succeeds. -/
theorem rival_upsert_refused :
    ¬∀ (history : List (Sessions.Action Bool)) (os : Fin 2 → Observation) (turns : List (Fin 2)),
      (os 0).externalId ≠ (os 1).externalId →
      (∀ i, Mint.serial.Unforeseen (os i).identity.language
        (Sessions.after .serial {} history).memory) →
      (∀ i, 18 ≤ turns.count i) → ∀ i : Fin 2, ∃ outcome,
        (Race.rivals .serial (Sessions.after .serial {} history).memory os turns).result? i =
          some (.ok outcome) := by
  intro h
  obtain ⟨outcome, hok⟩ :=
    h homeHistory gameDay lateCommit (by decide) gameDay_unforeseen (by decide) 0
  exact nomatch lateCommit_run.symm.trans hok

end LiveEvents.Upsert
