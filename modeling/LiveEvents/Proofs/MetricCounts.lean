import LiveEvents.Metrics.Basic
import Mathlib.Data.List.Lex
import Mathlib.Data.String.Basic
import Mathlib.Tactic.SplitIfs

/-!
# What metrics count

Tallies and values by source are lists in the order of their keys, in which recording changes what
stands under one key and leaves the rest as it is. So from any metrics on, what stands under some
labels grows by as many as were recorded under them, whatever else was recorded meanwhile.
-/

namespace LiveEvents

section Ordered

variable {κ α : Type} [LinearOrder κ]

def adjust (key : κ) (f : Option α → α) : List (κ × α) → List (κ × α)
  | [] => [(key, f none)]
  | (k, a) :: rest =>
    if k = key then (k, f (some a)) :: rest
    else if key < k then (key, f none) :: (k, a) :: rest
    else (k, a) :: adjust key f rest

theorem Tally.bump_eq_adjust (labels : List String) (t : Tally) :
    t.bump labels = adjust labels (fun n => n.getD 0 + 1) t := by
  induction t with
  | nil => rfl
  | cons entry rest ih =>
    unfold Tally.bump adjust
    rw [ih]
    split_ifs <;> rfl

/-- The keys are in their order, each once. -/
abbrev Ordered (entries : List (κ × α)) : Prop := entries.Pairwise (·.1 < ·.1)

variable {key : κ} {f : Option α → α} {entries : List (κ × α)}

theorem mem_adjust {entry : κ × α} (h : entry ∈ adjust key f entries) :
    entry.1 = key ∨ entry ∈ entries := by
  induction entries with
  | nil =>
    rw [List.mem_singleton.mp h]
    exact .inl rfl
  | cons first rest ih =>
    unfold adjust at h
    split_ifs at h with heq hlt
    · rcases List.mem_cons.mp h with rfl | hrest
      · exact .inl heq
      · exact .inr (List.mem_cons_of_mem _ hrest)
    · rcases List.mem_cons.mp h with rfl | hrest
      · exact .inl rfl
      · exact .inr hrest
    · rcases List.mem_cons.mp h with rfl | hrest
      · exact .inr List.mem_cons_self
      · exact (ih hrest).imp_right (List.mem_cons_of_mem _)

/-- What comes before the first key comes before every key. -/
theorem lt_of_lt_head {first : κ × α} {rest : List (κ × α)} (h : Ordered (first :: rest))
    (hlt : key < first.1) : ∀ entry ∈ first :: rest, key < entry.1 := by
  intro entry hentry
  rcases List.mem_cons.mp hentry with rfl | hrest
  · exact hlt
  · exact hlt.trans ((List.pairwise_cons.mp h).1 entry hrest)

theorem ordered_adjust (h : Ordered entries) : Ordered (adjust key f entries) := by
  induction entries with
  | nil => exact List.pairwise_singleton _ _
  | cons first rest ih =>
    obtain ⟨hfirst, hrest⟩ := List.pairwise_cons.mp h
    unfold adjust
    split_ifs with heq hlt
    · exact List.pairwise_cons.mpr ⟨hfirst, hrest⟩
    · exact .cons (lt_of_lt_head h hlt) h
    · apply List.Pairwise.cons _ (ih hrest)
      intro entry hentry
      rcases mem_adjust hentry with rfl | hentry
      · exact lt_of_le_of_ne (not_lt.mp hlt) heq
      · exact hfirst entry hentry

variable [BEq κ] [LawfulBEq κ]

theorem lookup_cons_eq_ite (k : κ) (first : κ × α) (rest : List (κ × α)) :
    (first :: rest).lookup k = if k = first.1 then some first.2 else rest.lookup k := by
  rw [List.lookup_cons]
  by_cases hk : k = first.1
  · rw [if_pos hk, beq_iff_eq.mpr hk]
  · rw [if_neg hk, beq_eq_false_iff_ne.mpr hk]

theorem lookup_of_lt {k : κ} (h : ∀ entry ∈ entries, k < entry.1) : entries.lookup k = none := by
  rw [List.lookup_eq_none_iff]
  intro entry hentry
  simpa using (h entry hentry).ne

/-- What stands under the key is changed, and nothing else is. -/
theorem lookup_adjust (h : Ordered entries) (k : κ) : (adjust key f entries).lookup k =
    if k = key then some (f (entries.lookup key)) else entries.lookup k := by
  induction entries with
  | nil => exact lookup_cons_eq_ite k (key, f none) []
  | cons first rest ih =>
    unfold adjust
    by_cases heq : first.1 = key
    · simp only [lookup_cons_eq_ite, heq, if_true]
      split_ifs <;> rfl
    have hne : key ≠ first.1 := Ne.symm heq
    by_cases hlt : key < first.1
    · have hnone : (first :: rest).lookup key = none := lookup_of_lt (lt_of_lt_head h hlt)
      rw [if_neg heq, if_pos hlt, lookup_cons_eq_ite k (key, f none), hnone]
    · rw [if_neg heq, if_neg hlt, lookup_cons_eq_ite, ih h.of_cons, lookup_cons_eq_ite k first rest,
        lookup_cons_eq_ite key first rest, if_neg hne]
      by_cases hk : k = key
      · rw [if_neg (hk ▸ hne), if_pos hk, if_pos hk]
      · rw [if_neg hk, if_neg hk]

end Ordered

namespace Metrics

def after (measurements : List Measurement) : Metrics := measurements.foldl record {}

/-- Measurements that have a key are counted in some entries, one by one under their key. -/
structure Counts {κ α : Type} [LinearOrder κ] (entries : Metrics → List (κ × α))
    (count : Option α → Nat) (key? : Measurement → Option κ) : Prop where
  start : entries {} = []
  keyless : ∀ m x, key? x = none → entries (m.record x) = entries m
  keyed : ∀ m x key, key? x = some key → ∃ f : Option α → α,
    entries (m.record x) = adjust key f (entries m) ∧ ∀ a, count (some (f a)) = count a + 1

namespace Counts

variable {κ α : Type} [LinearOrder κ] {entries : Metrics → List (κ × α)} {count : Option α → Nat}
  {key? : Measurement → Option κ}

theorem ordered_record (h : Counts entries count key?) {m : Metrics} (hm : Ordered (entries m))
    (x : Measurement) : Ordered (entries (m.record x)) := by
  cases hkey : key? x with
  | none => rwa [h.keyless m x hkey]
  | some key =>
    obtain ⟨f, hadjust, -⟩ := h.keyed m x key hkey
    rw [hadjust]
    exact ordered_adjust hm

theorem ordered_foldl (h : Counts entries count key?) {m : Metrics} (hm : Ordered (entries m))
    (measurements : List Measurement) : Ordered (entries (measurements.foldl record m)) := by
  induction measurements generalizing m with
  | nil => exact hm
  | cons x rest ih => exact ih (h.ordered_record hm x)

variable [BEq κ] [LawfulBEq κ]

theorem lookup_record (h : Counts entries count key?) {m : Metrics} (hm : Ordered (entries m))
    (x : Measurement) (key : κ) : count ((entries (m.record x)).lookup key) =
      count ((entries m).lookup key) + if key? x = some key then 1 else 0 := by
  cases hkey : key? x with
  | none =>
    rw [h.keyless m x hkey]
    rfl
  | some key' =>
    obtain ⟨f, hadjust, hcount⟩ := h.keyed m x key' hkey
    rw [hadjust, lookup_adjust hm]
    by_cases heq : key = key'
    · rw [if_pos heq, if_pos (congrArg some heq.symm), hcount, heq]
    · rw [if_neg heq, if_neg fun hsome => heq (Option.some.inj hsome).symm]
      rfl

theorem lookup_foldl (h : Counts entries count key?) {m : Metrics} (hm : Ordered (entries m))
    (measurements : List Measurement) (key : κ) :
    count ((entries (measurements.foldl record m)).lookup key) =
      count ((entries m).lookup key) +
        measurements.countP (fun x => key? x == some key) := by
  induction measurements generalizing m with
  | nil => rfl
  | cons x rest ih =>
    rw [List.foldl_cons, ih (h.ordered_record hm x), h.lookup_record hm, List.countP_cons]
    simp only [beq_iff_eq]
    omega

/-- Each further measurement counts once under its key. -/
theorem lookup_after (h : Counts entries count key?) (before measurements : List Measurement)
    (key : κ) : count ((entries (after (before ++ measurements))).lookup key) =
      count ((entries (after before)).lookup key) +
        measurements.countP (fun x => key? x == some key) := by
  have hstart : Ordered (entries {}) := by
    rw [h.start]
    exact .nil
  unfold after
  rw [List.foldl_append]
  exact h.lookup_foldl (h.ordered_foldl hstart before) measurements key

end Counts

/-- A tally in which measurements are counted under their labels. -/
theorem counts_tally {tally : Metrics → Tally} {labels? : Measurement → Option (List String)}
    (hstart : tally {} = []) (hkeyless : ∀ m x, labels? x = none → tally (m.record x) = tally m)
    (hkeyed : ∀ m x labels, labels? x = some labels →
      tally (m.record x) = (tally m).bump labels) :
    Counts tally (·.getD 0) labels? where
  start := hstart
  keyless := hkeyless
  keyed m x labels h :=
    ⟨_, (hkeyed m x labels h).trans (Tally.bump_eq_adjust labels (tally m)), fun _ => rfl⟩

end Metrics

/-! ## What is counted -/

/-- What feeds count of the texts they read. -/
inductive FeedCount where
  | frames
  | ticks
  | decodeErrors
  deriving DecidableEq, Repr

namespace FeedCount

def tally : FeedCount → Metrics → Tally
  | frames => Metrics.frames
  | ticks => Metrics.ticks
  | decodeErrors => Metrics.decodeErrors

/-- The labels under which a measurement is counted, if it is. -/
def labels? : FeedCount → Measurement → Option (List String)
  | frames, .frame source | ticks, .tick source | decodeErrors, .decodeError source =>
    some [source]
  | _, _ => none

theorem counts (kind : FeedCount) :
    Metrics.Counts kind.tally (·.getD 0) kind.labels? := by
  apply Metrics.counts_tally
  · cases kind <;> rfl
  · intro m x h
    cases kind <;> cases x <;> first | rfl | cases h
  · intro m x labels h
    cases kind <;> cases x <;> cases h <;> rfl

end FeedCount

def Measurement.upsertSource? : Measurement → Option String
  | .upsert source _ _ => some source
  | _ => none

namespace Metrics

end Metrics

/-! ## Sums over labels -/

/-- All that was counted under some kind of labels. -/
def Tally.total (which : List String → Bool) : Tally → Nat
  | [] => 0
  | (labels, n) :: rest => (if which labels then n else 0) + total which rest

namespace Metrics

end Metrics

end LiveEvents
