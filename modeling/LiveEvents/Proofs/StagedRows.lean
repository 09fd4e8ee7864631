import LiveEvents.Proofs.TableRows
import LiveEvents.Rows

/-!
# Staged rows beside committed rows

The invariants of one table under any number of transactions. Guids are given out in order, `n`
of them so far. Committed rows have different natural keys. The staged rows of a transaction
agree with the committed rows of their guids in every column that no update changes, and those
that are new have different natural keys. Two transactions share no guid that is not committed.

`Change` is what one call may do to the staged rows of a table. Each invariant survives a change
of the own rows, a change of another transaction's rows, and a commit.
-/

namespace LiveEvents.Store

/-- The columns of a row that no update changes; the natural key depends on nothing else. -/
class Fixed (α : Type) [Row α] where
  Part : Type
  part : α → Part
  key_eq : ∀ {a b : α}, part a = part b → Row.key a = Row.key b

instance : Fixed Event where
  Part := String × Guid × Guid × Bool × Instant
  part e := (e.externalId, e.category, e.ecosystem, e.isSports, e.createdAt)
  key_eq h := congrArg Prod.fst h

theorem part_event_eq_iff (e e' : Event) : Fixed.part e = Fixed.part e' ↔
    e.externalId = e'.externalId ∧ e.category = e'.category ∧ e.ecosystem = e'.ecosystem ∧
      e.isSports = e'.isSports ∧ e.createdAt = e'.createdAt := by
  change ((e.externalId, e.category, e.ecosystem, e.isSports, e.createdAt) :
    String × Guid × Guid × Bool × Instant) = (_, _, _, _, _) ↔ _
  simp only [Prod.mk.injEq]

instance : Fixed Title where
  Part := Guid × Guid × String
  part t := (t.event, t.language, t.rules)
  key_eq h := congrArg (fun p : Guid × Guid × String => pairKey p.1 p.2.1) h

instance : Fixed Period := ⟨Period, id, fun h => congrArg Row.key h⟩

instance : Fixed Team := ⟨Team, id, fun h => congrArg Row.key h⟩

instance : Fixed TeamName := ⟨TeamName, id, fun h => congrArg Row.key h⟩

namespace Table

variable {α : Type} {f : ℕ → Guid} {n n' : ℕ}

/-- Two transactions stage rows under one guid only if it is committed. -/
def Apart (committed staged staged' : Table α) : Prop :=
  ∀ g, staged.contains g = true → staged'.contains g = true → committed.contains g = true

theorem Apart.nil_left (committed staged : Table α) : Apart committed [] staged := by
  simp [Apart, contains]

theorem Apart.symm {committed staged staged' : Table α} (h : Apart committed staged staged') :
    Apart committed staged' staged := fun g hg hg' => h g hg' hg

theorem Apart.publish {committed staged other : Table α} (h : Apart committed staged other)
    (published : Table α) : Apart (committed.putAll published) staged other :=
  fun g hg hg' => contains_putAll_of_left (h g hg hg') published

/-- A guid that is yet to be given out is not in use. -/
theorem not_contains_of_given (hf : f.Injective) {t : Table α}
    (h : ∀ g, t.contains g = true → ∃ i < n, f i = g) : t.contains (f n) = false := by
  by_contra hc
  obtain ⟨i, hi, he⟩ := h (f n) (by simpa using hc)
  have := hf he
  omega

variable [Row α]

structure Committed (f : ℕ → Guid) (n : ℕ) (t : Table α) : Prop extends Keyed t where
  given : ∀ g, t.contains g = true → ∃ i < n, f i = g
  unique : ∀ g g' row row', t.get? g = some row → t.get? g' = some row' →
    Row.key row = Row.key row' → g = g'

theorem Committed.nil : Committed f n ([] : Table α) :=
  { Keyed.nil with
    given := by simp [contains]
    unique := by simp }

theorem Committed.mono {t : Table α} (h : Committed f n t) (hn : n ≤ n') : Committed f n' t where
  toKeyed := h.toKeyed
  given g hg := by
    obtain ⟨i, hi, he⟩ := h.given g hg
    exact ⟨i, by omega, he⟩
  unique := h.unique

variable [Fixed α]

structure Staged (f : ℕ → Guid) (n : ℕ) (committed staged : Table α) : Prop
    extends Keyed staged where
  given : ∀ g, staged.contains g = true → ∃ i < n, f i = g
  fixed : ∀ g row row', staged.get? g = some row → committed.get? g = some row' →
    Fixed.part row = Fixed.part row'
  unique : ∀ g g' row row', staged.get? g = some row → staged.get? g' = some row' →
    committed.contains g = false → committed.contains g' = false →
    Row.key row = Row.key row' → g = g'

theorem Staged.nil (committed : Table α) : Staged f n committed [] :=
  { Keyed.nil with
    given := by simp [contains]
    fixed := by simp
    unique := by simp }

theorem Staged.mono {committed staged : Table α} (h : Staged f n committed staged) (hn : n ≤ n') :
    Staged f n' committed staged where
  toKeyed := h.toKeyed
  given g hg := by
    obtain ⟨i, hi, he⟩ := h.given g hg
    exact ⟨i, by omega, he⟩
  fixed := h.fixed
  unique := h.unique

/-- Every row is still there, and its fixed columns are as they were. -/
def Continues (early late : Table α) : Prop :=
  ∀ g row, early.get? g = some row →
    ∃ row', late.get? g = some row' ∧ Fixed.part row' = Fixed.part row

theorem Continues.refl (t : Table α) : Continues t t := fun _ row h => ⟨row, h, rfl⟩

theorem Continues.trans {t u v : Table α} (htu : Continues t u) (huv : Continues u v) :
    Continues t v := by
  intro g row h
  obtain ⟨row', h', hp'⟩ := htu g row h
  obtain ⟨row'', h'', hp''⟩ := huv g row' h'
  exact ⟨row'', h'', hp''.trans hp'⟩

theorem Continues.contains {t u : Table α} (h : Continues t u) {g : Guid}
    (hg : t.contains g = true) : u.contains g = true := by
  obtain ⟨row, hrow⟩ := (contains_iff t g).mp hg
  obtain ⟨row', hrow', _⟩ := h g row hrow
  exact (contains_iff u g).mpr ⟨row', hrow'⟩

/-- What a call may do to staged rows, with `n` guids given out before and `n'` after it. -/
inductive Change (f : ℕ → Guid) (n n' : ℕ) (committed staged : Table α) : Table α → Prop where
  | keep (hn : n ≤ n') : Change f n n' committed staged staged
  | insert (row : α) (hn : n' = n + 1) (hg : Row.guid row = f n)
      (hfree : find? staged committed (Row.key row) = none) :
      Change f n n' committed staged (staged.put (Row.guid row) row)
  | update (row row' : α) (g : Guid) (hn : n' = n)
      (hseen : findGuid? staged committed g = some row) (hg : Row.guid row' = Row.guid row)
      (hp : Fixed.part row' = Fixed.part row) :
      Change f n n' committed staged (staged.put g row')

/-! ## A change of staged rows -/

theorem Change.le {committed staged staged' : Table α}
    (h : Change f n n' committed staged staged') : n ≤ n' := by
  cases h with
  | keep hn => exact hn
  | insert _ hn _ _ => omega
  | update _ _ _ hn _ _ _ => omega

/-- An update stages a row under the guid of the row that it changes. -/
theorem guid_of_seen {committed staged : Table α} (hC : Committed f n committed)
    (hS : Staged f n committed staged) {g : Guid} {row : α}
    (hseen : findGuid? staged committed g = some row) : Row.guid row = g := by
  rw [findGuid?_eq] at hseen
  rcases Option.or_eq_some_iff.mp hseen with h | ⟨_, h⟩
  · exact hS.own g row h
  · exact hC.own g row h

/-- The row that an update sees agrees with the committed row of its guid. -/
theorem fixed_of_seen {committed staged : Table α} (hS : Staged f n committed staged) {g : Guid}
    {row row' : α} (hseen : findGuid? staged committed g = some row)
    (hrow' : committed.get? g = some row') : Fixed.part row = Fixed.part row' := by
  rw [findGuid?_eq] at hseen
  rcases Option.or_eq_some_iff.mp hseen with h | ⟨_, h⟩
  · exact hS.fixed g row row' h hrow'
  · rw [h] at hrow'
    rw [Option.some.inj hrow']

theorem Staged.insert (hf : f.Injective) {committed staged : Table α}
    (hC : Committed f n committed) (hS : Staged f n committed staged) {row : α}
    (hg : Row.guid row = f n) (hfree : find? staged committed (Row.key row) = none) :
    Staged f (n + 1) committed (staged.put (Row.guid row) row) := by
  have hnew : committed.get? (f n) = none :=
    (contains_eq_false_iff committed (f n)).mp (not_contains_of_given hf hC.given)
  obtain ⟨hstaged, _⟩ := (find?_eq_none_iff staged committed (Row.key row)).mp hfree
  refine { hS.toKeyed.put row with given := ?_, fixed := ?_, unique := ?_ }
  · intro g hc
    rcases (contains_put staged (Row.guid row) g row).mp hc with rfl | hc
    · exact ⟨n, by omega, hg.symm⟩
    · obtain ⟨i, hi, he⟩ := hS.given g hc
      exact ⟨i, by omega, he⟩
  · intro g r r' hr hr'
    rcases get?_put_cases hr with ⟨he, _⟩ | ⟨_, hr⟩
    · rw [he, hg, hnew] at hr'
      cases hr'
    · exact hS.fixed g r r' hr hr'
  · intro g g' r r' hr hr' hc hc' hk
    rcases get?_put_cases hr with ⟨he, rfl⟩ | ⟨_, hr⟩
    · rcases get?_put_cases hr' with ⟨he', _⟩ | ⟨_, hr'⟩
      · rw [he, he']
      · exact absurd hk.symm (hstaged r' (mem_rows_of_get? hr'))
    · rcases get?_put_cases hr' with ⟨_, rfl⟩ | ⟨_, hr'⟩
      · exact absurd hk (hstaged r (mem_rows_of_get? hr))
      · exact hS.unique g g' r r' hr hr' hc hc' hk

theorem Staged.update {committed staged : Table α} (hC : Committed f n committed)
    (hS : Staged f n committed staged) {row row' : α} {g : Guid}
    (hseen : findGuid? staged committed g = some row) (hg : Row.guid row' = Row.guid row)
    (hp : Fixed.part row' = Fixed.part row) :
    Staged f n committed (staged.put g row') := by
  have hg' : Row.guid row' = g := hg.trans (guid_of_seen hC hS hseen)
  have hkey : Row.key row' = Row.key row := Fixed.key_eq hp
  -- a new row is staged under the key of the row that was staged under its guid
  have hold : ∀ c q, committed.contains c = false → (staged.put g row').get? c = some q →
      ∃ q', staged.get? c = some q' ∧ Row.key q' = Row.key q := by
    intro c q hc hq
    rcases get?_put_cases hq with ⟨rfl, rfl⟩ | ⟨_, hq⟩
    · rw [findGuid?_eq, (contains_eq_false_iff committed c).mp hc] at hseen
      exact ⟨row, by simpa using hseen, hkey.symm⟩
    · exact ⟨q, hq, rfl⟩
  refine { (hg' ▸ hS.toKeyed.put row' : Keyed (staged.put g row')) with
    given := ?_, fixed := ?_, unique := ?_ }
  · intro h hc
    rcases (contains_put staged g h row').mp hc with rfl | hc
    · rw [findGuid?_eq] at hseen
      rcases Option.or_eq_some_iff.mp hseen with hrow | ⟨_, hrow⟩
      · exact hS.given h ((contains_iff staged h).mpr ⟨row, hrow⟩)
      · exact hC.given h ((contains_iff committed h).mpr ⟨row, hrow⟩)
    · exact hS.given h hc
  · intro h r r' hr hr'
    rcases get?_put_cases hr with ⟨rfl, rfl⟩ | ⟨_, hr⟩
    · exact hp.trans (fixed_of_seen hS hseen hr')
    · exact hS.fixed h r r' hr hr'
  · intro h h' r r' hr hr' hc hc' hk
    obtain ⟨q, hq, hqk⟩ := hold h r hc hr
    obtain ⟨q', hq', hqk'⟩ := hold h' r' hc' hr'
    exact hS.unique h h' q q' hq hq' hc hc' (by rw [hqk, hqk', hk])

theorem Staged.change (hf : f.Injective) {committed staged staged' : Table α}
    (hC : Committed f n committed) (hS : Staged f n committed staged)
    (h : Change f n n' committed staged staged') : Staged f n' committed staged' := by
  cases h with
  | keep hn => exact hS.mono hn
  | insert row hn hg hfree =>
    subst hn
    exact hS.insert hf hC hg hfree
  | update row row' g hn hseen hg hp =>
    subst hn
    exact hS.update hC hseen hg hp

theorem Apart.change (hf : f.Injective) {committed staged staged' other : Table α}
    (hO : Staged f n committed other) (hA : Apart committed staged other)
    (h : Change f n n' committed staged staged') : Apart committed staged' other := by
  intro k hk hother
  cases h with
  | keep _ => exact hA k hk hother
  | insert row _ hg _ =>
    rcases (contains_put staged _ k row).mp hk with rfl | hk
    · rw [hg, not_contains_of_given hf hO.given] at hother
      cases hother
    · exact hA k hk hother
  | update row row' g _ hseen _ _ =>
    rcases (contains_put staged g k row').mp hk with rfl | hk
    · rw [findGuid?_eq] at hseen
      rcases Option.or_eq_some_iff.mp hseen with hrow | ⟨_, hrow⟩
      · exact hA k ((contains_iff staged k).mpr ⟨row, hrow⟩) hother
      · exact (contains_iff committed k).mpr ⟨row, hrow⟩
    · exact hA k hk hother

/-! ## A commit -/

theorem Staged.continues {committed staged : Table α} (hS : Staged f n committed staged) :
    Continues committed (committed.putAll staged) := by
  intro g row h
  rw [get?_putAll committed hS.nodup]
  cases hs : staged.get? g with
  | some row' => exact ⟨row', by simp, hS.fixed g row' row hs h⟩
  | none => exact ⟨row, by simpa using h, rfl⟩

/-- A row of the new table that is not new has the key of a committed row of its guid. -/
theorem Staged.key_of_contains {committed staged : Table α} (hS : Staged f n committed staged)
    {g : Guid} {row : α} (h : (committed.putAll staged).get? g = some row)
    (hc : committed.contains g = true) :
    ∃ row', committed.get? g = some row' ∧ Row.key row' = Row.key row := by
  obtain ⟨row', hrow'⟩ := (contains_iff committed g).mp hc
  obtain ⟨row'', hrow'', hp⟩ := hS.continues g row' hrow'
  rw [h] at hrow''
  rw [← Option.some.inj hrow''] at hp
  exact ⟨row', hrow', (Fixed.key_eq hp).symm⟩

/-- A row of the new table that is new is a staged row. -/
theorem Staged.get?_of_new {committed staged : Table α} (hS : Staged f n committed staged)
    {g : Guid} {row : α} (h : (committed.putAll staged).get? g = some row)
    (hc : committed.contains g = false) : staged.get? g = some row := by
  rw [get?_putAll committed hS.nodup, (contains_eq_false_iff committed g).mp hc] at h
  simpa using h

theorem Committed.publish {committed staged : Table α} (hC : Committed f n committed)
    (hS : Staged f n committed staged) (hfree : conflict? staged committed = none) :
    Committed f n (committed.putAll staged) := by
  have hclash : ∀ g row g' row', staged.get? g = some row → committed.contains g = false →
      committed.get? g' = some row' → Row.key row' ≠ Row.key row := by
    intro g row g' row' hrow hc hrow'
    have hown := hS.own g row hrow
    exact (conflict?_eq_none_iff staged committed).mp hfree row (mem_rows_of_get? hrow)
      (by rw [hown]; exact hc) row' (mem_rows_of_get? hrow')
  refine { hC.toKeyed.putAll hS.toKeyed with given := ?_, unique := ?_ }
  · intro g hc
    obtain ⟨row, hrow⟩ := (contains_iff _ g).mp hc
    rw [get?_putAll committed hS.nodup] at hrow
    rcases Option.or_eq_some_iff.mp hrow with h | ⟨_, h⟩
    · exact hS.given g ((contains_iff staged g).mpr ⟨row, h⟩)
    · exact hC.given g ((contains_iff committed g).mpr ⟨row, h⟩)
  · intro g g' row row' hrow hrow' hk
    cases hc : committed.contains g with
    | true =>
      obtain ⟨r, hr, hrk⟩ := hS.key_of_contains hrow hc
      cases hc' : committed.contains g' with
      | true =>
        obtain ⟨r', hr', hrk'⟩ := hS.key_of_contains hrow' hc'
        exact hC.unique g g' r r' hr hr' (by rw [hrk, hrk', hk])
      | false =>
        have hs' := hS.get?_of_new hrow' hc'
        exact absurd (hrk.trans hk) (hclash g' row' g r hs' hc' hr)
    | false =>
      have hs := hS.get?_of_new hrow hc
      cases hc' : committed.contains g' with
      | true =>
        obtain ⟨r', hr', hrk'⟩ := hS.key_of_contains hrow' hc'
        exact absurd (hrk'.trans hk.symm) (hclash g row g' r' hs hc hr')
      | false => exact hS.unique g g' row row' hs (hS.get?_of_new hrow' hc') hc hc' hk

theorem Staged.publish {committed staged other : Table α} (hS : Staged f n committed staged)
    (hO : Staged f n committed other) (hA : Apart committed staged other) :
    Staged f n (committed.putAll staged) other := by
  refine { hO.toKeyed with given := hO.given, fixed := ?_, unique := ?_ }
  · intro g row row' hrow hrow'
    have hc : committed.contains g = true := by
      by_contra hc
      have hs := hS.get?_of_new hrow' (by simpa using hc)
      have hg : staged.contains g = true := (contains_iff staged g).mpr ⟨row', hs⟩
      exact hc (hA g hg ((contains_iff other g).mpr ⟨row, hrow⟩))
    obtain ⟨r, hr⟩ := (contains_iff committed g).mp hc
    obtain ⟨r', hr', hp⟩ := hS.continues g r hr
    rw [hrow'] at hr'
    rw [Option.some.inj hr', hp]
    exact hO.fixed g row r hrow hr
  · intro g g' row row' hrow hrow' hc hc' hk
    have hback : ∀ k, (committed.putAll staged).contains k = false →
        committed.contains k = false := by
      intro k hk
      by_contra hk'
      rw [contains_putAll_of_left (by simpa using hk') staged] at hk
      cases hk
    exact hO.unique g g' row row' hrow hrow' (hback g hc) (hback g' hc') hk

end Table

end LiveEvents.Store
