import LiveEvents.Json.Fields
import LiveEvents.Proofs.KeyedLists

/-!
# The fields of a record

An object bears a record when its fields stand there in any order, each at most once, among
anything under keys that nobody knows, and it holds the record when only texts stand there besides.
What is read of such an object are its fields.
-/

namespace LiveEvents.Json

def Node.ofText (s : String) : Node := .string (some s)

def present (fields : List (String × Option Node)) : List (String × Node) :=
  fields.filterMap fun field => field.2.map (field.1, ·)

/-- Texts under their keys. -/
def texts (extras : List (String × String)) : List (String × Node) :=
  extras.map fun e => (e.1, .ofText e.2)

/-- Members under keys that are texts. -/
def keyed (pairs : List (String × Node)) : List (Option String × Node) :=
  pairs.map fun pair => (some pair.1, pair.2)

/-- An object with these fields, in any order, and with any texts under keys that are not known. -/
def Holds (known : List String) (fields : List (String × Option Node)) (n : Node) : Prop :=
  ∃ pairs extras, n = .object (keyed pairs) ∧ pairs.Perm (present fields ++ texts extras) ∧
    ∀ e ∈ extras, e.1 ∉ known

/-- An object with these fields, in any order, and with anything under keys that are not known. -/
def Bears (known : List String) (fields : List (String × Option Node)) (n : Node) : Prop :=
  ∃ pairs others, n = .object (keyed pairs) ∧ pairs.Perm (present fields ++ others) ∧
    ∀ o ∈ others, o.1 ∉ known

theorem notMem_texts {known : List String} {extras : List (String × String)}
    (h : ∀ e ∈ extras, e.1 ∉ known) : ∀ o ∈ texts extras, o.1 ∉ known := by
  intro o ho
  obtain ⟨e, he, rfl⟩ := List.mem_map.mp ho
  exact h e he

theorem Holds.bears {known : List String} {fields : List (String × Option Node)} {n : Node}
    (h : Holds known fields n) : Bears known fields n := by
  obtain ⟨pairs, extras, hn, hpairs, hextras⟩ := h
  exact ⟨pairs, texts extras, hn, hpairs, notMem_texts hextras⟩

/-- It does not matter in which order the fields are listed. -/
theorem Holds.reorder {known : List String} {fields fields' : List (String × Option Node)}
    {n : Node} (h : Holds known fields n) (hfields : (present fields).Perm (present fields')) :
    Holds known fields' n := by
  obtain ⟨pairs, extras, rfl, hpairs, hextras⟩ := h
  exact ⟨pairs, extras, rfl, hpairs.trans (hfields.append_right _), hextras⟩

/-! ## Looking up keys -/

theorem keys_present (fields : List (String × Option Node)) :
    ((present fields).map (·.1)).Sublist (fields.map (·.1)) := by
  induction fields with
  | nil => exact .slnil
  | cons field rest ih =>
    obtain ⟨key, value⟩ := field
    cases value with
    | none => exact .cons _ ih
    | some n => exact .cons_cons _ ih

theorem lookup_present {fields : List (String × Option Node)} (h : (fields.map (·.1)).Nodup)
    (key : String) : (present fields).lookup key = (fields.lookup key).join := by
  induction fields with
  | nil => rfl
  | cons field rest ih =>
    obtain ⟨name, value⟩ := field
    obtain ⟨hfirst, hrest⟩ := List.nodup_cons.mp h
    have ih := ih hrest
    by_cases hk : key = name
    · subst hk
      cases value with
      | none =>
        have hnone : rest.lookup key = none := by
          rw [List.lookup_eq_none_iff]
          intro pair hpair
          apply bne_iff_ne.mpr
          rintro rfl
          exact hfirst (List.mem_map.mpr ⟨pair, hpair, rfl⟩)
        simpa [present, List.lookup_cons, hnone] using ih
      | some n => simp [present]
    · cases value with
      | none => simpa [present, List.lookup_cons, beq_false_of_ne hk] using ih
      | some n => simpa [present, List.lookup_cons, beq_false_of_ne hk] using ih

/-! ## Reading a record -/

namespace Fields

/-- A known key that stands only once is collected, and every other key is passed over. -/
theorem collect?_keyed {names : List String} {done pairs : List (String × Node)}
    (h : ((done ++ pairs.filter (·.1 ∈ names)).map (·.1)).Nodup) :
    collect? names done (keyed pairs) = some (done ++ pairs.filter (·.1 ∈ names)) := by
  induction pairs generalizing done with
  | nil => simp [keyed, collect?]
  | cons pair rest ih =>
    obtain ⟨key, n⟩ := pair
    by_cases hkey : key ∈ names
    · have hfilter : (((key, n) :: rest).filter (·.1 ∈ names)) =
          (key, n) :: rest.filter (·.1 ∈ names) := by
        simp [hkey]
      rw [hfilter, List.append_cons] at h ⊢
      have hnew : done.lookup key = none := by
        rw [List.lookup_eq_none_iff]
        intro pair hpair
        apply bne_iff_ne.mpr
        rintro rfl
        simp only [List.map_append, List.map_cons, List.map_nil, List.append_assoc] at h
        exact List.disjoint_of_nodup_append h (List.mem_map_of_mem hpair) (by simp)
      simpa [keyed, collect?, hkey, hnew] using ih h
    · have hfilter : (((key, n) :: rest).filter (·.1 ∈ names)) = rest.filter (·.1 ∈ names) := by
        simp [hkey]
      rw [hfilter] at h ⊢
      simpa [keyed, collect?, hkey] using ih h

/-- The fields under these names are read, and no others. -/
structure Carries (f : Fields) (names : List String) (fields : List (String × Option Node)) :
    Prop where
  byPlace : f.byPlace = false
  lookup : ∀ key ∈ names, f.values.lookup key = (fields.lookup key).join

/-- A record is found in the members of an object, whatever their order and whatever else there
is. -/
theorem exists_carries (names : List String) {known : List String}
    {fields : List (String × Option Node)} {pairs others : List (String × Node)}
    (hpairs : pairs.Perm (present fields ++ others)) (hothers : ∀ o ∈ others, o.1 ∉ known)
    (hnodup : (fields.map (·.1)).Nodup) (hnames : ∀ key ∈ names, key ∈ known) :
    ∃ f, ofMembers? names (keyed pairs) = some f ∧ f.Carries names fields := by
  have hnone : others.filter (·.1 ∈ names) = [] := by
    rw [List.filter_eq_nil_iff]
    intro o ho
    simpa using fun hname => hothers o ho (hnames _ hname)
  have hperm : (pairs.filter (·.1 ∈ names)).Perm ((present fields).filter (·.1 ∈ names)) := by
    have hfilter := hpairs.filter (·.1 ∈ names)
    rwa [List.filter_append, hnone, List.append_nil] at hfilter
  have hpresent : ((present fields).map (·.1)).Nodup := hnodup.sublist (keys_present fields)
  have hread : (((present fields).filter (·.1 ∈ names)).map (·.1)).Nodup :=
    hpresent.sublist (List.filter_sublist.map _)
  have hkeys : ((pairs.filter (·.1 ∈ names)).map (·.1)).Nodup :=
    (hperm.map _).nodup_iff.mpr hread
  refine ⟨⟨pairs.filter (·.1 ∈ names), false⟩, ?_, rfl, ?_⟩
  · rw [ofMembers?, collect?_keyed (by simpa using hkeys)]
    rfl
  · intro key hkey
    rw [lookup_eq_of_perm hperm hkeys, lookup_filter (p := fun k => decide (k ∈ names))]
    · exact lookup_present hnodup key
    · simpa using hkey

variable {f : Fields} {names : List String} {fields : List (String × Option Node)}

theorem Carries.orElse (h : f.Carries names fields) (key : String) (hkey : key ∈ names) {α : Type}
    {read : Node → Option α} {fallback : α} :
    f.orElse? key fallback read = ((fields.lookup key).join.map read).getD (some fallback) := by
  rw [orElse?, h.lookup key hkey]
  cases (fields.lookup key).join <;> rfl

theorem Carries.text (h : f.Carries names fields) (key : String) (hkey : key ∈ names)
    {o : Option String} (ho : (fields.lookup key).join = o.map .ofText) (fallback : String) :
    f.orElse? key fallback Node.text? = some (o.getD fallback) := by
  rw [h.orElse key hkey, ho]
  cases o <;> rfl

/-- What is read of a field that may be missing or null. -/
inductive Gives {α : Type} (read : Node → Option α) : Option Node → Option α → Prop where
  | absent : Gives read none none
  | null : Gives read (some .null) none
  | value {n : Node} {v : α} (hn : n ≠ .null) (hv : read n = some v) : Gives read (some n) (some v)

theorem gives_text (o : Option String) : Gives Node.text? (o.map .ofText) o := by
  cases o with
  | none => exact .absent
  | some s => exact .value (by simp [Node.ofText]) rfl

theorem Carries.optional (h : f.Carries names fields) (key : String) (hkey : key ∈ names) {α : Type}
    {read : Node → Option α} {o : Option α} (ho : Gives read (fields.lookup key).join o) :
    f.optional? key read = some o := by
  rw [optional?, h.lookup key hkey, h.byPlace]
  generalize (fields.lookup key).join = v at ho
  cases ho with
  | absent | null => rfl
  | @value n v hn hv =>
    cases n with
    | null => exact absurd rfl hn
    | bool _ | number _ | string _ | array _ | object _ => simp [hv]

/-- Members that are left out under other keys make no difference. -/
theorem collect?_filter {names : List String} {done : List (String × Node)}
    {members : List (Option String × Node)} {p : Option String × Node → Bool}
    (h : ∀ m ∈ members, p m = false → ∃ key, m.1 = some key ∧ key ∉ names) :
    collect? names done (members.filter p) = collect? names done members := by
  induction members generalizing done with
  | nil => rfl
  | cons m rest ih =>
    have ih := fun done => @ih done fun m hm => h m (List.mem_cons_of_mem _ hm)
    obtain ⟨key, n⟩ := m
    cases hp : p (key, n) with
    | true =>
      rw [List.filter_cons_of_pos hp]
      cases key with
      | none => rfl
      | some key => simp only [collect?, ih]
    | false =>
      obtain ⟨key, rfl, hkey⟩ := h _ List.mem_cons_self hp
      rw [List.filter_cons_of_neg (by simp [hp]), ih]
      simp [collect?, hkey]

end Fields

namespace Node

/-- A record is read as an object. -/
theorem exists_carries_of_bears (names : List String) {known : List String}
    {fields : List (String × Option Node)} {n : Node} (h : Bears known fields n)
    (hnodup : (fields.map (·.1)).Nodup) (hnames : ∀ key ∈ names, key ∈ known) :
    ∃ f, Fields.ofNode? names n = some f ∧ f.Carries names fields := by
  obtain ⟨pairs, others, rfl, hpairs, hothers⟩ := h
  exact Fields.exists_carries names hpairs hothers hnodup hnames

/-- Members under texts that settle, settle together. -/
theorem membersToJson?_isSome {depth : Nat} {done : List (String × Json)}
    {pairs : List (String × Node)} (h : ∀ pair ∈ pairs, (pair.2.toJson? depth).isSome = true) :
    (membersToJson? depth done (keyed pairs)).isSome = true := by
  induction pairs generalizing done with
  | nil => rfl
  | cons pair rest ih =>
    obtain ⟨key, n⟩ := pair
    obtain ⟨value, hvalue⟩ := Option.isSome_iff_exists.mp (h _ List.mem_cons_self)
    change (membersToJson? depth done ((some key, n) :: keyed rest)).isSome = true
    rw [membersToJson?, hvalue]
    exact ih fun pair hpair => h pair (List.mem_cons_of_mem _ hpair)

end Node

end LiveEvents.Json
