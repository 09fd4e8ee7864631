import LiveEvents.Proofs.PrintedJson
import LiveEvents.Proofs.RecordFields

/-!
# What stands for the fields of a record

A field of a record may be needed, may have a fallback, or may have no value. What may stand for it
in an object is a slot: a field that is its fallback may be left out, and one without a value may
also be null. Whatever fills the slots of a record, its fields are read back.
-/

namespace LiveEvents.Json

/-- What may stand for a field, if anything does. -/
abbrev Slot : Type := Option Node → Prop

namespace Slot

variable {α : Type}

/-- A field that has to be there. -/
inductive Required (describedBy : α → Node → Prop) (value : α) : Option Node → Prop where
  | given {n : Node} (h : describedBy value n) : Required describedBy value (some n)

/-- A field that may be left out if it is its fallback. -/
inductive OrElse (describedBy : α → Node → Prop) (fallback value : α) : Option Node → Prop where
  | given {n : Node} (h : describedBy value n) : OrElse describedBy fallback value (some n)
  | omitted (h : value = fallback) : OrElse describedBy fallback value none

/-- A field that is null or left out if it has no value. -/
inductive Optional (describedBy : α → Node → Prop) : Option α → Option Node → Prop where
  | given {n : Node} {value : α} (h : describedBy value n) :
      Optional describedBy (some value) (some n)
  | null : Optional describedBy none (some .null)
  | omitted : Optional describedBy none none

variable {describedBy : α → Node → Prop} {read : Node → Option α} {fallback value : α} {f : Fields}
  {name : String}

theorem Required.required? (h : Required describedBy value (f.values.lookup name))
    (hread : ∀ n, describedBy value n → read n = some value) :
    f.required? name read = some value := by
  unfold Fields.required?
  generalize f.values.lookup name = o at h
  cases h with
  | given hn => exact hread _ hn

theorem OrElse.orElse? (h : OrElse describedBy fallback value (f.values.lookup name))
    (hread : ∀ n, describedBy value n → read n = some value) :
    f.orElse? name fallback read = some value := by
  unfold Fields.orElse?
  generalize f.values.lookup name = o at h
  cases h with
  | given hn => exact hread _ hn
  | omitted hvalue => exact congrArg some hvalue.symm

/-- A field is read as long as no value is read of a null. -/
theorem Optional.optional? {value : Option α} (hplace : f.byPlace = false)
    (h : Optional describedBy value (f.values.lookup name)) (hnull : read .null = none)
    (hread : ∀ a ∈ value, ∀ n, describedBy a n → read n = some a) :
    f.optional? name read = some value := by
  unfold Fields.optional?
  generalize f.values.lookup name = o at h
  cases h with
  | @given n a hn =>
    have ha := hread a rfl n hn
    cases n with
    | null => cases hnull.symm.trans ha
    | bool _ | number _ | string _ | array _ | object _ => simp [ha]
  | null => rfl
  | omitted => simp [hplace]

/-- A text, empty if it is left out. -/
def text (s : String) : Slot := OrElse (fun s n => n = .ofText s) "" s

theorem text_orElse? {s : String} (h : text s (f.values.lookup name)) :
    f.orElse? name "" Node.text? = some s := by
  refine OrElse.orElse? h ?_
  rintro _ rfl
  rfl

end Slot

/-- A field that is read well is followed by the next. -/
theorem bind_eq_of_eq_some {α β : Type} {o : Option α} {a : α} {next : α → Option β} {r : Option β}
    (ho : o = some a) (hnext : next a = r) : o >>= next = r := ho ▸ hnext

/-- A whole number of so many bits with a sign. -/
def FitsIn (bits : ℕ) (i : ℤ) : Prop := -2 ^ (bits - 1) ≤ i ∧ i < 2 ^ (bits - 1)

/-- A whole number that fits is read back. -/
theorem Node.int?_ofInt {bits : ℕ} {i : ℤ} (h : FitsIn bits i) :
    Node.int? bits (ofInt i).node = some i := by
  simp [node_ofInt, Node.int?, Numeral.integer?_ofInt, h.1, h.2]

/-- An object fills the slots of a record, in any order and among anything under other keys. -/
def Fills (slots : List (String × Slot)) (n : Node) : Prop :=
  ∃ given : String → Option Node, (∀ slot ∈ slots, slot.2 (given slot.1)) ∧
    Bears (slots.map (·.1)) ((slots.map (·.1)).map fun name => (name, given name)) n

theorem lookup_given {names : List String} {name : String} (h : name ∈ names)
    (given : String → Option Node) :
    (names.map fun name => (name, given name)).lookup name = some (given name) := by
  induction names with
  | nil => cases h
  | cons first rest ih =>
    rw [List.map_cons, List.lookup_cons]
    by_cases hfirst : name = first
    · simp [hfirst]
    · rw [beq_false_of_ne hfirst]
      exact ih ((List.mem_cons.mp h).resolve_left hfirst)

theorem keys_given (names : List String) (given : String → Option Node) :
    (names.map fun name => (name, given name)).map (·.1) = names := by
  rw [List.map_map]
  exact List.map_id names

/-- What is read of an object that fills the slots of a record fills them. -/
theorem exists_fields_of_fills (names : List String) {slots : List (String × Slot)} {n : Node}
    (h : Fills slots n) (hslots : slots.map (·.1) = names) (hnames : names.Nodup) :
    ∃ f, Fields.ofNode? names n = some f ∧ f.byPlace = false ∧
      ∀ slot ∈ slots, slot.2 (f.values.lookup slot.1) := by
  subst hslots
  obtain ⟨given, hgiven, hbears⟩ := h
  obtain ⟨f, hf, hcarries⟩ := Node.exists_carries_of_bears _ hbears
    ((keys_given _ given).symm ▸ hnames) fun _ hname => hname
  refine ⟨f, hf, hcarries.byPlace, fun slot hslot => ?_⟩
  have hname := List.mem_map_of_mem (f := (·.1)) hslot
  rw [hcarries.lookup slot.1 hname, lookup_given hname]
  exact hgiven slot hslot

/-! ## Objects that are printed -/

/-- What is printed for the members of an object. -/
def nodePairs (members : List (String × Json)) : List (String × Node) :=
  members.map fun member => (member.1, member.2.node)

theorem memberNodes_eq (members : List (String × Json)) :
    memberNodes members = keyed (nodePairs members) := by
  induction members with
  | nil => rfl
  | cons member rest ih =>
    rw [memberNodes, ih]
    rfl

theorem keys_nodePairs (members : List (String × Json)) :
    (nodePairs members).map (·.1) = members.map (·.1) := List.map_map

theorem lookup_nodePairs (members : List (String × Json)) (key : String) :
    (nodePairs members).lookup key = (members.lookup key).map node := by
  induction members with
  | nil => rfl
  | cons member rest ih =>
    change ((member.1, member.2.node) :: nodePairs rest).lookup key = _
    rw [List.lookup_cons, List.lookup_cons, ih]
    split <;> rfl

theorem mem_present_iff {fields : List (String × Option Node)} {pair : String × Node} :
    pair ∈ present fields ↔ (pair.1, some pair.2) ∈ fields := by
  obtain ⟨key, n⟩ := pair
  simp only [present, List.mem_filterMap, Option.map_eq_some_iff, Prod.mk.injEq]
  constructor
  · rintro ⟨field, hfield, n, hn, rfl, rfl⟩
    rwa [← hn]
  · intro h
    exact ⟨_, h, n, rfl, rfl, rfl⟩

/-- What is found under some keys are the pairs with these keys. -/
theorem present_lookup_perm {names : List String} {pairs : List (String × Node)}
    (hnames : names.Nodup) (hpairs : (pairs.map (·.1)).Nodup) :
    (present (names.map fun name => (name, pairs.lookup name))).Perm
      (pairs.filter (·.1 ∈ names)) := by
  have hkeys := (keys_present (names.map fun name => (name, pairs.lookup name))).nodup
    ((keys_given names _).symm ▸ hnames)
  refine (List.perm_ext_iff_of_nodup (.of_map _ hkeys) ((List.Nodup.of_map _ hpairs).filter _)).mpr
    fun pair => ?_
  simp only [mem_present_iff, List.mem_map, List.mem_filter, Prod.mk.injEq, decide_eq_true_eq,
    lookup_eq_some_iff hpairs]
  constructor
  · rintro ⟨name, hname, rfl, hpair⟩
    exact ⟨hpair, hname⟩
  · rintro ⟨hpair, hname⟩
    exact ⟨_, hname, rfl, hpair⟩

/-- Members under different keys fill the slots that they stand for. -/
theorem fills_object {slots : List (String × Slot)} {members : List (String × Json)}
    (hnames : (slots.map (·.1)).Nodup) (hmembers : (members.map (·.1)).Nodup)
    (h : ∀ slot ∈ slots, slot.2 ((members.lookup slot.1).map node)) :
    Fills slots (object members).node := by
  have hknown := present_lookup_perm hnames ((keys_nodePairs members).symm ▸ hmembers)
  simp only [lookup_nodePairs] at hknown
  refine ⟨fun name => (members.lookup name).map node, h, nodePairs members,
    (nodePairs members).filter fun pair => !decide (pair.1 ∈ slots.map (·.1)), ?_, ?_, ?_⟩
  · rw [node, memberNodes_eq]
  · exact (List.filter_append_perm _ _).symm.trans (hknown.symm.append_right _)
  · intro o ho
    simpa using (List.mem_filter.mp ho).2

/-! ## Records of texts -/

/-- The slots of a record that has nothing but texts, each empty if it is left out. -/
def textSlots (fields : List (String × String)) : List (String × Slot) :=
  fields.map fun field => (field.1, .text field.2)

/-- The object in which all of these texts stand. -/
def textObject (fields : List (String × String)) : Json :=
  .object (fields.map fun field => (field.1, .string field.2))

theorem fills_textObject {fields : List (String × String)} (h : (fields.map (·.1)).Nodup) :
    Fills (textSlots fields) (textObject fields).node := by
  have hslots : ((textSlots fields).map (·.1)).Nodup := by
    rw [textSlots, List.map_map]
    exact h
  have hmembers : ((fields.map fun field => (field.1, string field.2)).map (·.1)).Nodup := by
    rw [List.map_map]
    exact h
  refine fills_object hslots hmembers fun slot hslot => ?_
  obtain ⟨⟨key, s⟩, hfield, rfl⟩ := List.mem_map.mp hslot
  rw [(lookup_eq_some_iff hmembers).mpr (List.mem_map.mpr ⟨_, hfield, rfl⟩)]
  exact .given rfl

/-- Every text of a record of texts is read. -/
theorem exists_texts_of_fills (names : List String) {fields : List (String × String)} {n : Node}
    (h : Fills (textSlots fields) n) (hfields : fields.map (·.1) = names) (hnames : names.Nodup) :
    ∃ f, Fields.ofNode? names n = some f ∧
      ∀ field ∈ fields, f.orElse? field.1 "" Node.text? = some field.2 := by
  have hslots : (textSlots fields).map (·.1) = names := by
    rw [← hfields, textSlots, List.map_map]
    rfl
  obtain ⟨f, hf, -, hread⟩ := exists_fields_of_fills names h hslots hnames
  exact ⟨f, hf, fun field hfield => Slot.text_orElse? (hread _ (List.mem_map_of_mem hfield))⟩

end LiveEvents.Json
