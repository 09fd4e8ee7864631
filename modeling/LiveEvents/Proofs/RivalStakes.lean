import LiveEvents.Proofs.CompleteTables
import LiveEvents.Proofs.DirectWrites
import LiveEvents.Proofs.ProgramCourses

/-!
# What rivals leave to each other

An upsert runs beside one other upsert, its rival, which writes another event. `Memory.Rivals` says
what the rival may do between two calls: it adds rows under the keys of its own observation, and it
changes no row of another event. The periods, teams and names that an upsert has staged stay new
beside such a rival, but its keys may be taken.
-/

namespace LiveEvents

open Store (Call Entity Memory Mint Row StoreError Table Tables pairKey)

/-- Periods and teams are what upserts of different events may have in common. -/
def Store.Entity.Shared : Entity → Prop
  | .period | .team => True
  | _ => False

/-- The natural keys of the event, the period and the teams of an observation. -/
def Observation.Uses (o : Observation) : Entity → String → Prop
  | .event, key => key = o.externalId
  | .period, key => key = o.period.code
  | .team, key => ∃ pair, o.teams = some pair ∧
      (key = pairKey pair.home.externalId pair.ecosystem ∨
        key = pairKey pair.away.externalId pair.ecosystem)
  | .title, _ | .teamName, _ => False

/-- What the event of an observation says of the guids of rows under natural keys. -/
def Observation.Refers (o : Observation) (e : Event) : Entity → String → Guid → Prop
  | .period, key, g => key = o.period.code ∧ g = e.period
  | .team, key, g => ∃ pair, o.teams = some pair ∧
      ((key = pairKey pair.home.externalId pair.ecosystem ∧ g = e.homeTeam) ∨
        (key = pairKey pair.away.externalId pair.ecosystem ∧ g = e.awayTeam))
  | _, _, _ => False

theorem Observation.shared_of_refers (o : Observation) {e : Event} {k : Entity} {key : String}
    {g : Guid} (h : o.Refers e k key g) : k.Shared := by
  cases k with
  | period | team => trivial
  | event | title | teamName => exact h.elim

namespace Store

/-- A row that the upsert of an observation may have written. -/
def Tables.Touched (o : Observation) (t : Tables) : (k : Entity) → k.Of → Prop
  | .title, l => ∃ e ∈ t.events.rows, e.externalId = o.externalId ∧
      ∃ language, Row.key l = pairKey e.guid language
  | .teamName, n => t.teams.contains n.team = true
  | .event, e => o.Uses .event (Row.key e)
  | .period, p => o.Uses .period (Row.key p)
  | .team, t => o.Uses .team (Row.key t)

/-- The rows that an upsert has staged are its own to write. -/
def Tables.Owned (o : Observation) (committed staged : Tables) : Prop :=
  ∀ k, ∀ row ∈ (staged.of k).rows, (committed.publish staged).Touched o k row

/-- A row of this guid has this natural key. -/
def Tables.Holds (t : Tables) (k : Entity) (g : Guid) (key : String) : Prop :=
  ∃ row, (t.of k).get? g = some row ∧ Row.key row = key

/-- From one state to a later one, only the upsert of one observation has written. -/
structure Memory.Grows (o : Observation) (m m' : Memory) : Prop where
  continues : m.committed.Continues m'.committed
  given : ∀ k, m.given k ≤ m'.given k
  rows : ∀ k, ∀ row ∈ (m'.committed.of k).rows,
    row ∈ (m.committed.of k).rows ∨ m'.committed.Touched o k row

/-- What the upsert of an observation may do to a store while another one has staged these rows. -/
structure Memory.Rivals (mint : Mint) (o : Observation) (staged : Tables) (m m' : Memory) :
    Prop where
  sound : m'.Sound mint
  admits : m'.Admits mint staged
  grows : m.Grows o m'
  own : ∀ k g, (staged.of k).contains g = true → (m.committed.of k).contains g = false →
    (m'.committed.of k).contains g = false

variable {mint : Mint} {o : Observation} {m m' m'' : Memory} {staged other : Tables} {k : Entity}

theorem Tables.Holds.later {t t' : Tables} {g : Guid} {key : String} (h : t.Holds k g key)
    (hc : t.Continues t') : t'.Holds k g key := by
  obtain ⟨row, hget, hkey⟩ := h
  obtain ⟨row', hget', hpart⟩ := hc k g row hget
  exact ⟨row', hget', (Fixed.key_eq hpart).trans hkey⟩

theorem Tables.Holds.contains {t : Tables} {g : Guid} {key : String} (h : t.Holds k g key) :
    (t.of k).contains g = true := by
  obtain ⟨row, hget, _⟩ := h
  exact (Table.contains_iff _ _).mpr ⟨row, hget⟩

namespace Memory

/-- A row that was written is still one that was. -/
theorem touched_later (hm : m.Sound mint) (hm' : m'.Sound mint)
    (hc : m.committed.Continues m'.committed) {row : k.Of} (h : m.committed.Touched o k row) :
    m'.committed.Touched o k row := by
  cases k with
  | event | period | team => exact h
  | title =>
    obtain ⟨e, he, hid, language, hkey⟩ := h
    obtain ⟨e', he', hpart⟩ := hc .event _ e ((hm .event).get?_of_mem_rows he)
    refine ⟨e', Table.mem_rows_of_get? he', (congrArg Prod.fst hpart).trans hid, language, ?_⟩
    have hown : e'.guid = e.guid := (hm' .event).own _ e' he'
    rw [hown]
    exact hkey
  | teamName => exact Table.Continues.contains (hc .team) h

theorem Grows.refl (o : Observation) (m : Memory) : m.Grows o m where
  continues := Tables.Continues.refl _
  given _ := Nat.le_refl _
  rows _ _ h := Or.inl h

theorem Grows.trans (hm : m'.Sound mint) (hm' : m''.Sound mint) (h : m.Grows o m')
    (h' : m'.Grows o m'') : m.Grows o m'' where
  continues := h.continues.trans h'.continues
  given k := Nat.le_trans (h.given k) (h'.given k)
  rows k row hrow := by
    rcases h'.rows k row hrow with hold | hnew
    · exact (h.rows k row hold).imp_right (touched_later hm hm' h'.continues)
    · exact Or.inr hnew

theorem Rivals.refl (hm : m.Sound mint) (hs : m.Admits mint staged) :
    Rivals mint o staged m m :=
  ⟨hm, hs, Grows.refl o m, fun _ _ _ h => h⟩

theorem Rivals.trans (h : Rivals mint o staged m m') (h' : Rivals mint o staged m' m'') :
    Rivals mint o staged m m'' :=
  ⟨h'.sound, h'.admits, h.grows.trans h.sound h'.sound h'.grows,
    fun k g hg hnew => h'.own k g hg (h.own k g hg hnew)⟩

theorem Step.given_le {staged' : Tables} (h : Step mint m staged m' staged') (k : Entity) :
    m.given k ≤ m'.given k := by
  cases h with
  | forget => exact Nat.le_refl _
  | stage _ h => exact (h k).le
  | publish _ => exact Nat.le_refl _

/-- Every call of an upsert that commits only what it owns is one that a rival can live with. -/
theorem rivals_perform (hm : m.Sound mint) (hs : m.Admits mint staged)
    (ho : m.Admits mint other) (ha : m.committed.Apart staged other) {c : Call}
    (hready : c = .commit → m.committed.Owned o staged) :
    Rivals mint o other m (m.perform mint staged c).2.1 := by
  have hstep := perform_step mint m staged c
  refine ⟨hstep.sound hm hs, hstep.admits_other hs ho ha,
    ⟨hstep.continues hs, hstep.given_le, ?_⟩, hstep.own_other hs ha⟩
  intro k row hrow
  by_cases hc : c = .commit
  · rcases perform_publishes mint m staged c with hsame | hpublished
    · rw [hsame] at hrow
      exact Or.inl hrow
    · have hget := ((hstep.sound hm hs) k).get?_of_mem_rows hrow
      rw [hpublished] at hget ⊢
      rcases Tables.staged_or_committed hs k hget with hnew | hold
      · exact Or.inr (hready hc k row (Table.mem_rows_of_get? hnew))
      · exact Or.inl (Table.mem_rows_of_get? hold)
  · rw [perform_committed mint m staged hc] at hrow
    exact Or.inl hrow

/-- Names that nobody could foresee when the rival began are still not foreseen. -/
theorem unforeseen_grows {language : Guid} (hd : mint.Distinct) (hslash : mint.Slashless)
    (hm' : m'.Sound mint) (h : mint.Unforeseen language m) (hg : m.Grows o m') :
    mint.Unforeseen language m' := by
  intro i hi name hname hkey
  rcases hg.rows .teamName name hname with hold | hnew
  · exact h i (Nat.le_trans (hg.given .team) hi) name hold hkey
  · obtain ⟨j, hj, hteam⟩ := (hm' .team).given _ hnew
    have hteam' : mint.row j = name.team := hteam
    have hkey' : pairKey (mint.row j) name.language = pairKey (mint.row i) language := by
      rw [hteam']
      exact hkey
    have hij := hd.row (pairKey_injective (hslash j) (hslash i) hkey').1
    have hlt : j < m'.rows := hj
    omega

/-- A free row stays free if the rival has nothing to write under its key. -/
theorem Rivals.conflict?_eq_none (hr : Rivals mint o staged m m')
    (h : Table.conflict? (staged.of k) (m.committed.of k) = none)
    (hnew : ∀ row ∈ (staged.of k).rows, (m'.committed.of k).contains (Row.guid row) = false →
      ∀ r ∈ (m'.committed.of k).rows, m'.committed.Touched o k r → Row.key r ≠ Row.key row) :
    Table.conflict? (staged.of k) (m'.committed.of k) = none := by
  rw [Table.conflict?_eq_none_iff] at h ⊢
  intro row hrow hfree r hr'
  rcases hr.grows.rows k r hr' with hold | htouched
  · refine h row hrow ?_ r hold
    by_contra hc
    rw [Table.Continues.contains (hr.grows.continues k) (by simpa using hc)] at hfree
    cases hfree
  · exact hnew row hrow hfree r hr' htouched

/-- What is found under a natural key is still found, be it another row. -/
theorem Rivals.find?_some (hr : Rivals mint o staged m m') (hm : m.Sound mint) {key : String}
    {row : k.Of} (h : Table.find? (staged.of k) (m.committed.of k) key = some row) :
    ∃ row', Table.find? (staged.of k) (m'.committed.of k) key = some row' := by
  refine Option.isSome_iff_exists.mp (Option.isSome_iff_ne_none.mpr fun hnone => ?_)
  obtain ⟨hstaged, hcommitted⟩ := (Table.find?_eq_none_iff _ _ _).mp hnone
  obtain ⟨hkey, hmem | ⟨hmem, hfree, -⟩⟩ := Table.find?_some h
  · exact hstaged row hmem hkey
  · obtain ⟨row', hget', hpart⟩ := hr.grows.continues k _ row ((hm k).get?_of_mem_rows hmem)
    have hown := (hr.sound k).own _ row' hget'
    have hhidden := hcommitted row' (Table.mem_rows_of_get? hget')
      ((Fixed.key_eq hpart).trans hkey)
    rw [hown, hfree] at hhidden
    cases hhidden

/-- A name of a committed team is not a name of a new staged one. -/
theorem key_ne_of_team (hslash : mint.Slashless) (hm : m.Sound mint) (hs : m.Admits mint staged)
    {g : Guid} (hg : staged.teams.contains g = true) (hnew : m.committed.teams.contains g = false)
    {n : TeamName} (hn : m.committed.teams.contains n.team = true) (language : Guid) :
    Row.key n ≠ pairKey g language := by
  intro hkey
  obtain ⟨i, -, hi⟩ := (hm .team).given _ hn
  obtain ⟨j, -, hj⟩ := (hs .team).given _ hg
  have hsame := (pairKey_injective (hi ▸ hslash i) (hj ▸ hslash j) hkey).1
  rw [hsame, hnew] at hn
  cases hn

end Memory

end Store

/-- A transaction beside a rival: the store, its staged rows, its last call with what was staged
and committed then, and whether it has committed. -/
structure Scene where
  memory : Memory
  staged : Tables := {}
  last : Option (Call × Tables × Tables) := none
  published : Bool := false

/-- The call is a commit, and it succeeds. -/
def Store.Call.publishes : (c : Call) → Except StoreError c.Reply → Bool
  | .commit, .ok _ => true
  | _, _ => false

/-- The setting of the upsert of `o` beside that of `o'`. After its commit no call is made. -/
def duel (mint : Mint) (o o' : Observation) : Upsert.StoreSetting Scene where
  ready c s := s.published = false ∧ (c = .commit → s.memory.committed.Owned o s.staged)
  moves c s r s' := ∃ m, s.memory.perform mint s.staged c = (r, m, s'.staged) ∧
    m.Rivals mint o' s'.staged s'.memory ∧ s'.last = some (c, s.staged, s.memory.committed) ∧
    s'.published = (s.published || c.publishes r)

namespace Scene

variable {mint : Mint} {m₀ : Memory} {o o' : Observation} {s s' : Scene}

/-- What an upsert finds in every state of the store until it commits. -/
structure Ground (mint : Mint) (m₀ : Memory) (o o' : Observation) (s : Scene) : Prop where
  start : m₀.Sound mint
  sound : s.memory.Sound mint
  admits : s.memory.Admits mint s.staged
  grows : m₀.Grows o' s.memory
  unforeseen : mint.Unforeseen o.identity.language s.memory
  unpublished : s.published = false

/-- A later state of an upsert that has not yet committed. -/
structure Next (mint : Mint) (m₀ : Memory) (o o' : Observation) (s s' : Scene) : Prop where
  ground : Ground mint m₀ o o' s'
  rivals : s.memory.Rivals mint o' s'.staged s'.memory

theorem next_of_moves (hd : mint.Distinct) (hslash : mint.Slashless)
    (hs : Ground mint m₀ o o' s) {c : Call} {r : Except StoreError c.Reply} (hc : c ≠ .commit)
    (h : (duel mint o o').moves c s r s') : Next mint m₀ o o' s s' := by
  obtain ⟨m, hp, hrivals, -, hpublished⟩ := h
  have hnot : c.publishes r = false := by
    cases c with
    | commit => exact absurd rfl hc
    | _ => rfl
  rw [hs.unpublished, hnot] at hpublished
  have hstep := Memory.perform_step mint s.memory s.staged c
  have hm : m.committed = s.memory.committed := by
    rw [← Memory.perform_committed mint s.memory s.staged hc, hp]
  rw [hp] at hstep
  have hgrows : s.memory.Grows o' s'.memory := by
    refine ⟨?_, fun k => Nat.le_trans (hstep.given_le k) (hrivals.grows.given k), ?_⟩
    · rw [← hm]
      exact hrivals.grows.continues
    · intro k row hrow
      rw [← hm]
      exact hrivals.grows.rows k row hrow
  refine ⟨⟨hs.start, hrivals.sound, hrivals.admits, hs.grows.trans hs.sound hrivals.sound hgrows,
    Memory.unforeseen_grows hd hslash hrivals.sound hs.unforeseen hgrows, hpublished⟩,
    ⟨hrivals.sound, hrivals.admits, hgrows, ?_⟩⟩
  rw [← hm]
  exact hrivals.own

end Scene

/-! ## What an upsert has staged -/

/-- A row of this guid and natural key is staged or committed. -/
def Store.Tables.Finds (committed staged : Tables) (k : Entity) (g : Guid) (key : String) : Prop :=
  staged.Holds k g key ∨ committed.Holds k g key

/-- The periods, teams and names that an upsert has staged: they are new, and under keys that it
uses and that were free at the start. A team that is pending has yet to get its name. -/
structure Stakes (m₀ : Memory) (o : Observation) (pending : Option Guid) (m : Memory)
    (staged : Tables) : Prop where
  new : ∀ k : Entity, k.Shared → ∀ g, (staged.of k).contains g = true →
    (m.committed.of k).contains g = false
  keys : ∀ k : Entity, k.Shared → ∀ row ∈ (staged.of k).rows, o.Uses k (Row.key row)
  first : ∀ k : Entity, k.Shared → ∀ row ∈ (staged.of k).rows,
    ∀ row' ∈ (m₀.committed.of k).rows, Row.key row' ≠ Row.key row
  names : ∀ n ∈ staged.teamNames.rows, staged.teams.contains n.team = true ∧
    some n.team ≠ pending
  free : Table.conflict? staged.teamNames m.committed.teamNames = none
  unnamed : ∀ g, pending = some g → staged.teams.contains g = true ∧
    ∀ n ∈ m.committed.teamNames.rows, Row.key n ≠ pairKey g o.identity.language

section Stakes

variable {mint : Mint} {m₀ m m' : Memory} {o o' : Observation} {pending : Option Guid}
  {staged : Tables} {k : Entity}

theorem Store.Tables.Finds.later {t t' : Tables} {g : Guid} {key : String}
    (h : t.Finds staged k g key) (hc : t.Continues t') : t'.Finds staged k g key :=
  h.imp_right fun hold => hold.later hc

theorem Store.Tables.Finds.put {t : Tables} {g : Guid} {key : String} (h : t.Finds staged k g key)
    {j : Entity} {g' : Guid} (row : j.Of) (hnew : j = k → (staged.of j).contains g' = false) :
    t.Finds (staged.set j ((staged.of j).put g' row)) k g key := by
  refine h.imp_left ?_
  rintro ⟨row', hget, hkey⟩
  refine ⟨row', ?_, hkey⟩
  by_cases hj : k = j
  · subst hj
    have hne : g ≠ g' := by
      rintro rfl
      rw [(Table.contains_iff _ _).mpr ⟨row', hget⟩] at hnew
      exact nomatch hnew rfl
    rw [Tables.of_set_self, Table.get?_put, if_neg hne]
    exact hget
  · rw [Tables.of_set_ne _ hj]
    exact hget

/-- A row that is found under a natural key. -/
theorem finds_of_find? (hm : m.Sound mint) (hs : m.Admits mint staged) {key : String} {row : k.Of}
    (h : Table.find? (staged.of k) (m.committed.of k) key = some row) :
    m.committed.Finds staged k (Row.guid row) key := by
  obtain ⟨hkey, hstaged | ⟨hcommitted, -⟩⟩ := Table.find?_some h
  · exact Or.inl ⟨row, (hs k).get?_of_mem_rows hstaged, hkey⟩
  · exact Or.inr ⟨row, (hm k).get?_of_mem_rows hcommitted, hkey⟩

theorem stakes_empty (m₀ : Memory) (o : Observation) (m : Memory) : Stakes m₀ o none m {} where
  new k _ g hg := by
    rw [Tables.of_empty] at hg
    cases hg
  keys k _ row hrow := by
    rw [Tables.of_empty] at hrow
    cases hrow
  first k _ row hrow := by
    rw [Tables.of_empty] at hrow
    cases hrow
  names _ h := nomatch h
  free := rfl
  unnamed _ h := nomatch h

theorem Stakes.rival (hslash : mint.Slashless) (h : Stakes m₀ o pending m staged)
    (hr : m.Rivals mint o' staged m') : Stakes m₀ o pending m' staged := by
  have hnew : ∀ k : Entity, k.Shared → ∀ g, (staged.of k).contains g = true →
      (m'.committed.of k).contains g = false := fun k hk g hg => hr.own k g hg (h.new k hk g hg)
  refine ⟨hnew, h.keys, h.first, h.names, hr.conflict?_eq_none (k := .teamName) h.free ?_, ?_⟩
  · intro n hn _ n' _ htouched
    have hteam := (h.names n hn).1
    exact Memory.key_ne_of_team hslash hr.sound hr.admits hteam (hnew .team trivial _ hteam)
      htouched n.language
  · intro g hg
    obtain ⟨hteam, hunnamed⟩ := h.unnamed g hg
    refine ⟨hteam, fun n hn => ?_⟩
    rcases hr.grows.rows .teamName n hn with hold | htouched
    · exact hunnamed n hold
    · exact Memory.key_ne_of_team hslash hr.sound hr.admits hteam (hnew .team trivial _ hteam)
        htouched _

/-- A key that is found free is free among the committed rows. -/
theorem Stakes.absent (hm : m.Sound mint) (h : Stakes m₀ o pending m staged) (hk : k.Shared)
    {key : String} (hfree : Table.find? (staged.of k) (m.committed.of k) key = none) :
    ∀ row ∈ (m.committed.of k).rows, Row.key row ≠ key := by
  intro row hrow hkey
  have hhidden := ((Table.find?_eq_none_iff _ _ _).mp hfree).2 row hrow hkey
  have hnew := h.new k hk _ hhidden
  rw [(Table.contains_iff _ _).mpr ⟨row, (hm k).get?_of_mem_rows hrow⟩] at hnew
  cases hnew

theorem Stakes.absent_first (h₀ : m₀.Sound mint) (hm : m.Sound mint)
    (hg : m₀.committed.Continues m.committed) (h : Stakes m₀ o pending m staged) (hk : k.Shared)
    {key : String} (hfree : Table.find? (staged.of k) (m.committed.of k) key = none) :
    ∀ row ∈ (m₀.committed.of k).rows, Row.key row ≠ key := by
  intro row hrow hkey
  obtain ⟨row', hget, hpart⟩ := hg k _ row ((h₀ k).get?_of_mem_rows hrow)
  exact h.absent hm hk hfree row' (Table.mem_rows_of_get? hget)
    ((Store.Fixed.key_eq hpart).trans hkey)

/-- A new period or team is staged. -/
theorem Stakes.add (hd : mint.Distinct) (h₀ : m₀.Sound mint) (hm : m.Sound mint)
    (hg : m₀.committed.Continues m.committed) (h : Stakes m₀ o none m staged) (hk : k.Shared)
    {row : k.Of} (hguid : Row.guid row = mint.guid k (m.given k)) (huses : o.Uses k (Row.key row))
    (hfree : Table.find? (staged.of k) (m.committed.of k) (Row.key row) = none)
    {staged' : Tables} (hset : staged' = staged.set k ((staged.of k).put (Row.guid row) row))
    (hnames : ∀ n ∈ staged'.teamNames.rows, staged'.teams.contains n.team = true ∧
      some n.team ≠ pending)
    (hsame : staged'.teamNames = staged.teamNames)
    (hunnamed : ∀ g, pending = some g → staged'.teams.contains g = true ∧
      ∀ n ∈ m.committed.teamNames.rows, Row.key n ≠ pairKey g o.identity.language) :
    Stakes m₀ o pending m staged' := by
  have hfirst := h.absent_first h₀ hm hg hk hfree
  have hrows : ∀ (j : Entity) (P : (j : Entity) → j.Of → Prop),
      (∀ r ∈ (staged.of j).rows, P j r) → P k row → ∀ r ∈ (staged'.of j).rows, P j r := by
    intro j P hold hnew r hr
    by_cases hj : j = k
    · subst hj
      rw [hset, Tables.of_set_self] at hr
      rcases Table.mem_rows_put hr with rfl | hmem
      · exact hnew
      · exact hold r hmem
    · rw [hset, Tables.of_set_ne _ hj] at hr
      exact hold r hr
  refine ⟨?_, ?_, ?_, hnames, ?_, hunnamed⟩
  · intro j hjs g hcontains
    by_cases hj : j = k
    · subst hj
      rw [hset, Tables.of_set_self] at hcontains
      rcases (Table.contains_put _ _ _ _).mp hcontains with rfl | hold
      · rw [hguid]
        exact (Table.contains_eq_false_iff _ _).mpr (hm.get?_new hd j)
      · exact h.new j hjs g hold
    · rw [hset, Tables.of_set_ne _ hj] at hcontains
      exact h.new j hjs g hcontains
  · exact fun j hj => hrows j (fun k r => o.Uses k (Row.key r)) (h.keys j hj) huses
  · exact fun j hj => hrows j (fun k r => ∀ row' ∈ (m₀.committed.of k).rows,
      Row.key row' ≠ Row.key r) (h.first j hj) hfirst
  · rw [hsame]
    exact h.free

theorem Stakes.addPeriod (hd : mint.Distinct) (h₀ : m₀.Sound mint) (hm : m.Sound mint)
    (hg : m₀.committed.Continues m.committed) (h : Stakes m₀ o none m staged) {row : Period}
    (hguid : row.guid = mint.row m.rows) (huses : row.code = o.period.code)
    (hfree : Table.find? staged.periods m.committed.periods row.code = none) :
    Stakes m₀ o none m (staged.set .period (staged.periods.put row.guid row)) :=
  h.add hd h₀ hm hg (k := .period) trivial hguid huses hfree rfl h.names rfl h.unnamed

theorem Stakes.addTeam (hd : mint.Distinct) (h₀ : m₀.Sound mint) (hm : m.Sound mint)
    (hs : m.Admits mint staged) (hg : m₀.committed.Continues m.committed)
    (hnew : mint.Unforeseen o.identity.language m) (h : Stakes m₀ o none m staged) {row : Team}
    (hguid : row.guid = mint.row m.rows) (huses : o.Uses .team (Row.key row))
    (hfree : Table.find? staged.teams m.committed.teams (Row.key row) = none) :
    Stakes m₀ o (some row.guid) m (staged.set .team (staged.teams.put row.guid row)) := by
  refine h.add hd h₀ hm hg (k := .team) trivial hguid huses hfree rfl ?_ rfl ?_
  · intro n hn
    have hteam := (h.names n hn).1
    refine ⟨(Table.contains_put _ _ _ _).mpr (Or.inr hteam), ?_⟩
    intro hsame
    have hnot := Table.not_contains_of_given (hd.guid .team) (hs .team).given
    rw [Option.some.inj hsame, hguid] at hteam
    exact absurd (hnot.symm.trans hteam) nofun
  · rintro g ⟨⟩
    refine ⟨(Table.contains_put _ _ _ _).mpr (Or.inl rfl), ?_⟩
    rw [hguid]
    exact hnew m.rows (Nat.le_refl _)

theorem Stakes.addName {n : TeamName} (h : Stakes m₀ o (some n.team) m staged)
    (hlanguage : n.language = o.identity.language) :
    Stakes m₀ o none m (staged.set .teamName (staged.teamNames.put n.guid n)) := by
  obtain ⟨hteam, hunnamed⟩ := h.unnamed n.team rfl
  refine ⟨?_, ?_, ?_, ?_, ?_, nofun⟩
  · intro k hk g hg
    rw [Tables.of_set_ne _ (by rintro rfl; exact hk)] at hg
    exact h.new k hk g hg
  · intro k hk row hrow
    rw [Tables.of_set_ne _ (by rintro rfl; exact hk)] at hrow
    exact h.keys k hk row hrow
  · intro k hk row hrow
    rw [Tables.of_set_ne _ (by rintro rfl; exact hk)] at hrow
    exact h.first k hk row hrow
  · intro n' hn'
    rcases Table.mem_rows_put hn' with rfl | hold
    · exact ⟨hteam, nofun⟩
    · exact ⟨(h.names n' hold).1, nofun⟩
  · rw [Table.conflict?_eq_none_iff]
    intro n' hn' hfree r hr
    rcases Table.mem_rows_put hn' with rfl | hold
    · have hkey : Row.key n' = pairKey n'.team o.identity.language := by
        rw [← hlanguage]
        rfl
      rw [hkey]
      exact hunnamed r hr
    · exact (Table.conflict?_eq_none_iff _ _).mp h.free n' hold hfree r hr

/-- Events and titles are no stakes. -/
theorem Stakes.set (h : Stakes m₀ o pending m staged) (hk : k = .event ∨ k = .title)
    (t : Table k.Of) : Stakes m₀ o pending m (staged.set k t) := by
  rcases hk with rfl | rfl <;>
  · refine ⟨fun j hj => ?_, fun j hj => ?_, fun j hj => ?_, h.names, h.free, h.unnamed⟩
    · rw [Tables.of_set_ne _ (by rintro rfl; exact hj)]
      exact h.new j hj
    · rw [Tables.of_set_ne _ (by rintro rfl; exact hj)]
      exact h.keys j hj
    · rw [Tables.of_set_ne _ (by rintro rfl; exact hj)]
      exact h.first j hj

/-- A period or team that is staged is what is found under its key. -/
theorem Stakes.find?_staged (hs : m.Admits mint staged) (h : Stakes m₀ o pending m staged)
    (hk : k.Shared) {row : k.Of} (hrow : (staged.of k).get? (Row.guid row) = some row) :
    Table.find? (staged.of k) (m.committed.of k) (Row.key row) = some row := by
  refine Table.find?_eq_of_staged (Table.mem_rows_of_get? hrow) ?_
  intro r hmem hkey
  have hget := (hs k).get?_of_mem_rows hmem
  have hnew := h.new k hk _ ((Table.contains_iff _ _).mpr ⟨r, hget⟩)
  have hnew' := h.new k hk _ ((Table.contains_iff _ _).mpr ⟨row, hrow⟩)
  have hguid := (hs k).unique _ _ _ _ hget hrow hnew hnew' hkey
  rw [hguid] at hget
  exact Option.some.inj (hget.symm.trans hrow)

end Stakes

namespace Scene

variable {mint : Mint} {m₀ : Memory} {o o' : Observation} {s s' s'' : Scene}

/-- All periods and teams that are found at first are found later. -/
def Keeps (s s' : Scene) : Prop :=
  ∀ k : Entity, k.Shared → ∀ g key, s.memory.committed.Finds s.staged k g key →
    s'.memory.committed.Finds s'.staged k g key

theorem Keeps.trans (h : Keeps s s') (h' : Keeps s' s'') : Keeps s s'' :=
  fun k hk g key hg => h' k hk g key (h k hk g key hg)

theorem Next.keeps_of_eq (hn : Next mint m₀ o o' s s') (hst : s'.staged = s.staged) :
    Keeps s s' := by
  intro k _ g key hg
  rw [hst]
  exact hg.later hn.rivals.grows.continues

theorem Next.keeps_of_put (hn : Next mint m₀ o o' s s') {j : Entity} {g' : Guid} {row : j.Of}
    (hst : s'.staged = s.staged.set j ((s.staged.of j).put g' row))
    (hnew : j.Shared → (s.staged.of j).contains g' = false) : Keeps s s' := by
  intro k hk g key hg
  rw [hst]
  exact (hg.put row fun hj => hnew (hj ▸ hk)).later hn.rivals.grows.continues

/-- An upsert that has yet to stage its event. -/
structure Opening (mint : Mint) (m₀ : Memory) (o o' : Observation) (pending : Option Guid)
    (s : Scene) : Prop where
  ground : Ground mint m₀ o o' s
  stakes : Stakes m₀ o pending s.memory s.staged
  events : s.staged.events = []
  titles : s.staged.titles = []

theorem Opening.next (hslash : mint.Slashless) {pending : Option Guid}
    (h : Opening mint m₀ o o' pending s) (hn : Next mint m₀ o o' s s')
    (hst : s'.staged = s.staged) : Opening mint m₀ o o' pending s' := by
  have hstakes := h.stakes
  rw [← hst] at hstakes
  refine ⟨hn.ground, hstakes.rival hslash hn.rivals, ?_, ?_⟩
  · rw [hst, h.events]
  · rw [hst, h.titles]

/-- A new period or a new team has been staged. -/
theorem Opening.put (hslash : mint.Slashless) {pending : Option Guid} {k : Entity} {row : k.Of}
    (h : Opening mint m₀ o o' none s) (hk : k.Shared)
    (hstakes : Stakes m₀ o pending s.memory
      (s.staged.set k ((s.staged.of k).put (Row.guid row) row)))
    (hn : Next mint m₀ o o' s s')
    (hst : s'.staged = s.staged.set k ((s.staged.of k).put (Row.guid row) row)) :
    Opening mint m₀ o o' pending s' := by
  rw [← hst] at hstakes
  refine ⟨hn.ground, hstakes.rival hslash hn.rivals, ?_, ?_⟩
  · rw [hst, ← h.events]
    cases k with
    | period | team => rfl
    | _ => exact hk.elim
  · rw [hst, ← h.titles]
    cases k with
    | period | team => rfl
    | _ => exact hk.elim

theorem Opening.find?_next {pending : Option Guid} {k : Entity}
    (h : Opening mint m₀ o o' pending s) (hn : Next mint m₀ o o' s s')
    (hst : s'.staged = s.staged) {key : String} {row : k.Of}
    (hseen : Table.find? (s.staged.of k) (s.memory.committed.of k) key = some row) :
    ∃ row', Table.find? (s'.staged.of k) (s'.memory.committed.of k) key = some row' := by
  have hrivals := hn.rivals
  rw [hst] at hrivals ⊢
  exact hrivals.find?_some h.ground.sound hseen

/-- A team has been found or created, under its key. -/
structure Joined (mint : Mint) (m₀ : Memory) (o o' : Observation) (key : String) (s : Scene)
    (row : Team) (s' : Scene) : Prop where
  opening : Opening mint m₀ o o' none s'
  keeps : Keeps s s'
  finds : s'.memory.committed.Finds s'.staged .team row.guid key

end Scene

end LiveEvents
