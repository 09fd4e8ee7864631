import LiveEvents.Proofs.IsolatedSessions

/-!
# What a store tells of a pair

Teams are looked up and created by a pair of texts, and so are titles. A store compares the keys of
pairs. So what it tells of a pair is true of all pairs of one key together: it may find a row of a
pair that overlaps with the one it was asked for, and refuse to create a row beside it. It tells
the truth about the pair itself exactly where the first texts hold equally many slashes.
-/

namespace LiveEvents.Store

/-- Rows whose natural key is made of a pair of texts. -/
class Paired (α : Type) [Row α] where
  pair : α → String × String
  key_eq : ∀ row : α, Row.key row = pairKey (pair row).1 (pair row).2

instance : Paired Title := ⟨fun t => (t.event, t.language), fun _ => rfl⟩

instance : Paired Team := ⟨fun t => (t.externalId, t.ecosystem), fun _ => rfl⟩

/-- A store does not tell the two pairs apart. -/
def Alike (p q : String × String) : Prop := p = q ∨ Overlaps p q ∨ Overlaps q p

namespace Table

variable {α : Type} [Row α] {staged committed : Table α} {key : String} {row : α}

/-- A transaction sees the row under the guid of the row. -/
def Shows (staged committed : Table α) (row : α) : Prop :=
  findGuid? staged committed (Row.guid row) = some row

theorem shows_of_find? (hS : staged.Keyed) (hC : committed.Keyed)
    (h : find? staged committed key = some row) : Shows staged committed row := by
  unfold Shows
  rw [findGuid?_eq]
  exact hS.get?_of_find? hC h

theorem key_ne_of_find?_none (h : find? staged committed key = none)
    (hrow : Shows staged committed row) : Row.key row ≠ key := by
  obtain ⟨hstaged, hcommitted⟩ := (find?_eq_none_iff staged committed key).mp h
  unfold Shows at hrow
  rw [findGuid?_eq] at hrow
  rcases Option.or_eq_some_iff.mp hrow with hown | ⟨hfree, hold⟩
  · exact hstaged row (mem_rows_of_get? hown)
  · intro hkey
    have hown := hcommitted row (mem_rows_of_get? hold) hkey
    rw [(contains_eq_false_iff staged _).mpr hfree] at hown
    cases hown

variable [Paired α]

/-- What may be told of a pair: a row that shows and is not told apart from it, which is of the
pair itself exactly if the first texts hold equally many slashes; or that there is no such row. -/
def Tells (staged committed : Table α) (pair : String × String) : Option α → Prop
  | some row => Shows staged committed row ∧ Alike (Paired.pair row) pair ∧
      (Paired.pair row = pair ↔ slashes (Paired.pair row).1 = slashes pair.1)
  | none => ∀ row, Shows staged committed row → ¬Alike (Paired.pair row) pair

theorem tells_find? (hS : staged.Keyed) (hC : committed.Keyed) (pair : String × String) :
    Tells staged committed pair (find? staged committed (pairKey pair.1 pair.2)) := by
  cases h : find? staged committed (pairKey pair.1 pair.2) with
  | some row =>
    have hkey := (Paired.key_eq row).symm.trans (find?_some h).1
    exact ⟨shows_of_find? hS hC h, (pairKey_eq_iff _ _).mp hkey, eq_iff_slashes_of_pairKey hkey⟩
  | none =>
    intro row hrow halike
    apply key_ne_of_find?_none h hrow
    rw [Paired.key_eq row]
    exact (pairKey_eq_iff _ _).mpr halike

end Table

namespace Memory

variable {mint : Mint} {m : Memory} {staged : Tables}

/-- The reply to the creation of a row of which key a row was found or not. -/
def created (k : Entity) (key : String) (found : Option k.Of) : Except StoreError Unit :=
  if found.isSome then .error (.duplicate k.name key) else .ok ()

theorem createRow_fst (k : Entity) (row : k.Of) : (m.createRow staged k row).1 =
    created k (Row.key row) (Table.find? (staged.of k) (m.committed.of k) (Row.key row)) := by
  cases h : Table.find? (staged.of k) (m.committed.of k) (Row.key row) with
  | none =>
    rw [createRow_of_none h]
    rfl
  | some row' =>
    rw [createRow_of_some h]
    cases k <;> rfl

end Memory

namespace Sessions

variable {κ : Type} [DecidableEq κ]

/-- What a transaction is told of a team or a title, in every state that transactions can bring
about: it finds a row that shows and is not told apart from the pair it asks for, and is refused
the creation of a row exactly where it finds one. The row that it finds is of the pair itself
exactly if the first texts of the two hold equally many slashes. -/
theorem pairs_told_by_key (mint : Mint) (history : List (Action κ)) {name : κ} {staged : Tables}
    (hopen : (after mint {} history).active.lookup name = some staged) :
    let s := after mint {} history
    (∀ id ecosystem, ∃ found : Option Team,
      Table.Tells staged.teams s.memory.committed.teams (id, ecosystem) found ∧
      (s.call mint name (.team id ecosystem)).1 = some (.ok found) ∧
      ∀ logo, (s.call mint name (.createTeam ⟨ecosystem, id, logo⟩)).1 =
        some (Memory.created .team (pairKey id ecosystem) found)) ∧
    (∀ event language, ∃ found : Option Title,
      Table.Tells staged.titles s.memory.committed.titles (event, language) found ∧
      (s.call mint name (.title event language)).1 = some (.ok found) ∧
      ∀ title rules, (s.call mint name (.createTitle ⟨event, language, title, rules⟩)).1 =
        some (Memory.created .title (pairKey event language) found)) := by
  intro s
  have hkeyed : s.Keyed := keyed_after mint history
  have hstaged := hkeyed.staged name staged hopen
  constructor
  · intro id ecosystem
    have htells := Table.tells_find? (hstaged .team) (hkeyed.committed .team) (id, ecosystem)
    refine ⟨_, htells, (call_of_open mint hopen _).1, fun logo => ?_⟩
    rw [(call_of_open mint hopen _).1, Memory.perform_createTeam, Memory.createRow_fst]
    rfl
  · intro event language
    have htells := Table.tells_find? (hstaged .title) (hkeyed.committed .title) (event, language)
    refine ⟨_, htells, (call_of_open mint hopen _).1, fun title rules => ?_⟩
    rw [(call_of_open mint hopen _).1, Memory.perform_createTitle, Memory.createRow_fst]
    rfl

/-- A team of the ecosystem `nba` and a title in the language `us`. -/
def slashedHistory : List (Action Unit) :=
  [.begin (), .call () (.createTeam ⟨"nba", "sr/42", ""⟩),
    .call () (.createTitle ⟨"g/en", "us", "Celtics vs Mavericks", ""⟩)]

/-- The team and the title are found under other pairs. -/
theorem slashed_pairs_told : ∃ staged,
    (after .serial {} slashedHistory).active.lookup () = some staged ∧
    (∃ team, ((after .serial {} slashedHistory).call .serial () (.team "sr" "42/nba")).1 =
        some (.ok (some team)) ∧
      Alike (Paired.pair team) ("sr", "42/nba") ∧
      (Paired.pair team = ("sr", "42/nba") ↔ slashes (Paired.pair team).1 = slashes "sr")) ∧
    (∃ title, ((after .serial {} slashedHistory).call .serial () (.title "g" "en/us")).1 =
        some (.ok (some title)) ∧
      Alike (Paired.pair title) ("g", "en/us")) := by
  have hopen : ((after .serial {} slashedHistory).active.lookup ()).isSome = true := by
    decide +kernel
  obtain ⟨staged, hstaged⟩ := Option.isSome_iff_exists.mp hopen
  obtain ⟨hteams, htitles⟩ := pairs_told_by_key .serial slashedHistory hstaged
  refine ⟨staged, hstaged, ?_, ?_⟩
  · obtain ⟨found, htells, hreply, -⟩ := hteams "sr" "42/nba"
    cases found with
    | some team => exact ⟨team, hreply, htells.2⟩
    | none =>
      have hfound : ((after .serial {} slashedHistory).call .serial ()
          (.team "sr" "42/nba")).1 ≠ some (.ok none) := by
        decide +kernel
      exact absurd hreply hfound
  · obtain ⟨found, htells, hreply, -⟩ := htitles "g" "en/us"
    cases found with
    | some title => exact ⟨title, hreply, htells.2.1⟩
    | none =>
      have hfound : ((after .serial {} slashedHistory).call .serial ()
          (.title "g" "en/us")).1 ≠ some (.ok none) := by
        decide +kernel
      exact absurd hreply hfound

/-- A team of one pair is found under another and keeps a team of that one from being created, and
so it is with titles. -/
theorem pairs_mistaken :
    let s := after .serial {} slashedHistory
    let team : Team := ⟨⟨"nba", "sr/42", ""⟩, hexGuid 'a' 0⟩
    let title : Title := ⟨⟨"g/en", "us", "Celtics vs Mavericks", ""⟩, hexGuid 'a' 1⟩
    (s.active.lookup ()).map (fun staged => (staged.teams.rows, staged.titles.rows)) =
        some ([team], [title]) ∧
      s.memory.committed.teams.rows = [] ∧ s.memory.committed.titles.rows = [] ∧
      (s.call .serial () (.team "sr" "42/nba")).1 = some (.ok (some team)) ∧
      (s.call .serial () (.createTeam ⟨"42/nba", "sr", ""⟩)).1 =
        some (.error (.duplicate "team group" "sr/42/nba")) ∧
      (s.call .serial () (.title "g" "en/us")).1 = some (.ok (some title)) ∧
      (s.call .serial () (.createTitle ⟨"g", "en/us", "", ""⟩)).1 =
        some (.error (.duplicate "event language" "g/en/us")) := by
  decide +kernel

end Sessions

end LiveEvents.Store
