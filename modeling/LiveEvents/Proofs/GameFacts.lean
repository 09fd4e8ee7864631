import LiveEvents.Observation
import Mathlib.Data.List.Nodup

/-!
# What is told of a game

The info of a game is put together from the facts that every game has and from the details that its
provider gives. A detail is only added where its key is free, so no provider can overwrite a fact,
and what is no object adds nothing.
-/

namespace LiveEvents

namespace Json

variable (members extra : List (String × Json))

theorem addMissing_cons (key : String) (value : Json) :
    addMissing members ((key, value) :: extra) =
      addMissing (if (members.lookup key).isSome then members else members ++ [(key, value)])
        extra := rfl

/-- The first value of a key is kept. -/
theorem lookup_addMissing (key : String) :
    (addMissing members extra).lookup key = (members.lookup key).or (extra.lookup key) := by
  induction extra generalizing members with
  | nil => simp [addMissing]
  | cons member extra ih =>
    obtain ⟨taken, value⟩ := member
    rw [addMissing_cons, ih, List.lookup_cons]
    cases hmember : members.lookup taken with
    | some old =>
      by_cases hkey : key = taken
      · simp [hkey, hmember]
      · simp [beq_false_of_ne hkey]
    | none =>
      rw [Option.isSome_none, if_neg (by decide), List.lookup_append]
      by_cases hkey : key = taken
      · simp [hkey, hmember]
      · simp [List.lookup_cons, beq_false_of_ne hkey]

theorem mem_keys_iff {key : String} : key ∈ members.map Prod.fst ↔ (members.lookup key).isSome := by
  simp only [List.lookup_isSome_iff, List.mem_map, beq_iff_eq, @eq_comm _ key]

theorem mem_keys_addMissing {key : String} : key ∈ (addMissing members extra).map Prod.fst ↔
    key ∈ members.map Prod.fst ∨ key ∈ extra.map Prod.fst := by
  simp only [mem_keys_iff, lookup_addMissing, Option.isSome_or, Bool.or_eq_true]

variable {members} in
theorem nodup_keys_addMissing (h : (members.map Prod.fst).Nodup) :
    ((addMissing members extra).map Prod.fst).Nodup := by
  induction extra generalizing members with
  | nil => exact h
  | cons member extra ih =>
    obtain ⟨key, value⟩ := member
    rw [addMissing_cons]
    split
    · exact ih h
    · next hfree =>
      apply ih
      rw [← mem_keys_iff] at hfree
      rw [List.map_append, List.map_singleton]
      exact List.nodup_append_comm.mp (List.nodup_cons.mpr ⟨hfree, h⟩)

end Json

namespace Observation

def factKeys : List String :=
  ["external_id", "game_id", "status", "scheduled", "open_time", "season_id", "season_year",
    "season_type"]

/-- All facts are told as the game has them, and when it opens. -/
structure Tells (info : Json) (g : Game) (openTime : String) : Prop where
  externalId : info.get? "external_id" = some (.string g.id)
  gameId : info.get? "game_id" = some (.string g.id)
  status : info.get? "status" = some (.string g.rawStatus)
  scheduled : info.get? "scheduled" = some (.string g.scheduled)
  openTime : info.get? "open_time" = some (.string openTime)
  seasonId : info.get? "season_id" = some (.string g.season.id)
  seasonYear : info.get? "season_year" = some (.ofInt g.season.year)
  seasonKind : info.get? "season_type" = some (.string g.season.kind)

variable (g : Game)

theorem keys_gameFacts : (gameFacts g).map Prod.fst = factKeys := rfl

theorem nodup_factKeys : factKeys.Nodup := by decide

def detailMembers : List (String × Json) :=
  match g.details with
  | .object details => details
  | _ => []

theorem gameInfo_eq : gameInfo g = .object (Json.addMissing (gameFacts g) (detailMembers g)) := by
  unfold gameInfo detailMembers
  cases g.details <;> rfl

theorem lookup_detailMembers (key : String) :
    (detailMembers g).lookup key = g.details.get? key := by
  unfold detailMembers
  cases g.details <;> rfl

theorem mem_detailMembers {key : String} : key ∈ (detailMembers g).map Prod.fst ↔
    ∃ details, g.details = .object details ∧ key ∈ details.map Prod.fst := by
  unfold detailMembers
  cases g.details <;> simp

theorem get?_gameInfo (key : String) :
    (gameInfo g).get? key = ((gameFacts g).lookup key).or (g.details.get? key) := by
  rw [gameInfo_eq, ← lookup_detailMembers]
  exact Json.lookup_addMissing _ _ key

/-- What is a fact does not depend on the details. -/
theorem get?_gameInfo_of_fact {key : String} {value : Json}
    (h : (gameFacts g).lookup key = some value) : (gameInfo g).get? key = some value := by
  rw [get?_gameInfo, h, Option.some_or]

theorem tells_gameInfo : Tells (gameInfo g) g g.scheduledDisplay where
  externalId := get?_gameInfo_of_fact g rfl
  gameId := get?_gameInfo_of_fact g rfl
  status := get?_gameInfo_of_fact g rfl
  scheduled := get?_gameInfo_of_fact g rfl
  openTime := get?_gameInfo_of_fact g rfl
  seasonId := get?_gameInfo_of_fact g rfl
  seasonYear := get?_gameInfo_of_fact g rfl
  seasonKind := get?_gameInfo_of_fact g rfl

/-- The info of a game is an object with one member to a key: its keys are those of the facts and
those of the details if these are an object, the facts are told as the game has them with the time
of its period as the time when it opens, and every other detail is told as it is. -/
theorem game_info_told (identity : Identity) (teamEcosystem : Guid) (g : Game) (at_ : Instant) :
    let o := ofGame identity teamEcosystem g at_
    (∃ members, o.info = .object members ∧ (members.map Prod.fst).Nodup ∧
      ∀ key, key ∈ members.map Prod.fst ↔ key ∈ factKeys ∨
        ∃ details, g.details = .object details ∧ key ∈ details.map Prod.fst) ∧
    Tells o.info g o.period.scheduled ∧
    ∀ key, key ∉ factKeys → o.info.get? key = g.details.get? key := by
  intro o
  refine ⟨⟨_, gameInfo_eq g, Json.nodup_keys_addMissing _ nodup_factKeys, fun key => ?_⟩,
    tells_gameInfo g, fun key hkey => ?_⟩
  · rw [Json.mem_keys_addMissing, keys_gameFacts, mem_detailMembers]
  · have hfree : (gameFacts g).lookup key = none := by
      rw [← keys_gameFacts g, Json.mem_keys_iff] at hkey
      exact Option.not_isSome_iff_eq_none.mp hkey
    change (gameInfo g).get? key = _
    rw [get?_gameInfo, hfree, Option.none_or]

/-- A game whose provider gives a status and an opening time among the details. -/
def auditedGame : Game where
  id := "g-1"
  status := .closed
  rawStatus := "closed"
  scheduled := "2024-01-15T00:30:00+00:00"
  home := ⟨"h", "Boston Celtics", "BOS"⟩
  away := ⟨"a", "Miami Heat", "MIA"⟩
  homePoints := some 110
  awayPoints := none
  season := ⟨"s", 2023, "REG"⟩
  details := .object [("sr_id", .string "sr:match:1"), ("status", .string "ignored"),
    ("open_time", .null)]

/-- The provider's identifier is told, its status and its opening time are not. -/
theorem auditedGame_told :
    let o := ofGame ⟨"cat", "eco", "en"⟩ "nba" auditedGame ⟨.epoch, 0, 0⟩
    "sr_id" ∉ factKeys ∧ o.info.get? "sr_id" = some (.string "sr:match:1") ∧
      o.info.get? "status" = some (.string "closed") ∧
      o.info.get? "open_time" = some (.string "2024-01-15 00:30:00") := by
  intro o
  obtain ⟨-, htells, hdetails⟩ :=
    game_info_told ⟨"cat", "eco", "en"⟩ "nba" auditedGame ⟨.epoch, 0, 0⟩
  have hfree : "sr_id" ∉ factKeys := by decide
  have hopens : o.period.scheduled = "2024-01-15 00:30:00" := by decide +kernel
  exact ⟨hfree, hdetails _ hfree, htells.status, hopens ▸ htells.openTime⟩

end Observation

end LiveEvents
