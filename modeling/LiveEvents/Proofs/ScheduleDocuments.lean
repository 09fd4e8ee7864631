import LiveEvents.Proofs.GameReports
import LiveEvents.Proofs.RecordSlots

/-!
# Schedules as they are sent

What may stand in a document for a schedule: every record in an object whose fields stand in any
order and among anything under other keys. A field that is its fallback may be left out, and points
that are missing are null or left out. A schedule is read back from every text that writes such a
document, and its games come in the order of its records, each with everything that is told of it.
-/

namespace LiveEvents.Schedule

open Json

/-! ## Descriptions of records -/

namespace TimeZones

variable (z : TimeZones)

def fields : List (String × String) :=
  [("venue", z.venue), ("home", z.home), ("away", z.away)]

def DescribedBy (n : Node) : Prop := Fills (textSlots z.fields) n

def json : Json := textObject z.fields

theorem described_json : z.DescribedBy z.json.node :=
  have hnames : ["venue", "home", "away"].Nodup := by decide
  fills_textObject hnames

variable {z} {n : Node}

theorem ofNode?_of_described (h : z.DescribedBy n) : ofNode? n = some z := by
  obtain ⟨f, hf, htexts⟩ := exists_texts_of_fills ["venue", "home", "away"] h rfl (by decide)
  simp only [fields, List.forall_mem_cons] at htexts
  obtain ⟨hvenue, hhome, haway, -⟩ := htexts
  simp [ofNode?, hf, hvenue, hhome, haway]

end TimeZones

namespace TeamRecord

variable (t : TeamRecord)

def fields : List (String × String) :=
  [("id", t.id), ("name", t.name), ("alias", t.shortName), ("sr_id", t.srId),
    ("reference", t.reference)]

def DescribedBy (n : Node) : Prop := Fills (textSlots t.fields) n

def json : Json := textObject t.fields

theorem described_json : t.DescribedBy t.json.node :=
  have hnames : ["id", "name", "alias", "sr_id", "reference"].Nodup := by decide
  fills_textObject hnames

variable {t} {n : Node}

theorem ofNode?_of_described (h : t.DescribedBy n) : ofNode? n = some t := by
  obtain ⟨f, hf, htexts⟩ :=
    exists_texts_of_fills ["id", "name", "alias", "sr_id", "reference"] h rfl (by decide)
  simp only [fields, List.forall_mem_cons] at htexts
  obtain ⟨hid, hname, hshortName, hsrId, hreference, -⟩ := htexts
  simp [ofNode?, hf, hid, hname, hshortName, hsrId, hreference]

end TeamRecord

namespace League

variable (l : League)

def fields : List (String × String) :=
  [("id", l.id), ("name", l.name), ("alias", l.shortName)]

def DescribedBy (n : Node) : Prop := Fills (textSlots l.fields) n

def json : Json := textObject l.fields

theorem described_json : l.DescribedBy l.json.node :=
  have hnames : ["id", "name", "alias"].Nodup := by decide
  fills_textObject hnames

variable {l} {n : Node}

theorem ofNode?_of_described (h : l.DescribedBy n) : ofNode? n = some l := by
  obtain ⟨f, hf, htexts⟩ := exists_texts_of_fills ["id", "name", "alias"] h rfl (by decide)
  simp only [fields, List.forall_mem_cons] at htexts
  obtain ⟨hid, hname, hshortName, -⟩ := htexts
  simp [ofNode?, hf, hid, hname, hshortName]

end League

section Season

variable (s : Season)

def seasonSlots : List (String × Slot) :=
  [("id", .text s.id), ("year", .OrElse (fun i n => n = (Json.ofInt i).node) 0 s.year),
    ("type", .text s.kind)]

def SeasonDescribedBy (n : Node) : Prop := Fills (seasonSlots s) n

def seasonJson : Json :=
  .object [("id", .string s.id), ("year", .ofInt s.year), ("type", .string s.kind)]

theorem described_seasonJson : SeasonDescribedBy s (seasonJson s).node := by
  refine fills_object (by simp [seasonSlots]) (by simp) ?_
  simp only [seasonSlots, List.forall_mem_cons]
  exact ⟨.given rfl, .given rfl, .given rfl, List.forall_mem_nil _⟩

variable {s} {n : Node}

theorem seasonOfNode?_of_described (hs : FitsIn 32 s.year) (h : SeasonDescribedBy s n) :
    seasonOfNode? n = some s := by
  obtain ⟨f, hf, -, hslots⟩ := exists_fields_of_fills ["id", "year", "type"] h rfl (by decide)
  simp only [seasonSlots, List.forall_mem_cons] at hslots
  obtain ⟨hid, hyear, hkind, -⟩ := hslots
  have hyear : f.orElse? "year" 0 (Node.int? 32) = some s.year :=
    hyear.orElse? fun _ hn => hn ▸ Node.int?_ofInt hs
  simp [seasonOfNode?, hf, Slot.text_orElse? hid, hyear, Slot.text_orElse? hkind]

end Season

namespace GameRecord

variable (g : GameRecord)

def slots : List (String × Slot) :=
  [("id", .Required (fun s n => n = .ofText s) g.id), ("status", .text g.status),
    ("scheduled", .text g.scheduled),
    ("home_points", .Optional (fun i n => n = (Json.ofInt i).node) g.homePoints),
    ("away_points", .Optional (fun i n => n = (Json.ofInt i).node) g.awayPoints),
    ("coverage", .text g.coverage),
    ("track_on_court", .OrElse (fun b n => n = .bool b) false g.trackOnCourt),
    ("sr_id", .text g.srId), ("reference", .text g.reference),
    ("time_zones", .OrElse TimeZones.DescribedBy {} g.timeZones),
    ("season", .OrElse SeasonDescribedBy noSeason g.season),
    ("home", .OrElse TeamRecord.DescribedBy {} g.home),
    ("away", .OrElse TeamRecord.DescribedBy {} g.away)]

def DescribedBy (n : Node) : Prop := Fills g.slots n

def json : Json :=
  .object [("id", .string g.id), ("status", .string g.status), ("scheduled", .string g.scheduled),
    ("home_points", .ofOption .ofInt g.homePoints),
    ("away_points", .ofOption .ofInt g.awayPoints), ("coverage", .string g.coverage),
    ("track_on_court", .bool g.trackOnCourt), ("sr_id", .string g.srId),
    ("reference", .string g.reference), ("time_zones", g.timeZones.json),
    ("season", seasonJson g.season), ("home", g.home.json), ("away", g.away.json)]

/-- The whole numbers of a record have as many bits as they are read with. -/
structure Bounded : Prop where
  homePoints : ∀ points ∈ g.homePoints, FitsIn 64 points
  awayPoints : ∀ points ∈ g.awayPoints, FitsIn 64 points
  year : FitsIn 32 g.season.year

theorem optional_json (points : Option ℤ) :
    Slot.Optional (fun i n => n = (Json.ofInt i).node) points
      (some (Json.ofOption .ofInt points).node) := by
  cases points with
  | none => exact .null
  | some points => exact .given rfl

theorem described_json : g.DescribedBy g.json.node := by
  have hnames : fieldNames.Nodup := by decide
  refine fills_object hnames hnames ?_
  simp only [slots, List.forall_mem_cons]
  exact ⟨.given rfl, .given rfl, .given rfl, optional_json _, optional_json _, .given rfl,
    .given rfl, .given rfl, .given rfl, .given g.timeZones.described_json,
    .given (described_seasonJson g.season), .given g.home.described_json,
    .given g.away.described_json, List.forall_mem_nil _⟩

variable {g} {n : Node}

theorem ofNode?_of_described (hg : g.Bounded) (h : g.DescribedBy n) : ofNode? n = some g := by
  obtain ⟨f, hf, hplace, hslots⟩ := exists_fields_of_fills fieldNames h rfl (by decide)
  simp only [slots, List.forall_mem_cons] at hslots
  obtain ⟨hid, hstatus, hscheduled, hhomePoints, hawayPoints, hcoverage, htrackOnCourt, hsrId,
    hreference, htimeZones, hseason, hhome, haway, -⟩ := hslots
  have hid : f.required? "id" Node.text? = some g.id := hid.required? fun _ hn => hn ▸ rfl
  have hhomePoints : f.optional? "home_points" (Node.int? 64) = some g.homePoints :=
    hhomePoints.optional? hplace rfl fun _ hi _ hn => hn ▸ Node.int?_ofInt (hg.homePoints _ hi)
  have hawayPoints : f.optional? "away_points" (Node.int? 64) = some g.awayPoints :=
    hawayPoints.optional? hplace rfl fun _ hi _ hn => hn ▸ Node.int?_ofInt (hg.awayPoints _ hi)
  have htrackOnCourt : f.orElse? "track_on_court" false Node.bool? = some g.trackOnCourt :=
    htrackOnCourt.orElse? fun _ hn => hn ▸ rfl
  have htimeZones : f.orElse? "time_zones" {} TimeZones.ofNode? = some g.timeZones :=
    htimeZones.orElse? fun _ => TimeZones.ofNode?_of_described
  have hseason : f.orElse? "season" noSeason seasonOfNode? = some g.season :=
    hseason.orElse? fun _ => seasonOfNode?_of_described hg.year
  have hhome : f.orElse? "home" {} TeamRecord.ofNode? = some g.home :=
    hhome.orElse? fun _ => TeamRecord.ofNode?_of_described
  have haway : f.orElse? "away" {} TeamRecord.ofNode? = some g.away :=
    haway.orElse? fun _ => TeamRecord.ofNode?_of_described
  -- One field after the other: rewriting under all of the binders at once takes too long.
  exact bind_eq_of_eq_some hf <| bind_eq_of_eq_some hid <|
    bind_eq_of_eq_some (Slot.text_orElse? hstatus) <|
    bind_eq_of_eq_some (Slot.text_orElse? hscheduled) <| bind_eq_of_eq_some hhomePoints <|
    bind_eq_of_eq_some hawayPoints <| bind_eq_of_eq_some (Slot.text_orElse? hcoverage) <|
    bind_eq_of_eq_some htrackOnCourt <| bind_eq_of_eq_some (Slot.text_orElse? hsrId) <|
    bind_eq_of_eq_some (Slot.text_orElse? hreference) <| bind_eq_of_eq_some htimeZones <|
    bind_eq_of_eq_some hseason <| bind_eq_of_eq_some hhome <| bind_eq_of_eq_some haway rfl

end GameRecord

/-! ## Documents -/

namespace Document

/-- An array of records, in their order. -/
def GamesDescribedBy (games : List GameRecord) (n : Node) : Prop :=
  ∃ items, n = .array items ∧ List.Forall₂ GameRecord.DescribedBy games items

variable (d : Document)

def slots : List (String × Slot) :=
  [("date", .text d.date), ("games", .OrElse GamesDescribedBy [] d.games),
    ("league", .OrElse League.DescribedBy {} d.league)]

def DescribedBy (n : Node) : Prop := Fills d.slots n

/-- The document in which every field stands. -/
def json : Json :=
  .object [("date", .string d.date), ("games", .array (d.games.map GameRecord.json)),
    ("league", d.league.json)]

theorem described_items (games : List GameRecord) :
    List.Forall₂ GameRecord.DescribedBy games (itemNodes (games.map GameRecord.json)) := by
  induction games with
  | nil => exact .nil
  | cons g rest ih => exact .cons g.described_json ih

theorem described_json : d.DescribedBy d.json.node := by
  refine fills_object (by simp [slots]) (by simp) ?_
  simp only [slots, List.forall_mem_cons]
  exact ⟨.given rfl, .given ⟨_, rfl, described_items d.games⟩, .given d.league.described_json,
    List.forall_mem_nil _⟩

variable {d} {n : Node}

theorem mapM_of_described {games : List GameRecord} {items : List Node}
    (hgames : ∀ g ∈ games, g.Bounded) (h : List.Forall₂ GameRecord.DescribedBy games items) :
    items.mapM GameRecord.ofNode? = some games := by
  induction h with
  | nil => rfl
  | cons hfirst _ ih =>
    obtain ⟨hg, hrest⟩ := List.forall_mem_cons.mp hgames
    simp [GameRecord.ofNode?_of_described hg hfirst, ih hrest]

theorem ofNode?_of_described (hd : ∀ g ∈ d.games, g.Bounded) (h : d.DescribedBy n) :
    ofNode? n = some d := by
  obtain ⟨f, hf, -, hslots⟩ := exists_fields_of_fills ["date", "games", "league"] h rfl (by decide)
  simp only [slots, List.forall_mem_cons] at hslots
  obtain ⟨hdate, hgames, hleague, -⟩ := hslots
  have hgames : f.orElse? "games" [] (Node.list? GameRecord.ofNode?) = some d.games := by
    refine hgames.orElse? ?_
    rintro _ ⟨items, rfl, hitems⟩
    exact mapM_of_described hd hitems
  have hleague : f.orElse? "league" {} League.ofNode? = some d.league :=
    hleague.orElse? fun _ => League.ofNode?_of_described
  simp [ofNode?, hf, Slot.text_orElse? hdate, hgames, hleague]

theorem ofString?_of_writes {text : String} (hd : ∀ g ∈ d.games, g.Bounded) (h : d.DescribedBy n)
    (ht : Writes n text) : ofString? text = some d := by
  rw [ofString?, Json.ofString?_of_writes ht]
  exact ofNode?_of_described hd h

end Document

/-! ## Games -/

/-- An object of these members and of no others, in any order. -/
def ListsExactly (j : Json) (members : List (String × Json)) : Prop :=
  ∃ stored, j = .object stored ∧ stored.Perm members

/-- A game is everything that its record and the league of its document tell. -/
structure GameRecord.Becomes (g : GameRecord) (league : League) (game : Game) : Prop where
  id : game.id = g.id
  rawStatus : game.rawStatus = g.status
  closed : game.status = .closed ↔ Spells g.status "closed"
  inProgress : game.status = .inProgress ↔ Spells g.status "inprogress"
  scheduled : game.scheduled = g.scheduled
  home : game.home = ⟨g.home.id, g.home.name, g.home.shortName⟩
  away : game.away = ⟨g.away.id, g.away.name, g.away.shortName⟩
  homePoints : game.homePoints = g.homePoints
  awayPoints : game.awayPoints = g.awayPoints
  season : game.season = g.season
  details : ListsExactly game.details [
    ("sr_id", .string g.srId), ("reference", .string g.reference),
    ("coverage", .string g.coverage), ("track_on_court", .bool g.trackOnCourt),
    ("time_zones", g.timeZones.json), ("league_id", .string league.id),
    ("league_name", .string league.name)]

theorem GameRecord.becomes_toGame (g : GameRecord) (league : League) :
    g.Becomes league (g.toGame league) where
  id := rfl
  rawStatus := rfl
  closed := GameStatus.ofText_eq_closed_iff g.status
  inProgress := GameStatus.ofText_eq_inProgress_iff g.status
  scheduled := rfl
  home := rfl
  away := rfl
  homePoints := rfl
  awayPoints := rfl
  season := rfl
  details := by
    refine ⟨_, rfl, ?_⟩
    -- The league stands in front of the time zones.
    exact .cons _ (.cons _ (.cons _ (.cons _ (.trans (.cons _ (.swap ..)) (.swap ..)))))

theorem Document.forall₂_toGames (d : Document) :
    List.Forall₂ (fun g game => g.Becomes d.league game) d.games d.toGames := by
  rw [toGames, List.forall₂_map_right_iff, List.forall₂_same]
  exact fun g _ => g.becomes_toGame d.league

/-- A schedule is read back from whatever text writes a document that describes it, and there is
always such a document, with every field in it. Its games are its records in their order, with
everything that is told of them. -/
theorem schedule_read_back (d : Document) (hd : ∀ g ∈ d.games, g.Bounded) :
    (∀ n text, d.DescribedBy n → Writes n text → Document.ofString? text = some d) ∧
      (d.DescribedBy d.json.node ∧ Writes d.json.node d.json.compact) ∧
      List.Forall₂ (fun g game => g.Becomes d.league game) d.games d.toGames :=
  ⟨fun _ _ => Document.ofString?_of_writes hd, ⟨d.described_json, writes_compact d.json⟩,
    d.forall₂_toGames⟩

/-- A game that is over, with all of its numbers. -/
def decider : GameRecord where
  id := "game123"
  status := "CLOSED"
  homePoints := some 107
  awayPoints := some (-89)
  season := ⟨"season-1", 2023, "PST"⟩

def deciderSeason : Json :=
  .object [("type", .string "PST"), ("year", .ofInt 2023), ("id", .string "season-1")]

/-- Its fields in another order, next to one that nobody knows. -/
def deciderSent : Json :=
  .object [("season", deciderSeason), ("away_points", .ofInt (-89)), ("id", .string "game123"),
    ("venue", .object [("capacity", .ofInt 19156)]), ("status", .string "CLOSED"),
    ("home_points", .ofInt 107)]

/-- The day of that game and of another one, of which only the id is known. -/
def finalsDay : Document where
  games := [decider, { id := "game124" }]
  league := { name := "NBA" }

def finalsDaySent : Json :=
  .object [("league", .object [("name", .string "NBA")]),
    ("games", .array [deciderSent, .object [("home_points", .null), ("coverage", .string ""),
      ("id", .string "game124")]])]

theorem described_deciderSent : decider.DescribedBy deciderSent.node := by
  have hseason : SeasonDescribedBy decider.season deciderSeason.node := by
    refine fills_object (by simp [seasonSlots]) (by simp) ?_
    simp only [seasonSlots, List.forall_mem_cons]
    exact ⟨.given rfl, .given rfl, .given rfl, List.forall_mem_nil _⟩
  have hnames : GameRecord.fieldNames.Nodup := by decide
  refine fills_object hnames (by simp) ?_
  simp only [GameRecord.slots, List.forall_mem_cons]
  exact ⟨.given rfl, .given rfl, .omitted rfl, .given rfl, .given rfl, .omitted rfl, .omitted rfl,
    .omitted rfl, .omitted rfl, .omitted rfl, .given hseason, .omitted rfl, .omitted rfl,
    List.forall_mem_nil _⟩

theorem described_finalsDaySent : finalsDay.DescribedBy finalsDaySent.node := by
  have hleague : finalsDay.league.DescribedBy (Json.object [("name", .string "NBA")]).node := by
    refine fills_object (by simp [textSlots, League.fields]) (by simp) ?_
    simp only [textSlots, League.fields, List.forall_mem_map, List.forall_mem_cons]
    exact ⟨.omitted rfl, .given rfl, .omitted rfl, List.forall_mem_nil _⟩
  have hother : GameRecord.DescribedBy { id := "game124" } (Json.object [("home_points", .null),
      ("coverage", .string ""), ("id", .string "game124")]).node := by
    have hnames : GameRecord.fieldNames.Nodup := by decide
    refine fills_object hnames (by simp) ?_
    simp only [GameRecord.slots, List.forall_mem_cons]
    exact ⟨.given rfl, .omitted rfl, .omitted rfl, .null, .omitted, .given rfl, .omitted rfl,
      .omitted rfl, .omitted rfl, .omitted rfl, .omitted rfl, .omitted rfl, .omitted rfl,
      List.forall_mem_nil _⟩
  refine fills_object (by simp [Document.slots]) (by simp) ?_
  simp only [Document.slots, List.forall_mem_cons]
  exact ⟨.omitted rfl,
    .given ⟨_, rfl, .cons described_deciderSent (.cons hother .nil)⟩, .given hleague,
    List.forall_mem_nil _⟩

theorem bounded_finalsDay : ∀ g ∈ finalsDay.games, g.Bounded := by
  simp only [finalsDay, decider, List.forall_mem_cons]
  refine ⟨⟨?_, ?_, ?_⟩, ⟨nofun, nofun, ?_⟩, List.forall_mem_nil _⟩ <;> simp [FitsIn, noSeason]

/-- The day is read from the text of what was sent. -/
theorem finalsDay_read :
    (∀ g ∈ finalsDay.games, g.Bounded) ∧ finalsDay.DescribedBy finalsDaySent.node ∧
      Document.ofString? finalsDaySent.compact = some finalsDay ∧
      List.Forall₂ (fun g game => g.Becomes finalsDay.league game) finalsDay.games
        finalsDay.toGames := by
  obtain ⟨hread, -, hgames⟩ := schedule_read_back finalsDay bounded_finalsDay
  exact ⟨bounded_finalsDay, described_finalsDaySent,
    hread _ _ described_finalsDaySent (writes_compact finalsDaySent), hgames⟩

end LiveEvents.Schedule
