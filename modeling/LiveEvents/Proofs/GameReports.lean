import LiveEvents.Proofs.InterruptedUpserts
import LiveEvents.Proofs.PrintedJson
import LiveEvents.Proofs.SerialUpserts
import LiveEvents.Schedule.Document
import Mathlib.Tactic.SplitIfs

/-!
# Games as they are reported

The records of one game are upserted one after another, in between upserts of other events. After
each of them there is one event of the game and one period, and the event shows what the record
says. Only a record of a closed game says anything about whether the event is online, so what it
says is never taken back.
-/

namespace LiveEvents

/-! ## Statuses in letters of any case -/

/-- A text is a word of small letters, but for the case of its letters. -/
def Spells (raw word : String) : Prop :=
  List.Forall₂ (fun c d => c = d ∨ c = d.toUpper) raw.toList word.toList

theorem toNat_toLower (c : Char) :
    c.toLower.toNat = if 65 ≤ c.toNat ∧ c.toNat ≤ 90 then c.toNat + 32 else c.toNat := by
  unfold Char.toLower
  split_ifs with h h' h'
  · have hgap : ('a'.val - 'A'.val).toNat = 32 := by decide
    have hsmall : c.val.toNat ≤ 90 := h.2
    change (c.val + ('a'.val - 'A'.val)).toNat = c.val.toNat + 32
    rw [UInt32.toNat_add, hgap]
    omega
  · exact absurd h h'
  · exact absurd h' h
  · rfl

theorem toNat_toUpper (c : Char) :
    c.toUpper.toNat = if 97 ≤ c.toNat ∧ c.toNat ≤ 122 then c.toNat - 32 else c.toNat := by
  unfold Char.toUpper
  split_ifs with h h' h'
  · have hgap : ('A'.val - 'a'.val).toNat = 4294967264 := by decide
    have hlarge : 97 ≤ c.val.toNat := h.1
    have hsmall : c.val.toNat ≤ 122 := h.2
    change (c.val + ('A'.val - 'a'.val)).toNat = c.val.toNat - 32
    rw [UInt32.toNat_add, hgap]
    omega
  · exact absurd h h'
  · exact absurd h' h
  · rfl

theorem toLower_eq_iff {c d : Char} (hd : d.toLower = d) :
    c.toLower = d ↔ c = d ∨ c = d.toUpper := by
  simp only [← Char.toNat_inj, toNat_toLower, toNat_toUpper] at hd ⊢
  split_ifs at hd ⊢ <;> omega

theorem map_toLower_eq_iff {word : List Char} (hword : ∀ d ∈ word, d.toLower = d)
    (raw : List Char) : raw.map Char.toLower = word ↔
      List.Forall₂ (fun c d => c = d ∨ c = d.toUpper) raw word := by
  induction raw generalizing word with
  | nil => cases word <;> simp
  | cons c raw ih =>
    cases word with
    | nil => simp
    | cons d word =>
      obtain ⟨hd, hrest⟩ := List.forall_mem_cons.mp hword
      rw [List.map_cons, List.cons.injEq, toLower_eq_iff hd, ih hrest, List.forall₂_cons]

theorem lowered_eq_iff {word : String} (hword : word.toList.map Char.toLower = word.toList)
    (raw : String) : raw.map Char.toLower = word ↔ Spells raw word := by
  have hlower : ∀ d ∈ word.toList, d.toLower = d :=
    List.map_inj_left.mp (hword.trans (List.map_id' _).symm)
  rw [← String.toList_inj, String.toList_map]
  exact map_toLower_eq_iff hlower raw.toList

namespace GameStatus

theorem ofText_eq_closed_iff (raw : String) : ofText raw = closed ↔ Spells raw "closed" := by
  rw [← lowered_eq_iff (by decide)]
  simp only [ofText]
  split_ifs with h h'
  · simp [h]
  · simpa using h'
  · simpa using h'

theorem ofText_eq_inProgress_iff (raw : String) :
    ofText raw = inProgress ↔ Spells raw "inprogress" := by
  rw [← lowered_eq_iff (by decide)]
  simp only [ofText]
  split_ifs with h h'
  · simpa using h
  · simp [h']
  · simpa using h

end GameStatus

theorem Game.pointsText_eq (points : Option Int) :
    pointsText points = toString (points.getD 0) := by
  cases points with
  | none => rfl
  | some points =>
    rw [pointsText, Option.getD_some, ← Text.toList_toString_int, String.ofList_toList]

/-! ## Rows of other keys -/

namespace Store

namespace Table

variable {α : Type} [Row α] {f : ℕ → Guid} {n n' : ℕ} {t : Table α} {row : α} {key : String}

/-- A row that is new, or that has the key of the row in whose place it is put, does not change
what is found by another key. -/
theorem Committed.row?_put_other {g : Guid} (h : Committed f n t)
    (h' : Committed f n' (t.put g row)) (hold : ∀ r, t.get? g = some r → Row.key r = Row.key row)
    (hne : Row.key row ≠ key) : (t.put g row).row? key = t.row? key := by
  ext r
  rw [h'.row?_eq_some_iff, h.row?_eq_some_iff, get?_put]
  by_cases hg : Row.guid r = g
  · rw [if_pos hg, hg]
    constructor
    · rintro ⟨hr, hk⟩
      rw [Option.some.inj hr] at hne
      exact absurd hk hne
    · rintro ⟨hr, hk⟩
      exact absurd ((hold r hr).symm.trans hk) hne
  · rw [if_neg hg]

/-- A row that is found by its key is the only one of that key. -/
theorem Committed.filter_key_of_row? (h : Committed f n t) (hrow : t.row? key = some row) :
    t.rows.filter (Row.key · = key) = [row] := by
  obtain ⟨hget, hkey⟩ := (h.row?_eq_some_iff key row).mp hrow
  have hmem := mem_rows_of_get? hget
  have honly : ∀ r ∈ t.rows, decide (Row.key r = key) = true → r = row := by
    intro r hr hk
    have hget' := h.get?_of_mem_rows hr
    have hguid := h.unique _ _ r row hget' hget ((of_decide_eq_true hk).trans hkey.symm)
    rw [hguid] at hget'
    exact Option.some.inj (hget'.symm.trans hget)
  have hnodup : t.rows.Nodup := List.Nodup.of_map Row.key h.wellKeyed.keys
  obtain ⟨r, hr⟩ := List.length_eq_one_iff.mp
    (Upsert.length_filter_eq_one hnodup hmem (decide_eq_true hkey) honly)
  have hself : row ∈ [r] := hr ▸ List.mem_filter.mpr ⟨hmem, decide_eq_true hkey⟩
  rw [hr, List.mem_singleton.mp hself]

end Table

namespace Memory

variable {mint : Mint} {m : Memory}

theorem of_add_ne {j k : Entity} (h : j ≠ k) (row : k.Of) :
    (m.add k row).committed.of j = m.committed.of j := Tables.of_set_ne _ h _

theorem of_change_ne {j k : Entity} (h : j ≠ k) (g : Guid) (row : k.Of) :
    (m.change k g row).committed.of j = m.committed.of j := Tables.of_set_ne _ h _

theorem row?_add_other {k : Entity} {row : k.Of} {key : String} (hd : mint.Distinct)
    (hm : m.Sound mint) (hm' : (m.add k row).Sound mint)
    (hg : Row.guid row = mint.guid k (m.given k)) (hne : Row.key row ≠ key) :
    ((m.add k row).committed.of k).row? key = (m.committed.of k).row? key := by
  have hput : (m.add k row).committed.of k = (m.committed.of k).put (Row.guid row) row :=
    Tables.of_set_self ..
  have hlater := hm' k
  rw [hput] at hlater ⊢
  refine (hm k).row?_put_other hlater ?_ hne
  intro r hr
  rw [hg, hm.get?_new hd k] at hr
  cases hr

theorem row?_change_other {k : Entity} {g : Guid} {row row' : k.Of} {key : String}
    (hm : m.Sound mint) (hm' : (m.change k g row').Sound mint)
    (hget : (m.committed.of k).get? g = some row) (hkey : Row.key row = Row.key row')
    (hne : Row.key row' ≠ key) :
    ((m.change k g row').committed.of k).row? key = (m.committed.of k).row? key := by
  have hput : (m.change k g row').committed.of k = (m.committed.of k).put g row' :=
    Tables.of_set_self ..
  have hlater := hm' k
  rw [hput] at hlater ⊢
  refine (hm k).row?_put_other hlater ?_ hne
  intro r hr
  rwa [← Option.some.inj (hget.symm.trans hr)]

theorem row?_change_self {k : Entity} {g : Guid} {row' : k.Of}
    (hm' : (m.change k g row').Sound mint) (hg : Row.guid row' = g) :
    ((m.change k g row').committed.of k).row? (Row.key row') = some row' := by
  refine ((hm' k).row?_eq_some_iff _ row').mpr ⟨?_, rfl⟩
  change Table.get? ((m.committed.set k _).of k) _ = _
  rw [Tables.of_set_self, Table.get?_put, if_pos hg]

end Memory

end Store

/-! ## What a write leaves where -/

namespace Upsert

open Store (Entity Memory Mint Row Table)

variable {mint : Mint} {m : Memory} {o : Observation} {key : String}

theorem of_ensurePeriod {k : Entity} (h : k ≠ .period) (spec : PeriodSpec) :
    (ensurePeriod mint m spec).2.committed.of k = m.committed.of k := by
  cases hrow : m.committed.periods.row? spec.code with
  | some row => rw [ensurePeriod_of_some hrow]
  | none =>
    rw [ensurePeriod_of_none hrow]
    exact Memory.of_add_ne h _

theorem of_ensureTeam {k : Entity} (h : k ≠ .team) (h' : k ≠ .teamName) (t : TeamRef)
    (ecosystem language : Guid) :
    (ensureTeam mint m t ecosystem language).2.committed.of k = m.committed.of k := by
  cases hrow : m.committed.teams.row? (Store.pairKey t.externalId ecosystem) with
  | some row => rw [ensureTeam_of_some hrow]
  | none =>
    rw [ensureTeam_of_none hrow]
    exact (Memory.of_add_ne h' _).trans (Memory.of_add_ne h _)

theorem of_ensurePlayers {k : Entity} (h : k ≠ .team) (h' : k ≠ .teamName) (o : Observation) :
    (ensurePlayers mint m o).2.committed.of k = m.committed.of k := by
  cases hteams : o.teams with
  | some pair =>
    rw [ensurePlayers_of_some hteams]
    exact (of_ensureTeam h h' _ _ _).trans (of_ensureTeam h h' _ _ _)
  | none => rw [ensurePlayers_of_none hteams]

theorem of_writeEvent {k : Entity} (h : k ≠ .event) (o : Observation) (period : Guid)
    (teams : Option (Team × Team)) :
    (writeEvent mint m o period teams).2.committed.of k = m.committed.of k := by
  cases hrow : m.committed.events.row? o.externalId with
  | some row =>
    rw [writeEvent_of_some hrow]
    exact Memory.of_change_ne h _ _
  | none =>
    rw [writeEvent_of_none hrow]
    exact Memory.of_add_ne h _

theorem of_writeTitle {k : Entity} (h : k ≠ .title) (o : Observation) (event : Guid) :
    (writeTitle mint m o event).committed.of k = m.committed.of k := by
  cases hrow : m.committed.titles.row? (Store.pairKey event o.identity.language) with
  | some row =>
    rw [writeTitle_of_some hrow]
    split_ifs
    · exact Memory.of_change_ne h _ _
    · rfl
  | none =>
    rw [writeTitle_of_none hrow]
    exact Memory.of_add_ne h _

/-- The store with the period and the teams of an observation. -/
def prepared (mint : Mint) (m : Memory) (o : Observation) : Memory :=
  (ensurePlayers mint (ensurePeriod mint m o.period).2 o).2

theorem sound_prepared (hd : mint.Distinct) (hm : m.Sound mint)
    (hnew : mint.Unforeseen o.identity.language m) : (prepared mint m o).Sound mint :=
  (writes_ensurePlayers hd o (unforeseen_ensurePeriod hnew o.period)).sound
    ((writes_ensurePeriod m o.period).sound hm)

theorem events_prepared : (prepared mint m o).committed.events = m.committed.events :=
  (of_ensurePlayers (k := .event) nofun nofun o).trans (of_ensurePeriod (k := .event) nofun _)

theorem events_write : (write mint m o).2.committed.events =
    (writeEvent mint (prepared mint m o) o (ensurePeriod mint m o.period).1.guid
      (ensurePlayers mint (ensurePeriod mint m o.period).2 o).1).2.committed.events :=
  of_writeTitle (k := .event) nofun o _

theorem periods_write : (write mint m o).2.committed.periods =
    (ensurePeriod mint m o.period).2.committed.periods :=
  (of_writeTitle (k := .period) nofun o _).trans <|
    (of_writeEvent (k := .period) nofun o _ _).trans <|
    of_ensurePlayers (k := .period) nofun nofun o

/-- An upsert concerns no other event. -/
theorem row?_writeEvent_other (hd : mint.Distinct) (hm : m.Sound mint) (hne : o.externalId ≠ key)
    (period : Guid) (teams : Option (Team × Team)) :
    (writeEvent mint m o period teams).2.committed.events.row? key =
      m.committed.events.row? key := by
  have hlater := (writes_writeEvent hm o period teams).sound hm
  cases hrow : m.committed.events.row? o.externalId with
  | some row =>
    rw [writeEvent_of_some hrow] at hlater ⊢
    obtain ⟨hget, hkey⟩ := ((hm .event).row?_eq_some_iff o.externalId row).mp hrow
    exact Memory.row?_change_other (k := .event) hm hlater hget rfl
      (fun h => hne (hkey.symm.trans h))
  | none =>
    rw [writeEvent_of_none hrow] at hlater ⊢
    exact Memory.row?_add_other (k := .event) hd hm hlater rfl hne

theorem row?_writeEvent_self (hm : m.Sound mint) (o : Observation) (period : Guid)
    (teams : Option (Team × Team)) :
    (writeEvent mint m o period teams).2.committed.events.row? o.externalId =
      some (match m.committed.events.row? o.externalId with
        | some row => (patch o period teams).apply row
        | none => (draft o period teams).toEvent (mint.row m.rows)) := by
  have hlater := (writes_writeEvent hm o period teams).sound hm
  cases hrow : m.committed.events.row? o.externalId with
  | some row =>
    rw [writeEvent_of_some hrow] at hlater ⊢
    obtain ⟨-, hkey⟩ := ((hm .event).row?_eq_some_iff o.externalId row).mp hrow
    have hself := Memory.row?_change_self (k := .event) hlater rfl
    exact hkey ▸ hself
  | none =>
    rw [writeEvent_of_none hrow] at hlater ⊢
    exact Memory.row?_add (k := .event) hlater

/-- A period that is found goes on to be found, and the period of an observation is there. -/
theorem row?_ensurePeriod (hd : mint.Distinct) (hm : m.Sound mint) (spec : PeriodSpec) :
    (ensurePeriod mint m spec).2.committed.periods.row? spec.code =
        some (ensurePeriod mint m spec).1 ∧
      ∀ code row, m.committed.periods.row? code = some row →
        (ensurePeriod mint m spec).2.committed.periods.row? code = some row := by
  have hlater := (writes_ensurePeriod m spec).sound hm
  cases hrow : m.committed.periods.row? spec.code with
  | some row =>
    rw [ensurePeriod_of_some hrow]
    exact ⟨hrow, fun _ _ h => h⟩
  | none =>
    rw [ensurePeriod_of_none hrow] at hlater ⊢
    refine ⟨Memory.row?_add (k := .period) hlater, ?_⟩
    intro code row h
    have hne : spec.code ≠ code := by
      rintro rfl
      rw [hrow] at h
      cases h
    exact (Memory.row?_add_other (k := .period) hd hm hlater rfl hne).trans h

/-! ## Teams and their names -/

/-- Every team that has a name is a row of the store. -/
def TeamsThere (m : Memory) : Prop :=
  ∀ name ∈ m.committed.teamNames.rows, m.committed.teams.contains name.team = true

theorem TeamsThere.congr {m' : Memory} (h : TeamsThere m)
    (hteams : m'.committed.teams = m.committed.teams)
    (hnames : m'.committed.teamNames = m.committed.teamNames) : TeamsThere m' := by
  unfold TeamsThere
  rwa [hteams, hnames]

theorem TeamsThere.ensureTeam (h : TeamsThere m) (t : TeamRef) (ecosystem language : Guid) :
    TeamsThere (ensureTeam mint m t ecosystem language).2 := by
  cases hrow : m.committed.teams.row? (Store.pairKey t.externalId ecosystem) with
  | some row =>
    rw [ensureTeam_of_some hrow]
    exact h
  | none =>
    rw [ensureTeam_of_none hrow]
    intro name hname
    refine (Table.contains_put _ _ _ _).mpr ?_
    rcases Table.mem_rows_put hname with rfl | hold
    · exact .inl rfl
    · exact .inr (h name hold)

theorem TeamsThere.write (h : TeamsThere m) (o : Observation) :
    TeamsThere (write mint m o).2 := by
  have hperiod : TeamsThere (ensurePeriod mint m o.period).2 :=
    h.congr (of_ensurePeriod (k := .team) nofun _) (of_ensurePeriod (k := .teamName) nofun _)
  have hplayers : TeamsThere (prepared mint m o) := by
    unfold prepared
    cases hteams : o.teams with
    | some pair =>
      rw [ensurePlayers_of_some hteams]
      exact (hperiod.ensureTeam _ _ _).ensureTeam _ _ _
    | none =>
      rw [ensurePlayers_of_none hteams]
      exact hperiod
  refine hplayers.congr ?_ ?_
  · exact (of_writeTitle (k := .team) nofun o _).trans (of_writeEvent (k := .team) nofun o _ _)
  · exact (of_writeTitle (k := .teamName) nofun o _).trans
      (of_writeEvent (k := .teamName) nofun o _ _)

theorem sound_write (hd : mint.Distinct) (hm : m.Sound mint)
    (hnew : mint.Unforeseen o.identity.language m) : (write mint m o).2.Sound mint := by
  have hs := sound_prepared hd hm hnew
  have hs' := (writes_writeEvent hs o (ensurePeriod mint m o.period).1.guid
    (ensurePlayers mint (ensurePeriod mint m o.period).2 o).1).sound hs
  exact (writes_writeTitle hs' o _).sound hs'

/-! ## Reports of a game -/

/-- A record of a game as it comes in, with what it is filed under. -/
structure Report where
  record : Schedule.GameRecord
  league : Schedule.League
  identity : Identity
  ecosystem : Guid
  time : Instant

def Report.observation (r : Report) : Observation :=
  .ofGame r.identity r.ecosystem (r.record.toGame r.league) r.time

/-- The event shows what the last of these reports says, and it is online if one of them said that
the game is closed. -/
structure Shows (reports : List Report) (last : Report) (e : Event) : Prop where
  closed : Spells last.record.status "closed" → e.live = .finished ∧ e.stage = "FT"
  inProgress : Spells last.record.status "inprogress" → e.live = .live ∧ e.stage = "Q1"
  scheduled : ¬Spells last.record.status "closed" → ¬Spells last.record.status "inprogress" →
    e.live = .upcoming ∧ e.stage = "Q1"
  mainScore : e.mainScore = toString (last.record.homePoints.getD 0)
  clusterScore : e.clusterScore = toString (last.record.awayPoints.getD 0)
  online : e.isOnline = true ↔ ∃ r ∈ reports, Spells r.record.status "closed"

/-- The store after these reports of a game. -/
structure Told (mint : Mint) (id : String) (reports : List Report) (m : Memory) : Prop where
  sound : m.Sound mint
  teams : TeamsThere m
  unseen : reports = [] → m.committed.events.row? id = none
  event : ∀ last ∈ reports.getLast?, ∃ e p, m.committed.events.row? id = some e ∧
    m.committed.periods.row? id = some p ∧ e.period = p.guid ∧ Shows reports last e

variable {id : String} {reports : List Report}

theorem online_report (r : Report) :
    r.observation.online = none ∨ r.observation.online = some true := by
  change (GameStatus.ofText r.record.status).online? = none ∨
    (GameStatus.ofText r.record.status).online? = some true
  cases GameStatus.ofText r.record.status <;> simp [GameStatus.online?]

/-- An event that was created or changed by a report. -/
theorem shows_snoc (r : Report) {e : Event} (hlive : e.live = r.observation.live)
    (hstage : e.stage = r.observation.stage) (hmain : e.mainScore = r.observation.mainScore)
    (hcluster : e.clusterScore = r.observation.clusterScore)
    (honline : e.isOnline = true ↔ r.observation.online = some true ∨
      ∃ r ∈ reports, Spells r.record.status "closed") :
    Shows (reports ++ [r]) r e := by
  have hlive' : e.live = (GameStatus.ofText r.record.status).liveState := hlive
  have hstage' : e.stage = (GameStatus.ofText r.record.status).stage := hstage
  have hstatus : r.observation.online = some true ↔ Spells r.record.status "closed" := by
    rw [← GameStatus.ofText_eq_closed_iff]
    change (GameStatus.ofText r.record.status).online? = some true ↔ _
    cases GameStatus.ofText r.record.status <;> simp [GameStatus.online?]
  refine ⟨?_, ?_, ?_, ?_, ?_, ?_⟩
  · intro h
    rw [(GameStatus.ofText_eq_closed_iff _).mpr h] at hlive' hstage'
    exact ⟨hlive', hstage'⟩
  · intro h
    rw [(GameStatus.ofText_eq_inProgress_iff _).mpr h] at hlive' hstage'
    exact ⟨hlive', hstage'⟩
  · intro hnot hnot'
    have hscheduled : GameStatus.ofText r.record.status = .scheduled := by
      rw [← GameStatus.ofText_eq_closed_iff] at hnot
      rw [← GameStatus.ofText_eq_inProgress_iff] at hnot'
      cases h : GameStatus.ofText r.record.status with
      | scheduled => rfl
      | inProgress => exact absurd h hnot'
      | closed => exact absurd h hnot
    rw [hscheduled] at hlive' hstage'
    exact ⟨hlive', hstage'⟩
  · exact hmain.trans (Game.pointsText_eq _)
  · exact hcluster.trans (Game.pointsText_eq _)
  · rw [honline, hstatus]
    simp [or_comm]

theorem Told.unforeseen (hd : mint.Distinct) (hs : mint.Slashless)
    (h : Told mint id reports m) (language : Guid) : mint.Unforeseen language m :=
  h.sound.unforeseen hd hs h.teams language

/-- An upsert of another event. -/
theorem Told.write_other (hd : mint.Distinct) (hs : mint.Slashless)
    (h : Told mint id reports m) (hne : o.externalId ≠ id) :
    Told mint id reports (write mint m o).2 := by
  have hnew := h.unforeseen hd hs o.identity.language
  have hkept : (write mint m o).2.committed.events.row? id = m.committed.events.row? id := by
    rw [events_write, row?_writeEvent_other hd (sound_prepared hd h.sound hnew) hne,
      events_prepared]
  refine ⟨sound_write hd h.sound hnew, h.teams.write o, ?_, ?_⟩
  · intro hnone
    rw [hkept, h.unseen hnone]
  · intro last hlast
    obtain ⟨e, p, he, hp, hperiod, hshows⟩ := h.event last hlast
    refine ⟨e, p, hkept.trans he, ?_, hperiod, hshows⟩
    rw [periods_write]
    exact (row?_ensurePeriod hd h.sound o.period).2 id p hp

/-- A report is upserted. -/
theorem Told.write_report (hd : mint.Distinct) (hs : mint.Slashless)
    (h : Told mint id reports m) (r : Report) (hid : r.record.id = id) :
    Told mint id (reports ++ [r]) (write mint m r.observation).2 := by
  subst hid
  have hnew := h.unforeseen hd hs r.observation.identity.language
  have hperiod := (row?_ensurePeriod hd h.sound r.observation.period).1
  have hevent := row?_writeEvent_self (sound_prepared hd h.sound hnew)
    r.observation (ensurePeriod mint m r.observation.period).1.guid
    (ensurePlayers mint (ensurePeriod mint m r.observation.period).2 r.observation).1
  rw [events_prepared, ← events_write] at hevent
  refine ⟨sound_write hd h.sound hnew, h.teams.write r.observation, by simp, ?_⟩
  intro last hlast
  rw [List.getLast?_append, List.getLast?_singleton, Option.some_or] at hlast
  obtain rfl := Option.some.inj hlast
  refine ⟨_, _, hevent, periods_write ▸ hperiod, ?_, ?_⟩
  · cases m.committed.events.row? r.observation.externalId <;> rfl
  · cases hold : reports.getLast? with
    | none =>
      obtain rfl := List.getLast?_eq_none_iff.mp hold
      have hunseen : m.committed.events.row? r.observation.externalId = none := h.unseen rfl
      simp only [hunseen]
      refine shows_snoc r rfl rfl rfl rfl ?_
      cases honline : r.observation.online <;> simp [draft, EventDraft.toEvent, honline]
    | some before =>
      obtain ⟨e, p, he, -, -, hshows⟩ := h.event before hold
      have hseen : m.committed.events.row? r.observation.externalId = some e := he
      simp only [hseen]
      refine shows_snoc r rfl rfl rfl rfl ?_
      rw [← hshows.online]
      -- A report never hides an event, so what is online stays so.
      rcases online_report r with hkeeps | hshown
      · simp [patch, EventPatch.apply, hkeeps]
      · simp [patch, EventPatch.apply, hshown]

/-! ## Whole runs -/

/-- Upserts one after another, of which some report the game. -/
theorem Told.runAll (hd : mint.Distinct) (hs : mint.Slashless) (h : Told mint id reports m)
    {os : List Observation} {later : List Report}
    (hgame : os.filter (·.externalId = id) = later.map Report.observation) :
    (∀ r ∈ (runAll mint m os).1, ∃ outcome, r = .ok outcome) ∧
      Told mint id (reports ++ later) (runAll mint m os).2 := by
  induction os generalizing m reports later with
  | nil =>
    obtain rfl := List.map_eq_nil_iff.mp hgame.symm
    rw [List.append_nil]
    exact ⟨fun r hr => absurd hr List.not_mem_nil, h⟩
  | cons o os ih =>
    obtain ⟨hresult, hmemory⟩ :=
      run_program hd h.sound (h.unforeseen hd hs o.identity.language)
    have hstep : ∃ now rest, later = now ++ rest ∧
        os.filter (·.externalId = id) = rest.map Report.observation ∧
        Told mint id (reports ++ now) (write mint m o).2 := by
      by_cases hid : o.externalId = id
      · rw [List.filter_cons_of_pos (by simpa using hid)] at hgame
        obtain ⟨r, rest, rfl, rfl, hrest⟩ := List.map_eq_cons_iff.mp hgame.symm
        exact ⟨[r], rest, rfl, hrest.symm, h.write_report hd hs r hid⟩
      · rw [List.filter_cons_of_neg (by simpa using hid)] at hgame
        exact ⟨[], later, rfl, hgame, by simpa using h.write_other hd hs hid⟩
    obtain ⟨now, rest, rfl, hrest, htold⟩ := hstep
    rw [← hmemory] at htold
    obtain ⟨hok, hafter⟩ := ih htold hrest
    rw [List.append_assoc] at hafter
    refine ⟨?_, hafter⟩
    intro r hr
    rcases List.mem_cons.mp hr with rfl | hr
    · exact ⟨_, hresult⟩
    · exact hok r hr

/-- On every store that upserts can have left and that has no event of a game, records of the game
are upserted in between others. All upserts succeed. As soon as there was a record of the game,
there is one event of the game and one period, which is the period of the event, and the event shows
what the last record says and whether the game was ever closed. -/
theorem game_shown (hd : mint.Distinct) (hs : mint.Slashless) (moves : List Move)
    (hunseen : ∀ e ∈ (Race.after mint moves).memory.committed.events.rows, e.externalId ≠ id)
    {os : List Observation} (hgame : os.filter (·.externalId = id) =
      reports.map Report.observation) :
    let run := runAll mint (Race.after mint moves).memory os
    (∀ r ∈ run.1, ∃ outcome, r = .ok outcome) ∧
      ∀ last ∈ reports.getLast?, ∃ e p,
        run.2.committed.events.rows.filter (·.externalId = id) = [e] ∧
        run.2.committed.periods.rows.filter (·.code = id) = [p] ∧
        e.period = p.guid ∧ Shows reports last e := by
  have hsafe := Race.safe_after hd hs moves
  have hteams : TeamsThere (Race.after mint moves).memory := fun name hname =>
    hsafe.complete.team _ name ((hsafe.sound .teamName).get?_of_mem_rows hname)
  have hstart : Told mint id [] (Race.after mint moves).memory :=
    ⟨hsafe.sound, hteams, fun _ => (Table.row?_eq_none_iff _ id).mpr hunseen, by simp⟩
  obtain ⟨hok, htold⟩ := hstart.runAll hd hs hgame
  refine ⟨hok, ?_⟩
  intro last hlast
  obtain ⟨e, p, he, hp, hperiod, hshows⟩ := htold.event last hlast
  exact ⟨e, p, (htold.sound .event).filter_key_of_row? he,
    (htold.sound .period).filter_key_of_row? hp, hperiod, hshows⟩

def opener (status : String) (home away : Option Int) : Report where
  record := { id := "opener", status, homePoints := home, awayPoints := away }
  league := { id := "nba" }
  identity := { category := "sports", ecosystem := "nba", language := "en" }
  ecosystem := "nba"
  time := finals.observedAt

/-- A game that is seen running again after it was closed. -/
def openerDay : List Report :=
  [opener "scheduled" none none, opener "InProgress" (some 54) (some 50),
    opener "CLOSED" (some 110) (some 102), opener "inprogress" (some 111) none]

def seasonStart : List Observation :=
  [(opener "scheduled" none none).observation, tipOff,
    (opener "InProgress" (some 54) (some 50)).observation, finals,
    (opener "CLOSED" (some 110) (some 102)).observation, finals,
    (opener "inprogress" (some 111) none).observation]

def openerStore : Memory :=
  (runAll .serial (Race.after .serial photoFinish).memory seasonStart).2

theorem openerDay_shown : Mint.serial.Distinct ∧ Mint.serial.Slashless ∧
    (∀ e ∈ (Race.after .serial photoFinish).memory.committed.events.rows,
      e.externalId ≠ "opener") ∧
    seasonStart.filter (·.externalId = "opener") = openerDay.map Report.observation ∧
    (∃ e p, openerStore.committed.events.rows.filter (·.externalId = "opener") = [e] ∧
      openerStore.committed.periods.rows.filter (·.code = "opener") = [p] ∧
      e.period = p.guid ∧ Shows openerDay (opener "inprogress" (some 111) none) e) ∧
    openerStore.committed.events.rows.map
        (fun e => (e.externalId, e.live, e.mainScore, e.clusterScore, e.isOnline)) =
      [("finals-7", .finished, "106", "88", true), ("opener", .live, "111", "0", true)] := by
  have hunseen : ∀ e ∈ (Race.after .serial photoFinish).memory.committed.events.rows,
      e.externalId ≠ "opener" := by decide +kernel
  have hgame : seasonStart.filter (·.externalId = "opener") =
      openerDay.map Report.observation := by rfl
  obtain ⟨-, hshown⟩ :=
    game_shown Mint.serial_distinct Mint.serial_slashless photoFinish hunseen hgame
  unfold openerStore
  exact ⟨Mint.serial_distinct, Mint.serial_slashless, hunseen, hgame, hshown _ rfl,
    by decide +kernel⟩

end Upsert

end LiveEvents
