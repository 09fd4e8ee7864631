import LiveEvents.Proofs.StatementTexts
import LiveEvents.Proofs.StoreSteps
import LiveEvents.Sql.Calls

/-!
# The row of an event in both stores

The statements of the database store are carried out on one row as they read. The insertion of a
draft leaves the row of the event that the memory store makes of it, and an update turns the row of
an event into the row of the event with the patch applied. What is selected from such a row is read
as the event. So both stores hold the same event after every history of it.
-/

namespace LiveEvents.Sql

open Store (Call Memory Mint Table Tables)

/-! ## Carrying out a statement -/

/-- The value of a term, if its parameters are there and its columns are in the row. -/
def Term.value? (params : List Param) (old : Record) : Term → Option Param
  | param 0 => none
  | param (n + 1) => params[n]?
  | column name => old.lookup name
  | first a b => do
    match ← a.value? params old with
    | .null => b.value? params old
    | value => some value

/-- Only texts are compared. -/
def sameText : Option Param → Option Param → Bool
  | some (.text a), some (.text b) => a == b
  | _, _ => false

def holds (keys : List (String × Term)) (params : List Param) (row : Record) : Bool :=
  keys.all fun (column, term) => sameText (row.lookup column) (term.value? params row)

/-- The row that an insertion into this table writes, but for the guid that it gets. -/
def insertedRow? (table sql : String) (params : List Param) : Option Record := do
  let i ← insertion? sql
  if i.table = table then
    i.values.mapM fun (column, term) => (term.value? params []).map (column, ·)
  else none

/-- What an update of this table makes of a row that it is about. -/
def updatedRow? (table sql : String) (params : List Param) (old : Record) : Option Record := do
  let u ← change? sql
  if u.table = table ∧ holds u.keys params old ∧ (∀ v ∈ u.changes, v.1 ∈ old.map Prod.fst) then
    old.mapM fun (column, value) =>
      match u.changes.lookup column with
      | some term => (term.value? params old).map (column, ·)
      | none => some (column, value)
  else none

/-- What a selection from this table shows of a row that it is about. -/
def selectedRow? (table sql : String) (params : List Param) (row : Record) : Option Record := do
  let s ← selection? sql
  if s.table = table ∧ holds s.keys params row then
    s.columns.mapM fun (shown, column) => (row.lookup column).map (shown, ·)
  else none

/-! ## The row of an event -/

/-- The columns of an event in the order of its table. -/
def eventRecord (e : Event) : Record :=
  [
    ("guid", .text e.guid), ("external_id", .text e.externalId),
    ("category_guid", .text e.category), ("ecosystem_guid", .text e.ecosystem),
    ("event_period_guid", .text e.period), ("main_team_group_guid", .text e.homeTeam),
    ("cluster_team_group_guid", .text e.awayTeam), ("main_score", .text e.mainScore),
    ("cluster_score", .text e.clusterScore), ("info", .json e.info),
    ("is_online", .bool e.isOnline), ("is_live", .small e.live.code),
    ("is_sports", .bool e.isSports), ("stage", .text e.stage), ("created_at", .time e.createdAt),
    ("updated_at", .time e.updatedAt)]

/-- The row that the statement of this call inserts under a guid. -/
def inserted? (c : Call) (guid : Guid) : Option Record :=
  (insertedRow? "event" (statement c).1.text (statement c).2).map (("guid", .text guid) :: ·)

/-- What the statement of this call makes of a row. -/
def updated? (c : Call) (row : Record) : Option Record :=
  updatedRow? "event" (statement c).1.text (statement c).2 row

/-- The event that is found by its id if this is its row. -/
def readBack? (externalId : String) (row : Record) : Option Event := do
  let c := Call.eventByExternalId externalId
  let shown ← selectedRow? "event" (statement c).1.text (statement c).2 row
  match reply (.rows [shown]) (.eventByExternalId externalId) with
  | .ok found => found
  | .error _ => none

theorem named_insertEvent : insertEvent.Named :=
  ⟨by decide +kernel, by decide +kernel, by decide⟩

theorem named_updateEvent : updateEvent.Named :=
  ⟨by decide +kernel, by decide +kernel, by decide⟩

theorem named_selectEvent : selectEvent.Named :=
  ⟨by decide +kernel, by decide +kernel, by decide +kernel, by decide, by decide⟩

/-- Everything that the table has of an event is selected. -/
theorem columns_eventRecord (e : Event) :
    (eventRecord e).map Prod.fst = selectEvent.columns.map Column.name := rfl

theorem inserted_createEvent (d : EventDraft) (guid : Guid) :
    inserted? (.createEvent d) guid = some (eventRecord (d.toEvent guid)) := by
  have hread : insertion? (statement (.createEvent d)).1.text = some insertEvent.insertion :=
    insertion?_text named_insertEvent
  unfold inserted? insertedRow?
  rw [hread]
  rfl

theorem updated_updateEvent (p : EventPatch) (e : Event) :
    updated? (.updateEvent e.guid p) (eventRecord e) = some (eventRecord (p.apply e)) := by
  have hread : change? (statement (.updateEvent e.guid p)).1.text = some updateEvent.change :=
    change?_text named_updateEvent
  have hkeys : holds updateEvent.change.keys (patchParams e.guid p) (eventRecord e) = true :=
    (Bool.and_true _).trans (beq_self_eq_true e.guid)
  have hcolumns : ∀ v ∈ updateEvent.change.changes, v.1 ∈ (eventRecord e).map Prod.fst := by
    rw [columns_eventRecord]
    decide +kernel
  unfold updated? updatedRow?
  rw [hread]
  change (if _ then _ else _) = _
  rw [if_pos ⟨rfl, hkeys, hcolumns⟩]
  obtain ⟨_, _, _, _, _, _, home, away, online, _⟩ := p
  cases home <;> cases away <;> cases online <;> rfl

theorem event?_eventRecord (e : Event) : (eventRecord e).event? = some e := by
  obtain ⟨⟨_, _, _, _, _, _, _, _, _, _, state, _, _, _⟩, _, _⟩ := e
  cases state <;> rfl

theorem readBack_eventRecord (e : Event) : readBack? e.externalId (eventRecord e) = some e := by
  have hkeys : holds selectEvent.selection.keys [.text e.externalId] (eventRecord e) = true :=
    (Bool.and_true _).trans (beq_self_eq_true e.externalId)
  have hshown : selectedRow? "event" selectEvent.text [.text e.externalId] (eventRecord e) =
      some (eventRecord e) := by
    unfold selectedRow?
    rw [selection?_text named_selectEvent]
    change (if _ then _ else _) = _
    rw [if_pos ⟨rfl, hkeys⟩]
    rfl
  have hreply : reply (.rows [eventRecord e]) (.eventByExternalId e.externalId) = .ok (some e) := by
    change Answer.row Record.event? (.rows [eventRecord e]) = _
    simp only [Answer.row, event?_eventRecord]
  unfold readBack?
  change (selectedRow? "event" selectEvent.text [.text e.externalId] (eventRecord e)).bind _ = _
  rw [hshown]
  simp only [Option.bind_some, hreply]

/-! ## Both stores -/

/-- The row of an event that was inserted and then updated by each of these patches. -/
def written? (d : EventDraft) (guid : Guid) (patches : List EventPatch) : Option Record := do
  let row ← inserted? (.createEvent d) guid
  patches.foldlM (fun row p => updated? (.updateEvent guid p) row) row

theorem written_eq (d : EventDraft) (guid : Guid) (patches : List EventPatch) :
    written? d guid patches =
      some (eventRecord (patches.foldl (fun e p => p.apply e) (d.toEvent guid))) := by
  have hupdates : ∀ e : Event, e.guid = guid →
      patches.foldlM (fun row p => updated? (.updateEvent guid p) row) (eventRecord e) =
        some (eventRecord (patches.foldl (fun e p => p.apply e) e)) := by
    induction patches with
    | nil => exact fun _ _ => rfl
    | cons p patches ih =>
      rintro e rfl
      rw [List.foldlM_cons, updated_updateEvent]
      exact ih (p.apply e) rfl
  unfold written?
  rw [inserted_createEvent]
  exact hupdates (d.toEvent guid) rfl

theorem externalId_patched (patches : List EventPatch) (e : Event) :
    (patches.foldl (fun e p => p.apply e) e).externalId = e.externalId := by
  induction patches generalizing e with
  | nil => rfl
  | cons p patches ih => exact ih (p.apply e)

/-- The insertion of a draft and the updates of an event, as their statements read, leave rows that
are read back as the events that the memory store stages for the same calls. -/
theorem stores_write_same_event (mint : Mint) (m : Memory) (staged : Tables) :
    (∀ d : EventDraft, (m.perform mint staged (.createEvent d)).1 = .ok () →
      ∃ row e, inserted? (.createEvent d) (mint.row m.rows) = some row ∧
        readBack? d.externalId row = some e ∧
        (m.perform mint staged (.createEvent d)).2.2.events.get? (mint.row m.rows) = some e ∧
        e = d.toEvent (mint.row m.rows)) ∧
      (∀ (e : Event) (p : EventPatch),
        Table.findGuid? staged.events m.committed.events e.guid = some e →
          ∃ row e', updated? (.updateEvent e.guid p) (eventRecord e) = some row ∧
            readBack? e.externalId row = some e' ∧
            (m.perform mint staged (.updateEvent e.guid p)).2.2.events.get? e.guid = some e' ∧
            e' = p.apply e) ∧
      ∀ (d : EventDraft) (guid : Guid) (patches : List EventPatch),
        (written? d guid patches).bind (readBack? d.externalId) =
          some (patches.foldl (fun e p => p.apply e) (d.toEvent guid)) := by
  refine ⟨?_, ?_, ?_⟩
  · intro d hok
    refine ⟨_, _, inserted_createEvent d _, readBack_eventRecord (d.toEvent _), ?_, rfl⟩
    rw [Memory.perform_createEvent] at hok ⊢
    cases hfind : Table.find? (staged.of .event) (m.committed.of .event)
        (Store.Row.key (d.toEvent (mint.row m.rows))) with
    | some row =>
      rw [Memory.createRow_of_some (k := .event) hfind] at hok
      cases hok
    | none =>
      rw [Memory.createRow_of_none (k := .event) hfind]
      exact (Table.get?_put _ _ _ _).trans (if_pos rfl)
  · intro e p hrow
    refine ⟨_, _, updated_updateEvent p e, readBack_eventRecord (p.apply e), ?_, rfl⟩
    rw [Memory.perform_updateEvent, Memory.updateRow_of_some (k := .event) hrow]
    exact (Table.get?_put _ _ _ _).trans (if_pos rfl)
  · intro d guid patches
    have hid : (patches.foldl (fun e p => p.apply e) (d.toEvent guid)).externalId =
        d.externalId := externalId_patched patches _
    rw [written_eq, Option.bind_some, ← hid, readBack_eventRecord]

/-- A game before it begins. -/
def finalsDraft : EventDraft where
  externalId := "finals-7"
  category := "sports"
  ecosystem := "nba"
  period := "p"
  homeTeam := "bos"
  awayTeam := "dal"
  mainScore := "0"
  clusterScore := "0"
  info := .object []
  isOnline := false
  live := .upcoming
  isSports := true
  stage := "Q1"
  createdAt := ⟨.epoch, 0, 0⟩

/-- The game has ended and is shown; its teams stay. -/
def finalsPatch : EventPatch where
  period := "p"
  mainScore := "106"
  clusterScore := "88"
  live := .finished
  stage := "FT"
  info := .object [("venue", .string "TD Garden")]
  homeTeam := none
  awayTeam := none
  isOnline := some true
  updatedAt := ⟨.epoch, 7200, 0⟩

/-- The memory store has created the event of the draft, and not committed it. -/
def finalsCreated : Except Store.StoreError Unit × Memory × Tables :=
  ({} : Memory).perform .serial {} (.createEvent finalsDraft)

def finalsStored : Event := finalsDraft.toEvent (Mint.serial.row 0)

/-- Both stores write the same event when it is created, and again when it is updated. -/
theorem finals_written_alike :
    finalsCreated.1 = .ok () ∧
    (∃ row e, inserted? (.createEvent finalsDraft) (Mint.serial.row 0) = some row ∧
      readBack? "finals-7" row = some e ∧
      finalsCreated.2.2.events.get? (Mint.serial.row 0) = some e ∧ e = finalsStored) ∧
    Table.findGuid? finalsCreated.2.2.events finalsCreated.2.1.committed.events finalsStored.guid =
      some finalsStored ∧
    ∃ row e, updated? (.updateEvent finalsStored.guid finalsPatch) (eventRecord finalsStored) =
        some row ∧ readBack? "finals-7" row = some e ∧
      (finalsCreated.2.1.perform .serial finalsCreated.2.2
        (.updateEvent finalsStored.guid finalsPatch)).2.2.events.get? finalsStored.guid = some e ∧
      e = finalsPatch.apply finalsStored := by
  obtain ⟨hcreate, -⟩ := stores_write_same_event .serial {} {}
  obtain ⟨-, hupdate, -⟩ :=
    stores_write_same_event .serial finalsCreated.2.1 finalsCreated.2.2
  exact ⟨rfl, hcreate finalsDraft rfl, rfl, hupdate finalsStored finalsPatch rfl⟩

end LiveEvents.Sql
