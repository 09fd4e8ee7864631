import LiveEvents.Proofs.GameReports

/-!
# Upserts that are repeated

An upsert that is applied again finds everything that it wrote. The period and the teams are there
under their keys, the patch of the observation changes nothing in an event that was drafted or
patched from it, and the title has its text. So the second time it updates the event that it left,
and leaves all tables as they are.
-/

namespace LiveEvents

open Store (Entity Memory Mint Row Table pairKey)

/-- A patch that has been applied changes nothing any more. -/
theorem EventPatch.apply_apply (p : EventPatch) (e : Event) : p.apply (p.apply e) = p.apply e := by
  obtain ⟨_, _, _, _, _, _, home, away, online, _⟩ := p
  cases home <;> cases away <;> cases online <;> rfl

namespace Store.Memory

variable {mint : Mint} {m m' : Memory}

/-- What is found by a key goes on to be found under its guid, whatever else is written. -/
theorem Writes.row?_stays (hd : mint.Distinct) (hm : m.Sound mint) (h : m.Writes mint m')
    {k : Entity} {key : String} {row : k.Of} (hrow : (m.committed.of k).row? key = some row) :
    ∃ row', (m'.committed.of k).row? key = some row' ∧ Fixed.part row' = Fixed.part row := by
  obtain ⟨hget, hkey⟩ := ((hm k).row?_eq_some_iff key row).mp hrow
  obtain ⟨row', hget', hpart⟩ := h.continues hd hm k _ row hget
  have hguid : Row.guid row' = Row.guid row := (h.sound hm k).own _ row' hget'
  refine ⟨row', ((h.sound hm k).row?_eq_some_iff key row').mpr ⟨?_, ?_⟩, hpart⟩
  · rw [hguid]
    exact hget'
  · exact (Fixed.key_eq hpart).trans hkey

/-- A row in its own place leaves a store as it is. -/
theorem change_self {k : Entity} {g : Guid} {row : k.Of}
    (h : (m.committed.of k).get? g = some row) : m.change k g row = m := by
  unfold change
  rw [Table.put_self h]
  cases k <;> rfl

end Store.Memory

namespace Upsert

variable {mint : Mint} {m m' : Memory} {o : Observation}

/-- The patch of an observation says nothing new about an event drafted from it. -/
theorem patch_apply_draft (o : Observation) (period : Guid) (teams : Option (Team × Team))
    (g : Guid) : (patch o period teams).apply ((draft o period teams).toEvent g) =
      (draft o period teams).toEvent g := by
  unfold patch draft EventDraft.toEvent EventPatch.apply
  cases teams <;> cases o.online <;> rfl

/-! ## Each write again -/

theorem ensurePeriod_again (hd : mint.Distinct) (hm : m.Sound mint) {spec : PeriodSpec}
    (h : (ensurePeriod mint m spec).2.Writes mint m') :
    ensurePeriod mint m' spec = ((ensurePeriod mint m spec).1, m') := by
  have hlater := (writes_ensurePeriod m spec).sound hm
  obtain ⟨row, hrow, hsame⟩ :=
    h.row?_stays hd hlater (k := .period) (row?_ensurePeriod hd hm spec).1
  obtain rfl : row = (ensurePeriod mint m spec).1 := hsame
  exact ensurePeriod_of_some hrow

/-- The team of a reference is there. -/
theorem row?_ensureTeam {t : TeamRef} {ecosystem language : Guid}
    (hm : (ensureTeam mint m t ecosystem language).2.Sound mint) :
    (ensureTeam mint m t ecosystem language).2.committed.teams.row?
      (pairKey t.externalId ecosystem) = some (ensureTeam mint m t ecosystem language).1 := by
  cases hrow : m.committed.teams.row? (pairKey t.externalId ecosystem) with
  | some row =>
    rw [ensureTeam_of_some hrow]
    exact hrow
  | none =>
    rw [ensureTeam_of_none hrow] at hm ⊢
    refine ((hm .team).row?_eq_some_iff _ _).mpr ⟨?_, rfl⟩
    exact Memory.get?_add m .team _

theorem ensureTeam_again (hd : mint.Distinct) {t : TeamRef} {ecosystem language : Guid}
    (hm : (ensureTeam mint m t ecosystem language).2.Sound mint)
    (h : (ensureTeam mint m t ecosystem language).2.Writes mint m') :
    ensureTeam mint m' t ecosystem language =
      ((ensureTeam mint m t ecosystem language).1, m') := by
  obtain ⟨row, hrow, hsame⟩ := h.row?_stays hd hm (k := .team) (row?_ensureTeam hm)
  obtain rfl : row = (ensureTeam mint m t ecosystem language).1 := hsame
  exact ensureTeam_of_some hrow

theorem ensurePlayers_again (hd : mint.Distinct) (hm : m.Sound mint)
    (hnew : mint.Unforeseen o.identity.language m)
    (h : (ensurePlayers mint m o).2.Writes mint m') :
    ensurePlayers mint m' o = ((ensurePlayers mint m o).1, m') := by
  cases hteams : o.teams with
  | none =>
    rw [ensurePlayers_of_none hteams, ensurePlayers_of_none hteams]
  | some pair =>
    rw [ensurePlayers_of_some hteams] at h
    rw [ensurePlayers_of_some hteams, ensurePlayers_of_some hteams]
    have hhome := writes_ensureTeam hnew pair.home pair.ecosystem
    have haway := writes_ensureTeam (unforeseen_ensureTeam hd hnew pair.home pair.ecosystem)
      pair.away pair.ecosystem
    have hsound := hhome.sound hm
    have hhome' := ensureTeam_again hd hsound (haway.trans h)
    have haway' := ensureTeam_again hd (haway.sound hsound) h
    unfold ensureTeams
    simp only [hhome', haway']

/-- The event that is left is the one that was named, and shows all that the observation says. -/
theorem writeEvent_left (hm : m.Sound mint) (period : Guid) (teams : Option (Team × Team)) :
    ∃ e, (writeEvent mint m o period teams).2.committed.events.row? o.externalId = some e ∧
      e.guid = (writeEvent mint m o period teams).1.guid ∧
      (patch o period teams).apply e = e := by
  have hrow := row?_writeEvent_self hm o period teams
  cases hold : m.committed.events.row? o.externalId with
  | some row =>
    rw [hold] at hrow
    refine ⟨_, hrow, ?_, EventPatch.apply_apply _ row⟩
    rw [writeEvent_of_some hold]
    rfl
  | none =>
    rw [hold] at hrow
    refine ⟨_, hrow, ?_, patch_apply_draft o period teams _⟩
    rw [writeEvent_of_none hold]
    rfl

theorem writeEvent_again (hm : m.Sound mint) (hm' : m'.Sound mint) {period : Guid}
    {teams : Option (Team × Team)} (h : m'.committed.events =
      (writeEvent mint m o period teams).2.committed.events) :
    writeEvent mint m' o period teams =
      (.updated (writeEvent mint m o period teams).1.guid, m') := by
  obtain ⟨e, hrow, hguid, hsame⟩ := writeEvent_left (o := o) hm period teams
  rw [← h] at hrow
  have hget := (((hm' .event).row?_eq_some_iff o.externalId e).mp hrow).1
  rw [writeEvent_of_some hrow, hsame, ← hguid]
  exact congrArg (Prod.mk (Outcome.updated e.guid)) (Memory.change_self (k := .event) hget)

theorem writeTitle_again (hm : m.Sound mint) (event : Guid) :
    writeTitle mint (writeTitle mint m o event) o event = writeTitle mint m o event := by
  have hlater := (writes_writeTitle hm o event).sound hm
  have hrow : ∃ row, (writeTitle mint m o event).committed.titles.row?
      (pairKey event o.identity.language) = some row ∧ row.title = o.title := by
    cases hold : m.committed.titles.row? (pairKey event o.identity.language) with
    | some row =>
      obtain ⟨-, hkey⟩ := ((hm .title).row?_eq_some_iff _ row).mp hold
      rw [writeTitle_of_some hold] at hlater ⊢
      by_cases hsame : row.title = o.title
      · simp only [hsame, ne_eq, not_true_eq_false, if_false]
        exact ⟨row, hold, hsame⟩
      · rw [if_pos hsame] at hlater ⊢
        have hself := Memory.row?_change_self (k := .title) hlater rfl
        exact ⟨_, hkey ▸ hself, rfl⟩
    | none =>
      rw [writeTitle_of_none hold] at hlater ⊢
      exact ⟨_, Memory.row?_add (k := .title) hlater, rfl⟩
  obtain ⟨row, hrow, htitle⟩ := hrow
  rw [writeTitle_of_some hrow, if_neg (not_not_intro htitle)]

theorem writes_writeBoth (hm : m.Sound mint) (o : Observation) (period : Guid)
    (teams : Option (Team × Team)) : m.Writes mint (writeBoth mint m o period teams).2 := by
  have hevent := writes_writeEvent hm o period teams
  exact hevent.trans (writes_writeTitle (hevent.sound hm) o _)

theorem writeBoth_again (hm : m.Sound mint) (period : Guid) (teams : Option (Team × Team)) :
    writeBoth mint (writeBoth mint m o period teams).2 o period teams =
      (.updated (writeBoth mint m o period teams).1.guid,
        (writeBoth mint m o period teams).2) := by
  have hevent := (writes_writeEvent hm o period teams).sound hm
  have hboth := (writes_writeBoth hm o period teams).sound hm
  have hsame : (writeBoth mint m o period teams).2.committed.events =
      (writeEvent mint m o period teams).2.committed.events :=
    of_writeTitle (k := .event) nofun o _
  have hagain := writeEvent_again hm hboth hsame
  rw [writeBoth, hagain]
  exact congrArg (Prod.mk _) (writeTitle_again hevent _)

/-! ## Whole upserts again -/

theorem write_again (hd : mint.Distinct) (hm : m.Sound mint)
    (hnew : mint.Unforeseen o.identity.language m) :
    write mint (write mint m o).2 o = (.updated (write mint m o).1.guid, (write mint m o).2) := by
  have hperiod : (ensurePeriod mint m o.period).2.Sound mint :=
    (writes_ensurePeriod m o.period).sound hm
  have hnew' := unforeseen_ensurePeriod hnew o.period
  have hplayers := writes_ensurePlayers hd o hnew'
  have hready := sound_prepared hd hm hnew
  have hlater : (prepared mint m o).Writes mint (write mint m o).2 :=
    writes_writeBoth hready o _ _
  have hsamePeriod := ensurePeriod_again hd hm (hplayers.trans hlater)
  have hsamePlayers := ensurePlayers_again hd hperiod hnew' hlater
  rw [write, hsamePeriod, hsamePlayers]
  exact writeBoth_again hready _ _

/-- On every store that racing upserts can have left, an upsert that is applied a second time
updates the event that the first time named. It changes no row of any table, and it uses no new
guid. -/
theorem repeated_upsert_changes_nothing (hd : mint.Distinct) (hslash : mint.Slashless)
    (moves : List Move) (o : Observation) :
    let first := (Race.after mint moves).memory.run mint {} (program o)
    let second := first.2.1.run mint {} (program o)
    ∃ outcome, first.1 = .ok outcome ∧ second.1 = .ok (.updated outcome.guid) ∧
      second.2.1 = first.2.1 := by
  intro first second
  have hsafe := Race.safe_after hd hslash moves
  have hnew := unforeseen_after hd hslash moves o.identity.language
  have hteams : TeamsThere (Race.after mint moves).memory := fun name hname =>
    hsafe.complete.team _ name ((hsafe.sound .teamName).get?_of_mem_rows hname)
  have hlater := sound_write hd hsafe.sound hnew
  have hnew' := hlater.unforeseen hd hslash (hteams.write o) o.identity.language
  obtain ⟨hfirst, hmemory⟩ := run_program hd hsafe.sound hnew
  obtain ⟨hsecond, hmemory'⟩ := run_program hd hlater hnew'
  rw [write_again hd hsafe.sound hnew, ← hmemory] at hsecond hmemory'
  exact ⟨_, hfirst, hsecond, hmemory'⟩

/-- A game with a team that has not played yet. -/
def reopening : Observation :=
  { finals with
    externalId := "reopening"
    teams := some
      { ecosystem := "nba"
        home := celtics
        away := { externalId := "nyk", name := "Knicks", shortName := "NYK" } } }

/-- The first upsert finds the period and the home team, and creates all else. -/
theorem reopening_repeated : Mint.serial.Distinct ∧ Mint.serial.Slashless ∧
    let first := (Race.after .serial photoFinish).memory.run .serial {} (program reopening)
    let second := first.2.1.run .serial {} (program reopening)
    first.1 = .ok (.created (Store.hexGuid 'a' 12)) ∧
      ∃ outcome, first.1 = .ok outcome ∧ second.1 = .ok (.updated outcome.guid) ∧
        second.2.1 = first.2.1 :=
  ⟨Mint.serial_distinct, Mint.serial_slashless, by decide +kernel,
    repeated_upsert_changes_nothing Mint.serial_distinct Mint.serial_slashless photoFinish
      reopening⟩

end Upsert

end LiveEvents
