import LiveEvents.Proofs.DateTexts
import LiveEvents.Proofs.GameReports
import LiveEvents.Proofs.RepeatedUpserts

/-!
# Keys of ticks

The event of a tick is filed under its exchange and its symbol, its period under its exchange and
its day. A symbol may be any text, and the year of a day has no fixed width. But the code of an
exchange ends at the first underscore, so each key is read in one way only. The store keeps one row
of a key, so two ticks share the row of their event or of their period exactly if they agree in what
it is filed under.
-/

namespace LiveEvents

namespace Exchange

/-! ## Keys -/

theorem underscore_notMem_code (x : Exchange) : '_' ∉ x.code.toList := by
  cases x <;> decide

theorem code_injective {x y : Exchange} (h : x.code = y.code) : x = y := by
  cases x <;> cases y <;> first | rfl | exact absurd h (by decide)

/-- The code of an exchange ends at the first underscore. -/
theorem code_append_inj {x y : Exchange} {us vs : List Char}
    (h : x.code.toList ++ '_' :: us = y.code.toList ++ '_' :: vs) : x = y ∧ us = vs := by
  obtain ⟨hcode, hrest⟩ | ⟨mid, hlong, -⟩ | ⟨mid, hlong, -⟩ :=
    (Store.append_sep_eq_iff _ _ _ _ _).mp h
  · exact ⟨code_injective (String.toList_inj.mp hcode), hrest⟩
  · exact absurd (hlong ▸ List.mem_append_right _ List.mem_cons_self) (underscore_notMem_code x)
  · exact absurd (hlong ▸ List.mem_append_right _ List.mem_cons_self) (underscore_notMem_code y)

theorem externalId_eq_iff {x y : Exchange} {s t : String} :
    x.externalId s = y.externalId t ↔ x = y ∧ s = t := by
  constructor
  · intro h
    have hlists : x.code.toList ++ '_' :: s.toList = y.code.toList ++ '_' :: t.toList := by
      simpa [externalId] using congrArg String.toList h
    obtain ⟨rfl, hsymbol⟩ := code_append_inj hlists
    exact ⟨rfl, String.toList_inj.mp hsymbol⟩
  · rintro ⟨rfl, rfl⟩
    rfl

theorem periodCode_eq_iff {x y : Exchange} {a b : Instant} :
    x.periodCode a = y.periodCode b ↔ x = y ∧ a.date = b.date := by
  constructor
  · intro h
    have hlists : x.code.toList ++ '_' :: '_' :: a.date.chars =
        y.code.toList ++ '_' :: '_' :: b.date.chars := by
      simpa [periodCode, Date.text] using congrArg String.toList h
    obtain ⟨rfl, hdays⟩ := code_append_inj hlists
    exact ⟨rfl, Date.charsWith_injective '-' (List.cons.inj hdays).2⟩
  · rintro ⟨rfl, hdate⟩
    rw [periodCode, periodCode, hdate]

end Exchange

namespace Instant

/-- A point in time is on the day that its seconds are in, those before 1970 as well. -/
theorem day_of_ofUnix? {seconds : ℤ} {nanos : ℕ} {t : Instant}
    (h : ofUnix? seconds nanos = some t) : t.date.day = seconds / 86400 := by
  unfold ofUnix? at h
  dsimp only at h
  split_ifs at h with hnanos
  obtain ⟨date, hdate, ht⟩ := Option.bind_eq_some_iff.mp h
  obtain rfl := Option.some.inj ht
  unfold Date.ofDay? at hdate
  split_ifs at hdate
  rw [← Option.some.inj hdate]
  exact Int.fdiv_eq_ediv_of_nonneg _ (by decide)

theorem date_eq_iff_of_ofUnix? {seconds seconds' : ℤ} {nanos nanos' : ℕ} {a b : Instant}
    (ha : ofUnix? seconds nanos = some a) (hb : ofUnix? seconds' nanos' = some b) :
    a.date = b.date ↔ seconds / 86400 = seconds' / 86400 := by
  rw [Date.eq_iff_day, day_of_ofUnix? ha, day_of_ofUnix? hb]

end Instant

/-- A tick that was seen at a point in time, which is given in seconds since 1970 and
nanoseconds. -/
structure Sighting where
  exchange : Exchange
  identity : Identity
  tick : Tick
  seconds : ℤ
  nanos : ℕ
  time : Instant
  read : Instant.ofUnix? seconds nanos = some time

namespace Sighting

def observation (q : Sighting) : Observation :=
  .ofTick q.exchange q.identity q.tick q.time

/-- The day in universal time, counted from 1970-01-01. -/
def day (q : Sighting) : ℤ := q.seconds / 86400

theorem externalId_eq_iff {q q' : Sighting} :
    q.observation.externalId = q'.observation.externalId ↔
      q.exchange = q'.exchange ∧ q.tick.symbol = q'.tick.symbol :=
  Exchange.externalId_eq_iff

theorem code_eq_iff {q q' : Sighting} :
    q.observation.period.code = q'.observation.period.code ↔
      q.exchange = q'.exchange ∧ q.day = q'.day :=
  Exchange.periodCode_eq_iff.trans
    (and_congr_right' (Instant.date_eq_iff_of_ofUnix? q.read q'.read))

end Sighting

/-! ## Rows -/

namespace Store.Table

variable {α : Type} [Row α] {f : ℕ → Guid} {n : ℕ} {t : Table α} {row row' : α}

/-- Rows are one row exactly if they have one key. -/
theorem Committed.guid_eq_iff_key (h : Committed f n t) (hrow : row ∈ t.rows)
    (hrow' : row' ∈ t.rows) : Row.guid row = Row.guid row' ↔ Row.key row = Row.key row' := by
  have hget := h.get?_of_mem_rows hrow
  have hget' := h.get?_of_mem_rows hrow'
  constructor
  · intro hguid
    rw [hguid] at hget
    rw [Option.some.inj (hget.symm.trans hget')]
  · exact h.unique _ _ row row' hget hget'

end Store.Table

namespace Upsert

open Store (Entity Memory Mint Row Table)

variable {mint : Mint} {m : Memory} {o : Observation} {os : List Observation}

theorem writes_write (hd : mint.Distinct) (hm : m.Sound mint)
    (hnew : mint.Unforeseen o.identity.language m) : m.Writes mint (write mint m o).2 :=
  ((writes_ensurePeriod m o.period).trans
    (writes_ensurePlayers hd o (unforeseen_ensurePeriod hnew o.period))).trans
    (writes_writeBoth (sound_prepared hd hm hnew) o _ _)

/-- A state of the store in which upserts may follow one another. -/
structure Ready (mint : Mint) (m : Memory) : Prop where
  sound : m.Sound mint
  teams : TeamsThere m

theorem Ready.unforeseen (h : Ready mint m) (hd : mint.Distinct) (hs : mint.Slashless)
    (language : Guid) : mint.Unforeseen language m :=
  h.sound.unforeseen hd hs h.teams language

theorem Ready.write (h : Ready mint m) (hd : mint.Distinct) (hs : mint.Slashless)
    (o : Observation) : Ready mint (write mint m o).2 :=
  ⟨sound_write hd h.sound (h.unforeseen hd hs _), h.teams.write o⟩

theorem Ready.runAll_cons (h : Ready mint m) (hd : mint.Distinct) (hs : mint.Slashless)
    (o : Observation) (os : List Observation) :
    runAll mint m (o :: os) =
      (.ok (Upsert.write mint m o).1 :: (runAll mint (Upsert.write mint m o).2 os).1,
        (runAll mint (Upsert.write mint m o).2 os).2) := by
  obtain ⟨hresult, hmemory⟩ := run_program hd h.sound (h.unforeseen hd hs o.identity.language)
  rw [← hresult, ← hmemory]
  rfl

/-- Upserts that follow keep every row, with its key. -/
theorem Ready.continues (h : Ready mint m) (hd : mint.Distinct) (hs : mint.Slashless)
    (os : List Observation) : Ready mint (runAll mint m os).2 ∧
      m.committed.Continues (runAll mint m os).2.committed := by
  induction os generalizing m with
  | nil => exact ⟨h, Store.Tables.Continues.refl _⟩
  | cons o os ih =>
    obtain ⟨hready, hrest⟩ := ih (h.write hd hs o)
    rw [h.runAll_cons hd hs]
    have hwrites := writes_write hd h.sound (h.unforeseen hd hs o.identity.language)
    exact ⟨hready, (hwrites.continues hd h.sound).trans hrest⟩

theorem Ready.row?_continues (h : Ready mint m) (hd : mint.Distinct) (hs : mint.Slashless)
    (os : List Observation) {k : Entity} {key : String} {row : k.Of}
    (hrow : (m.committed.of k).row? key = some row) :
    ∃ row', ((runAll mint m os).2.committed.of k).row? key = some row' ∧
      Row.guid row' = Row.guid row := by
  obtain ⟨hready, hcontinues⟩ := h.continues hd hs os
  obtain ⟨hget, hkey⟩ := ((h.sound k).row?_eq_some_iff key row).mp hrow
  obtain ⟨row', hget', hpart⟩ := hcontinues k _ row hget
  have hown : Row.guid row' = Row.guid row := (hready.sound k).own _ row' hget'
  refine ⟨row', ((hready.sound k).row?_eq_some_iff key row').mpr ⟨?_, ?_⟩, hown⟩
  · rw [hown]
    exact hget'
  · exact (Store.Fixed.key_eq hpart).trans hkey

/-- The upsert at this place of a run is told of this event, and it leaves it in this period. -/
structure Filed (mint : Mint) (m : Memory) (os : List Observation) (i : ℕ) (e : Event)
    (p : Period) : Prop where
  told : ∃ outcome, (runAll mint m os).1[i]? = some (.ok outcome) ∧ outcome.guid = e.guid
  left : ∃ row ∈ (runAll mint m (os.take (i + 1))).2.committed.events.rows,
    row.guid = e.guid ∧ row.period = p.guid

/-- What one upsert leaves. -/
theorem filed_write (hd : mint.Distinct) (hs : mint.Slashless) (h : Ready mint m)
    (o : Observation) : ∃ e p, (write mint m o).2.committed.events.row? o.externalId = some e ∧
      (write mint m o).2.committed.periods.row? o.period.code = some p ∧
      (write mint m o).1.guid = e.guid ∧ e.period = p.guid := by
  have hprepared := sound_prepared hd h.sound (h.unforeseen hd hs o.identity.language)
  have hperiod := (row?_ensurePeriod hd h.sound o.period).1
  have hevent := row?_writeEvent_self hprepared o (ensurePeriod mint m o.period).1.guid
    (ensurePlayers mint (ensurePeriod mint m o.period).2 o).1
  rw [← events_write] at hevent
  refine ⟨_, _, hevent, periods_write ▸ hperiod, ?_, ?_⟩
  · change (writeEvent mint (prepared mint m o) o (ensurePeriod mint m o.period).1.guid
      (ensurePlayers mint (ensurePeriod mint m o.period).2 o).1).1.guid = _
    cases hrow : (prepared mint m o).committed.events.row? o.externalId with
    | some row =>
      rw [writeEvent_of_some hrow]
      rfl
    | none =>
      rw [writeEvent_of_none hrow]
      rfl
  · cases (prepared mint m o).committed.events.row? o.externalId <;> rfl

/-- After a run each of its upserts has left the event of its id and the period of its code. -/
theorem filed_runAll (hd : mint.Distinct) (hs : mint.Slashless) (h : Ready mint m) {i : ℕ}
    (hi : os[i]? = some o) :
    ∃ e p, (runAll mint m os).2.committed.events.row? o.externalId = some e ∧
      (runAll mint m os).2.committed.periods.row? o.period.code = some p ∧
      Filed mint m os i e p := by
  induction os generalizing m i with
  | nil => simp at hi
  | cons o₁ os ih =>
    have hlater := h.write hd hs o₁
    cases i with
    | zero =>
      obtain rfl : o₁ = o := by simpa using hi
      obtain ⟨e, p, he, hp, hguid, hperiod⟩ := filed_write hd hs h o₁
      obtain ⟨e', he', hsame⟩ := hlater.row?_continues hd hs os (k := .event) he
      obtain ⟨p', hp', hsame'⟩ := hlater.row?_continues hd hs os (k := .period) hp
      have hrun := h.runAll_cons hd hs o₁ os
      refine ⟨e', p', ?_, ?_, ⟨_, ?_, hguid.trans hsame.symm⟩, e, ?_, hsame.symm,
        hperiod.trans hsame'.symm⟩
      · rw [hrun]
        exact he'
      · rw [hrun]
        exact hp'
      · rw [hrun]
        rfl
      · rw [List.take_succ_cons, List.take_zero, h.runAll_cons hd hs]
        exact Table.mem_rows_of_get? (((hlater.sound .event).row?_eq_some_iff _ e).mp he).1
    | succ i =>
      obtain ⟨e, p, he, hp, ⟨outcome, htold, hguid⟩, row, hrow, hleft⟩ := ih hlater hi
      rw [h.runAll_cons hd hs]
      refine ⟨e, p, he, hp, ⟨outcome, ?_, hguid⟩, row, ?_, hleft⟩
      · rw [h.runAll_cons hd hs]
        exact htold
      · rw [List.take_succ_cons, h.runAll_cons hd hs]
        exact hrow

theorem ready_after (hd : mint.Distinct) (hs : mint.Slashless) (moves : List Move) :
    Ready mint (Race.after mint moves).memory := by
  have hsafe := Race.safe_after hd hs moves
  exact ⟨hsafe.sound, fun name hname =>
    hsafe.complete.team _ name ((hsafe.sound .teamName).get?_of_mem_rows hname)⟩

/-! ## Ticks -/

/-- Upserts that succeeded in a race were told of one event exactly if they have one id. -/
theorem Race.guid_eq_iff (hd : mint.Distinct) (hs : mint.Slashless) (moves : List Move)
    {w w' : Writer} {outcome outcome' : Outcome} (hw : w ∈ (Race.after mint moves).writers)
    (hw' : w' ∈ (Race.after mint moves).writers) (hr : w.result? = some (.ok outcome))
    (hr' : w'.result? = some (.ok outcome')) :
    outcome.guid = outcome'.guid ↔ w.observation.externalId = w'.observation.externalId := by
  have h := Race.safe_after hd hs moves
  have hevent : ∀ {w : Writer} {outcome : Outcome}, w ∈ (Race.after mint moves).writers →
      w.result? = some (.ok outcome) → ∃ e ∈ (Race.after mint moves).memory.committed.events.rows,
        e.guid = outcome.guid ∧ e.externalId = w.observation.externalId := by
    intro w outcome hw hr
    obtain ⟨i, hi⟩ := List.getElem?_of_mem hw
    obtain ⟨_, hwritten⟩ := (h.writers i w hi).written h.sound h.complete hr
    obtain ⟨⟨e, he, hid⟩, -⟩ := hwritten outcome rfl
    exact ⟨e, Table.mem_rows_of_get? he, (h.sound .event).own _ e he, hid⟩
  obtain ⟨e, he, hguid, hid⟩ := hevent hw hr
  obtain ⟨e', he', hguid', hid'⟩ := hevent hw' hr'
  rw [← hguid, ← hguid', ← hid, ← hid']
  exact (h.sound .event).guid_eq_iff_key he he'

/-- Two ticks have one key of an event exactly if they have one exchange and one symbol, and one
key of a period exactly if they have one exchange and one day. So it is with the rows: upserts that
succeeded in a race were told of one event, or of two; two periods of a race are one, or not; and in
a run of upserts after a race, in which other upserts may be, both ticks leave the only event of
their id and the only period of their code, and these are the same for both, or not. -/
theorem ticks_kept_apart (hd : mint.Distinct) (hs : mint.Slashless) :
    (∀ (x y : Exchange) (s t : String), x.externalId s = y.externalId t ↔ x = y ∧ s = t) ∧
      (∀ (x y : Exchange) (seconds seconds' : ℤ) (nanos nanos' : ℕ) (a b : Instant),
        Instant.ofUnix? seconds nanos = some a → Instant.ofUnix? seconds' nanos' = some b →
          (x.periodCode a = y.periodCode b ↔ x = y ∧ seconds / 86400 = seconds' / 86400)) ∧
      ∀ (moves : List Move) (q q' : Sighting),
        let race := Race.after mint moves
        (∀ w ∈ race.writers, ∀ w' ∈ race.writers, ∀ outcome outcome',
          w.observation = q.observation → w'.observation = q'.observation →
          w.result? = some (.ok outcome) → w'.result? = some (.ok outcome') →
            (outcome.guid = outcome'.guid ↔
              q.exchange = q'.exchange ∧ q.tick.symbol = q'.tick.symbol)) ∧
          (∀ p ∈ race.memory.committed.periods.rows, ∀ p' ∈ race.memory.committed.periods.rows,
            p.code = q.observation.period.code → p'.code = q'.observation.period.code →
              (p.guid = p'.guid ↔ q.exchange = q'.exchange ∧ q.day = q'.day)) ∧
          ∀ (os : List Observation) (i j : ℕ), os[i]? = some q.observation →
            os[j]? = some q'.observation →
              let final := (runAll mint race.memory os).2.committed
              ∃ e e' p p',
                final.events.rows.filter (·.externalId = q.observation.externalId) = [e] ∧
                final.events.rows.filter (·.externalId = q'.observation.externalId) = [e'] ∧
                final.periods.rows.filter (·.code = q.observation.period.code) = [p] ∧
                final.periods.rows.filter (·.code = q'.observation.period.code) = [p'] ∧
                Filed mint race.memory os i e p ∧ Filed mint race.memory os j e' p' ∧
                (e.guid = e'.guid ↔ q.exchange = q'.exchange ∧ q.tick.symbol = q'.tick.symbol) ∧
                (p.guid = p'.guid ↔ q.exchange = q'.exchange ∧ q.day = q'.day) := by
  refine ⟨fun _ _ _ _ => Exchange.externalId_eq_iff, ?_, ?_⟩
  · intro x y seconds seconds' nanos nanos' a b ha hb
    rw [Exchange.periodCode_eq_iff, Instant.date_eq_iff_of_ofUnix? ha hb]
  intro moves q q'
  have hready := ready_after hd hs moves
  refine ⟨?_, ?_, ?_⟩
  · intro w hw w' hw' outcome outcome' hq hq' hr hr'
    rw [Race.guid_eq_iff hd hs moves hw hw' hr hr', hq, hq', Sighting.externalId_eq_iff]
  · intro p hp p' hp' hcode hcode'
    rw [← Sighting.code_eq_iff, ← hcode, ← hcode']
    exact (hready.sound .period).guid_eq_iff_key hp hp'
  · intro os i j hi hj
    obtain ⟨e, p, he, hp, hfiled⟩ := filed_runAll hd hs hready hi
    obtain ⟨e', p', he', hp', hfiled'⟩ := filed_runAll hd hs hready hj
    have hsound := (hready.continues hd hs os).1.sound
    have hevents := hsound .event
    have hperiods := hsound .period
    obtain ⟨hget, hkey⟩ := (hevents.row?_eq_some_iff _ e).mp he
    obtain ⟨hget', hkey'⟩ := (hevents.row?_eq_some_iff _ e').mp he'
    obtain ⟨hgetp, hkeyp⟩ := (hperiods.row?_eq_some_iff _ p).mp hp
    obtain ⟨hgetp', hkeyp'⟩ := (hperiods.row?_eq_some_iff _ p').mp hp'
    refine ⟨e, e', p, p', hevents.filter_key_of_row? he, hevents.filter_key_of_row? he',
      hperiods.filter_key_of_row? hp, hperiods.filter_key_of_row? hp', hfiled, hfiled', ?_, ?_⟩
    · rw [← Sighting.externalId_eq_iff, ← hkey, ← hkey']
      exact hevents.guid_eq_iff_key (Table.mem_rows_of_get? hget) (Table.mem_rows_of_get? hget')
    · rw [← Sighting.code_eq_iff, ← hkeyp, ← hkeyp']
      exact hperiods.guid_eq_iff_key (Table.mem_rows_of_get? hgetp) (Table.mem_rows_of_get? hgetp')

/-- The price of Bitcoin on Binance in the last second of the year 9999. -/
def lastCheer : Sighting where
  exchange := .binance
  identity := { category := "crypto", ecosystem := "binance", language := "en" }
  tick := ⟨"BTCUSDT", "1"⟩
  seconds := 253402300799
  nanos := 0
  time := ⟨⟨2932896, by decide, by decide⟩, 86399, 0⟩
  read := by decide +kernel

/-- One second later, in the first year of five digits. -/
def firstCheer : Sighting where
  exchange := .binance
  identity := { category := "crypto", ecosystem := "binance", language := "en" }
  tick := ⟨"BTCUSDT", "2"⟩
  seconds := 253402300800
  nanos := 0
  time := ⟨⟨2932897, by decide, by decide⟩, 0, 0⟩
  read := by decide +kernel

/-- The two ticks have one event and two periods. -/
theorem cheers_kept_apart : Mint.serial.Distinct ∧ Mint.serial.Slashless ∧
    lastCheer.observation.period.code = "CRYPTO_BINANCE__9999-12-31" ∧
    firstCheer.observation.period.code = "CRYPTO_BINANCE__+10000-01-01" ∧
    let start := (Race.after .serial photoFinish).memory
    let os := [lastCheer.observation, finals, firstCheer.observation]
    ∃ e e' p p', Filed .serial start os 0 e p ∧ Filed .serial start os 2 e' p' ∧
      e.guid = e'.guid ∧ p.guid ≠ p'.guid := by
  obtain ⟨-, -, hruns⟩ := ticks_kept_apart Mint.serial_distinct Mint.serial_slashless
  obtain ⟨-, -, hrun⟩ := hruns photoFinish lastCheer firstCheer
  obtain ⟨e, e', p, p', -, -, -, -, hfiled, hfiled', hevents, hperiods⟩ :=
    hrun [lastCheer.observation, finals, firstCheer.observation] 0 2 rfl rfl
  have hdays : lastCheer.day ≠ firstCheer.day := by decide
  exact ⟨Mint.serial_distinct, Mint.serial_slashless, by decide +kernel, by decide +kernel,
    e, e', p, p', hfiled, hfiled', hevents.mpr ⟨rfl, rfl⟩, fun h => hdays (hperiods.mp h).2⟩

end Upsert

end LiveEvents
