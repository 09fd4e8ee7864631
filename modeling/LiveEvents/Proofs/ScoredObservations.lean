import LiveEvents.Proofs.HeedingPollers
import LiveEvents.Proofs.QuotedPrices
import LiveEvents.Proofs.SessionTicks
import Mathlib.Data.List.TakeDrop
import Mathlib.Data.List.TakeWhile

/-!
# Scores of observations

The store casts both scores of an event to numbers. The scores of a game are whole numbers of 64
bits, and a whole number of fewer than 96 bits is a decimal number as it is printed; the score of a
price is the quoted price, which was found to be a decimal number, and zero. A feed writes only
ticks that it has read, and a poller writes only what it has read from the replies that it received,
so whatever an adapter writes has scores that the store accepts.
-/

namespace LiveEvents

open Json

/-! ## Whole numbers as decimal numbers -/

namespace Decimal

theorem digit?_of_isDigit {c : Char} (h : c.isDigit = true) :
    Text.digit? c = some (Reader.digitValue c) := if_pos h

theorem le_moreDigits (start : ℕ) (ds : List Char) : start ≤ Reader.moreDigits start ds := by
  induction ds generalizing start with
  | nil => exact Nat.le_refl start
  | cons c ds ih =>
    have hrest := ih (start * 10 + Reader.digitValue c)
    rw [Reader.moreDigits, List.foldl_cons, ← Reader.moreDigits]
    omega

/-- Digits that fit are read one by one. -/
theorem digits?_of_isDigit {ds : List Char} (hds : ∀ c ∈ ds, c.isDigit = true) {any : Bool}
    (hany : any = true ∨ ds ≠ []) {mantissa : ℕ}
    (hlt : Reader.moreDigits mantissa ds < mantissaBound) :
    digits? false any mantissa 0 ds = some (Reader.moreDigits mantissa ds, 0) := by
  induction ds generalizing any mantissa with
  | nil =>
    obtain rfl : any = true := by simpa using hany
    rfl
  | cons c ds ih =>
    obtain ⟨hc, hrest⟩ := List.forall_mem_cons.mp hds
    rw [Reader.moreDigits, List.foldl_cons, ← Reader.moreDigits] at hlt
    have hfits := Nat.lt_of_le_of_lt (le_moreDigits _ ds) hlt
    simp only [digits?, digit?_of_isDigit hc, Bool.false_and, Bool.false_eq_true, if_false,
      if_pos hfits]
    exact ih hrest (.inl rfl) hlt

theorem magnitude?_of_isDigit {ds : List Char} (hds : ∀ c ∈ ds, c.isDigit = true) (hne : ds ≠ [])
    (hlt : Reader.moreDigits 0 ds < mantissaBound) :
    magnitude? ds = some (Reader.moreDigits 0 ds, 0) := by
  have hspan : ds.span (fun c => c != 'e' && c != 'E') = (ds, []) := by
    have hall : ∀ c ∈ ds, (c != 'e' && c != 'E') = true := by
      intro c hc
      rcases Reader.isDigit_cases (hds c hc) with rfl | rfl | rfl | rfl | rfl | rfl | rfl | rfl |
        rfl | rfl <;> rfl
    rw [List.span_eq_takeWhile_dropWhile, List.takeWhile_eq_self_iff.mpr hall,
      List.dropWhile_eq_nil_iff.mpr hall]
  unfold magnitude?
  rw [hspan]
  exact digits?_of_isDigit hds (.inr hne) hlt

/-- A whole number of fewer than 96 bits is a decimal number. -/
theorem isSome_ofString?_decimalInt {i : ℤ} (h : i.natAbs < mantissaBound) :
    (ofString? (String.ofList (Text.decimalInt i))).isSome = true := by
  obtain ⟨hne, hdigits⟩ := (Json.isWhole_decimal i.natAbs).isDigit
  have hmagnitude := magnitude?_of_isDigit hdigits hne
    (by rwa [← Reader.decimalValue_eq, Json.decimalValue_decimal])
  rw [← Reader.decimalValue_eq, Json.decimalValue_decimal] at hmagnitude
  unfold ofString? ofChars? Text.decimalInt
  rw [String.toList_ofList]
  split_ifs with hneg
  · simp [hmagnitude, ofParts?, h]
  · cases hchars : Text.decimal i.natAbs with
    | nil => exact absurd hchars hne
    | cons c rest =>
      have hc : c.isDigit = true := hdigits c (hchars ▸ List.mem_cons_self)
      rw [hchars] at hmagnitude
      -- No digit is a sign, so nothing is taken off.
      rcases Reader.isDigit_cases hc with rfl | rfl | rfl | rfl | rfl | rfl | rfl | rfl | rfl |
        rfl <;> simp [hmagnitude, ofParts?, h]

end Decimal

/-! ## Observations -/

/-- The store accepts both scores. -/
structure Observation.Scored (o : Observation) : Prop where
  main : (Decimal.ofString? o.mainScore).isSome = true
  cluster : (Decimal.ofString? o.clusterScore).isSome = true

/-- An observation shows a quote letter for letter. -/
structure Observation.Shows (o : Observation) (q : Tick) : Prop where
  quoted : Quoted q.symbol q.price
  symbol : o.info.get? "symbol" = some (.string q.symbol)
  price : o.info.get? "price" = some (.string q.price)
  mainScore : o.mainScore = q.price

theorem isSome_ofString?_zero : (Decimal.ofString? "0").isSome = true := by decide +kernel

theorem ofTick_shows {q : Tick} (h : Quoted q.symbol q.price) (x : Exchange) (identity : Identity)
    (now : Instant) :
    (Observation.ofTick x identity q now).Shows q ∧ (Observation.ofTick x identity q now).Scored :=
  ⟨⟨h, rfl, rfl, rfl⟩, h.2, isSome_ofString?_zero⟩

theorem Node.lt_of_int? {n : Node} {i : ℤ} (h : n.int? 64 = some i) :
    i.natAbs < Decimal.mantissaBound := by
  cases n with
  | number numeral =>
    obtain ⟨j, -, hj⟩ := Option.bind_eq_some_iff.mp h
    dsimp only at hj
    split_ifs at hj with hrange
    obtain rfl := Option.some.inj hj
    simp at hrange
    unfold Decimal.mantissaBound
    omega
  | null | bool _ | string _ | array _ | object _ => cases h

theorem Node.exists_of_mapM {α : Type} {read : Node → Option α} {items : List Node}
    {values : List α} (h : items.mapM read = some values) :
    ∀ value ∈ values, ∃ item, read item = some value := by
  induction items generalizing values with
  | nil =>
    obtain rfl : values = [] := by simpa [eq_comm] using h
    exact fun _ hvalue => absurd hvalue List.not_mem_nil
  | cons item rest ih =>
    rw [List.mapM_cons] at h
    obtain ⟨value, hvalue, h⟩ := Option.bind_eq_some_iff.mp h
    obtain ⟨values, hvalues, h⟩ := Option.bind_eq_some_iff.mp h
    obtain rfl := Option.some.inj h
    exact List.forall_mem_cons.mpr ⟨⟨item, hvalue⟩, ih hvalues⟩

theorem isSome_pointsText {f : Fields} {name : String} {points : Option ℤ}
    (h : f.optional? name (Node.int? 64) = some points) :
    (Decimal.ofString? (Game.pointsText points)).isSome = true := by
  cases points with
  | none => exact isSome_ofString?_zero
  | some points =>
    refine Decimal.isSome_ofString?_decimalInt ?_
    unfold Fields.optional? at h
    split at h
    next =>
      split_ifs at h
      cases h
    next => cases h
    next part _ _ =>
      obtain ⟨i, hi, heq⟩ := Option.map_eq_some_iff.mp h
      obtain rfl := Option.some.inj heq
      exact Node.lt_of_int? hi

namespace Schedule

/-- The points of a record that was read are written as decimal numbers. -/
theorem GameRecord.isSome_points {n : Node} {g : GameRecord} (h : GameRecord.ofNode? n = some g) :
    (Decimal.ofString? (Game.pointsText g.homePoints)).isSome = true ∧
      (Decimal.ofString? (Game.pointsText g.awayPoints)).isSome = true := by
  unfold GameRecord.ofNode? at h
  obtain ⟨f, -, h⟩ := Option.bind_eq_some_iff.mp h
  obtain ⟨id, -, h⟩ := Option.bind_eq_some_iff.mp h
  obtain ⟨status, -, h⟩ := Option.bind_eq_some_iff.mp h
  obtain ⟨scheduled, -, h⟩ := Option.bind_eq_some_iff.mp h
  obtain ⟨homePoints, hhome, h⟩ := Option.bind_eq_some_iff.mp h
  obtain ⟨awayPoints, haway, h⟩ := Option.bind_eq_some_iff.mp h
  obtain ⟨coverage, -, h⟩ := Option.bind_eq_some_iff.mp h
  obtain ⟨trackOnCourt, -, h⟩ := Option.bind_eq_some_iff.mp h
  obtain ⟨srId, -, h⟩ := Option.bind_eq_some_iff.mp h
  obtain ⟨reference, -, h⟩ := Option.bind_eq_some_iff.mp h
  obtain ⟨timeZones, -, h⟩ := Option.bind_eq_some_iff.mp h
  obtain ⟨season, -, h⟩ := Option.bind_eq_some_iff.mp h
  obtain ⟨home, -, h⟩ := Option.bind_eq_some_iff.mp h
  obtain ⟨away, -, h⟩ := Option.bind_eq_some_iff.mp h
  obtain rfl := Option.some.inj h
  exact ⟨isSome_pointsText hhome, isSome_pointsText haway⟩

theorem Document.exists_record {n : Node} {d : Document} (h : Document.ofNode? n = some d) :
    ∀ g ∈ d.games, ∃ item, GameRecord.ofNode? item = some g := by
  unfold Document.ofNode? at h
  obtain ⟨f, -, h⟩ := Option.bind_eq_some_iff.mp h
  obtain ⟨date, -, h⟩ := Option.bind_eq_some_iff.mp h
  obtain ⟨games, hgames, h⟩ := Option.bind_eq_some_iff.mp h
  obtain ⟨league, -, h⟩ := Option.bind_eq_some_iff.mp h
  obtain rfl := Option.some.inj h
  intro g hg
  unfold Fields.orElse? at hgames
  split at hgames
  next =>
    obtain rfl := Option.some.inj hgames
    cases hg
  next part _ =>
    cases part with
    | array items => exact Node.exists_of_mapM hgames g hg
    | null | bool _ | number _ | string _ | object _ => cases hgames

theorem scored_of_mem_toGames {n : Node} {d : Document} (h : Document.ofNode? n = some d) {g : Game}
    (hg : g ∈ d.toGames) (identity : Identity) (ecosystem : Guid) (now : Instant) :
    (Observation.ofGame identity ecosystem g now).Scored := by
  obtain ⟨record, hrecord, rfl⟩ := List.mem_map.mp hg
  obtain ⟨item, hitem⟩ := Document.exists_record h record hrecord
  obtain ⟨hhome, haway⟩ := GameRecord.isSome_points hitem
  exact ⟨hhome, haway⟩

end Schedule

/-! ## What is written -/

namespace Poll

open Http (Response)

/-- The setting in which an observation may be written or not by the replies to requests that came
before. -/
def receiving (may : List (Except String Response) → Observation → Prop) :
    Setting Action Action.Reply (List (Except String Response)) where
  ready
    | .write o, got => may got o
    | _, _ => True
  moves
    | .get _, got, reply, got' => got' = got ++ [reply]
    | _, got, _, got' => got' = got

namespace Task

variable {α : Type} {may : List (Except String Response) → Observation → Prop}
  {got : List (Except String Response)}

theorem always_call {ε : Type} (request : Http.Request)
    (read : Except String Response → Except ε α) :
    (read <$> act (.get request) : Task (Except ε α)).Always (receiving may)
      (fun result got' => ∀ a, result = .ok a → ∃ reply ∈ got', read reply = .ok a) got := by
  refine ⟨trivial, ?_⟩
  rintro reply got' rfl a ha
  exact ⟨reply, by simp, ha⟩

theorem always_pauseAfter (backoff : RetryBackoff) (retries : ℕ) :
    (pauseAfter backoff retries).Always (receiving may) (fun _ _ => True) got :=
  ⟨trivial, fun _ _ _ => ⟨trivial, fun _ _ _ => trivial⟩⟩

theorem always_attempts (backoff : RetryBackoff) (request : Http.Request)
    (read : Except String Response → Except Http.FetchError α) (attempt left : ℕ) :
    (Retry.attempts (fun _ => read <$> act (.get request)) (pauseAfter backoff) attempt
      left).Always (receiving may)
        (fun result got' => ∀ a, result = .ok a → ∃ reply ∈ got', read reply = .ok a) got := by
  induction left generalizing attempt got with
  | zero =>
    refine (Program.always_bind ..).mpr ((always_call request read).imp ?_)
    intro result got' hresult a ha
    cases result with
    | ok value => exact hresult a (Except.ok.inj ha ▸ rfl)
    | error e => cases ha
  | succ left ih =>
    refine (Program.always_bind ..).mpr ((always_call request read).imp ?_)
    intro result got' hresult
    cases result with
    | ok value => exact fun a ha => hresult a (Except.ok.inj ha ▸ rfl)
    | error e =>
      dsimp only
      split_ifs
      · exact (Program.always_bind ..).mpr ((always_pauseAfter backoff _).imp fun _ _ _ => ih _)
      · exact nofun

/-- What is fetched is read from a reply that was received. -/
theorem always_fetch (maxAttempts : ℕ) (backoff : RetryBackoff) (request : Http.Request)
    (read : Except String Response → Except Http.FetchError α) :
    (fetch maxAttempts backoff request read).Always (receiving may)
      (fun result got' => ∀ a, result = .ok a → ∃ reply ∈ got', read reply = .ok a) got :=
  always_attempts backoff request read 1 (maxAttempts - 1)

theorem always_write {source : String} {observe : Instant → Observation}
    (h : ∀ now, may got (observe now)) :
    (write source observe).Always (receiving may) (fun _ got' => got' = got) got := by
  refine ⟨trivial, ?_⟩
  rintro _ got rfl
  refine ⟨trivial, ?_⟩
  rintro now got rfl
  refine ⟨h now, ?_⟩
  rintro ⟨result, elapsed⟩ got rfl
  refine ⟨trivial, ?_⟩
  rintro _ got rfl
  rfl

theorem always_guarded {t : Task α} {post : α → List (Except String Response) → Prop}
    (h : t.Always (receiving may) post got) :
    (guarded t).Always (receiving may) (fun result got' => ∀ a, result = some a → post a got')
      got := by
  induction t generalizing got with
  | done a =>
    rintro _ ⟨⟩
    exact h
  | ask action next ih =>
    refine ⟨h.1, fun r got' hmoves => ?_⟩
    have hnext := ih r (h.2 r got' hmoves)
    dsimp only
    split_ifs
    · refine ⟨trivial, ?_⟩
      rintro stopped got rfl
      cases stopped with
      | true => exact nofun
      | false => exact hnext
    · exact hnext

theorem always_interruptible {t : Task α} {post : α → List (Except String Response) → Prop}
    (h : t.Always (receiving may) post got) :
    (interruptible t).Always (receiving may)
      (fun result got' => ∀ a, result = some a → post a got') got := by
  refine ⟨trivial, ?_⟩
  rintro stopped got rfl
  cases stopped with
  | true => exact nofun
  | false => exact always_guarded h

/-- Whatever came before, only what may be written is written. -/
def WritesOnly (may : List (Except String Response) → Observation → Prop) (t : Task α) : Prop :=
  ∀ got, t.Always (receiving may) (fun _ _ => True) got

theorem writesOnly_repeated {cycle : Task Bool} (h : WritesOnly may cycle) (rounds : ℕ) :
    WritesOnly may (repeated cycle rounds) := by
  induction rounds with
  | zero => exact fun _ => trivial
  | succ rounds ih =>
    intro got
    refine ⟨trivial, ?_⟩
    rintro due got rfl
    cases due with
    | false => exact trivial
    | true =>
      change (cycle >>= fun complete =>
        if complete then repeated cycle rounds else pure true).Always _ _ got
      refine (Program.always_bind ..).mpr ((h got).imp ?_)
      intro complete got' _
      split_ifs
      · exact ih got'
      · exact trivial

end Task

open LiveEvents.Poll.Task

namespace Prices

variable (s : PricePollSettings) (identity : Identity)

/-- An observation of a price shows what a reply quotes that was received for one of the symbols. -/
def MayWrite (got : List (Except String Response)) (o : Observation) : Prop :=
  ∃ reply ∈ got, ∃ symbol ∈ s.symbols, ∃ response n, reply = .ok response ∧
    response.document = .ok n ∧ o.Shows (quote symbol n) ∧ o.Scored

theorem writesOnly_cycleFrom (complete : Bool) {symbols : List String}
    (hsymbols : ∀ symbol ∈ symbols, symbol ∈ s.symbols) :
    WritesOnly (MayWrite s) (cycleFrom s identity complete symbols) := by
  induction symbols generalizing complete with
  | nil => exact fun _ => ⟨trivial, fun _ _ _ => trivial⟩
  | cons symbol rest ih =>
    obtain ⟨hsymbol, hrest⟩ := List.forall_mem_cons.mp hsymbols
    intro got
    refine (Program.always_bind ..).mpr ((always_interruptible (always_fetch _ _ _ _)).imp ?_)
    intro fetched got' hfetched
    cases fetched with
    | none => exact trivial
    | some fetched =>
      cases fetched with
      | error e => exact ih false hrest got'
      | ok t =>
        obtain ⟨reply, hreply, hread⟩ := hfetched _ rfl t rfl
        obtain ⟨e, herror⟩ | ⟨response, n, rfl, hn, hquoted, hok⟩ := read_cases symbol reply
        · rw [herror] at hread
          cases hread
        · obtain rfl := Except.ok.inj (hok.symm.trans hread)
          refine (Program.always_bind ..).mpr ((always_write fun now => ?_).imp ?_)
          · obtain ⟨hshows, hscored⟩ := ofTick_shows hquoted .binance identity now
            exact ⟨_, hreply, symbol, hsymbol, response, n, rfl, hn, hshows, hscored⟩
          · rintro _ got' -
            exact ih complete hrest got'

theorem writesOnly_run (rounds : ℕ) : WritesOnly (MayWrite s) (run s identity rounds) :=
  writesOnly_repeated (writesOnly_cycleFrom s identity true fun _ h => h) rounds

end Prices

namespace Schedules

variable (s : SchedulePollSettings) (identity : Identity)

/-- An observation of a game is made of a game of a schedule that was received. -/
def MayWrite (got : List (Except String Response)) (o : Observation) : Prop :=
  ∃ reply ∈ got, ∃ d, Http.receive Schedule.Document.ofNode? reply = .ok d ∧
    ∃ g ∈ d.toGames, ∃ now, o = .ofGame identity identity.ecosystem g now ∧ o.Scored

theorem always_writeAll {got : List (Except String Response)} (report : SyncReport)
    {games : List Game}
    (h : ∀ g ∈ games, ∀ now, MayWrite identity got (.ofGame identity identity.ecosystem g now)) :
    (writeAll identity report games).Always (receiving (MayWrite identity)) (fun _ _ => True)
      got := by
  induction games generalizing report with
  | nil => exact trivial
  | cons game rest ih =>
    obtain ⟨hgame, hrest⟩ := List.forall_mem_cons.mp h
    refine (Program.always_bind ..).mpr ((always_write hgame).imp ?_)
    rintro written _ rfl
    exact ih _ hrest

theorem writesOnly_syncDate (date : Date) :
    WritesOnly (MayWrite identity) (syncDate s identity date) := by
  intro got
  refine (Program.always_bind ..).mpr ((always_fetch _ _ _ _).imp ?_)
  intro fetched got' hfetched
  cases fetched with
  | error e => exact trivial
  | ok d =>
    obtain ⟨reply, hreply, hreceived⟩ := hfetched d rfl
    obtain ⟨response, n, -, -, hd⟩ := Http.receive_eq_ok_iff.mp hreceived
    refine (Program.always_bind ..).mpr ((always_writeAll identity _ ?_).imp fun _ _ _ => trivial)
    intro g hg now
    exact ⟨reply, hreply, d, hreceived, g, hg, now, rfl,
      Schedule.scored_of_mem_toGames hd hg identity identity.ecosystem now⟩

theorem writesOnly_syncAll (report : SyncReport) (dates : List Date) :
    WritesOnly (MayWrite identity) (syncAll s identity report dates) := by
  induction dates generalizing report with
  | nil => exact fun _ => trivial
  | cons date rest ih =>
    intro got
    refine (Program.always_bind ..).mpr ((writesOnly_syncDate s identity date got).imp ?_)
    intro result got' _
    cases result with
    | ok day => exact ih _ got'
    | error e => exact ih _ got'

theorem writesOnly_run (rounds : ℕ) : WritesOnly (MayWrite identity) (run s identity rounds) := by
  refine writesOnly_repeated (fun got => ?_) rounds
  refine (Program.always_bind ..).mpr ⟨trivial, ?_⟩
  rintro now got rfl
  refine (Program.always_bind ..).mpr
    ((always_interruptible (writesOnly_syncAll s identity {} _ _)).imp ?_)
  intro report got' _
  cases report with
  | none => exact trivial
  | some report => exact ⟨trivial, fun _ _ _ => trivial⟩

end Schedules

end Poll

/-! ## Feeds -/

namespace Feed

/-- Whatever a step of a feed writes shows what a text quotes that the step has read. -/
theorem Task.shows_of_step (p : Plan) (t : Task) (m : Moment) :
    ∀ o ∈ observations (t.step p m).actions, ∃ text n q, (t.step p m).read = some (.text text) ∧
      Node.ofString? text = some n ∧ p.exchange.quote? n = some q ∧ o.Shows q ∧ o.Scored := by
  intro o ho
  rcases (happens_step p t m).observations with hticks | hoverruns
  case inr =>
    rw [hoverruns.silent] at ho
    cases ho
  rw [hticks] at ho
  obtain ⟨q, hq, rfl⟩ := List.mem_map.mp ho
  obtain ⟨i, hread, htick⟩ := Option.bind_eq_some_iff.mp (Option.mem_toList.mp hq)
  cases i with
  | text text =>
    have hdecode : p.exchange.decode text = .ok (.tick q) := by
      cases hframe : p.exchange.decode text with
      | error e => simp [Incoming.tick?, hframe] at htick
      | ok frame => cases frame <;> simp_all [Incoming.tick?]
    obtain ⟨n, hn, hquote, hquoted⟩ := Exchange.quote?_of_decode_tick hdecode
    obtain ⟨hshows, hscored⟩ := ofTick_shows hquoted p.exchange p.identity m.clock
    exact ⟨text, n, q, hread, hn, hquote, hshows, hscored⟩
  | ping | binary | closed | failed | ended => cases htick

theorem Task.shows_of_steps (p : Plan) (t : Task) (moments : List Moment) :
    ∀ s ∈ t.steps p moments, ∀ o ∈ observations s.actions, ∃ text n q,
      s.read = some (.text text) ∧ Node.ofString? text = some n ∧ p.exchange.quote? n = some q ∧
        o.Shows q ∧ o.Scored := by
  induction moments generalizing t with
  | nil => exact fun _ hs => absurd hs List.not_mem_nil
  | cons m rest ih => exact List.forall_mem_cons.mpr ⟨shows_of_step p t m, ih _⟩

end Feed

/-! ## Every adapter -/

/-- A decoder makes a tick only of what a text quotes, and that has a symbol and a decimal number
for a price; any other quote is an error, and what quotes nothing is an error or asks for no action
unless it answers a request. The same holds of the answer to a request for a price. So whatever a
feed or a poller writes has scores that the store accepts, a price is shown as it is quoted in what
was read last or in a reply that was received, and a game is one of a schedule that was received;
every game of a schedule that was read has such scores. -/
theorem prices_shown_verbatim :
    (∀ (x : Exchange) (text : String),
      (∀ t, x.decode text = .ok (.tick t) → ∃ n, Node.ofString? text = some n ∧
        x.quote? n = some t ∧ Quoted t.symbol t.price) ∧
      (∀ n q, Node.ofString? text = some n → x.quote? n = some q → ¬Quoted q.symbol q.price →
        ∃ e, x.decode text = .error e) ∧
      ((∀ n, Node.ofString? text = some n → x.quote? n = none) →
        (∃ e, x.decode text = .error e) ∨ x.decode text = .ok .control ∨
          ∃ n, Node.ofString? text = some n ∧ x.Answers n ∧
            (x.decode text = .ok .ack ∨ ∃ reason, x.decode text = .ok (.rejected reason)))) ∧
    (∀ (requested : String) (reply : Except String Http.Response),
      (∃ e, Poll.Prices.read requested reply = .error e) ∨
        ∃ response n, reply = .ok response ∧ response.document = .ok n ∧
          Quoted (Poll.Prices.quote requested n).symbol (Poll.Prices.quote requested n).price ∧
          Poll.Prices.read requested reply = .ok (Poll.Prices.quote requested n)) ∧
    (∀ (p : Feed.Plan) (t : Feed.Task) (moments : List Feed.Moment), ∀ s ∈ t.steps p moments,
      ∀ o ∈ Feed.observations s.actions, ∃ text n q, s.read = some (.text text) ∧
        Node.ofString? text = some n ∧ p.exchange.quote? n = some q ∧ o.Shows q ∧ o.Scored) ∧
    (∀ (s : PricePollSettings) (identity : Identity) (rounds : ℕ),
      Poll.Task.WritesOnly (Poll.Prices.MayWrite s) (Poll.Prices.run s identity rounds)) ∧
    (∀ (n : Node) (d : Schedule.Document), Schedule.Document.ofNode? n = some d → ∀ g ∈ d.toGames,
      ∀ identity ecosystem now, (Observation.ofGame identity ecosystem g now).Scored) ∧
    ∀ (s : SchedulePollSettings) (identity : Identity),
      (∀ rounds, Poll.Task.WritesOnly (Poll.Schedules.MayWrite identity)
        (Poll.Schedules.run s identity rounds)) ∧
      ∀ date, Poll.Task.WritesOnly (Poll.Schedules.MayWrite identity)
        (Poll.Schedules.syncDate s identity date) :=
  ⟨fun _ _ => ⟨fun _ => Exchange.quote?_of_decode_tick,
      fun _ _ => Exchange.decode_error_of_quote?, Exchange.decode_of_no_quote⟩,
    Poll.Prices.read_cases, Feed.Task.shows_of_steps, Poll.Prices.writesOnly_run,
    fun _ _ hd _ hg => Schedule.scored_of_mem_toGames hd hg,
    fun s identity => ⟨Poll.Schedules.writesOnly_run s identity,
      Poll.Schedules.writesOnly_syncDate s identity⟩⟩

/-- A ticker that gives its price under the older key only. -/
def olderTicker : String :=
  "\x7b\"topic\":\"tickers.CHEERUSDT\",\"data\":\x7b\"last_price\":\"0.50\"\x7d\x7d"

/-- A ticker that names no symbol, with half a price. -/
def brokenTicker : String :=
  "\x7b\"topic\":\"tickers.\",\"data\":\x7b\"lastPrice\":\"1e\"\x7d\x7d"

/-- The older price is shown with its last digit, and the broken ticker is an error. -/
theorem older_price_shown :
    Exchange.decode .bybit olderTicker = .ok (.tick ⟨"CHEERUSDT", "0.50"⟩) ∧
      (∃ n, Node.ofString? olderTicker = some n ∧
        Exchange.quote? .bybit n = some ⟨"CHEERUSDT", "0.50"⟩ ∧ Quoted "CHEERUSDT" "0.50") ∧
      ∃ e, Exchange.decode .bybit brokenTicker = .error e := by
  have holder : Exchange.decode .bybit olderTicker = .ok (.tick ⟨"CHEERUSDT", "0.50"⟩) := by
    decide +kernel
  have hbroken : Node.ofString? brokenTicker = some (.object [
      (some "topic", .string (some "tickers.")),
      (some "data", .object [(some "lastPrice", .string (some "1e"))])]) := rfl
  have hquote : Exchange.quote? .bybit (.object [
      (some "topic", .string (some "tickers.")),
      (some "data", .object [(some "lastPrice", .string (some "1e"))])]) =
        some ⟨"", "1e"⟩ := by decide +kernel
  exact ⟨holder, (prices_shown_verbatim.1 .bybit olderTicker).1 _ holder,
    (prices_shown_verbatim.1 .bybit brokenTicker).2.1 _ _ hbroken hquote fun h => h.1 rfl⟩

end LiveEvents
