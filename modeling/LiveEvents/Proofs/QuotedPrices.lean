import LiveEvents.Poll.Prices
import LiveEvents.Proofs.WireMessages

/-!
# Quoted prices

What a message quotes is read off its document: which record a ticker stands in, and which texts of
that record are its symbol and its price. A decoder makes a tick only of a quote, letter for letter,
and only if the symbol is not empty and the price is a decimal number; every other quote is an
error. What quotes nothing is an error or asks for no action, unless it answers a request. The same
holds of the answer to a request for a price.
-/

namespace LiveEvents

namespace Json

namespace Node

/-- What stands for a field of a record: under its key in an object, at its place in an array. -/
def part? (names : List String) (name : String) : Node → Option Node
  | object members => members.lookup (some name)
  | array items => (names.zip items).lookup name
  | _ => none

/-- What stands for a field, unless it is null. -/
def given? (names : List String) (name : String) (n : Node) : Option Node :=
  (n.part? names name).filter (!·.isNull)

/-- The text that stands for a field, the empty text if there is none. -/
def textAt (names : List String) (name : String) (n : Node) : String :=
  match n.part? names name with
  | some (string (some s)) => s
  | _ => ""

end Node

namespace Fields

variable {names : List String} {name : String} {f : Fields} {n : Node}

/-- What is collected for a known key is what stands under it. -/
theorem lookup_of_collect? {done values : List (String × Node)}
    {members : List (Option String × Node)} (h : collect? names done members = some values)
    (hname : name ∈ names) :
    values.lookup name = (done.lookup name).or (members.lookup (some name)) := by
  induction members generalizing done with
  | nil =>
    obtain rfl := Option.some.inj h
    simp
  | cons member rest ih =>
    obtain ⟨key, node⟩ := member
    cases key with
    | none => cases h
    | some key =>
      unfold collect? at h
      split_ifs at h with hknown hdone
      · rw [ih h, List.lookup_append, Option.or_assoc]
        congr 1
        by_cases hkey : name = key
        · simp [hkey]
        · simp [List.lookup_cons, beq_false_of_ne hkey]
      · have hkey : name ≠ key := fun hkey => hknown (hkey ▸ hname)
        rw [ih h]
        simp [List.lookup_cons, beq_false_of_ne hkey]

theorem lookup_of_ofMembers? {members : List (Option String × Node)}
    (h : ofMembers? names members = some f) :
    ∀ name ∈ names, f.values.lookup name = members.lookup (some name) := by
  obtain ⟨values, hvalues, rfl⟩ := Option.map_eq_some_iff.mp h
  exact fun _ hname => lookup_of_collect? hvalues hname

theorem lookup_of_ofNode? (h : ofNode? names n = some f) :
    ∀ name ∈ names, f.values.lookup name = n.part? names name := by
  cases n with
  | object members => exact lookup_of_ofMembers? h
  | array items =>
    simp only [ofNode?] at h
    split_ifs at h
    obtain rfl := Option.some.inj h
    exact fun _ _ => rfl
  | null | bool _ | number _ | string _ => cases h

theorem text_of_orElse? {s : String} (hlookup : f.values.lookup name = n.part? names name)
    (h : f.orElse? name "" Node.text? = some s) : s = n.textAt names name := by
  rw [orElse?, hlookup] at h
  unfold Node.textAt
  cases hpart : n.part? names name with
  | none =>
    rw [hpart] at h
    exact (Option.some.inj h).symm
  | some part =>
    rw [hpart] at h
    cases part with
    | string s' =>
      obtain rfl : s' = some s := h
      rfl
    | null | bool _ | number _ | array _ | object _ => cases h

theorem given?_of_optional? {α : Type} {read : Node → Option α} {o : Option α}
    (hlookup : f.values.lookup name = n.part? names name) (h : f.optional? name read = some o) :
    (n.given? names name = none ∧ o = none) ∨
      ∃ part a, n.given? names name = some part ∧ o = some a ∧ read part = some a := by
  rw [optional?, hlookup] at h
  unfold Node.given?
  cases hpart : n.part? names name with
  | none =>
    rw [hpart] at h
    dsimp only at h
    split_ifs at h
    exact .inl ⟨rfl, (Option.some.inj h).symm⟩
  | some part =>
    rw [hpart] at h
    cases part with
    | null => exact .inl ⟨rfl, (Option.some.inj h).symm⟩
    | string _ | bool _ | number _ | array _ | object _ =>
      obtain ⟨a, ha, rfl⟩ := Option.map_eq_some_iff.mp h
      exact .inr ⟨_, a, rfl, rfl, ha⟩

theorem text_of_optional? {o : Option String} (hlookup : f.values.lookup name = n.part? names name)
    (h : f.optional? name Node.text? = some o) : o.getD "" = n.textAt names name := by
  unfold Node.textAt
  obtain ⟨hnone, rfl⟩ | ⟨part, s, hpart, rfl, hread⟩ := given?_of_optional? hlookup h
  · split
    next s hs => simp [Node.given?, hs, Node.isNull] at hnone
    next => rfl
  · have hs : n.part? names name = some part := (Option.filter_eq_some_iff.mp hpart).1
    cases part with
    | string s' =>
      obtain rfl : s' = some s := hread
      rw [hs]
      rfl
    | null | bool _ | number _ | array _ | object _ => cases hread

theorem eq_some_iff_text_of_optional? {o : Option String} {s : String} (hs : s ≠ "")
    (hlookup : f.values.lookup name = n.part? names name)
    (h : f.optional? name Node.text? = some o) : o = some s ↔ n.textAt names name = s := by
  rw [← text_of_optional? hlookup h]
  cases o with
  | none => simpa using hs.symm
  | some s' => simp

end Fields

end Json

open Json

/-- A quote that is accepted becomes a tick, and any other one is an error. -/
theorem check_cases (symbol price : String) :
    (Quoted symbol price ∧ Tick.check symbol price = .ok ⟨symbol, price⟩) ∨
      ¬Quoted symbol price ∧ ∃ e, Tick.check symbol price = .error e := by
  unfold Tick.check
  split_ifs with hsymbol hprice hdecimal
  · exact .inr ⟨fun h => h.1 hsymbol, _, rfl⟩
  · exact .inr ⟨fun h => h.price_ne hprice, _, rfl⟩
  · exact .inr ⟨fun h => by simp [Option.isNone_eq_false_iff.mpr h.2] at hdecimal, _, rfl⟩
  · exact .inl ⟨⟨hsymbol, by simpa [Option.isSome_iff_ne_none] using hdecimal⟩, rfl⟩

theorem ofTick_eq_ok_tick_iff {symbol price : String} {t : Tick} :
    Frame.ofTick symbol price = .ok (.tick t) ↔ Quoted symbol price ∧ t = ⟨symbol, price⟩ := by
  unfold Frame.ofTick
  obtain ⟨hgood, hcheck⟩ | ⟨hbad, e, hcheck⟩ := check_cases symbol price
  · simp [hcheck, hgood, eq_comm]
  · simp [hcheck, hbad]

theorem exists_ofTick_error {symbol price : String} (h : ¬Quoted symbol price) :
    ∃ e, Frame.ofTick symbol price = .error e := by
  unfold Frame.ofTick
  obtain ⟨hgood, -⟩ | ⟨-, e, hcheck⟩ := check_cases symbol price
  · exact absurd hgood h
  · rw [hcheck]
    exact ⟨_, rfl⟩

/-- What comes of a message that quotes this, if anything, and that answers a request or does
not. -/
inductive Yields (quote : Option Tick) (answers : Prop) : Except DecodeError Frame → Prop
  | quote {q : Tick} (hquote : quote = some q) :
      Yields quote answers (Frame.ofTick q.symbol q.price)
  | control (hquote : quote = none) : Yields quote answers (.ok .control)
  | ack (hquote : quote = none) (hanswers : answers) : Yields quote answers (.ok .ack)
  | rejected (hquote : quote = none) (hanswers : answers) (reason : String) :
      Yields quote answers (.ok (.rejected reason))

/-! ## Binance -/

namespace Binance

variable {n : Node}

/-- Where the ticker of a message stands: under `data`, or on top. -/
def holder (n : Node) : Node := (n.given? topNames "data").getD n

/-- What a message quotes that is no refusal. -/
def quote? (n : Node) : Option Tick :=
  if n.given? topNames "error" = none ∧ (holder n).textAt Ticker.fieldNames "e" = "24hrTicker" then
    some ⟨(holder n).textAt Ticker.fieldNames "s", (holder n).textAt Ticker.fieldNames "c"⟩
  else none

/-- Refuses a request, or confirms one: then it has a number and nothing happened. -/
def Answers (n : Node) : Prop :=
  n.given? topNames "error" ≠ none ∨ n.given? topNames "data" = none ∧
    n.given? topNames "e" = none ∧ n.given? topNames "id" ≠ none

/-- A ticker is read from the record that it stands in. -/
structure Ticker.ReadFrom (t : Ticker) (record : Node) : Prop where
  event : t.event = some "24hrTicker" ↔ record.textAt fieldNames "e" = "24hrTicker"
  noEvent : t.event = none ↔ record.given? fieldNames "e" = none
  symbol : t.symbol.getD "" = record.textAt fieldNames "s"
  price : t.lastPrice.getD "" = record.textAt fieldNames "c"

theorem readFrom_of_ofFields? {f : Fields} {t : Ticker} {record : Node}
    (hf : ∀ name ∈ Ticker.fieldNames,
      f.values.lookup name = record.part? Ticker.fieldNames name)
    (ht : Ticker.ofFields? f = some t) : t.ReadFrom record := by
  simp only [Ticker.ofFields?, Option.pure_def, Option.bind_eq_bind, Option.bind_eq_some_iff,
    Option.some.injEq] at ht
  obtain ⟨event, hevent, symbol, hsymbol, price, hprice, rfl⟩ := ht
  have he := hf "e" (by simp [Ticker.fieldNames])
  have hs := hf "s" (by simp [Ticker.fieldNames])
  have hc := hf "c" (by simp [Ticker.fieldNames])
  refine ⟨Fields.eq_some_iff_text_of_optional? (by decide) he hevent, ?_,
    Fields.text_of_optional? hs hsymbol, Fields.text_of_optional? hc hprice⟩
  obtain ⟨hgiven, rfl⟩ | ⟨part, event, hgiven, rfl, -⟩ := Fields.given?_of_optional? he hevent
  · simp [hgiven]
  · simp [hgiven]

theorem readFrom_of_ofNode? {t : Ticker} {record : Node} (h : Ticker.ofNode? record = some t) :
    t.ReadFrom record := by
  obtain ⟨f, hf, ht⟩ := Option.bind_eq_some_iff.mp h
  exact readFrom_of_ofFields? (Fields.lookup_of_ofNode? hf) ht

/-- A record with a ticker yields what is quoted there. -/
theorem yields_frame {t : Ticker} {answers : Prop} (hread : t.ReadFrom (holder n))
    (herror : n.given? topNames "error" = none) : Yields (quote? n) answers t.frame := by
  unfold Ticker.frame
  split_ifs with hevent
  · rw [hread.symbol, hread.price]
    exact .quote (q := ⟨_, _⟩) (if_pos ⟨herror, hread.event.mp hevent⟩)
  · exact .control (if_neg fun h => hevent (hread.event.mpr h.2))

theorem yields_of_ofNode? {m : Message} (h : Message.ofNode? n = some m) :
    Yields (quote? n) (Answers n) m.frame := by
  cases n with
  | object members =>
    simp only [Message.ofNode?, Option.pure_def, Option.bind_eq_bind, Option.bind_eq_some_iff,
      Option.some.injEq] at h
    obtain ⟨own, hown, -, -, top, ⟨f, hf, htop⟩, data, hdata, id, hid, error, herror, rfl⟩ := h
    rw [ofMembers?_others] at hf
    have hread : top.ReadFrom (.object members) :=
      readFrom_of_ofFields? (Fields.lookup_of_ofMembers? hf) htop
    have hlookup : ∀ name ∈ Message.ownNames,
        own.values.lookup name = (Node.object members).part? topNames name :=
      Fields.lookup_of_ofMembers? hown
    replace hdata := Fields.given?_of_optional? (hlookup "data" (by simp [Message.ownNames])) hdata
    replace hid := Fields.given?_of_optional? (hlookup "id" (by simp [Message.ownNames])) hid
    replace herror :=
      Fields.given?_of_optional? (hlookup "error" (by simp [Message.ownNames])) herror
    obtain ⟨herror, rfl⟩ | ⟨refusal, _, herror, rfl, -⟩ := herror
    · obtain ⟨hdata, rfl⟩ | ⟨record, t, hdata, rfl, ht⟩ := hdata
      · have hholder : holder (.object members) = .object members := by
          rw [holder, hdata]
          rfl
        simp only [Message.frame]
        split_ifs with hevent hidgiven
        · exact yields_frame (hholder.symm ▸ hread) herror
        all_goals
          have hnoEvent : (Node.object members).given? topNames "e" = none :=
            hread.noEvent.mp (by simpa using hevent)
          have hquote : quote? (.object members) = none := by
            refine if_neg fun h => ?_
            rw [hholder, ← hread.event] at h
            simp [h.2] at hevent
        · refine .ack hquote (.inr ⟨hdata, hnoEvent, ?_⟩)
          obtain ⟨-, rfl⟩ | ⟨part, _, hid, -, -⟩ := hid
          · cases hidgiven
          · simp [hid]
        · exact .control hquote
      · have hholder : holder (.object members) = record := by
          rw [holder, hdata]
          rfl
        exact yields_frame (hholder.symm ▸ readFrom_of_ofNode? ht) herror
    · have hrefused : (Node.object members).given? topNames "error" ≠ none := by simp [herror]
      exact .rejected (if_neg fun h => hrefused h.1) (.inl hrefused) _
  | null | bool _ | number _ | string _ | array _ => cases h

end Binance

/-! ## Bybit -/

namespace Bybit

variable {n : Node}

/-- The record that the data of a message stand in. -/
def record (n : Node) : Node := (n.given? topNames "data").getD .null

/-- What a message quotes that does not answer a request. -/
def quote? (n : Node) : Option Tick :=
  if n.textAt topNames "op" = "subscribe" then none
  else (Text.withoutStart? Message.topicStart (n.textAt topNames "topic")).map fun named =>
    let symbol := (record n).textAt dataNames "symbol"
    let price := (record n).textAt dataNames "lastPrice"
    { symbol := if symbol = "" then named else symbol
      price := if price = "" then (record n).textAt dataNames "last_price" else price }

def Answers (n : Node) : Prop := n.textAt topNames "op" = "subscribe"

/-- A ticker is read from the record that it stands in. -/
structure Ticker.ReadFrom (t : Ticker) (record : Node) : Prop where
  symbol : t.symbol = record.textAt dataNames "symbol"
  lastPrice : t.lastPrice = record.textAt dataNames "lastPrice"
  olderLastPrice : t.olderLastPrice = record.textAt dataNames "last_price"

theorem readFrom_of_ofNode? {t : Ticker} {record : Node} (h : Ticker.ofNode? record = some t) :
    t.ReadFrom record := by
  simp only [Ticker.ofNode?, Option.pure_def, Option.bind_eq_bind, Option.bind_eq_some_iff,
    Option.some.injEq] at h
  obtain ⟨f, hf, symbol, hsymbol, price, hprice, older, holder, rfl⟩ := h
  have hlookup := Fields.lookup_of_ofNode? hf
  exact ⟨Fields.text_of_orElse? (hlookup "symbol" (by simp)) hsymbol,
    Fields.text_of_orElse? (hlookup "lastPrice" (by simp)) hprice,
    Fields.text_of_orElse? (hlookup "last_price" (by simp)) holder⟩

theorem yields_of_ofNode? {m : Message} (h : Message.ofNode? n = some m) :
    Yields (quote? n) (Answers n) m.frame := by
  simp only [Message.ofNode?, Option.pure_def, Option.bind_eq_bind, Option.bind_eq_some_iff,
    Option.some.injEq] at h
  obtain ⟨f, hf, topic, htopic, data, hdata, op, hop, success, -, msg, -, rfl⟩ := h
  have hlookup := Fields.lookup_of_ofNode? hf
  have htopic := Fields.text_of_optional? (hlookup "topic" (by simp)) htopic
  have hop : op = some "subscribe" ↔ n.textAt topNames "op" = "subscribe" :=
    Fields.eq_some_iff_text_of_optional? (by decide) (hlookup "op" (by simp)) hop
  have hdata : (data.getD .empty).ReadFrom (record n) := by
    unfold record
    obtain ⟨hgiven, rfl⟩ | ⟨part, t, hgiven, rfl, ht⟩ :=
      Fields.given?_of_optional? (hlookup "data" (by simp)) hdata
    · rw [show n.given? topNames "data" = none from hgiven]
      exact ⟨rfl, rfl, rfl⟩
    · rw [show n.given? topNames "data" = some part from hgiven]
      exact readFrom_of_ofNode? ht
  have hnamed : topic >>= Text.withoutStart? Message.topicStart =
      Text.withoutStart? Message.topicStart (n.textAt topNames "topic") := by
    change topic.getD "" = n.textAt topNames "topic" at htopic
    rw [← htopic]
    cases topic <;> rfl
  unfold Message.frame
  split_ifs with hsubscribe hsuccess
  · exact .ack (if_pos (hop.mp hsubscribe)) (hop.mp hsubscribe)
  · exact .rejected (if_pos (hop.mp hsubscribe)) (hop.mp hsubscribe) _
  · have hquote : quote? n =
        (Text.withoutStart? Message.topicStart (n.textAt topNames "topic")).map _ :=
      if_neg fun h => hsubscribe (hop.mpr h)
    simp only [hnamed]
    cases hstart : Text.withoutStart? Message.topicStart (n.textAt topNames "topic") with
    | none =>
      rw [hstart] at hquote
      exact .control hquote
    | some named =>
      rw [hstart] at hquote
      dsimp only
      unfold Ticker.price
      rw [hdata.symbol, hdata.lastPrice, hdata.olderLastPrice]
      exact .quote hquote

end Bybit

/-! ## OKX -/

namespace Okx

variable {n : Node}

/-- The record of what was subscribed to. -/
def subject (n : Node) : Node := (n.part? topNames "arg").getD .null

/-- What a message quotes that reports no event: the first of its tickers counts. -/
def quote? (n : Node) : Option Tick :=
  match n.part? topNames "data" with
  | some (.array (first :: _)) =>
    if n.given? topNames "event" = none ∧
        (subject n).textAt argumentNames "channel" = "tickers" then
      let instrument := first.textAt dataNames "instId"
      some {
        symbol := Text.without '-'
          (if instrument = "" then (subject n).textAt argumentNames "instId" else instrument)
        price := first.textAt dataNames "last" }
    else none
  | _ => none

def Answers (n : Node) : Prop :=
  n.textAt topNames "event" = "subscribe" ∨ n.textAt topNames "event" = "error"

/-- A ticker is read from the record that it stands in. -/
structure Ticker.ReadFrom (t : Ticker) (record : Node) : Prop where
  instrument : t.instrument = record.textAt dataNames "instId"
  last : t.last = record.textAt dataNames "last"

theorem readFrom_of_ofNode? {t : Ticker} {record : Node} (h : Ticker.ofNode? record = some t) :
    t.ReadFrom record := by
  simp only [Ticker.ofNode?, Option.pure_def, Option.bind_eq_bind, Option.bind_eq_some_iff,
    Option.some.injEq] at h
  obtain ⟨f, hf, instrument, hinstrument, last, hlast, rfl⟩ := h
  have hlookup := Fields.lookup_of_ofNode? hf
  exact ⟨Fields.text_of_orElse? (hlookup "instId" (by simp)) hinstrument,
    Fields.text_of_orElse? (hlookup "last" (by simp)) hlast⟩

theorem argument_texts {a : Argument} {record : Node} (h : Argument.ofNode? record = some a) :
    a.channel = record.textAt argumentNames "channel" ∧
      a.instrument = record.textAt argumentNames "instId" := by
  simp only [Argument.ofNode?, Option.pure_def, Option.bind_eq_bind, Option.bind_eq_some_iff,
    Option.some.injEq] at h
  obtain ⟨f, hf, channel, hchannel, instrument, hinstrument, rfl⟩ := h
  have hlookup := Fields.lookup_of_ofNode? hf
  exact ⟨Fields.text_of_orElse? (hlookup "channel" (by simp)) hchannel,
    Fields.text_of_orElse? (hlookup "instId" (by simp)) hinstrument⟩

theorem texts_of_orElse? {f : Fields} {a : Argument}
    (hlookup : f.values.lookup "arg" = n.part? topNames "arg")
    (h : f.orElse? "arg" .empty Argument.ofNode? = some a) :
    a.channel = (subject n).textAt argumentNames "channel" ∧
      a.instrument = (subject n).textAt argumentNames "instId" := by
  rw [Fields.orElse?, hlookup] at h
  unfold subject
  cases hpart : n.part? topNames "arg" with
  | none =>
    rw [hpart] at h
    obtain rfl := Option.some.inj h
    exact ⟨rfl, rfl⟩
  | some part =>
    rw [hpart] at h
    exact argument_texts h

/-- Either no ticker is there, or the first one is read from the first item. -/
theorem tickers_of_orElse? {f : Fields} {data : List Ticker}
    (hlookup : f.values.lookup "data" = n.part? topNames "data")
    (h : f.orElse? "data" [] (Node.list? Ticker.ofNode?) = some data) :
    (data = [] ∧ ∀ first rest, n.part? topNames "data" ≠ some (.array (first :: rest))) ∨
      ∃ t ts first rest, data = t :: ts ∧ n.part? topNames "data" = some (.array (first :: rest)) ∧
        t.ReadFrom first := by
  rw [Fields.orElse?, hlookup] at h
  cases hpart : n.part? topNames "data" with
  | none =>
    rw [hpart] at h
    exact .inl ⟨(Option.some.inj h).symm, by simp⟩
  | some part =>
    rw [hpart] at h
    cases part with
    | array items =>
      cases items with
      | nil =>
        refine .inl ⟨?_, by simp⟩
        simpa [Node.list?, eq_comm] using h
      | cons first rest =>
        simp only [Node.list?, List.mapM_cons, Option.pure_def, Option.bind_eq_bind,
          Option.bind_eq_some_iff, Option.some.injEq] at h
        obtain ⟨t, ht, ts, -, rfl⟩ := h
        exact .inr ⟨t, ts, first, rest, rfl, rfl, readFrom_of_ofNode? ht⟩
    | null | bool _ | number _ | string _ | object _ => cases h

theorem yields_of_ofNode? {m : Message} (h : Message.ofNode? n = some m) :
    Yields (quote? n) (Answers n) m.frame := by
  simp only [Message.ofNode?, Option.pure_def, Option.bind_eq_bind, Option.bind_eq_some_iff,
    Option.some.injEq] at h
  obtain ⟨f, hf, event, hevent, code, -, msg, -, argument, hargument, data, hdata, rfl⟩ := h
  have hlookup := Fields.lookup_of_ofNode? hf
  obtain ⟨hchannel, hinstrument⟩ := texts_of_orElse? (hlookup "arg" (by simp)) hargument
  have htext : event.getD "" = n.textAt topNames "event" :=
    Fields.text_of_optional? (hlookup "event" (by simp)) hevent
  obtain ⟨hgiven, rfl⟩ | ⟨part, name, hgiven, rfl, -⟩ :=
    Fields.given?_of_optional? (hlookup "event" (by simp)) hevent
  · obtain ⟨rfl, hempty⟩ | ⟨t, ts, first, rest, rfl, hfirst, hread⟩ :=
      tickers_of_orElse? (hlookup "data" (by simp)) hdata
    · refine .control ?_
      unfold quote?
      split
      next first rest hpart => exact absurd hpart (hempty _ _)
      next => rfl
    · simp only [Message.frame]
      rw [hchannel, hinstrument, hread.instrument, hread.last]
      by_cases htickers : (subject n).textAt argumentNames "channel" = "tickers"
      · rw [if_pos htickers]
        refine .quote (q := ⟨_, _⟩) ?_
        rw [quote?, hfirst]
        exact if_pos ⟨hgiven, htickers⟩
      · rw [if_neg htickers]
        refine .control ?_
        rw [quote?, hfirst]
        exact if_neg fun h => htickers h.2
  · have hquote : quote? n = none := by
      have hsome : n.given? topNames "event" ≠ none := fun h => by
        rw [show n.given? topNames "event" = some part from hgiven] at h
        cases h
      unfold quote?
      split
      · exact if_neg fun h => hsome h.1
      · rfl
    change name = n.textAt topNames "event" at htext
    simp only [Message.frame]
    split
    next hname => exact .ack hquote (.inl (htext ▸ Option.some.inj hname))
    next hname => exact .rejected hquote (.inr (htext ▸ Option.some.inj hname)) _
    next => exact .control hquote
    next hname => cases hname

end Okx

/-! ## Every exchange -/

namespace Exchange

def quote? : Exchange → Node → Option Tick
  | binance => Binance.quote?
  | bybit => Bybit.quote?
  | okx => Okx.quote?

/-- The message answers a request. -/
def Answers : Exchange → Node → Prop
  | binance => Binance.Answers
  | bybit => Bybit.Answers
  | okx => Okx.Answers

/-- A text is no message, or it is a document and yields what that quotes. -/
theorem read_cases {M : Type} {ofNode? : Node → Option M} {frame : M → Except DecodeError Frame}
    {quote : Node → Option Tick} {answers : Node → Prop}
    (h : ∀ n m, ofNode? n = some m → Yields (quote n) (answers n) (frame m)) {text : String}
    {result : Except DecodeError Frame}
    (hsome : ∀ m, (Node.ofString? text >>= ofNode?) = some m → result = frame m)
    (hnone : (Node.ofString? text >>= ofNode?) = none → result = .error .json) :
    (∃ e, result = .error e) ∨
      ∃ n, Node.ofString? text = some n ∧ Yields (quote n) (answers n) result := by
  cases hread : Node.ofString? text >>= ofNode? with
  | none => exact .inl ⟨_, hnone hread⟩
  | some m =>
    obtain ⟨n, hn, hm⟩ := Option.bind_eq_some_iff.mp hread
    rw [hsome m hread]
    exact .inr ⟨n, hn, h n m hm⟩

theorem decode_cases (x : Exchange) (text : String) :
    (∃ e, x.decode text = .error e) ∨
      (x.decode text = .ok .control ∧ Node.ofString? text = none) ∨
      ∃ n, Node.ofString? text = some n ∧ Yields (x.quote? n) (x.Answers n) (x.decode text) := by
  cases x with
  | binance =>
    exact (read_cases (fun _ _ => Binance.yields_of_ofNode?)
      (fun m hm => by simp only [decode, Binance.decode, hm])
      fun hm => by simp only [decode, Binance.decode, hm]).imp_right .inr
  | bybit =>
    exact (read_cases (fun _ _ => Bybit.yields_of_ofNode?)
      (fun m hm => by simp only [decode, Bybit.decode, hm])
      fun hm => by simp only [decode, Bybit.decode, hm]).imp_right .inr
  | okx =>
    by_cases hpong : text = "pong"
    · subst hpong
      have hnone : (Node.ofString? "pong").isNone = true := by decide +kernel
      exact .inr (.inl ⟨rfl, Option.isNone_iff_eq_none.mp hnone⟩)
    · exact (read_cases (fun _ _ => Okx.yields_of_ofNode?)
        (fun m hm => by simp only [decode, Okx.decode, if_neg hpong, hm])
        fun hm => by simp only [decode, Okx.decode, if_neg hpong, hm]).imp_right .inr

/-- A tick is what its text quotes. -/
theorem quote?_of_decode_tick {x : Exchange} {text : String} {t : Tick}
    (h : x.decode text = .ok (.tick t)) :
    ∃ n, Node.ofString? text = some n ∧ x.quote? n = some t ∧ Quoted t.symbol t.price := by
  obtain ⟨e, herror⟩ | ⟨hcontrol, -⟩ | ⟨n, hn, hyields⟩ := x.decode_cases text
  · rw [herror] at h
    cases h
  · rw [hcontrol] at h
    cases h
  · generalize x.decode text = result at h hyields
    cases hyields with
    | @quote q hquote =>
      obtain ⟨hquoted, rfl⟩ := ofTick_eq_ok_tick_iff.mp h
      exact ⟨n, hn, hquote, hquoted⟩
    | control | ack | rejected => cases h

theorem decode_error_of_quote? {x : Exchange} {text : String} {n : Node} {q : Tick}
    (hn : Node.ofString? text = some n) (hquote : x.quote? n = some q)
    (hbad : ¬Quoted q.symbol q.price) : ∃ e, x.decode text = .error e := by
  obtain herror | ⟨-, hnone⟩ | ⟨n', hn', hyields⟩ := x.decode_cases text
  · exact herror
  · rw [hn] at hnone
    cases hnone
  · obtain rfl := Option.some.inj (hn.symm.trans hn')
    generalize x.decode text = result at hyields
    cases hyields with
    | quote hquote' =>
      obtain rfl := Option.some.inj (hquote.symm.trans hquote')
      exact exists_ofTick_error hbad
    | control hnone | ack hnone | rejected hnone =>
      rw [hquote] at hnone
      cases hnone

/-- What quotes nothing is an error or asks for no action, unless it answers a request. -/
theorem decode_of_no_quote {x : Exchange} {text : String}
    (h : ∀ n, Node.ofString? text = some n → x.quote? n = none) :
    (∃ e, x.decode text = .error e) ∨ x.decode text = .ok .control ∨
      ∃ n, Node.ofString? text = some n ∧ x.Answers n ∧
        (x.decode text = .ok .ack ∨ ∃ reason, x.decode text = .ok (.rejected reason)) := by
  obtain herror | ⟨hcontrol, -⟩ | ⟨n, hn, hyields⟩ := x.decode_cases text
  · exact .inl herror
  · exact .inr (.inl hcontrol)
  · have hnone := h n hn
    generalize x.decode text = result at hyields
    cases hyields with
    | quote hquote =>
      rw [hnone] at hquote
      cases hquote
    | control => exact .inr (.inl rfl)
    | ack _ hanswers => exact .inr (.inr ⟨n, hn, hanswers, .inl rfl⟩)
    | rejected _ hanswers reason => exact .inr (.inr ⟨n, hn, hanswers, .inr ⟨reason, rfl⟩⟩)

end Exchange

/-! ## Answers to requests for a price -/

/-- What is received is read from the document of a response. -/
theorem Http.receive_eq_ok_iff {α : Type} {decode : Node → Option α}
    {reply : Except String Http.Response} {a : α} :
    Http.receive decode reply = .ok a ↔
      ∃ response n, reply = .ok response ∧ response.document = .ok n ∧ decode n = some a := by
  cases reply with
  | error cause => simp [receive]
  | ok response =>
    cases hdocument : response.document with
    | error e => simp [receive, Response.read, hdocument, bind, Except.bind]
    | ok n =>
      cases hn : decode n with
      | none => simp [receive, Response.read, hdocument, hn, bind, Except.bind, throw, throwThe,
          MonadExceptOf.throw]
      | some b => simp [receive, Response.read, hdocument, hn, bind, Except.bind, pure, Except.pure]

namespace Poll

open Http (Response)

/-- What the answer to a request for the price of a symbol quotes. -/
def Prices.quote (requested : String) (n : Node) : Tick :=
  let symbol := n.textAt ["symbol", "price"] "symbol"
  { symbol := if symbol = "" then requested else symbol
    price := n.textAt ["symbol", "price"] "price" }

theorem Quote.tick_cases (requested : String) (q : Quote) {t : Tick}
    (ht : t = ⟨if q.symbol = "" then requested else q.symbol, q.price⟩) :
    (Quoted t.symbol t.price ∧ q.tick requested = .ok t) ∨
      ¬Quoted t.symbol t.price ∧ ∃ e, q.tick requested = .error e := by
  subst ht
  unfold Quote.tick
  by_cases hprice : q.price = ""
  · rw [if_pos hprice]
    exact .inr ⟨fun h => h.price_ne hprice, _, rfl⟩
  · rw [if_neg hprice]
    dsimp only
    generalize (if q.symbol = "" then requested else q.symbol) = symbol
    obtain ⟨hgood, hcheck⟩ | ⟨hbad, e, hcheck⟩ := check_cases symbol q.price
    · rw [hcheck]
      exact .inl ⟨hgood, rfl⟩
    · rw [hcheck]
      exact .inr ⟨hbad, _, rfl⟩

theorem Quote.quote_of_ofNode? {q : Quote} {n : Node} (h : Quote.ofNode? n = some q)
    (requested : String) :
    Prices.quote requested n = ⟨if q.symbol = "" then requested else q.symbol, q.price⟩ := by
  simp only [Quote.ofNode?, Option.pure_def, Option.bind_eq_bind, Option.bind_eq_some_iff,
    Option.some.injEq] at h
  obtain ⟨f, hf, symbol, hsymbol, price, hprice, rfl⟩ := h
  have hlookup := Fields.lookup_of_ofNode? hf
  simp only [Prices.quote, ← Fields.text_of_orElse? (hlookup "symbol" (by simp)) hsymbol,
    ← Fields.text_of_orElse? (hlookup "price" (by simp)) hprice]

/-- An answer is the tick of what its document quotes if that is accepted, and else it is an
error. -/
theorem Prices.read_cases (requested : String) (reply : Except String Response) :
    (∃ e, read requested reply = .error e) ∨
      ∃ response n, reply = .ok response ∧ response.document = .ok n ∧
        Quoted (quote requested n).symbol (quote requested n).price ∧
        read requested reply = .ok (quote requested n) := by
  unfold read
  cases hreceived : Http.receive Quote.ofNode? reply with
  | error e => exact .inl ⟨_, rfl⟩
  | ok q =>
    obtain ⟨response, n, rfl, hn, hq⟩ := Http.receive_eq_ok_iff.mp hreceived
    obtain ⟨hgood, htick⟩ | ⟨-, e, htick⟩ :=
      Quote.tick_cases requested q (Quote.quote_of_ofNode? hq requested)
    · exact .inr ⟨response, n, rfl, hn, hgood, htick⟩
    · exact .inl ⟨e, htick⟩

end Poll

end LiveEvents
