import LiveEvents.Proofs.PrintedJson
import LiveEvents.Proofs.RecordFields
import LiveEvents.Wire

/-!
# The messages of the exchanges

What each exchange sends, how its messages are written, and what they mean: tickers, confirmations,
refusals, and everything else. Whatever the order of the fields, the blanks and the escapes, and
whatever texts stand under unknown keys, a feed reads the frame that was meant.
-/

namespace LiveEvents

open Json

/-- A ticker that a feed accepts. -/
def Quoted (symbol price : String) : Prop :=
  symbol ≠ "" ∧ (Decimal.ofString? price).isSome = true

/-- The empty text is no price. -/
theorem Quoted.price_ne {symbol price : String} (h : Quoted symbol price) : price ≠ "" := by
  have hprice := h.2
  rintro rfl
  revert hprice
  decide +kernel

theorem ofTick_of_quoted {symbol price : String} (h : Quoted symbol price) :
    Frame.ofTick symbol price = .ok (.tick ⟨symbol, price⟩) := by
  simp [Frame.ofTick, Tick.check, h.1, h.price_ne, Option.isNone_eq_false_iff.mpr h.2]

/-! ## Binance -/

namespace Binance

def topNames : List String := Message.ownNames ++ Ticker.fieldNames

/-- What Binance sends. An event stands alone, or wrapped beside the name of its stream. -/
inductive Sent where
  | ticker (wrapped : Bool) (symbol price : String)
  /-- An event of another type. -/
  | event (wrapped : Bool) (type : String) (symbol price : Option String)
  /-- Confirms the request with this number. -/
  | confirmation (id : Int)
  | refusal (code : Int) (msg : String) (id : Option Int)

/-- A whole number of 64 bits with a sign. -/
def IsLong (i : Int) : Prop := -9223372036854775808 ≤ i ∧ i < 9223372036854775808

def number (i : Int) : Node := .number (.ofInt i)

def eventFields (type symbol price : Option String) : List (String × Option Node) :=
  [("e", type.map .ofText), ("s", symbol.map .ofText), ("c", price.map .ofText)]

def refusalFields (code : Int) (msg : String) : List (String × Option Node) :=
  [("code", some (number code)), ("msg", some (.ofText msg))]

/-- An object that holds an event. -/
def HoldsEvent (wrapped : Bool) (type symbol price : Option String) (n : Node) : Prop :=
  if wrapped then
    ∃ data, Holds Ticker.fieldNames (eventFields type symbol price) data ∧
      Holds topNames [("data", some data)] n
  else Holds topNames (eventFields type symbol price) n

namespace Sent

def Sound : Sent → Prop
  | ticker _ symbol price => Quoted symbol price
  | event _ type _ _ => type ≠ "24hrTicker"
  | confirmation id => IsLong id
  | refusal code _ id => IsLong code ∧ ∀ i ∈ id, IsLong i

def HeldBy : Sent → Node → Prop
  | ticker wrapped symbol price, n =>
    HoldsEvent wrapped (some "24hrTicker") (some symbol) (some price) n
  | event wrapped type symbol price, n => HoldsEvent wrapped (some type) symbol price n
  | confirmation id, n => Holds topNames [("result", some .null), ("id", some (number id))] n
  | refusal code msg id, n =>
    ∃ error, Holds ["code", "msg"] (refusalFields code msg) error ∧
      Holds topNames [("error", some error), ("id", id.map number)] n

def frame : Sent → Frame
  | ticker _ symbol price => .tick ⟨symbol, price⟩
  | event .. => .control
  | confirmation _ => .ack
  | refusal code msg _ => .rejected (toString code ++ " " ++ msg)

end Sent

def topFields (data error id result : Option Node) (type symbol price : Option String) :
    List (String × Option Node) :=
  [("data", data), ("error", error), ("id", id), ("result", result)] ++
    eventFields type symbol price

theorem ticker_ofFields? {f : Fields} {fields : List (String × Option Node)}
    {type symbol price : Option String} (h : f.Carries Ticker.fieldNames fields)
    (htype : (fields.lookup "e").join = type.map .ofText)
    (hsymbol : (fields.lookup "s").join = symbol.map .ofText)
    (hprice : (fields.lookup "c").join = price.map .ofText) :
    Ticker.ofFields? f = some ⟨type, symbol, price⟩ := by
  have he := h.optional "e" (by simp [Ticker.fieldNames]) (htype ▸ Fields.gives_text type)
  have hs := h.optional "s" (by simp [Ticker.fieldNames])
    (hsymbol ▸ Fields.gives_text symbol)
  have hc := h.optional "c" (by simp [Ticker.fieldNames]) (hprice ▸ Fields.gives_text price)
  simp [Ticker.ofFields?, he, hs, hc]

theorem ticker_ofNode? {type symbol price : Option String} {n : Node}
    (h : Holds Ticker.fieldNames (eventFields type symbol price) n) :
    Ticker.ofNode? n = some ⟨type, symbol, price⟩ := by
  obtain ⟨f, hf, hcarries⟩ :=
    Node.exists_carries_of_bears _ h.bears (by simp [eventFields]) fun _ hkey => hkey
  rw [Ticker.ofNode?, hf]
  exact ticker_ofFields? hcarries rfl rfl rfl

theorem int?_number {i : Int} (h : IsLong i) : Node.int? 64 (number i) = some i := by
  simp [Node.int?, number, Numeral.integer?_ofInt, h.1, h.2]

theorem toJson?_number {i : Int} (h : IsLong i) (depth : Nat) :
    (number i).toJson? depth = some (.ofInt i) := by
  have hrange : -9223372036854775808 ≤ i ∧ i < 18446744073709551616 := by
    obtain ⟨hlow, hhigh⟩ := h
    omega
  simp [Node.toJson?, number, Numeral.number?, Numeral.integer?_ofInt, hrange, Json.ofInt]

theorem refusal_ofNode? {code : Int} {msg : String} {n : Node} (hcode : IsLong code)
    (h : Holds ["code", "msg"] (refusalFields code msg) n) :
    Refusal.ofNode? n = some ⟨code, msg⟩ := by
  obtain ⟨f, hf, hcarries⟩ :=
    Node.exists_carries_of_bears _ h.bears (by simp [refusalFields]) fun _ hkey => hkey
  have hread : f.orElse? "code" 0 (Node.int? 64) = some code := by
    rw [hcarries.orElse "code" (by simp)]
    exact int?_number hcode
  have hmsg := hcarries.text "msg" (by simp) (o := some msg) rfl ""
  simp [Refusal.ofNode?, hf, hread, hmsg]

/-- A text settles, if it is there. -/
theorem settles_ofText {o : Option String} {n : Node} (h : o.map .ofText = some n) :
    (n.toJson? (maxDepth - 1)).isSome = true := by
  obtain ⟨s, -, rfl⟩ := Option.map_eq_some_iff.mp h
  rfl

/-- Whatever stands on top beside a ticker, an error and a number settles. -/
theorem settles_others {data error id result : Option Node} {type symbol price : Option String}
    {pairs : List (String × Node)} {extras : List (String × String)}
    (hpairs : pairs.Perm
      (present (topFields data error id result type symbol price) ++ texts extras))
    (hresult : ∀ r ∈ result, (r.toJson? (maxDepth - 1)).isSome = true) :
    (Node.membersToJson? (maxDepth - 1) []
      ((keyed pairs).filter fun m => !Message.isOwn m.1)).isSome = true := by
  have hfilter : (keyed pairs).filter (fun m => !Message.isOwn m.1) =
      keyed (pairs.filter fun pair => !Message.isOwn (some pair.1)) := by
    simp [keyed, List.filter_map, Function.comp_def]
  rw [hfilter]
  apply Node.membersToJson?_isSome
  intro pair hpair
  obtain ⟨hmem, hother⟩ := List.mem_filter.mp hpair
  rcases List.mem_append.mp (hpairs.mem_iff.mp hmem) with hpresent | hextra
  · obtain ⟨field, hfield, heq⟩ := List.mem_filterMap.mp hpresent
    obtain ⟨node, hnode, rfl⟩ := Option.map_eq_some_iff.mp heq
    simp only [topFields, eventFields, List.cons_append, List.nil_append, List.mem_cons,
      List.not_mem_nil, or_false] at hfield
    rcases hfield with rfl | rfl | rfl | rfl | rfl | rfl | rfl
    · simp [Message.isOwn, Message.ownNames] at hother
    · simp [Message.isOwn, Message.ownNames] at hother
    · simp [Message.isOwn, Message.ownNames] at hother
    · exact hresult node hnode
    · exact settles_ofText hnode
    · exact settles_ofText hnode
    · exact settles_ofText hnode
  · obtain ⟨extra, -, rfl⟩ := List.mem_map.mp hextra
    rfl

/-- No field of a ticker is lost when the members that are read by themselves are left out. -/
theorem ofMembers?_others (members : List (Option String × Node)) :
    Fields.ofMembers? Ticker.fieldNames (members.filter fun m => !Message.isOwn m.1) =
      Fields.ofMembers? Ticker.fieldNames members := by
  rw [Fields.ofMembers?, Fields.ofMembers?, Fields.collect?_filter]
  rintro ⟨key, n⟩ _ hown
  cases key with
  | none => cases hown
  | some key =>
    refine ⟨key, rfl, ?_⟩
    intro hname
    simp only [Ticker.fieldNames, List.mem_cons, List.not_mem_nil, or_false] at hname
    rcases hname with rfl | rfl | rfl <;> simp [Message.isOwn, Message.ownNames] at hown

theorem message_ofNode? {data error id result : Option Node} {type symbol price : Option String}
    {data' : Option Ticker} {error' : Option Refusal} {id' : Option Json} {n : Node}
    (h : Holds topNames (topFields data error id result type symbol price) n)
    (hdata : Fields.Gives Ticker.ofNode? data data')
    (herror : Fields.Gives Refusal.ofNode? error error')
    (hid : Fields.Gives (Node.toJson? (maxDepth - 1)) id id')
    (hresult : ∀ r ∈ result, (r.toJson? (maxDepth - 1)).isSome = true) :
    Message.ofNode? n =
      some { data := data', top := ⟨type, symbol, price⟩, id := id', error := error' } := by
  obtain ⟨pairs, extras, rfl, hpairs, hextras⟩ := h
  have hnodup : ((topFields data error id result type symbol price).map (·.1)).Nodup := by
    simp [topFields, eventFields]
  have hothers := notMem_texts hextras
  obtain ⟨own, hown, hcarries⟩ := Fields.exists_carries Message.ownNames hpairs hothers hnodup
    fun _ hkey => List.mem_append_left _ hkey
  obtain ⟨top, htop, hcarries'⟩ := Fields.exists_carries Ticker.fieldNames hpairs hothers
    hnodup fun _ hkey => List.mem_append_right _ hkey
  obtain ⟨settled, hsettled⟩ := Option.isSome_iff_exists.mp (settles_others hpairs hresult)
  have hread := ticker_ofFields? hcarries' rfl rfl rfl
  have hdataread := hcarries.optional "data" (by simp [Message.ownNames]) hdata
  have herrorread := hcarries.optional "error" (by simp [Message.ownNames]) herror
  have hidread := hcarries.optional "id" (by simp [Message.ownNames]) hid
  simp [Message.ofNode?, hown, hsettled, ofMembers?_others, htop, hread, hdataread, herrorread,
    hidread]

theorem decode_of_writes {text : String} {n : Node} {m : Message} (ht : Writes n text)
    (hn : Message.ofNode? n = some m) : decode text = m.frame := by
  simp [decode, ofString?_of_writes ht, hn]

/-- An event is read where it stands. -/
theorem holdsEvent_frame {wrapped : Bool} {type : String} {symbol price : Option String} {n : Node}
    (h : HoldsEvent wrapped (some type) symbol price n) :
    ∃ m, Message.ofNode? n = some m ∧ m.frame = Ticker.frame ⟨some type, symbol, price⟩ := by
  cases wrapped with
  | true =>
    obtain ⟨data, hdata, htop⟩ := h
    have htop : Holds topNames (topFields (some data) none none none none none none) n := htop
    have hread := ticker_ofNode? hdata
    have hne : data ≠ .null := by
      rintro rfl
      cases hread
    exact ⟨_, message_ofNode? htop (.value hne hread) .absent .absent (by simp), rfl⟩
  | false =>
    have htop : Holds topNames (topFields none none none none (some type) symbol price) n := h
    exact ⟨_, message_ofNode? htop .absent .absent .absent (by simp), rfl⟩

/-- What Binance sends is read as what it means. -/
theorem decode_sent {m : Sent} {n : Node} {text : String} (hm : m.Sound) (hn : m.HeldBy n)
    (ht : Writes n text) : decode text = .ok m.frame := by
  cases m with
  | ticker wrapped symbol price =>
    obtain ⟨message, hread, hframe⟩ := holdsEvent_frame hn
    rw [decode_of_writes ht hread, hframe]
    exact ofTick_of_quoted hm
  | event wrapped type symbol price =>
    obtain ⟨message, hread, hframe⟩ := holdsEvent_frame hn
    rw [decode_of_writes ht hread, hframe]
    have hother : ¬some type = some "24hrTicker" := fun h => hm (Option.some.inj h)
    rw [Ticker.frame, if_neg hother]
    rfl
  | confirmation id =>
    have htop : Holds topNames
        (topFields none none (some (number id)) (some .null) none none none) n := by
      exact hn.reorder (.swap ..)
    have hid := Fields.Gives.value (by simp [number]) (toJson?_number hm (maxDepth - 1))
    have hread := message_ofNode? htop .absent .absent hid (by simp [Node.toJson?])
    rw [decode_of_writes ht hread]
    rfl
  | refusal code msg id =>
    obtain ⟨hcode, hid⟩ := hm
    obtain ⟨error, herror, htop⟩ := hn
    have htop : Holds topNames
        (topFields none (some error) (id.map number) none none none none) n := by
      exact htop.reorder (by cases id <;> exact .rfl)
    have hrefusal := refusal_ofNode? hcode herror
    have hne : error ≠ .null := by
      rintro rfl
      cases hrefusal
    have hidread : Fields.Gives (Node.toJson? (maxDepth - 1)) (id.map number)
        (id.map Json.ofInt) := by
      cases id with
      | none => exact .absent
      | some i => exact .value (by simp [number]) (toJson?_number (hid i rfl) (maxDepth - 1))
    have hread := message_ofNode? htop .absent (.value hne hrefusal) hidread (by simp)
    rw [decode_of_writes ht hread]
    simp [Message.frame, Sent.frame, ← Text.toList_toString_int]

end Binance

/-! ## Bybit -/

namespace Bybit

def topNames : List String := ["topic", "data", "op", "success", "ret_msg"]

/-- The keys that mean something in the data of a ticker. -/
def dataNames : List String := ["symbol", "lastPrice", "last_price"]

/-- Where a ticker names its symbol: in its data, or in its topic, where the data may hold an empty
one. -/
inductive Naming where
  | data (name : String)
  | topic (blank : Bool)

/-- Under which spelling a ticker has its price; the newer one may be there and empty. -/
inductive Spelling where
  | newer (other : Option String)
  | older (blank : Bool)

inductive Sent where
  | ticker (symbol price : String) (naming : Naming) (spelling : Spelling)
  /-- A message of another topic. -/
  | other (topic : String)
  | confirmation (msg : Option String)
  | refusal (msg : String)
  /-- The outcome of another operation. -/
  | operation (op : String) (success : Option Bool) (msg : Option String)

/-- An empty text that is there or not. -/
def blankText (blank : Bool) : Option String := if blank then some "" else none

def Naming.topicOf (symbol : String) : Naming → String
  | .data name => "tickers." ++ name
  | .topic _ => "tickers." ++ symbol

def Naming.symbolOf (symbol : String) : Naming → Option String
  | .data _ => some symbol
  | .topic blank => blankText blank

def Spelling.newerOf (price : String) : Spelling → Option String
  | .newer _ => some price
  | .older blank => blankText blank

def Spelling.olderOf (price : String) : Spelling → Option String
  | .newer other => other
  | .older _ => some price

def dataFields (symbol price older : Option String) : List (String × Option Node) :=
  [("symbol", symbol.map .ofText), ("lastPrice", price.map .ofText),
    ("last_price", older.map .ofText)]

def topicFields (topic : String) (data : Option Node) : List (String × Option Node) :=
  [("topic", some (.ofText topic)), ("data", data)]

def operationFields (op : String) (success : Option Bool) (msg : Option String) :
    List (String × Option Node) :=
  [("op", some (.ofText op)), ("success", success.map .bool), ("ret_msg", msg.map .ofText)]

/-- An object that holds a topic and its data. -/
def HoldsTopic (topic : String) (symbol price older : Option String) (n : Node) : Prop :=
  ∃ data, Holds dataNames (dataFields symbol price older) data ∧
    Holds topNames (topicFields topic (some data)) n

/-- An object that holds a topic, which may have data. -/
def HoldsOther (topic : String) (n : Node) : Prop :=
  Holds topNames (topicFields topic none) n ∨
    ∃ symbol price older, HoldsTopic topic symbol price older n

namespace Sent

def Sound : Sent → Prop
  | ticker symbol price _ _ => Quoted symbol price
  | other topic => ¬"tickers.".toList <+: topic.toList
  | confirmation _ | refusal _ => True
  | operation op _ _ => op ≠ "subscribe"

def HeldBy : Sent → Node → Prop
  | ticker symbol price naming spelling, n =>
    HoldsTopic (naming.topicOf symbol) (naming.symbolOf symbol) (spelling.newerOf price)
      (spelling.olderOf price) n
  | other topic, n => HoldsOther topic n
  | confirmation msg, n => Holds topNames (operationFields "subscribe" (some true) msg) n
  | refusal msg, n => Holds topNames (operationFields "subscribe" (some false) (some msg)) n
  | operation op success msg, n => Holds topNames (operationFields op success msg) n

def frame : Sent → Frame
  | ticker symbol price _ _ => .tick ⟨symbol, price⟩
  | other .. | operation .. => .control
  | confirmation _ => .ack
  | refusal msg => .rejected msg

end Sent

theorem ticker_ofNode? {symbol price older : Option String} {n : Node}
    (h : Bears dataNames (dataFields symbol price older) n) :
    Ticker.ofNode? n = some ⟨symbol.getD "", price.getD "", older.getD ""⟩ := by
  obtain ⟨f, hf, hcarries⟩ := Node.exists_carries_of_bears dataNames h (by simp [dataFields])
    fun _ hkey => hkey
  rw [dataNames] at hf
  have hsymbol := hcarries.text "symbol" (by simp [dataNames]) (o := symbol) rfl ""
  have hprice := hcarries.text "lastPrice" (by simp [dataNames]) (o := price) rfl ""
  have holder := hcarries.text "last_price" (by simp [dataNames]) (o := older) rfl ""
  simp [Ticker.ofNode?, hf, hsymbol, hprice, holder]

def topFields (topic : Option String) (data : Option Node) (op : Option String)
    (success : Option Bool) (msg : Option String) : List (String × Option Node) :=
  [("topic", topic.map .ofText), ("data", data), ("op", op.map .ofText),
    ("success", success.map .bool), ("ret_msg", msg.map .ofText)]

theorem message_ofNode? {topic op msg : Option String} {data : Option Node}
    {success : Option Bool} {data' : Option Ticker} {n : Node}
    (h : Bears topNames (topFields topic data op success msg) n)
    (hdata : Fields.Gives Ticker.ofNode? data data') :
    Message.ofNode? n = some { topic, data := data', op, success, retMsg := msg.getD "" } := by
  obtain ⟨f, hf, hcarries⟩ := Node.exists_carries_of_bears topNames h (by simp [topFields])
    fun _ hkey => hkey
  rw [topNames] at hf
  have hsuccess : Fields.Gives Node.bool? (success.map .bool) success := by
    cases success with
    | none => exact .absent
    | some b => exact .value (by simp) rfl
  have htopic := hcarries.optional "topic" (by simp [topNames]) (Fields.gives_text topic)
  have hdataread := hcarries.optional "data" (by simp [topNames]) hdata
  have hop := hcarries.optional "op" (by simp [topNames]) (Fields.gives_text op)
  have hsuccessread := hcarries.optional "success" (by simp [topNames]) hsuccess
  have hmsg := hcarries.text "ret_msg" (by simp [topNames]) (o := msg) rfl ""
  simp [Message.ofNode?, hf, htopic, hdataread, hop, hsuccessread, hmsg]

theorem decode_of_writes {text : String} {n : Node} {m : Message} (ht : Writes n text)
    (hn : Message.ofNode? n = some m) : decode text = m.frame := by
  simp [decode, ofString?_of_writes ht, hn]

theorem decode_topic {topic text : String} {symbol price older : Option String} {data n : Node}
    (hdata : Bears dataNames (dataFields symbol price older) data)
    (htop : Bears topNames (topicFields topic (some data)) n) (ht : Writes n text) :
    decode text = Message.frame
      { topic := some topic
        data := some ⟨symbol.getD "", price.getD "", older.getD ""⟩
        op := none
        success := none
        retMsg := "" } := by
  have hread := ticker_ofNode? hdata
  have hne : data ≠ .null := by
    rintro rfl
    cases hread
  have htop : Bears topNames (topFields (some topic) (some data) none none none) n := htop
  exact decode_of_writes ht (message_ofNode? htop (.value hne hread))

theorem decode_operation {op text : String} {success : Option Bool} {msg : Option String} {n : Node}
    (hn : Holds topNames (operationFields op success msg) n) (ht : Writes n text) :
    decode text = Message.frame
      { topic := none, data := none, op := some op, success, retMsg := msg.getD "" } := by
  have hn : Holds topNames (topFields none none (some op) success msg) n := hn
  exact decode_of_writes ht (message_ofNode? hn.bears .absent)

theorem withoutStart?_append (start rest : String) :
    Text.withoutStart? start (start ++ rest) = some rest := by
  simp [Text.withoutStart?, ← String.length_toList]

/-- The price counts under either spelling. -/
theorem price_of_spelling {price : String} (hne : price ≠ "") (spelling : Spelling)
    (name : String) :
    Ticker.price ⟨name, (spelling.newerOf price).getD "", (spelling.olderOf price).getD ""⟩ =
      price := by
  cases spelling with
  | newer other => simp [Ticker.price, Spelling.newerOf, hne]
  | older blank => cases blank <;> rfl

/-- The symbol counts in either place. -/
theorem symbol_of_naming {symbol : String} (hne : symbol ≠ "") (naming : Naming) :
    ∃ named, Text.withoutStart? Message.topicStart (naming.topicOf symbol) = some named ∧
      (if (naming.symbolOf symbol).getD "" = "" then named
        else (naming.symbolOf symbol).getD "") = symbol := by
  cases naming with
  | data name => exact ⟨name, withoutStart?_append _ _, by simp [Naming.symbolOf, hne]⟩
  | topic blank => exact ⟨symbol, withoutStart?_append _ _, by cases blank <;> rfl⟩

/-- A ticker is read wherever it names its symbol and its price, whatever else stands there. -/
theorem decode_ticker (naming : Naming) (spelling : Spelling) {symbol price text : String}
    {data n : Node} (hquoted : Quoted symbol price)
    (hdata : Bears dataNames
      (dataFields (naming.symbolOf symbol) (spelling.newerOf price) (spelling.olderOf price)) data)
    (htop : Bears topNames (topicFields (naming.topicOf symbol) (some data)) n)
    (ht : Writes n text) : decode text = .ok (.tick ⟨symbol, price⟩) := by
  obtain ⟨named, htopic, hsymbol⟩ := symbol_of_naming hquoted.1 naming
  rw [decode_topic hdata htop ht]
  simp only [Message.frame, Option.bind_eq_bind, Option.bind_some, htopic, Option.getD_some,
    hsymbol, price_of_spelling hquoted.price_ne]
  exact ofTick_of_quoted hquoted

/-- What Bybit sends is read as what it means. -/
theorem decode_sent {m : Sent} {n : Node} {text : String} (hm : m.Sound) (hn : m.HeldBy n)
    (ht : Writes n text) : decode text = .ok m.frame := by
  cases m with
  | ticker symbol price naming spelling =>
    obtain ⟨data, hdata, htop⟩ := hn
    exact decode_ticker naming spelling hm hdata.bears htop.bears ht
  | other topic =>
    have hother : Text.withoutStart? "tickers." topic = none := by
      rw [Text.withoutStart?, if_neg]
      exact fun h => hm (List.isPrefixOf_iff_prefix.mp h)
    rcases hn with hn | ⟨symbol, price, older, data, hdata, htop⟩
    · have htop : Holds topNames (topFields (some topic) none none none none) n := hn
      rw [decode_of_writes ht (message_ofNode? htop.bears .absent)]
      simp [Message.frame, Message.topicStart, hother, Sent.frame]
    · rw [decode_topic hdata.bears htop.bears ht]
      simp [Message.frame, Message.topicStart, hother, Sent.frame]
  | confirmation msg =>
    rw [decode_operation hn ht]
    rfl
  | refusal msg =>
    rw [decode_operation hn ht]
    rfl
  | operation op success msg =>
    rw [decode_operation hn ht]
    have hother : ¬some op = some "subscribe" := fun h => hm (Option.some.inj h)
    rw [Message.frame, if_neg hother]
    rfl

end Bybit

/-! ## OKX -/

namespace Okx

def topNames : List String := ["event", "code", "msg", "arg", "data"]

/-- The keys that mean something in the argument of a message. -/
def argumentNames : List String := ["channel", "instId"]

/-- The keys that mean something in a piece of data. -/
def dataNames : List String := ["instId", "last"]

/-- Where a ticker names its instrument: in the first piece of its data, or in its argument, where
the data may hold an empty name. -/
inductive Naming where
  | data (argument : Option String)
  | argument (blank : Bool)

/-- What OKX sends as an object. Only the first piece of data counts. -/
inductive Sent where
  | ticker (instrument price : String) (naming : Naming)
      (rest : List (Option String × Option String))
  /-- A message of another channel. -/
  | other (channel : String)
  | confirmation
  | refusal (code msg : String)
  /-- Another event. -/
  | event (name : String) (code msg : Option String)

def Naming.dataOf (instrument : String) : Naming → Option String
  | .data _ => some instrument
  | .argument blank => if blank then some "" else none

def Naming.argumentOf (instrument : String) : Naming → Option String
  | .data other => other
  | .argument _ => some instrument

def argumentFields (channel instrument : Option String) : List (String × Option Node) :=
  [("channel", channel.map .ofText), ("instId", instrument.map .ofText)]

def dataFields (piece : Option String × Option String) : List (String × Option Node) :=
  [("instId", piece.1.map .ofText), ("last", piece.2.map .ofText)]

def topFields (event code msg : Option String) (argument data : Option Node) :
    List (String × Option Node) :=
  [("event", event.map .ofText), ("code", code.map .ofText), ("msg", msg.map .ofText),
    ("arg", argument), ("data", data)]

/-- An array that holds the pieces of data in their order. -/
def HoldsData (data : List (Option String × Option String)) (n : Node) : Prop :=
  ∃ items, n = .array items ∧
    List.Forall₂ (fun piece item => Holds dataNames (dataFields piece) item) data items

/-- An object that holds a channel, and its data if there is any. -/
def HoldsChannel (channel : String) (instrument : Option String)
    (data : Option (List (Option String × Option String))) (n : Node) : Prop :=
  ∃ argument items, Holds argumentNames (argumentFields (some channel) instrument) argument ∧
    Option.Rel HoldsData data items ∧
    Holds topNames (topFields none none none (some argument) items) n

/-- An object that holds an event, which may have an argument. -/
def HoldsEvent (name : String) (code msg : Option String) (n : Node) : Prop :=
  ∃ argument : Option Node,
    (∀ a ∈ argument, ∃ channel instrument,
      Holds argumentNames (argumentFields channel instrument) a) ∧
    Holds topNames (topFields (some name) code msg argument none) n

namespace Sent

def Sound : Sent → Prop
  | ticker instrument price _ _ => Quoted (Text.without '-' instrument) price
  | other channel => channel ≠ "tickers"
  | confirmation | refusal _ _ => True
  | event name _ _ => name ≠ "subscribe" ∧ name ≠ "error"

def HeldBy : Sent → Node → Prop
  | ticker instrument price naming rest, n =>
    HoldsChannel "tickers" (naming.argumentOf instrument)
      (some ((naming.dataOf instrument, some price) :: rest)) n
  | other channel, n => ∃ instrument data, HoldsChannel channel instrument data n
  | confirmation, n => HoldsEvent "subscribe" none none n
  | refusal code msg, n => HoldsEvent "error" (some code) (some msg) n
  | event name code msg, n => HoldsEvent name code msg n

def frame : Sent → Frame
  | ticker instrument price _ _ => .tick ⟨Text.without '-' instrument, price⟩
  | other .. | event .. => .control
  | confirmation => .ack
  | refusal code msg => .rejected (code ++ " " ++ msg)

end Sent

theorem argument_ofNode? {channel instrument : Option String} {n : Node}
    (h : Bears argumentNames (argumentFields channel instrument) n) :
    Argument.ofNode? n = some ⟨channel.getD "", instrument.getD ""⟩ := by
  obtain ⟨f, hf, hcarries⟩ := Node.exists_carries_of_bears argumentNames h
    (by simp [argumentFields]) fun _ hkey => hkey
  rw [argumentNames] at hf
  have hchannel := hcarries.text "channel" (by simp [argumentNames]) (o := channel) rfl ""
  have hinstrument := hcarries.text "instId" (by simp [argumentNames]) (o := instrument) rfl ""
  simp [Argument.ofNode?, hf, hchannel, hinstrument]

theorem ticker_ofNode? {piece : Option String × Option String} {n : Node}
    (h : Bears dataNames (dataFields piece) n) :
    Ticker.ofNode? n = some ⟨piece.1.getD "", piece.2.getD ""⟩ := by
  obtain ⟨f, hf, hcarries⟩ := Node.exists_carries_of_bears dataNames h (by simp [dataFields])
    fun _ hkey => hkey
  rw [dataNames] at hf
  have hinstrument := hcarries.text "instId" (by simp [dataNames]) (o := piece.1) rfl ""
  have hlast := hcarries.text "last" (by simp [dataNames]) (o := piece.2) rfl ""
  simp [Ticker.ofNode?, hf, hinstrument, hlast]

theorem list?_of_bears {data : List (Option String × Option String)} {items : List Node}
    (h : List.Forall₂ (fun piece item => Bears dataNames (dataFields piece) item) data items) :
    Node.list? Ticker.ofNode? (.array items) =
      some (data.map fun piece => ⟨piece.1.getD "", piece.2.getD ""⟩) := by
  change items.mapM Ticker.ofNode? = _
  induction h with
  | nil => rfl
  | cons hfirst _ ih => simp [ticker_ofNode? hfirst, ih]

theorem bears_of_holds {data : List (Option String × Option String)} {items : List Node}
    (h : List.Forall₂ (fun piece item => Holds dataNames (dataFields piece) item) data items) :
    List.Forall₂ (fun piece item => Bears dataNames (dataFields piece) item) data items :=
  h.imp fun _ _ hitem => hitem.bears

theorem message_ofNode? {event code msg : Option String} {argument data : Option Node}
    {argument' : Argument} {data' : List Ticker} {n : Node}
    (h : Bears topNames (topFields event code msg argument data) n)
    (hargument : (argument.map Argument.ofNode?).getD (some .empty) = some argument')
    (hdata : (data.map (Node.list? Ticker.ofNode?)).getD (some []) = some data') :
    Message.ofNode? n =
      some { event, code := code.getD "", msg := msg.getD "", argument := argument'
             data := data' } := by
  obtain ⟨f, hf, hcarries⟩ := Node.exists_carries_of_bears topNames h (by simp [topFields])
    fun _ hkey => hkey
  rw [topNames] at hf
  have hevent := hcarries.optional "event" (by simp [topNames]) (Fields.gives_text event)
  have hcode := hcarries.text "code" (by simp [topNames]) (o := code) rfl ""
  have hmsg := hcarries.text "msg" (by simp [topNames]) (o := msg) rfl ""
  have hargumentread := (hcarries.orElse "arg" (by simp [topNames])).trans hargument
  have hdataread := (hcarries.orElse "data" (by simp [topNames])).trans hdata
  simp [Message.ofNode?, hf, hevent, hcode, hmsg, hargumentread, hdataread]

/-- The plain reply to a heartbeat is no document. -/
theorem ne_pong_of_writes {text : String} {n : Node} (ht : Writes n text) : text ≠ "pong" := by
  rintro rfl
  have hread := ofString?_of_writes ht
  have hnone : (Node.ofString? "pong").isNone = true := by decide +kernel
  rw [hread] at hnone
  cases hnone

theorem decode_of_writes {text : String} {n : Node} {m : Message} (ht : Writes n text)
    (hn : Message.ofNode? n = some m) : decode text = m.frame := by
  simp [decode, ne_pong_of_writes ht, ofString?_of_writes ht, hn]

theorem decode_channel {channel text : String} {instrument : Option String}
    {data : List (Option String × Option String)} {argument n : Node} {items : List Node}
    (hargument : Bears argumentNames (argumentFields (some channel) instrument) argument)
    (hitems : List.Forall₂ (fun piece item => Bears dataNames (dataFields piece) item) data items)
    (htop : Bears topNames (topFields none none none (some argument) (some (.array items))) n)
    (ht : Writes n text) :
    decode text = Message.frame
      { event := none
        code := ""
        msg := ""
        argument := ⟨channel, instrument.getD ""⟩
        data := data.map fun piece => ⟨piece.1.getD "", piece.2.getD ""⟩ } :=
  decode_of_writes ht (message_ofNode? htop (argument_ofNode? hargument) (list?_of_bears hitems))

theorem decode_event {name text : String} {code msg : Option String} {n : Node}
    (hn : HoldsEvent name code msg n) (ht : Writes n text) :
    ∃ argument, decode text = Message.frame
      { event := some name, code := code.getD "", msg := msg.getD "", argument, data := [] } := by
  obtain ⟨argument, hargument, htop⟩ := hn
  cases argument with
  | none => exact ⟨_, decode_of_writes ht (message_ofNode? htop.bears rfl rfl)⟩
  | some a =>
    obtain ⟨channel, instrument, ha⟩ := hargument a rfl
    exact ⟨_, decode_of_writes ht (message_ofNode? htop.bears (argument_ofNode? ha.bears) rfl)⟩

/-- The instrument counts in either place. -/
theorem instrument_of_naming {instrument : String} (hne : instrument ≠ "") (naming : Naming) :
    (if (naming.dataOf instrument).getD "" = "" then (naming.argumentOf instrument).getD ""
      else (naming.dataOf instrument).getD "") = instrument := by
  cases naming with
  | data other => simp [Naming.dataOf, hne]
  | argument blank => cases blank <;> rfl

/-- A ticker is read wherever it names its instrument, whatever else stands there. -/
theorem decode_ticker (naming : Naming) {instrument price text : String}
    {rest : List (Option String × Option String)} {argument n : Node} {items : List Node}
    (hquoted : Quoted (Text.without '-' instrument) price)
    (hargument : Bears argumentNames
      (argumentFields (some "tickers") (naming.argumentOf instrument)) argument)
    (hitems : List.Forall₂ (fun piece item => Bears dataNames (dataFields piece) item)
      ((naming.dataOf instrument, some price) :: rest) items)
    (htop : Bears topNames (topFields none none none (some argument) (some (.array items))) n)
    (ht : Writes n text) :
    decode text = .ok (.tick ⟨Text.without '-' instrument, price⟩) := by
  have hne : instrument ≠ "" := by
    rintro rfl
    exact hquoted.1 rfl
  rw [decode_channel hargument hitems htop ht]
  simp only [Message.frame, List.map_cons, if_true, Option.getD_some, instrument_of_naming hne]
  exact ofTick_of_quoted hquoted

/-- What OKX sends as an object is read as what it means. -/
theorem decode_sent {m : Sent} {n : Node} {text : String} (hm : m.Sound) (hn : m.HeldBy n)
    (ht : Writes n text) : decode text = .ok m.frame := by
  cases m with
  | ticker instrument price naming rest =>
    obtain ⟨argument, _, hargument, ⟨items, rfl, hitems⟩, htop⟩ := hn
    exact decode_ticker naming hm hargument.bears (bears_of_holds hitems) htop.bears ht
  | other channel =>
    obtain ⟨instrument, data, argument, items, hargument, hitems, htop⟩ := hn
    have hother : channel ≠ "tickers" := hm
    cases hitems with
    | none =>
      rw [decode_of_writes ht (message_ofNode? htop.bears (argument_ofNode? hargument.bears) rfl)]
      rfl
    | some hdata =>
      obtain ⟨items, rfl, hitems⟩ := hdata
      rw [decode_channel hargument.bears (bears_of_holds hitems) htop.bears ht]
      cases hitems <;> simp [Message.frame, hother, Sent.frame]
  | confirmation =>
    obtain ⟨argument, hdecode⟩ := decode_event hn ht
    rw [hdecode]
    rfl
  | refusal code msg =>
    obtain ⟨argument, hdecode⟩ := decode_event hn ht
    rw [hdecode]
    rfl
  | event name code msg =>
    obtain ⟨argument, hdecode⟩ := decode_event hn ht
    rw [hdecode]
    simp [Message.frame, hm.1, hm.2, Sent.frame]

end Okx

/-! ## All exchanges -/

namespace Exchange

/-- An exchange may send the text, and means the frame by it. -/
inductive Says : Exchange → String → Frame → Prop where
  | binance {m : Binance.Sent} {n : Node} {text : String} (hm : m.Sound) (hn : m.HeldBy n)
      (ht : Writes n text) : Says .binance text m.frame
  | bybit {m : Bybit.Sent} {n : Node} {text : String} (hm : m.Sound) (hn : m.HeldBy n)
      (ht : Writes n text) : Says .bybit text m.frame
  | okx {m : Okx.Sent} {n : Node} {text : String} (hm : m.Sound) (hn : m.HeldBy n)
      (ht : Writes n text) : Says .okx text m.frame
  /-- The reply of OKX to a heartbeat. -/
  | pong : Says .okx "pong" .control

/-- A feed reads from every text that its exchange may send the frame that was meant by it. -/
theorem decode_message {x : Exchange} {text : String} {frame : Frame} (h : x.Says text frame) :
    x.decode text = .ok frame := by
  cases h with
  | binance hm hn ht => exact Binance.decode_sent hm hn ht
  | bybit hm hn ht => exact Bybit.decode_sent hm hn ht
  | okx hm hn ht => exact Okx.decode_sent hm hn ht
  | pong => rfl

/-- An older ticker of Bybit: the symbol is only in the topic, and a key is there that nobody
knows. -/
def olderTicker : Json :=
  .object [("data", .object [("last_price", .string "3500.1")]), ("type", .string "snapshot"),
    ("topic", .string "tickers.ETHUSDT")]

theorem olderTicker_decodes :
    Says .bybit olderTicker.compact (.tick ⟨"ETHUSDT", "3500.1"⟩) ∧
      bybit.decode olderTicker.compact = .ok (.tick ⟨"ETHUSDT", "3500.1"⟩) := by
  have hmeant : Says .bybit olderTicker.compact (.tick ⟨"ETHUSDT", "3500.1"⟩) := by
    have hsound : (Bybit.Sent.ticker "ETHUSDT" "3500.1" (.topic false) (.older false)).Sound :=
      ⟨by decide, by decide +kernel⟩
    have hdata : Holds Bybit.dataNames (Bybit.dataFields none none (some "3500.1"))
        (Json.object [("last_price", .string "3500.1")]).node :=
      ⟨[("last_price", .ofText "3500.1")], [], rfl, .refl _, by simp⟩
    have htop : Holds Bybit.topNames
        (Bybit.topicFields "tickers.ETHUSDT"
          (some (Json.object [("last_price", .string "3500.1")]).node)) olderTicker.node := by
      refine ⟨[("data", _), ("type", .ofText "snapshot"), ("topic", .ofText "tickers.ETHUSDT")],
        [("type", "snapshot")], rfl, ?_, by simp [Bybit.topNames]⟩
      exact List.perm_append_singleton _ [_, _]
    exact .bybit hsound ⟨_, hdata, htop⟩ (writes_compact olderTicker)
  exact ⟨hmeant, decode_message hmeant⟩

end Exchange

end LiveEvents
