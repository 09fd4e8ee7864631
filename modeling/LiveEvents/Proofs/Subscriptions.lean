import LiveEvents.Proofs.Instruments
import LiveEvents.Proofs.WireMessages

/-!
# Subscriptions

A feed subscribes with one text, which is read back as a request with one entry for each symbol. A
ticker that names what was asked for, in the spelling of its exchange, is a tick for the upper case
of the symbol, for OKX without the dashes. Two symbols are asked for as one instrument only if their
upper case is the same.
-/

namespace LiveEvents.Exchange

open Json

/-! ## Requests -/

/-- What a request lists for a symbol. -/
def entry : Exchange → String → Json
  | binance, symbol => .string (Text.lower symbol ++ "@ticker")
  | bybit, symbol => .string ("tickers." ++ Text.upper symbol)
  | okx, symbol =>
    .object [("channel", .string "tickers"), ("instId", .string (Okx.instrument symbol))]

def request : Exchange → List Json → Json
  | binance, entries =>
    .object [("id", .ofInt 1), ("method", .string "SUBSCRIBE"), ("params", .array entries)]
  | bybit, entries | okx, entries =>
    .object [("args", .array entries), ("op", .string "subscribe")]

theorem subscription_eq (x : Exchange) (symbols : List String) :
    x.subscription symbols = x.request (symbols.map x.entry) := by
  cases x <;> rfl

theorem settles_entry (x : Exchange) (symbol : String) (depth : Nat) :
    (x.entry symbol).Settles (depth + 1) := by
  cases x with
  | binance | bybit => exact settles_string _ _
  | okx =>
    apply settles_object _ (by simp)
    intro member hmember
    simp only [List.mem_cons, List.not_mem_nil, or_false] at hmember
    rcases hmember with rfl | rfl
    · exact settles_string _ _
    · exact settles_string _ _

theorem settles_one (depth : Nat) : (Json.ofInt 1).Settles depth := by
  rw [Settles, node_ofInt]
  exact Binance.toJson?_number ⟨by decide, by decide⟩ depth

theorem settles_request (x : Exchange) {entries : List Json} {depth : Nat}
    (h : ∀ e ∈ entries, e.Settles depth) : (x.request entries).Settles (depth + 2) := by
  have hentries : (Json.array entries).Settles (depth + 1) := settles_array h
  cases x with
  | binance =>
    apply settles_object _ (by simp)
    intro member hmember
    simp only [List.mem_cons, List.not_mem_nil, or_false] at hmember
    rcases hmember with rfl | rfl | rfl
    · exact settles_one _
    · exact settles_string _ _
    · exact hentries
  | bybit | okx =>
    apply settles_object _ (by simp)
    intro member hmember
    simp only [List.mem_cons, List.not_mem_nil, or_false] at hmember
    rcases hmember with rfl | rfl
    · exact hentries
    · exact settles_string _ _

/-- The text of a subscription is read back as the request with one entry for each symbol. -/
theorem ofString?_subscription (x : Exchange) (symbols : List String) :
    Json.ofString? (x.subscription symbols).compact = some (x.request (symbols.map x.entry)) := by
  rw [subscription_eq]
  apply Settles.ofString?_compact
  apply settles_request
  intro e he
  obtain ⟨symbol, -, rfl⟩ := List.mem_map.mp he
  exact settles_entry x symbol _

/-! ## Tickers that echo a request -/

/-- A ticker that names what was asked for, with its price. That of Bybit names it in its topic
only, where the data may hold an empty symbol; that of OKX in its first piece of data, or in its
argument only. Anything may stand under keys that nobody knows. -/
inductive Echoes (symbol price : String) : Exchange → Node → Prop where
  | bybit {data n : Node} (blank : Bool) (spelling : Bybit.Spelling)
      (hdata : Bears Bybit.dataNames (Bybit.dataFields (Bybit.blankText blank)
        (spelling.newerOf price) (spelling.olderOf price)) data)
      (htop : Bears Bybit.topNames
        (Bybit.topicFields ("tickers." ++ Text.upper symbol) (some data)) n) :
      Echoes symbol price .bybit n
  | okx {argument n : Node} {items : List Node} {rest : List (Option String × Option String)}
      (naming : Okx.Naming)
      (hargument : Bears Okx.argumentNames (Okx.argumentFields (some "tickers")
        (naming.argumentOf (Okx.instrument symbol))) argument)
      (hitems : List.Forall₂ (fun piece item => Bears Okx.dataNames (Okx.dataFields piece) item)
        ((naming.dataOf (Okx.instrument symbol), some price) :: rest) items)
      (htop : Bears Okx.topNames
        (Okx.topFields none none none (some argument) (some (.array items))) n) :
      Echoes symbol price .okx n

/-- Every exchange is asked with one text for one entry a symbol, in order, of which OKX confirms
each. What was asked for is what is reported: a ticker of Bybit or OKX that echoes it with a decimal
price is a tick for the symbol in upper case, for OKX without dashes, unless nothing is left of it.
And OKX is asked for one instrument only for symbols that are one in upper case. -/
theorem symbols_echoed :
    (∀ (x : Exchange) (symbols : List String), ∃ text entries,
      x.subscribeRequests symbols = [text] ∧
        Json.ofString? text = some (x.request entries) ∧ entries = symbols.map x.entry ∧
        (x = okx → x.expectedAcks symbols = entries.length)) ∧
    (∀ (symbol price text : String) (n : Node), (Decimal.ofString? price).isSome = true →
      Writes n text →
        (Text.upper symbol ≠ "" → Echoes symbol price bybit n →
          bybit.decode text = .ok (.tick ⟨Text.upper symbol, price⟩)) ∧
        (Text.without '-' (Text.upper symbol) ≠ "" → Echoes symbol price okx n →
          okx.decode text = .ok (.tick ⟨Text.without '-' (Text.upper symbol), price⟩))) ∧
    ∀ symbol symbol', Okx.instrument symbol = Okx.instrument symbol' →
      Text.upper symbol = Text.upper symbol' := by
  refine ⟨?_, ?_, fun symbol symbol' => Okx.instrument_eq_iff.mp⟩
  · intro x symbols
    refine ⟨_, _, rfl, ofString?_subscription x symbols, rfl, ?_⟩
    rintro rfl
    exact (List.length_map ..).symm
  · intro symbol price text n hprice ht
    constructor
    · intro hname hechoes
      cases hechoes with
      | bybit blank spelling hdata htop =>
        exact Bybit.decode_ticker (.topic blank) spelling ⟨hname, hprice⟩ hdata htop ht
    · intro hname hechoes
      cases hechoes with
      | okx naming hargument hitems htop =>
        rw [← Okx.without_instrument] at hname ⊢
        exact Okx.decode_ticker naming ⟨hname, hprice⟩ hargument hitems htop ht

/-- A ticker of Bybit as it comes today: no symbol in the data, a number beside it, and a price
under both spellings. -/
def plainTicker : Json :=
  .object [("topic", .string "tickers.ETHUSDT"), ("ts", .ofInt 1717243200000),
    ("data", .object [("lastPrice", .string ""), ("last_price", .string "3500.1")])]

/-- A ticker of OKX for a symbol that was written with a dash. -/
def dashedTicker : Json :=
  .object [
    ("arg", .object [("channel", .string "tickers"), ("instId", .string "SOL--USD")]),
    ("data", .array [.object [("last", .string "172.04"), ("seqId", .ofInt 7)]])]

theorem plainTicker_echoes : Echoes "ethUsdt" "3500.1" bybit plainTicker.node := by
  have htopic : "tickers." ++ Text.upper "ethUsdt" = "tickers.ETHUSDT" := by decide +kernel
  have hdata : Bears Bybit.dataNames (Bybit.dataFields none (some "") (some "3500.1"))
      (Json.object [("lastPrice", .string ""), ("last_price", .string "3500.1")]).node :=
    ⟨[("lastPrice", .ofText ""), ("last_price", .ofText "3500.1")], [], rfl, .refl _, by simp⟩
  apply Echoes.bybit false (.older true) hdata
  rw [htopic]
  refine ⟨[("topic", .ofText "tickers.ETHUSDT"), ("ts", (Json.ofInt 1717243200000).node),
    ("data", _)], [("ts", (Json.ofInt 1717243200000).node)], rfl, ?_, by simp [Bybit.topNames]⟩
  exact .cons _ (.swap ..)

theorem dashedTicker_echoes : Echoes "sol-usd" "172.04" okx dashedTicker.node := by
  have hinstrument : Okx.instrument "sol-usd" = "SOL--USD" := by decide +kernel
  have hargument : Bears Okx.argumentNames (Okx.argumentFields (some "tickers") (some "SOL--USD"))
      (Json.object [("channel", .string "tickers"), ("instId", .string "SOL--USD")]).node :=
    ⟨[("channel", .ofText "tickers"), ("instId", .ofText "SOL--USD")], [], rfl, .refl _, by simp⟩
  have hdata : Bears Okx.dataNames (Okx.dataFields (none, some "172.04"))
      (Json.object [("last", .string "172.04"), ("seqId", .ofInt 7)]).node :=
    ⟨[("last", .ofText "172.04"), ("seqId", (Json.ofInt 7).node)], [("seqId", (Json.ofInt 7).node)],
      rfl, .refl _, by simp [Okx.dataNames]⟩
  apply Echoes.okx (.argument false) (hinstrument ▸ hargument) (.cons hdata .nil)
  exact ⟨[("arg", _), ("data", _)], [], rfl, .refl _, by simp⟩

theorem sampleTickers_echoed :
    (Echoes "ethUsdt" "3500.1" bybit plainTicker.node ∧
      bybit.decode plainTicker.compact = .ok (.tick ⟨"ETHUSDT", "3500.1"⟩)) ∧
    (Echoes "sol-usd" "172.04" okx dashedTicker.node ∧
      okx.decode dashedTicker.compact = .ok (.tick ⟨"SOLUSD", "172.04"⟩)) ∧
    Okx.instrument "btcUsdt" = Okx.instrument "BTCUSDT" ∧
      Text.upper "btcUsdt" = Text.upper "BTCUSDT" := by
  obtain ⟨-, hticks, hinstruments⟩ := symbols_echoed
  have hplain : Text.upper "ethUsdt" = "ETHUSDT" := by decide +kernel
  have hdashed : Text.without '-' (Text.upper "sol-usd") = "SOLUSD" := by decide +kernel
  have hbybit := (hticks "ethUsdt" "3500.1" _ _ (by decide +kernel) (writes_compact plainTicker)).1
    (by rw [hplain]; decide) plainTicker_echoes
  have hokx := (hticks "sol-usd" "172.04" _ _ (by decide +kernel) (writes_compact dashedTicker)).2
    (by rw [hdashed]; decide) dashedTicker_echoes
  rw [hplain] at hbybit
  rw [hdashed] at hokx
  have hsame : Okx.instrument "btcUsdt" = Okx.instrument "BTCUSDT" := by decide +kernel
  exact ⟨⟨plainTicker_echoes, hbybit⟩, ⟨dashedTicker_echoes, hokx⟩, hsame, hinstruments _ _ hsame⟩

end LiveEvents.Exchange
