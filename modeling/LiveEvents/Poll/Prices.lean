import LiveEvents.Json.Fields
import LiveEvents.Poll.Task
import LiveEvents.Settings

/-!
# The poller of prices

Each cycle fetches the latest price of every symbol in turn and writes it. A price that cannot
be fetched is left out, and then the cycle counts as partial.
-/

namespace LiveEvents.Poll

open Json (Node Fields)

structure Quote where
  symbol : String := ""
  price : String := ""
  deriving DecidableEq, Repr

namespace Quote

def ofNode? (n : Node) : Option Quote := do
  let f ← Fields.ofNode? ["symbol", "price"] n
  return {
    symbol := ← f.orElse? "symbol" "" Node.text?
    price := ← f.orElse? "price" "" Node.text? }

/-- The tick of a quote, which is for the requested symbol if it names none. -/
def tick (requested : String) (q : Quote) : Except Http.FetchError Tick :=
  if q.price = "" then .error (.missingField "price")
  else (Tick.check (if q.symbol = "" then requested else q.symbol) q.price).mapError .invalidValue

end Quote

namespace Prices

def source : String := "binance_rest"

variable (s : PricePollSettings) (identity : Identity)

def request (symbol : String) : Http.Request :=
  .get (s.apiUrl ++ "/ticker/price?symbol=" ++ symbol) []

def read (symbol : String) (reply : Except String Http.Response) : Except Http.FetchError Tick :=
  Http.receive Quote.ofNode? reply >>= Quote.tick symbol

def fetch (symbol : String) : Task (Except (Abandoned Http.FetchError) Tick) :=
  Task.fetch s.maxAttempts s.backoff (request s symbol) (read symbol)

def write (t : Tick) : Task Bool :=
  Task.write source (Observation.ofTick .binance identity t)

/-- The rest of a cycle, of which the fetches so far all went well or not; tells whether it was
completed. -/
def cycleFrom (complete : Bool) : List String → Task Bool
  | [] => do
    Task.act (.count (.poll source (cycleLabel complete)))
    return true
  | symbol :: rest => do
    match ← Task.interruptible (fetch s symbol) with
    | none => return false
    | some (.ok t) =>
      let _ ← write identity t
      cycleFrom complete rest
    | some (.error _) => cycleFrom false rest

def cycle : Task Bool :=
  cycleFrom s identity true s.symbols

def run (rounds : Nat) : Task Bool :=
  Task.repeated (cycle s identity) rounds

end Prices

end LiveEvents.Poll
