import LiveEvents.Decimal
import LiveEvents.Text.Quoted

/-!
# Price ticks

The last price of a symbol, kept letter for letter as the exchange wrote it. A tick is
accepted if its symbol is not empty and its price is a decimal number.
-/

namespace LiveEvents

structure Tick where
  symbol : String
  price : String
  deriving DecidableEq, Repr

inductive TickError where
  | emptySymbol
  | emptyPrice (symbol : String)
  | invalidPrice (symbol price : String)
  deriving DecidableEq, Repr

namespace TickError

def message : TickError → String
  | emptySymbol => "tick has an empty symbol"
  | emptyPrice symbol => "tick for " ++ symbol ++ " has an empty price"
  | invalidPrice symbol price =>
    "tick for " ++ symbol ++ " has a non-decimal price " ++ Text.quoted price

end TickError

namespace Tick

def check (symbol price : String) : Except TickError Tick :=
  if symbol = "" then .error .emptySymbol
  else if price = "" then .error (.emptyPrice symbol)
  else if (Decimal.ofString? price).isNone then .error (.invalidPrice symbol price)
  else .ok ⟨symbol, price⟩

/-- The price as a number, zero if it is none. -/
def decimal (t : Tick) : Decimal :=
  (Decimal.ofString? t.price).getD .zero

end Tick

end LiveEvents
