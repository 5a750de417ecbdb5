import InstrumentLink.Decimal.Binary64

/-!
The values of a settings text in TOML 1.0.
-/

namespace InstrumentLink.Toml

inductive Value where
  | string (text : String)
  | integer (n : Int)
  | float (x : Binary64)
  | boolean (b : Bool)
  /-- A date, a time or both; no setting takes one. -/
  | moment
  | array (items : List Value)
  | table (entries : List (String × Value))
  deriving Repr

abbrev Entries := List (String × Value)

end InstrumentLink.Toml
