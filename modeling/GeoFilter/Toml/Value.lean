/-!
The values of a TOML document.
-/

namespace GeoFilter.Toml

inductive Value where
  | string (text : String)
  | integer (value : Int)
  | float (value : Float)
  | boolean (value : Bool)
  /-- A date, a time or both. Its parts are checked but not kept. -/
  | moment
  | array (items : List Value)
  | table (entries : List (String × Value))

/-- Arrays and inline tables nest less deeply than this, and a dotted key has fewer
segments. -/
def nestingLimit : Nat := 80

end GeoFilter.Toml
