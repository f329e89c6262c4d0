/-! # TOML values

The values of a TOML document, as far as a reader of settings tells them apart: floats and dates
are values that no setting takes, so their contents are not kept.
-/

namespace FilterFleet

/-- A TOML value. -/
inductive Toml where
  | str (s : String)
  | int (n : Int)
  | bool (b : Bool)
  | float
  | date
  | array (items : List Toml)
  | table (entries : List (String × Toml))
deriving Inhabited

end FilterFleet
