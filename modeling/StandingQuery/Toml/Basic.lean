/-!
# TOML values

The values that a settings file may hold. A date or a time is kept as it was written.
-/

namespace StandingQuery

/-- A TOML value. -/
inductive Toml where
  | text (s : String)
  /-- An integer from `-2 ^ 63` up to `2 ^ 63 - 1`. -/
  | integer (i : Int)
  /-- A double by its bits. -/
  | double (bits : UInt64)
  | boolean (b : Bool)
  /-- A date, a time, or both. -/
  | moment (written : String)
  | list (items : List Toml)
  | table (members : List (String × Toml))
  deriving Repr, Inhabited

end StandingQuery
