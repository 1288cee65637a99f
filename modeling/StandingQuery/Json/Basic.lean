import StandingQuery.Keyed

/-!
# JSON values

The values that records, queries, schedules and preferences are made of. Integers are exact from `-2 ^ 63` to `2 ^ 64 - 1`,
every other number is a double; the members of an object stand in the order of their keys, each key once.
-/

namespace StandingQuery

/-- A number: an exact integer, or a double by its bits. -/
inductive Number where
  | int (value : Int)
  | double (bits : UInt64)
  deriving DecidableEq, Repr, Inhabited

/-- A JSON value. -/
inductive Json where
  | null
  | bool (b : Bool)
  | num (n : Number)
  | str (s : String)
  | arr (items : List Json)
  | obj (members : List (String × Json))
  deriving Repr, Inhabited, BEq

namespace Json

/-- The members of an object. -/
abbrev Members := Keyed Json

/-- An object from members in any order. -/
def ofMembers (members : List (String × Json)) : Json :=
  .obj (Keyed.ofList members)

/-- An integer as a value. -/
def ofInt (i : Int) : Json := .num (.int i)

/-- A natural number as a value. -/
def ofNat (n : Nat) : Json := .num (.int n)

/-- A list of strings as a value. -/
def ofStrings (items : List String) : Json := .arr (items.map .str)

/-- The value, or `null` where there is none. -/
def ofOption {α : Type} (f : α → Json) : Option α → Json
  | none => .null
  | some a => f a

end Json

end StandingQuery
