import StandingQuery.Outcome
import StandingQuery.Json.Printer

/-!
# Stored queries

A query as it is embedded in a workspace: an identifier, an expression, a title that may be missing, the schedules as stored,
and every attribute for the channels to use.
-/

namespace StandingQuery

/-- A stored query. -/
structure StoredQuery where
  id : String
  expression : String
  title : Option String
  /-- The schedules as stored; each is checked on its own. -/
  schedules : List Json
  attributes : Json.Members
  deriving Repr

/-- Why a value is no stored query. -/
inductive StoredQueryError where
  | notObject
  | notString (key : String) (found : Json)
  | missing (key : String)
  | schedulesNotList (id : String) (found : Json)
  deriving Repr

namespace StoredQueryError

/-- The message of an error. -/
def message : StoredQueryError → String
  | .notObject => "The query data is not an object!"
  | .notString key found => "The value for \"" ++ key ++ "\" should be a string but was " ++ found.compact
  | .missing key => "No value was found for \"" ++ key ++ "\"!"
  | .schedulesNotList id found =>
    "The value for \"schedules\" of query \"" ++ id ++ "\" should be a list but was " ++ found.compact

/-- The failure that an error is reported as. -/
def failure (e : StoredQueryError) : Failure := ⟨e.message⟩

end StoredQueryError

namespace StoredQuery

/-- The attribute with a key, which has to be a string. -/
def stringAttribute (o : Json.Members) (key : String) : Except StoredQueryError String :=
  match o.get? key with
  | some (.str s) => .ok s
  | some other => .error (.notString key other)
  | none => .error (.missing key)

/-- The attributes of a query object. -/
def attributesOf : Json → Except StoredQueryError Json.Members
  | .obj o => .ok o
  | _ => .error .notObject

/-- Whether a value is an object that speaks of schedules at all. -/
def hasSchedules : Json → Bool
  | .obj o => Keyed.has o "schedules"
  | _ => false

/-- The title of a query, if it is a string. -/
def titleOf (o : Json.Members) : Option String :=
  match o.get? "title" with
  | some (.str s) => some s
  | _ => none

/-- The schedules of a query as stored: none when they are missing or `null`. -/
def schedulesOf (id : String) (o : Json.Members) : Except StoredQueryError (List Json) :=
  match o.get? "schedules" with
  | none | some .null => .ok []
  | some (.arr items) => .ok items
  | some other => .error (.schedulesNotList id other)

/-- The stored query that a value holds. -/
def ofJson (j : Json) : Except StoredQueryError StoredQuery := do
  let o ← attributesOf j
  let id ← stringAttribute o "id"
  let expression ← stringAttribute o "cql"
  let schedules ← schedulesOf id o
  return ⟨id, expression, titleOf o, schedules, o⟩

/-- The identifier of a query, which is all that cancelling needs. -/
def idOf (j : Json) : Except StoredQueryError String := do
  stringAttribute (← attributesOf j) "id"

end StoredQuery

end StandingQuery
