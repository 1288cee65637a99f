import StandingQuery.Outcome
import StandingQuery.Pause
import StandingQuery.Query.Results
import StandingQuery.Text.Blank
import StandingQuery.Text.Digits

/-!
# Catalogs

A catalog checks and executes the expressions of stored queries. Execution takes time; a run is given up once its timeout has
passed, and an answer exactly at the timeout is in time. Both are pauses, and end as pauses do. The requests made of a catalog are
kept, so that what it answers may hang on what went before.
-/

namespace StandingQuery

/-- Why a catalog refuses an expression or fails to execute it. -/
inductive CatalogError where
  | malformed (reason : String)
  | unsupported (reason : String)
  | unavailable (reason : String)
  | federation (reason : String)
  deriving DecidableEq, Repr

/-- One page of one execution of an expression. -/
structure CatalogRequest where
  expression : String
  /-- The number of the first hit wanted, counted from one. -/
  startIndex : Nat
  pageSize : Nat
  timeoutMs : Nat
  /-- Whether the request is made with the rights of the system and not of a user. -/
  asSystem : Bool
  deriving DecidableEq, Repr

/-- What a catalog answers, and after how long. -/
structure CatalogReply where
  outcome : Except CatalogError QueryResults
  delayMs : Nat

/-- A catalog of things to be found. -/
structure Catalog where
  /-- Checks an expression without executing it. -/
  validate : String → Except CatalogError Unit
  /-- What comes of a request, after these were made before it. -/
  execute : List CatalogRequest → CatalogRequest → CatalogReply

namespace Catalog

/-- The least that every catalog checks: an expression is not blank. -/
def notBlank (expression : String) : Except CatalogError Unit :=
  if (Text.trim expression.toList).isEmpty then .error (.malformed "the expression is empty") else .ok ()

end Catalog

/-- Why a stored query brings no results. -/
inductive RunError where
  | refused (expression : String) (e : CatalogError)
  | timeout (expression : String) (ms : Nat)
  deriving DecidableEq, Repr

namespace RunError

/-- The message of an error. -/
def message : RunError → String
  | .refused _ (.malformed reason) => "There was a problem reading the given query expression: " ++ reason
  | .refused expression (.unsupported reason) =>
    "The query \"" ++ expression ++ "\" is not supported by the given catalog framework: " ++ reason
  | .refused _ (.unavailable reason) => "The catalog framework sources were unavailable: " ++ reason
  | .refused expression (.federation reason) =>
    "There was a problem with executing a federated search for the query \"" ++ expression ++ "\": " ++ reason
  | .timeout expression ms =>
    "The query \"" ++ expression ++ "\" did not complete within " ++ Text.decimal ms ++ " ms"

/-- The failure that an error is reported as. -/
def failure (e : RunError) : Failure := ⟨e.message⟩

end RunError

/-- A catalog with the page size and the timeout of stored queries. -/
structure QueryRunner where
  catalog : Catalog
  pageSize : Nat
  timeoutMs : Nat

namespace QueryRunner

/-- The request for an expression: the first page, with the rights of the system. -/
def request (r : QueryRunner) (expression : String) : CatalogRequest :=
  ⟨expression, 1, r.pageSize, r.timeoutMs, true⟩

/-- Checks an expression. -/
def validate (r : QueryRunner) (expression : String) : Except RunError Unit :=
  match r.catalog.validate expression with
  | .ok () => .ok ()
  | .error e => .error (.refused expression e)

/-- What comes of a reply within the timeout, and how long was waited for it. -/
def settle (r : QueryRunner) (expression : String) (reply : CatalogReply) : Except RunError QueryResults × Nat :=
  let patience := Pause.lasting r.timeoutMs
  let delay := Pause.lasting reply.delayMs
  if patience < delay then (.error (.timeout expression r.timeoutMs), patience)
  else
    match reply.outcome with
    | .ok results => (.ok results, delay)
    | .error e => (.error (.refused expression e), delay)

/-- Executes an expression after these requests, and says how long that took. -/
def run (r : QueryRunner) (earlier : List CatalogRequest) (expression : String) : Except RunError QueryResults × Nat :=
  r.settle expression (r.catalog.execute earlier (r.request expression))

end QueryRunner

end StandingQuery
