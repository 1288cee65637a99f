import StandingQuery.Engine.Activation
import StandingQuery.Engine.Record

/-!
# Lifecycle of records

What the engine does when records are created, updated and deleted: it starts and stops the queries embedded in workspaces. A
problem with one record or one query keeps none of the others from being dealt with, and all problems are reported.
-/

namespace StandingQuery.Lifecycle

/-- What is said in front of a problem with starting a query. -/
def scheduling (id : String) : String :=
  "There was a problem attempting to schedule a job for a query metacard \"" ++ id ++ "\": "

/-- What is said in front of the problems of a record. -/
def modifying (id : String) : String :=
  "There was an error attempting to modify schedule execution of workspace metacard \"" ++ id ++ "\": "

/-- Starts an embedded query. -/
def activateQuery (services : Services) (mode : ClaimMode) (value : Json) : Program (Outcome Unit) :=
  match StoredQuery.ofJson value with
  | .error e => pure (.error e.failure)
  | .ok query => do return (← Activation.activate services mode query).prepend (scheduling query.id)

/-- Stops an embedded query. -/
def cancelQuery (value : Json) : Program (Outcome Unit) :=
  match StoredQuery.idOf value with
  | .error e => pure (.error e.failure)
  | .ok id => Activation.cancel id

/-- Does something with every embedded query of a workspace that speaks of schedules. -/
def forQueries (act : Json → Program (Outcome Unit)) (record : CatalogRecord) : Program (Outcome Unit) :=
  if record.isWorkspace then
    match record.scheduledQueries with
    | .error f => pure (.error f)
    | .ok queries => Outcome.forEach act queries
  else pure (.ok ())

/-- Starts the queries of a record, and names the record in front of its problems. -/
def activateRecord (services : Services) (mode : ClaimMode) (record : CatalogRecord) : Program (Outcome Unit) := do
  return (← forQueries (activateQuery services mode) record).prepend (modifying record.id)

/-- Stops the queries of a record, and names the record in front of its problems. -/
def cancelRecord (record : CatalogRecord) : Program (Outcome Unit) := do
  return (← forQueries cancelQuery record).prepend (modifying record.id)

/-- Stops the queries of the record as it was and starts those of the record as it is. -/
def updateRecord (services : Services) (update : RecordUpdate) : Program (Outcome Unit) := do
  let cancelled ← cancelRecord update.old
  let activated ← activateRecord services .retrying update.new
  return Outcome.all [cancelled, activated]

/-- Records were created. -/
def onCreate (services : Services) (records : List CatalogRecord) : Program (Outcome Unit) :=
  Outcome.forEach (activateRecord services .once) records

/-- Records were updated. -/
def onUpdate (services : Services) (updates : List RecordUpdate) : Program (Outcome Unit) :=
  Outcome.forEach (updateRecord services) updates

/-- Records were deleted. -/
def onDelete (records : List CatalogRecord) : Program (Outcome Unit) :=
  Outcome.forEach cancelRecord records

end StandingQuery.Lifecycle
