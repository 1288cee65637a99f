import StandingQuery.Engine.State

/-!
# Activation

How a stored query starts to run and how it stops. An activation claims the registry's entry with a marker of its own before it
starts any timer, and gives the entry up again if no timer was started. Cancelling removes the entry, whoever put it there, and
then cancels the timers of this process.
-/

namespace StandingQuery

/-- How an entry is claimed. -/
inductive ClaimMode where
  | once
  /-- Again and again, while an entry that was just removed may still be seen. -/
  | retrying
  deriving DecidableEq, Repr

namespace Activation

/-- What is reported when there is an entry already. -/
def alreadyScheduled : String := "This query cannot be scheduled because a job is already scheduled for it!"

/-- One attempt to claim the entry of a query. -/
def claimOnce (id : String) (marker : Marker) : Program (Outcome Unit) := do
  match ← Program.ask (.claim id marker) with
  | .ok true => return .ok ()
  | .ok false => return Outcome.fail alreadyScheduled
  | .error e => return .error e.failure

/-- Claims the entry of a query. -/
def claim (services : Services) (mode : ClaimMode) (id : String) (marker : Marker) : Program (Outcome Unit) :=
  match mode with
  | .once => claimOnce id marker
  | .retrying => services.retry.run (fun ms => Program.ask (.sleep ms)) (claimOnce id marker)

/-- The schedules of a query as checked, each on its own. -/
def checked (query : StoredQuery) : List (Outcome (Option Schedule)) :=
  query.schedules.map fun raw => (Schedule.ofJson raw).mapError ScheduleError.failure

/-- The schedules that are valid and switched on. -/
def enabled (schedules : List (Outcome (Option Schedule))) : List Schedule :=
  schedules.filterMap fun s => s.toOption.join

/-- Starts a timer for one schedule. -/
def startTimer (query : StoredQuery) (token : Uuid) (schedule : Schedule) : Program (Outcome Nat) := do
  return (← Program.ask (.schedule (.start query token schedule))).mapError SchedulerError.failure

/-- Starts a timer for every schedule of a query whose entry was claimed, and tracks them; without any the entry is given up. -/
def startTimers (query : StoredQuery) (token : Uuid) (schedules : List Schedule) : Program (List (Outcome Nat)) := do
  let started ← schedules.mapM (startTimer query token)
  match started.filterMap Except.toOption with
  | [] => discard (Program.ask (.removeIfOwned query.id token))
  | handles => Program.ask (.track query.id token handles)
  return started

/-- Starts a query: a timer for each schedule that is valid and switched on. An invalid schedule is reported and does not keep
the others from being started. -/
def activate (services : Services) (mode : ClaimMode) (query : StoredQuery) : Program (Outcome Unit) := do
  let schedules := checked query
  let problems := schedules.map Outcome.discard
  if (enabled schedules).isEmpty then return Outcome.all problems
  match services.runner.validate query.expression with
  | .error e => return Outcome.all (problems ++ [.error e.failure])
  | .ok () =>
    let marker ← Program.ask .draw
    match ← claim services mode query.id marker with
    | .error f => return Outcome.all (problems ++ [.error f])
    | .ok () =>
      let started ← startTimers query marker.token (enabled schedules)
      return Outcome.all (problems ++ started.map Outcome.discard)

/-- What is said in front of a problem with cancelling a query. -/
def cancelling (id : String) : String :=
  "There was a problem attempting to cancel a job for the query metacard \"" ++ id ++ "\": "

/-- Stops a query. One that does not run is stopped already; nothing is cancelled when the registry cannot be written. -/
def cancel (id : String) : Program (Outcome Unit) := do
  match ← Program.ask (.remove id) with
  | .error e => return .error (e.failure.prepend (cancelling id))
  | .ok _ =>
    discard (Program.ask (.cancelTimers id))
    return .ok ()

end Activation

end StandingQuery
