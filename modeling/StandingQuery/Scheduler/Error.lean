import StandingQuery.Outcome

/-!
# Errors of scheduling

What can go wrong with the registry of running jobs and with the timers that drive them.
-/

namespace StandingQuery

/-- A problem of the registry or of the timers. -/
inductive SchedulerError where
  /-- The database that holds the registry reports a problem. -/
  | database (reason : String)
  /-- The registry's file or its directory could not be made. -/
  | io (reason : String)
  /-- A row of the registry cannot be read. -/
  | corruptEntry (queryId reason : String)
  /-- Nothing drives timers. -/
  | noTimers (reason : String)
  deriving DecidableEq, Repr

namespace SchedulerError

/-- The message of an error. -/
def message : SchedulerError → String
  | .database reason => "Database error: " ++ reason
  | .io reason => "I/O error: " ++ reason
  | .corruptEntry id reason => "Corrupt registry entry for query " ++ id ++ ": " ++ reason
  | .noTimers reason => "Scheduled queries cannot be started without a running timer runtime: " ++ reason

/-- The failure that an error is reported as. -/
def failure (e : SchedulerError) : Failure := ⟨e.message⟩

end SchedulerError

end StandingQuery
