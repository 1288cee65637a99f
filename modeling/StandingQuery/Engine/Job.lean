import StandingQuery.Outcome
import StandingQuery.Schedule
import StandingQuery.Query.Stored
import StandingQuery.Scheduler.Recurrence
import StandingQuery.Scheduler.Timer

/-!
# Jobs

One schedule of one stored query, as one activation started it. Whether a tick fires is decided by `Job.gate` alone: the token
has to be confirmed, the start has to be reached, and since the last firing there have to be as many units as the schedule says.
Instants are compared by their minutes, so that a few seconds of delay cost nothing.
-/

namespace StandingQuery

/-- One schedule of one stored query with the token of its activation. -/
structure Job where
  query : StoredQuery
  schedule : Schedule
  token : Uuid
  /-- The minute of the last firing. -/
  lastFired : Option Instant
  deriving Repr

/-- What came of a tick. -/
inductive TickOutcome where
  /-- The registry does not hold the job's token. -/
  | inactive
  | beforeStart
  /-- There are too few units since the last firing. -/
  | waiting
  /-- The query ran and every destination has its results. -/
  | delivered
  /-- The query or a delivery failed. -/
  | failed (f : Failure)
  deriving DecidableEq, Repr

/-- What a tick is meant to do. -/
inductive Gate where
  /-- To do nothing, with this outcome. -/
  | shut (outcome : TickOutcome)
  /-- To fire, for this minute. -/
  | fire (minute : Instant)
  deriving DecidableEq, Repr

namespace Instant

/-- The number of the month of an instant, counted through the years. -/
def monthNumber (t : Instant) : Int := t.date.year * 12 + (t.date.month - 1)

end Instant

namespace TimeUnit

/-- The whole units from one instant to another: elapsed time, rounded towards zero, up to weeks, and the difference of the
calendar's months and years beyond. -/
def elapsed (unit : TimeUnit) (since upTo : Instant) : Int :=
  let seconds := (upTo.elapsedNanos since).tdiv Instant.billion
  match unit with
  | .minutes => seconds.tdiv 60
  | .hours => seconds.tdiv 3600
  | .days => seconds.tdiv 86400
  | .weeks => (seconds.tdiv 86400).tdiv 7
  | .months => upTo.monthNumber - since.monthNumber
  | .years => upTo.date.year - since.date.year

end TimeUnit

namespace Job

/-- A job that has not fired yet. -/
def start (query : StoredQuery) (token : Uuid) (schedule : Schedule) : Job := ⟨query, schedule, token, none⟩

/-- The recurrence whose timer drives a job. -/
def recurrence (job : Job) : Recurrence := .ofStart job.schedule.unit job.schedule.start

/-- Whether enough units lie between the last firing of a job and a minute. -/
def isDue (job : Job) (minute : Instant) : Bool :=
  match job.lastFired with
  | none => true
  | some last => job.schedule.amount ≤ job.schedule.unit.elapsed last minute

/-- What a tick that begins at an instant is meant to do, given whether the token is confirmed. -/
def gate (job : Job) (confirmed : Bool) (now : Instant) : Gate :=
  if !confirmed then .shut .inactive
  else if now < job.schedule.start then .shut .beforeStart
  else if !job.isDue now.toMinute then .shut .waiting
  else .fire now.toMinute

/-- Whether a job is over whatever the registry holds: its recurrence has ended, or its next instant is past the schedule's
end. -/
def isOver (job : Job) (next : Option Instant) : Bool :=
  match next with
  | none => true
  | some t => job.schedule.finish < t

end Job

end StandingQuery
