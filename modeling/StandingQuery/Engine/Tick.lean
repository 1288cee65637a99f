import StandingQuery.Engine.State

/-!
# Ticks

What a job does when its timer fires, and what it does when it is told its next instant. Every destination of a schedule is tried
whatever comes of the others, and a job that stops takes only its own token out of the registry.
-/

namespace StandingQuery

namespace Job

/-- What is said in front of a problem with finding a destination. -/
def resolving (deliveryId username : String) : String :=
  "There was a problem retrieving the delivery information with ID \"" ++ deliveryId ++ "\" for user '" ++ username ++ "': "

/-- What is said in front of a problem with a delivery. -/
def delivering (deliveryId username : String) : String :=
  "There was a problem delivering query results to delivery info with ID \"" ++ deliveryId ++ "\" for user '" ++ username ++
    "': "

/-- Delivers results to one destination. -/
def deliverTo (services : Services) (job : Job) (results : QueryResults) (deliveryId : String) : Program (Outcome Unit) :=
  let username := job.schedule.username
  match resolveDestination services.preferences username deliveryId with
  | .error e => pure (.error (e.failure.prepend (resolving deliveryId username)))
  | .ok destination => do
    let outcome ← Program.ask (.deliver destination job.query results username)
    return outcome.prepend (delivering deliveryId username)

/-- Delivers results to every destination of the schedule, in order. -/
def deliverAll (services : Services) (job : Job) (results : QueryResults) : Program (Outcome Unit) :=
  Outcome.forEach (deliverTo services job results) job.schedule.deliveryIds

/-- Runs the query and delivers what it brings. -/
def fire (services : Services) (job : Job) : Program TickOutcome := do
  match ← Program.ask (.execute job.query.expression) with
  | .error e => return .failed e.failure
  | .ok results =>
    match ← deliverAll services job results with
    | .ok () => return .delivered
    | .error f => return .failed f

/-- Whether the registry confirms the job's token. -/
def isLive (job : Job) : Program Bool := do
  return Marker.confirms (← Program.ask (.look job.query.id)) job.token

/-- A tick that begins at an instant; the job goes on as it is given back. A firing counts from when it begins, whatever comes of
it. -/
def tick (services : Services) (job : Job) (now : Instant) : Program (TickOutcome × Job) := do
  match job.gate (← job.isLive) now with
  | .shut outcome => return (outcome, job)
  | .fire minute =>
    let fired := { job with lastFired := some minute }
    return (← fired.fire services, fired)

/-- Whether a job that is told its next instant stops. -/
def stops (job : Job) (next : Option Instant) : Program Bool :=
  if job.isOver next then pure true
  else do return !(← job.isLive)

/-- What a job does when it is told its next instant: one that stops gives up its entry, if it is still its own, and the timers
of its activation. -/
def afterTick (job : Job) (next : Option Instant) : Program Continuation := do
  if ← job.stops next then
    discard (Program.ask (.removeIfOwned job.query.id job.token))
    Program.ask (.release job.query.id job.token)
    return .stop
  else return .goOn

variable {ρ : Type} [JobRegistry ρ]

/-- A job as a task that a timer drives, over the engine that it belongs to. -/
def task (services : Services) : TimedTask (Job × EngineState ρ) where
  tick now s :=
    let ((_, job), engine) := (s.1.tick services now).run services s.2
    (job, engine)
  afterTick next s :=
    let (answer, engine) := (s.1.afterTick next).run services s.2
    (answer, s.1, engine)

end Job

namespace EngineState

variable {ρ : Type} [JobRegistry ρ]

/-- The started jobs with one of them changed. -/
def withJob (s : EngineState ρ) (i : Nat) (job : Job) : EngineState ρ :=
  { s with jobs := s.jobs.modify i fun j => { j with job := job } }

/-- A tick of the started job with a number. -/
def tickJob (services : Services) (s : EngineState ρ) (i : Nat) (now : Instant) : Option TickOutcome × EngineState ρ :=
  match s.jobs[i]? with
  | none => (none, s)
  | some started =>
    let ((outcome, job), after) := (started.job.tick services now).run services s
    (some outcome, after.withJob i job)

end EngineState

end StandingQuery
