import StandingQuery.Engine.Program
import StandingQuery.Retry
import StandingQuery.Scheduler.LocalTimers

/-!
# Engine states

What an engine works with and what it has done so far, and what each atomic step does to that. The registry may be of any kind,
and may be shared with other engines.
-/

namespace StandingQuery

/-- What an engine works with. -/
structure Services where
  runner : QueryRunner
  preferences : PreferencesStore
  channels : Channels
  /-- How often a claim is tried while an entry that was just removed may still be seen. -/
  retry : RetryPolicy
  /-- Whether a timer is started, after so many others were asked for. -/
  admits : Nat → Except SchedulerError Unit
  /-- The marker of an activation, after so many others. -/
  draw : Nat → Marker

/-- A job with the timer that was started for it. -/
structure StartedJob where
  recurrence : Recurrence
  handle : Nat
  job : Job
  deriving Repr

/-- What an engine has done so far, over a registry. -/
structure EngineState (ρ : Type) where
  registry : ρ
  timers : LocalTimers Uuid
  /-- Every job for which a timer was started. -/
  jobs : List StartedJob
  /-- The number of timers asked for. -/
  scheduleCalls : Nat
  /-- The number of markers drawn. -/
  drawn : Nat
  requests : List CatalogRequest
  handed : List Handed
  /-- The milliseconds spent in pauses and in executions of queries. -/
  waitedMs : Nat

namespace EngineState

variable {ρ : Type}

/-- An engine that has done nothing yet. -/
def fresh (registry : ρ) : EngineState ρ := ⟨registry, .empty, [], 0, 0, [], [], 0⟩

/-- Starts a timer for a job, if the timers let it. -/
def schedule (services : Services) (s : EngineState ρ) (job : Job) : Except SchedulerError Nat × EngineState ρ :=
  let asked := { s with scheduleCalls := s.scheduleCalls + 1 }
  match services.admits s.scheduleCalls with
  | .error e => (.error e, asked)
  | .ok () =>
    let (handle, timers) := s.timers.start
    (.ok handle, { asked with timers := timers, jobs := s.jobs ++ [⟨job.recurrence, handle, job⟩] })

/-- Executes an expression. -/
def execute (services : Services) (s : EngineState ρ) (expression : String) :
    Except RunError QueryResults × EngineState ρ :=
  let (answer, ms) := services.runner.run s.requests expression
  (answer, { s with requests := s.requests ++ [services.runner.request expression], waitedMs := s.waitedMs + ms })

variable [JobRegistry ρ]

/-- What an atomic step answers and does. -/
def perform (services : Services) (s : EngineState ρ) : (action : Action) → action.Answer × EngineState ρ
  | .look id => (JobRegistry.get s.registry id, s)
  | .claim id marker =>
    let (answer, registry) := JobRegistry.putIfAbsent s.registry id marker
    (answer, { s with registry := registry })
  | .remove id =>
    let (answer, registry) := JobRegistry.remove s.registry id
    (answer, { s with registry := registry })
  | .removeIfOwned id token =>
    let (answer, registry) := JobRegistry.removeIfOwned s.registry id token
    (answer, { s with registry := registry })
  | .draw => (services.draw s.drawn, { s with drawn := s.drawn + 1 })
  | .schedule job => s.schedule services job
  | .track id token handles => ((), { s with timers := s.timers.track id token handles })
  | .release id token => ((), { s with timers := s.timers.release id token })
  | .cancelTimers id =>
    let (handles, timers) := s.timers.cancelAll id
    (handles.length, { s with timers := timers })
  | .sleep ms => ((), { s with waitedMs := s.waitedMs + Pause.lasting ms })
  | .execute expression => s.execute services expression
  | .deliver destination query results username =>
    let (outcome, handed) := services.channels.deliver s.handed destination query results username
    (outcome, { s with handed := handed })

end EngineState

namespace Program

variable {ρ : Type} [JobRegistry ρ] {α β : Type}

/-- A program run to its end with nothing in between its steps. -/
def run (services : Services) : Program α → EngineState ρ → α × EngineState ρ
  | .done a, s => (a, s)
  | .step action next, s => (next (s.perform services action).1).run services (s.perform services action).2

@[simp] theorem run_done (services : Services) (a : α) (s : EngineState ρ) :
    (Program.done a).run services s = (a, s) := rfl

theorem run_step (services : Services) (action : Action) (next : action.Answer → Program α) (s : EngineState ρ) :
    (Program.step action next).run services s =
      (next (s.perform services action).1).run services (s.perform services action).2 := rfl

@[simp] theorem run_ask (services : Services) (action : Action) (s : EngineState ρ) :
    (Program.ask action).run services s = s.perform services action := rfl

theorem run_bind (services : Services) (p : Program α) (f : α → Program β) (s : EngineState ρ) :
    (p >>= f).run services s = (f (p.run services s).1).run services (p.run services s).2 := by
  induction p generalizing s with
  | done a => rfl
  | step action next ih => exact ih _ _

end Program

end StandingQuery
