import StandingQuery.Scheduler.Recurrence

/-!
# Timers

The run of one timer: it waits for the next instant of its recurrence, ticks, tells its task the instant after that, and goes on
until the task stops, the recurrence ends or the timer is cancelled. Instants that pass while a tick runs are skipped. The
clock is read by the run of the timer only through its readings, which may jump in any way.
-/

namespace StandingQuery

/-- What a task wants once it was told its next instant. -/
inductive Continuation where
  | goOn
  | stop
  deriving DecidableEq, Repr

/-- A task driven by a timer, over a state. -/
structure TimedTask (σ : Type) where
  /-- One firing; the instant is the moment at which the tick began. -/
  tick : Instant → σ → σ
  /-- Told the next instant after every tick, and once if there is no instant at all. -/
  afterTick : Option Instant → σ → Continuation × σ

/-- What a timer meets while it waits for one instant and ticks. -/
structure Round where
  /-- The timer is found cancelled while it waits. -/
  cancelledWaiting : Bool
  /-- The reading of the clock after the wait. -/
  reading : Instant
  /-- The timer is found cancelled after the tick. -/
  cancelledAfter : Bool
  deriving DecidableEq, Repr

/-- What a timer does to its task. -/
inductive TimerEvent where
  /-- A tick for an instant of the recurrence, begun at a moment. -/
  | tick (instant now : Instant)
  | afterTick (next : Option Instant)
  deriving DecidableEq, Repr

/-- Where a timer stands. -/
inductive TimerStatus where
  /-- It waits for an instant. -/
  | waiting (next : Instant)
  | finished
  /-- The next instant could not be looked for. -/
  | lost (e : HorizonError)
  deriving DecidableEq, Repr

/-- A timer's run so far. -/
structure TimerRun (σ : Type) where
  state : σ
  events : List TimerEvent
  status : TimerStatus

namespace TimedTask

variable {σ : Type}

/-- The run of a timer that waits for an instant, through some rounds. -/
def rounds (task : TimedTask σ) (r : Recurrence) : List Round → Instant → σ → TimerRun σ
  | [], next, s => ⟨s, [], .waiting next⟩
  | round :: later, next, s =>
    if round.cancelledWaiting then ⟨s, [], .finished⟩
    else
      let now := max round.reading next
      let ticked := task.tick now s
      match r.nextAfter now with
      | .error e => ⟨ticked, [.tick next now], .lost e⟩
      | .ok following =>
        let (answer, told) := task.afterTick following ticked
        let events := [TimerEvent.tick next now, .afterTick following]
        match following with
        | none => ⟨told, events, .finished⟩
        | some instant =>
          if answer = .stop ∨ round.cancelledAfter then ⟨told, events, .finished⟩
          else
            let run := rounds task r later instant told
            { run with events := events ++ run.events }

/-- The run of a timer from its start, through some rounds. -/
def run (task : TimedTask σ) (r : Recurrence) (start : Instant) (later : List Round) (s : σ) : TimerRun σ :=
  match r.nextAfter start with
  | .error e => ⟨s, [], .lost e⟩
  | .ok none => ⟨(task.afterTick none s).2, [.afterTick none], .finished⟩
  | .ok (some next) => task.rounds r later next s

end TimedTask

end StandingQuery
