import StandingQuery.Engine.Tick

/-!
# Timelines

The timers of an engine on a clock that is never late: every timer ticks exactly at the instants of its recurrence, timers that
are due at the same instant in the order in which they were started, and nothing else happens in between.
-/

namespace StandingQuery

/-- A timer that waits for its next instant, by the number of its job. -/
structure Pending where
  job : Nat
  next : Instant
  deriving DecidableEq, Repr

namespace Pending

/-- The timer that is due first, and the others. -/
def earliest : List Pending → Option (Pending × List Pending)
  | [] => none
  | p :: rest =>
    match earliest rest with
    | none => some (p, [])
    | some (q, others) => if q.next < p.next then some (q, p :: others) else some (p, rest)

end Pending

namespace EngineState

variable {ρ : Type} [JobRegistry ρ]

/-- The timers that wait at an instant, those that are over left out. -/
def pendingAt (s : EngineState ρ) (now : Instant) : List Pending :=
  (s.jobs.zipIdx).filterMap fun (started, i) =>
    if s.timers.isOver started.handle then none
    else
      match started.recurrence.nextAfter now with
      | .ok (some next) => some ⟨i, next⟩
      | _ => none

/-- The timer of a job comes to its next instant: a tick, and what the job says to the instant after it. -/
def wake (services : Services) (s : EngineState ρ) (p : Pending) : EngineState ρ × Option Pending :=
  match s.jobs[p.job]? with
  | none => (s, none)
  | some started =>
    if s.timers.isOver started.handle then (s, none)
    else
      let ticked := (s.tickJob services p.job p.next).2
      match started.recurrence.nextAfter p.next with
      | .error _ => (ticked, none)
      | .ok following =>
        match (started.job.afterTick following).run services ticked, following with
        | (.goOn, told), some next => (told, some ⟨p.job, next⟩)
        | (_, told), _ => ({ told with timers := told.timers.finish started.handle }, none)

/-- Lets the timers come to their instants, at most so many, until the engine is as wanted. -/
def passTime (services : Services) (wanted : EngineState ρ → Bool) :
    Nat → List Pending → EngineState ρ → EngineState ρ
  | 0, _, s => s
  | rounds + 1, pending, s =>
    if wanted s then s
    else
      match Pending.earliest pending with
      | none => s
      | some (p, others) =>
        let (s, again) := s.wake services p
        passTime services wanted rounds (others ++ again.toList) s

end EngineState

end StandingQuery
