import StandingQuery.Scheduler.Error
import StandingQuery.Delivery.Error

/-!
# Errors of starting up

What can keep an engine from being put together.
-/

namespace StandingQuery

/-- A problem met while an engine is put together. -/
inductive EngineError where
  | scheduler (e : SchedulerError)
  | channel (e : ChannelError)
  deriving DecidableEq, Repr

/-- The message of an error. -/
def EngineError.message : EngineError → String
  | .scheduler e => "Scheduler error: " ++ e.message
  | .channel e => "Channel error: " ++ e.message

end StandingQuery
