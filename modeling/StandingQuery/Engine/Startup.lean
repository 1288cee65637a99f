import StandingQuery.Delivery.Email
import StandingQuery.Engine.Error
import StandingQuery.Engine.State
import StandingQuery.Registry.Either
import StandingQuery.Settings.Basic

/-!
# Starting up

How an engine is put together from its settings: the registry first, then the mail channel, if there is a section for it, and
then the timers.
-/

namespace StandingQuery

/-- What the settings of an engine do not say. -/
structure Surroundings where
  catalog : Catalog
  preferences : PreferencesStore
  /-- What stands where the file of a shared registry should be. -/
  place : RowRegistry.Place
  /-- Whether there is something that drives timers. -/
  timersRun : Bool
  mailer : EmailSettings → Mailer
  /-- The time once so many deliveries were handed over. -/
  clock : Nat → Instant
  /-- The marker of an activation, after so many others. -/
  draw : Nat → Marker

namespace Startup

/-- What is reported when nothing drives timers. -/
def noReactor : SchedulerError :=
  .noTimers "there is no reactor running, must be called from the context of a Tokio 1.x runtime"

/-- The registry that the settings ask for, without entries. -/
def openRegistry (settings : SchedulerSettings) (place : RowRegistry.Place) : Except SchedulerError EitherRegistry :=
  match settings.registry with
  | .memory => .ok (.memory .empty)
  | .rows => (RowRegistry.openAt place settings.databasePath).map .rows

/-- The channels that the settings ask for. -/
def channels (settings : Settings) (surroundings : Surroundings) : Channels :=
  match settings.email with
  | none => .empty
  | some email => Channels.empty.register (Email.channel email.sender (surroundings.mailer email) surroundings.clock)

/-- Puts an engine together. -/
def assemble (settings : Settings) (surroundings : Surroundings) :
    Except EngineError (Services × EngineState EitherRegistry) :=
  match openRegistry settings.scheduler surroundings.place with
  | .error e => .error (.scheduler e)
  | .ok registry =>
    if !surroundings.timersRun then .error (.scheduler noReactor)
    else
      let services : Services :=
        { runner := ⟨surroundings.catalog, settings.scheduler.pageSize, settings.scheduler.queryTimeoutMs⟩
          preferences := surroundings.preferences
          channels := channels settings surroundings
          retry := settings.retry
          admits := fun _ => .ok ()
          draw := surroundings.draw }
      .ok (services, .fresh registry)

end Startup

end StandingQuery
