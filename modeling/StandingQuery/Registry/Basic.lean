import StandingQuery.Registry.Marker
import StandingQuery.Scheduler.Error

/-!
# Registries of running jobs

The shared record of which queries own a running job. Each operation is atomic on its own and touches one query; a registry may
belong to one process or be shared by many.
-/

namespace StandingQuery

/-- Whether what was read for a query confirms a token. A registry that cannot be read confirms every token, so that an outage
does not stop every job. -/
def Marker.confirms (read : Except SchedulerError (Option Marker)) (token : Uuid) : Bool :=
  match read with
  | .ok (some m) => m.token == token
  | .ok none => false
  | .error _ => true

/-- The operations of a registry: each may fail, and those that change it give the registry that follows. -/
class JobRegistry (ρ : Type) where
  /-- What the registry holds for a query. -/
  get : ρ → String → Except SchedulerError (Option Marker)
  /-- Enters a marker unless there is an entry, and says whether it was entered. -/
  putIfAbsent : ρ → String → Marker → Except SchedulerError Bool × ρ
  /-- Deletes the entry of a query whatever it holds, and says whether there was one. -/
  remove : ρ → String → Except SchedulerError Bool × ρ
  /-- Deletes the entry of a query only if it carries a token, and says whether it did. -/
  removeIfOwned : ρ → String → Uuid → Except SchedulerError Bool × ρ

namespace JobRegistry

variable {ρ : Type} [JobRegistry ρ]

/-- Whether the registry holds an entry for a query. -/
def contains (r : ρ) (id : String) : Except SchedulerError Bool := (get r id).map Option.isSome

/-- Whether a token is the one that the registry holds for a query, as far as can be read. -/
def holds (r : ρ) (id : String) (token : Uuid) : Bool := Marker.confirms (get r id) token

end JobRegistry

end StandingQuery
