import StandingQuery.Registry.Memory
import StandingQuery.Registry.Rows

/-!
# Registries of either kind

An engine is set up with a registry in memory or with one in a shared table; what runs on it need not know which.
-/

namespace StandingQuery

/-- A registry in memory or in a shared table. -/
inductive EitherRegistry where
  | memory (r : MemoryRegistry)
  | rows (r : RowRegistry)
  deriving DecidableEq, Repr

namespace EitherRegistry

instance : JobRegistry EitherRegistry where
  get
    | .memory r, id => JobRegistry.get r id
    | .rows r, id => JobRegistry.get r id
  putIfAbsent
    | .memory r, id, m => (JobRegistry.putIfAbsent r id m).map (fun answer => answer) .memory
    | .rows r, id, m => (JobRegistry.putIfAbsent r id m).map (fun answer => answer) .rows
  remove
    | .memory r, id => (JobRegistry.remove r id).map (fun answer => answer) .memory
    | .rows r, id => (JobRegistry.remove r id).map (fun answer => answer) .rows
  removeIfOwned
    | .memory r, id, token => (JobRegistry.removeIfOwned r id token).map (fun answer => answer) .memory
    | .rows r, id, token => (JobRegistry.removeIfOwned r id token).map (fun answer => answer) .rows

end EitherRegistry

end StandingQuery
