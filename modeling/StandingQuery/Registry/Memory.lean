import StandingQuery.Registry.Basic

/-!
# Registries in memory

A registry that belongs to one process: the markers by the identifiers of their queries. No operation on it fails.
-/

namespace StandingQuery

/-- The markers of the queries that run. -/
structure MemoryRegistry where
  entries : Keyed Marker
  deriving DecidableEq, Repr

namespace MemoryRegistry

/-- The registry without entries. -/
def empty : MemoryRegistry := ⟨[]⟩

/-- The number of entries. -/
def size (r : MemoryRegistry) : Nat := r.entries.length

/-- Whether there are no entries. -/
def isEmpty (r : MemoryRegistry) : Bool := r.entries.isEmpty

/-- The marker of a query. -/
def get? (r : MemoryRegistry) (id : String) : Option Marker := Keyed.get? r.entries id

/-- Enters a marker unless there is one. -/
def putIfAbsent (r : MemoryRegistry) (id : String) (m : Marker) : Bool × MemoryRegistry :=
  match r.get? id with
  | some _ => (false, r)
  | none => (true, ⟨Keyed.set id m r.entries⟩)

/-- Deletes the marker of a query. -/
def remove (r : MemoryRegistry) (id : String) : Bool × MemoryRegistry :=
  match r.get? id with
  | some _ => (true, ⟨Keyed.erase id r.entries⟩)
  | none => (false, r)

/-- Deletes the marker of a query if it carries the token. -/
def removeIfOwned (r : MemoryRegistry) (id : String) (token : Uuid) : Bool × MemoryRegistry :=
  match r.get? id with
  | some m => if m.token = token then (true, ⟨Keyed.erase id r.entries⟩) else (false, r)
  | none => (false, r)

instance : JobRegistry MemoryRegistry where
  get r id := .ok (r.get? id)
  putIfAbsent r id m := ((r.putIfAbsent id m).1 |> .ok, (r.putIfAbsent id m).2)
  remove r id := ((r.remove id).1 |> .ok, (r.remove id).2)
  removeIfOwned r id token := ((r.removeIfOwned id token).1 |> .ok, (r.removeIfOwned id token).2)

end MemoryRegistry

end StandingQuery
