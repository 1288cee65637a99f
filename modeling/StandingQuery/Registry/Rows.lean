import StandingQuery.Registry.Basic

/-!
# Registries in a shared table

A registry that many processes share: a table with one row for each query that runs, whose columns are texts. A row holds the
canonical text of the token and the instant of activation with a numeric offset, and tokens are compared as texts.
-/

namespace StandingQuery

/-- The columns of a row beside its key. -/
structure RegistryRow where
  token : String
  activatedAt : String
  deriving DecidableEq, Repr

namespace RegistryRow

/-- The row of a marker. -/
def ofMarker (m : Marker) : RegistryRow := ⟨m.token.text, m.activatedAt.toRow⟩

/-- The marker of a row, or why it cannot be read: the token is looked at first. -/
def marker (row : RegistryRow) : Except String Marker :=
  match Uuid.parse row.token with
  | .error e => .error e.message
  | .ok token =>
    match Timestamp.parseRow row.activatedAt with
    | .error e => .error e.message
    | .ok activatedAt => .ok ⟨token, activatedAt⟩

end RegistryRow

/-- The rows by their keys; without a table every operation fails. -/
structure RowRegistry where
  table : Option (Keyed RegistryRow)
  deriving DecidableEq, Repr

namespace RowRegistry

/-- The registry whose table has no rows. -/
def empty : RowRegistry := ⟨some []⟩

/-- The name of the table. -/
def tableName : String := "running_jobs"

/-- What is reported when there is no table. -/
def noTable : SchedulerError := .database ("no such table: " ++ tableName)

/-- The marker of a query, read from its row. -/
def get (r : RowRegistry) (id : String) : Except SchedulerError (Option Marker) :=
  match r.table with
  | none => .error noTable
  | some rows =>
    match Keyed.get? rows id with
    | none => .ok none
    | some row =>
      match row.marker with
      | .ok m => .ok (some m)
      | .error reason => .error (.corruptEntry id reason)

/-- Enters the row of a marker unless there is a row. -/
def putIfAbsent (r : RowRegistry) (id : String) (m : Marker) : Except SchedulerError Bool × RowRegistry :=
  match r.table with
  | none => (.error noTable, r)
  | some rows =>
    match Keyed.get? rows id with
    | some _ => (.ok false, r)
    | none => (.ok true, ⟨some (Keyed.set id (.ofMarker m) rows)⟩)

/-- Deletes the row of a query. -/
def remove (r : RowRegistry) (id : String) : Except SchedulerError Bool × RowRegistry :=
  match r.table with
  | none => (.error noTable, r)
  | some rows =>
    match Keyed.get? rows id with
    | some _ => (.ok true, ⟨some (Keyed.erase id rows)⟩)
    | none => (.ok false, r)

/-- Deletes the row of a query if its token is the canonical text of the given one. -/
def removeIfOwned (r : RowRegistry) (id : String) (token : Uuid) : Except SchedulerError Bool × RowRegistry :=
  match r.table with
  | none => (.error noTable, r)
  | some rows =>
    match Keyed.get? rows id with
    | some row => if row.token = token.text then (.ok true, ⟨some (Keyed.erase id rows)⟩) else (.ok false, r)
    | none => (.ok false, r)

/-- Writes a row as it is, in place of any other. -/
def write (r : RowRegistry) (id : String) (row : RegistryRow) : Except SchedulerError Unit × RowRegistry :=
  match r.table with
  | none => (.error noTable, r)
  | some rows => (.ok (), ⟨some (Keyed.set id row rows)⟩)

/-- The registry without its table. -/
def dropTable (_ : RowRegistry) : RowRegistry := ⟨none⟩

instance : JobRegistry RowRegistry := ⟨get, putIfAbsent, remove, removeIfOwned⟩

/-- What stands where the file of a registry should be. -/
inductive Place where
  /-- The file can be made, with its directory. -/
  | free
  /-- A file stands in place of the directory. -/
  | directoryIsFile
  /-- A directory stands in place of the file. -/
  | fileIsDirectory
  deriving DecidableEq, Repr

/-- Opens a new registry in the file at a path. -/
def openAt (place : Place) (path : String) : Except SchedulerError RowRegistry :=
  match place with
  | .free => .ok empty
  | .directoryIsFile => .error (.io "File exists (os error 17)")
  | .fileIsDirectory => .error (.database ("unable to open database file: " ++ path))

end RowRegistry

end StandingQuery
