import StandingQuery.Keyed
import StandingQuery.Toml.Basic

/-!
# TOML tables under construction

A table grows line by line. How it came to be decides what may still be added to it: a table is opened by one header at most, a
table made by dotted keys is extended by dotted keys only, and a value is never extended. `Node.insert`, `Node.openTable` and
`Node.openItem` are `none` where these rules are broken.
-/

namespace StandingQuery.Toml

/-- How a table came to be. -/
inductive TableOrigin where
  /-- Opened by a header of its own. -/
  | header
  /-- Passed on the way to a table further down. -/
  | passed
  /-- Made by a dotted key. -/
  | dotted
  deriving DecidableEq, Repr

/-- What stands at a key. -/
inductive Node where
  | value (v : Toml)
  | table (origin : TableOrigin) (members : List (String × Node))
  /-- A list of tables, each opened by a header; the last one can still be added to. -/
  | tables (elements : List (List (String × Node)))

namespace Node

/-- The members of a table. -/
abbrev Members := List (String × Node)

/-- Changes the table at the end of a path. Tables on the way that are not there yet are made; `dotted` says that the path is a
dotted key, which passes no table that has a header of its own. -/
def descend (dotted : Bool) (change : TableOrigin → Members → Option (TableOrigin × Members)) :
    List String → TableOrigin → Members → Option (TableOrigin × Members)
  | [], origin, members => change origin members
  | key :: path, origin, members =>
    match Keyed.get? members key with
    | none => do
      let (o, m) ← descend dotted change path (if dotted then .dotted else .passed) []
      some (origin, Keyed.set key (.table o m) members)
    | some (.value _) => none
    | some (.table o m) =>
      if dotted && o == .header then none
      else do
        let (o, m) ← descend dotted change path o m
        some (origin, Keyed.set key (.table o m) members)
    | some (.tables elements) =>
      match elements.getLast? with
      | none => none
      | some last => do
        let (_, m) ← descend dotted change path .header last
        some (origin, Keyed.set key (.tables (elements.dropLast ++ [m])) members)

/-- Sets a value at a key of a table, whose origin has to suit a key that is dotted or not. -/
def setValue (dotted : Bool) (key : String) (v : Toml) (origin : TableOrigin) (members : Members) :
    Option (TableOrigin × Members) :=
  if dotted != (origin == .dotted) then none
  else if Keyed.has members key then none
  else some (origin, Keyed.set key (.value v) members)

/-- Sets a value at the last of some keys, the others naming tables on the way. -/
def insert (keys : List String) (v : Toml) (origin : TableOrigin) (members : Members) : Option (TableOrigin × Members) := do
  let key ← keys.getLast?
  descend true (setValue (keys.length != 1) key v) keys.dropLast origin members

/-- Opens the table at a key. -/
def openHere (key : String) (origin : TableOrigin) (members : Members) : Option (TableOrigin × Members) :=
  match Keyed.get? members key with
  | none => some (origin, Keyed.set key (.table .header []) members)
  | some (.table .passed m) => some (origin, Keyed.set key (.table .header m) members)
  | some _ => none

/-- Opens another table in the list at a key. -/
def openItemHere (key : String) (origin : TableOrigin) (members : Members) : Option (TableOrigin × Members) :=
  match Keyed.get? members key with
  | none => some (origin, Keyed.set key (.tables [[]]) members)
  | some (.tables elements) => some (origin, Keyed.set key (.tables (elements ++ [[]])) members)
  | some _ => none

/-- The members of the root, changed at the end of a path of headers. -/
def atHeader (change : TableOrigin → Members → Option (TableOrigin × Members)) (path : List String) (root : Members) :
    Option Members :=
  (descend false change path .header root).map (·.2)

/-- Opens the table that a header names. -/
def openTable (path : List String) (root : Members) : Option Members := do
  atHeader (openHere (← path.getLast?)) path.dropLast root

/-- Opens another table in the list that a header names. -/
def openItem (path : List String) (root : Members) : Option Members := do
  atHeader (openItemHere (← path.getLast?)) path.dropLast root

mutual

/-- The value of a finished node. -/
def toValue : Node → Toml
  | .value v => v
  | .table _ members => .table (toMembers members)
  | .tables elements => .list (toItems elements)

/-- The values of finished members. -/
def toMembers : List (String × Node) → List (String × Toml)
  | [] => []
  | (key, node) :: rest => (key, toValue node) :: toMembers rest

/-- The values of finished tables. -/
def toItems : List (List (String × Node)) → List Toml
  | [] => []
  | members :: rest => .table (toMembers members) :: toItems rest

end

end Node

end StandingQuery.Toml
