import StandingQuery.Outcome
import StandingQuery.Json.Decode
import StandingQuery.Json.Printer
import StandingQuery.Query.Stored

/-!
# Catalog records

A record as it is created, updated or deleted in the catalog. A record with the workspace tag embeds queries; the ones that speak
of schedules at all are those to be started and stopped with it.
-/

namespace StandingQuery

/-- A record of the catalog. -/
structure CatalogRecord where
  id : String
  tags : List String
  attributes : Json.Members
  deriving Repr

/-- The record before and after a change. -/
structure RecordUpdate where
  old : CatalogRecord
  new : CatalogRecord
  deriving Repr

namespace CatalogRecord

open Json in
/-- Decodes a record. -/
def decode : Decoder CatalogRecord :=
  record "CatalogRecord" 3
    (fun o => do
      let attributes ← member o "attributes" object
      let id ← member o "id" text
      let tags ← member o "tags" (list text)
      return ⟨← required "id" id, tags.getD [], attributes.getD []⟩)
    (fun row => do
      return ⟨← row.get 0 text none, ← row.get 1 (list text) (some []), ← row.get 2 object (some [])⟩)

/-- A record as a value. -/
def encode (r : CatalogRecord) : Json :=
  .obj [("attributes", .obj r.attributes), ("id", .str r.id), ("tags", .ofStrings r.tags)]

/-- The tag of workspaces. -/
def workspaceTag : String := "workspace"

/-- The attribute of a workspace that embeds its queries. -/
def queriesAttribute : String := "queries"

/-- Whether a record is a workspace. -/
def isWorkspace (r : CatalogRecord) : Bool := r.tags.contains workspaceTag

/-- The values embedded as queries that speak of schedules; none when there is no list of queries, and a failure when something
else stands in its place. -/
def scheduledQueries (r : CatalogRecord) : Outcome (List Json) :=
  match Keyed.get? r.attributes queriesAttribute with
  | none | some .null => .ok []
  | some (.arr items) => .ok (items.filter StoredQuery.hasSchedules)
  | some other =>
    Outcome.fail ("The value for \"" ++ queriesAttribute ++ "\" should be a list but was " ++ other.compact)

end CatalogRecord

end StandingQuery
