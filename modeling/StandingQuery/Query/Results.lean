import StandingQuery.Json.Decode

/-!
# Query results

What one run of a stored query brings: the hits of the first page and the number of hits known to the catalog.
-/

namespace StandingQuery

/-- One hit, with its attributes; one that is `null` counts as absent. -/
structure ResultItem where
  id : String
  attributes : Json.Members
  deriving Repr

/-- The hits of one run. -/
structure QueryResults where
  hits : List ResultItem
  /-- The number of hits known to the catalog, which may be larger than the number of hits here. -/
  totalHits : Nat
  deriving Repr

namespace ResultItem

open Json in
/-- Decodes a hit. -/
def decode : Decoder ResultItem :=
  record "ResultItem" 2
    (fun o => do
      let attributes ← member o "attributes" object
      let id ← member o "id" text
      return ⟨← required "id" id, attributes.getD []⟩)
    (fun row => do return ⟨← row.get 0 text none, ← row.get 1 object (some [])⟩)

/-- A hit as a value. -/
def encode (r : ResultItem) : Json := .obj [("attributes", .obj r.attributes), ("id", .str r.id)]

end ResultItem

namespace QueryResults

/-- No hits at all. -/
def empty : QueryResults := ⟨[], 0⟩

open Json in
/-- Decodes the results of a run. -/
def decode : Decoder QueryResults :=
  record "QueryResults" 2
    (fun o => do
      let hits ← member o "hits" (list ResultItem.decode)
      let total ← member o "total_hits" (unsigned 64)
      return ⟨← required "hits" hits, ← required "total_hits" total⟩)
    (fun row => do return ⟨← row.get 0 (list ResultItem.decode) none, ← row.get 1 (unsigned 64) none⟩)

/-- The results of a run as a value. -/
def encode (r : QueryResults) : Json :=
  .obj [("hits", .arr (r.hits.map ResultItem.encode)), ("total_hits", .ofNat r.totalHits)]

end QueryResults

end StandingQuery
