import StandingQuery.Time.Record

/-!
# Markers

What a registry holds for a query whose job is meant to run. The token names one activation: a job counts as live only while
the registry holds its own token, so that a timer left from an earlier activation cannot be revived by a later one.
-/

namespace StandingQuery

/-- The mark of one activation. -/
structure Marker where
  token : Uuid
  activatedAt : Instant
  deriving DecidableEq, Repr, Inhabited

namespace Marker

open Json in
/-- Decodes a marker. -/
def decode : Decoder Marker :=
  record "LivenessMarker" 2
    (fun o => do
      let activatedAt ← member o "activated_at" Instant.decode
      let token ← member o "token" Uuid.decode
      return ⟨← required "token" token, ← required "activated_at" activatedAt⟩)
    (fun row => do return ⟨← row.get 0 Uuid.decode none, ← row.get 1 Instant.decode none⟩)

/-- A marker as a value. -/
def encode (m : Marker) : Json := .obj [("activated_at", m.activatedAt.encode), ("token", m.token.encode)]

end Marker

end StandingQuery
