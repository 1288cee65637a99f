import StandingQuery.Time.Timestamp
import StandingQuery.Time.Written
import StandingQuery.Json.Decode
import StandingQuery.Uuid

/-!
# Instants and identifiers in records
-/

namespace StandingQuery

/-- Decodes an instant from its text in a record. -/
def Instant.decode : Json.Decoder Instant
  | .str s =>
    match Timestamp.parseRecord s with
    | .ok t => .ok t
    | .error e => .error (.refused e.message)
  | j => .error (j.mistyped "an RFC 3339 formatted date and time string")

/-- An instant as a value. -/
def Instant.encode (t : Instant) : Json := .str t.toRecord

/-- Decodes an identifier from its text. -/
def Uuid.decode : Json.Decoder Uuid
  | .str s =>
    match Uuid.parse s with
    | .ok u => .ok u
    | .error e => .error (.refused ("UUID parsing failed: " ++ e.message))
  | j => .error (j.mistyped "a formatted UUID string")

/-- An identifier as a value. -/
def Uuid.encode (u : Uuid) : Json := .str u.text

end StandingQuery
