import StandingQuery.Json.Mismatch

/-!
# Values of known shapes

Decoders from JSON values. A record may be written as an object, whose members are looked at in the order of their keys before
missing ones are reported in the order of the record's fields, or as a list of its fields in that order.
-/

namespace StandingQuery.Json

/-- Takes a value apart, or says why it is not of the shape asked for. -/
abbrev Decoder (α : Type) := Json → Except Mismatch α

/-- The mismatch of a value of another type. -/
def mistyped (j : Json) (expected : String) : Mismatch := .wrongType j.found expected

/-- Decodes a string. -/
def text : Decoder String
  | .str s => .ok s
  | j => .error (j.mistyped "a string")

/-- Decodes a truth value. -/
def boolean : Decoder Bool
  | .bool b => .ok b
  | j => .error (j.mistyped "a boolean")

/-- Decodes an integer of a type with this name and this range. -/
def integer (name : String) (low high : Int) : Decoder Int
  | .num (.int i) => if low ≤ i ∧ i ≤ high then .ok i else .error (.outOfRange (Json.found (.num (.int i))) name)
  | j => .error (j.mistyped name)

/-- Decodes a signed integer of 64 bits. -/
def signed64 : Decoder Int := integer "i64" (-0x8000000000000000) 0x7FFFFFFFFFFFFFFF

/-- Decodes an unsigned integer of the given width. -/
def unsigned (bits : Nat) : Decoder Nat := fun j =>
  (integer ("u" ++ Text.decimal bits) 0 (Nat.pow 2 bits - 1 : Nat) j).map Int.toNat

/-- Decodes a value that may be `null`. -/
def optional {α : Type} (decode : Decoder α) : Decoder (Option α)
  | .null => .ok none
  | j => (decode j).map some

/-- Decodes a list, item by item. -/
def list {α : Type} (decode : Decoder α) : Decoder (List α)
  | .arr items => items.mapM decode
  | j => .error (j.mistyped "a sequence")

/-- Decodes an object as it stands. -/
def object : Decoder Members
  | .obj o => .ok o
  | j => .error (j.mistyped "a map")

/-- Decodes an object whose members all hold the same kind of value. -/
def mapping {α : Type} (decode : Decoder α) : Decoder (List (String × α))
  | .obj o => o.mapM fun m => (decode m.2).map fun a => (m.1, a)
  | j => .error (j.mistyped "a map")

/-- Decodes `null`. -/
def nothing : Decoder Unit
  | .null => .ok ()
  | j => .error (j.mistyped "unit")

/-- The variant with a name. -/
def variantNamed {α : Type} (variants : List (String × α)) (name : String) : Except Mismatch α :=
  match List.lookup name variants with
  | some a => .ok a
  | none => .error (.unknownVariant name (variants.map (·.1)))

/-- Decodes a variant by its name, alone or as the one key of an object that holds `null`. -/
def variant {α : Type} (variants : List (String × α)) : Decoder α
  | .str name => variantNamed variants name
  | .obj [(name, value)] => do
    let a ← variantNamed variants name
    nothing value
    return a
  | .obj _ => .error .manyVariants
  | j => .error (j.mistyped "string or map")

/-! ## Records -/

/-- Decodes a member if there is one. -/
def member {α : Type} (o : Members) (key : String) (decode : Decoder α) : Except Mismatch (Option α) :=
  match o.get? key with
  | none => .ok none
  | some v => (decode v).map some

/-- The value of a member that has to be there. -/
def required {α : Type} (key : String) : Option α → Except Mismatch α
  | some a => .ok a
  | none => .error (.missingField key)

/-- The fields of a record in their order, with the words for the record. -/
structure Row where
  items : List Json
  shape : String

/-- Decodes the field at a position; a missing one takes its default, if it has one. -/
def Row.get {α : Type} (row : Row) (i : Nat) (decode : Decoder α) (default : Option α) : Except Mismatch α :=
  match row.items[i]?, default with
  | some v, _ => decode v
  | none, some a => .ok a
  | none, none => .error (.wrongLength i row.shape)

/-- There are at most so many fields. -/
def Row.atMost (row : Row) (n : Nat) : Except Mismatch Unit :=
  if n < row.items.length then .error (.wrongLength row.items.length "fewer elements in array") else .ok ()

/-- The words for a record that is written as a list of its fields. -/
def rowShape (name : String) (size : Nat) : String :=
  "struct " ++ name ++ " with " ++ Text.decimal size ++ (if size = 1 then " element" else " elements")

/-- Decodes a record with a name and a number of fields, from an object or from a list of its fields. -/
def record {α : Type} (name : String) (size : Nat) (ofMembers : Members → Except Mismatch α)
    (ofRow : Row → Except Mismatch α) : Decoder α
  | .obj o => ofMembers o
  | .arr items => do
    let a ← ofRow ⟨items, rowShape name size⟩
    Row.atMost ⟨items, rowShape name size⟩ size
    return a
  | j => .error (j.mistyped ("struct " ++ name))

end StandingQuery.Json
