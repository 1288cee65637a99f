import StandingQuery.Outcome
import StandingQuery.Json.RecordText

/-!
# Delivery preferences

What a user has stored about being reached: any number of delivery methods, each with the fields that its kind of channel needs.
Preferences are read from JSON text.
-/

namespace StandingQuery

/-- One field of a delivery method. -/
structure MethodField where
  name : String
  value : String
  deriving DecidableEq, Repr, Inhabited

/-- One way of reaching a user. -/
structure DeliveryMethod where
  id : Option String
  kind : Option String
  fields : List MethodField
  deriving DecidableEq, Repr, Inhabited

/-- What a user has stored about being reached. -/
structure UserPreferences where
  methods : List DeliveryMethod
  deriving DecidableEq, Repr, Inhabited

namespace MethodField

open Json

/-- Decodes a field. -/
def decode : Decoder MethodField :=
  record "MethodField" 2
    (fun o => do
      let name ← member o "name" text
      let value ← member o "value" text
      return ⟨name.getD "", value.getD ""⟩)
    (fun row => do return ⟨← row.get 0 text (some ""), ← row.get 1 text (some "")⟩)

/-- A field as a value. -/
def encode (f : MethodField) : Json := .obj [("name", .str f.name), ("value", .str f.value)]

/-- A field as far as it has been read. -/
structure Gathered where
  name : Option String
  value : Option String

/-- Reads one member of a field. -/
def memberReader (g : Gathered) (key : String) : Reader Gathered := fun s =>
  match key with
  | "name" => (fieldReader key g.name textReader s).map fun q => ({ g with name := q.1 }, q.2)
  | "value" => (fieldReader key g.value textReader s).map fun q => ({ g with value := q.1 }, q.2)
  | _ => unknownMember g s

/-- Reads a field from text. -/
def reader : Reader MethodField :=
  recordReader "MethodField" ⟨none, none⟩ memberReader (fun g => ⟨g.name.getD "", g.value.getD ""⟩) fun s =>
    let shape := rowShape "MethodField" 2
    match rowField shape 0 textReader (some "") s with
    | .error f => .error f
    | .ok (name, p) =>
      match rowField shape 1 textReader (some "") p.1 with
      | .error f => .error f
      | .ok (value, q) => .ok (⟨name, value⟩, p.leaving q)

end MethodField

namespace DeliveryMethod

open Json

/-- Decodes a delivery method. -/
def decode : Decoder DeliveryMethod :=
  record "DeliveryMethod" 3
    (fun o => do
      let id ← member o "deliveryId" (optional text)
      let kind ← member o "deliveryType" (optional text)
      let fields ← member o "fields" (list MethodField.decode)
      return ⟨id.join, kind.join, fields.getD []⟩)
    (fun row => do
      return ⟨← row.get 0 (optional text) none, ← row.get 1 (optional text) none,
        ← row.get 2 (list MethodField.decode) (some [])⟩)

/-- A delivery method as a value. -/
def encode (m : DeliveryMethod) : Json :=
  .obj [("deliveryId", .ofOption .str m.id), ("deliveryType", .ofOption .str m.kind),
    ("fields", .arr (m.fields.map MethodField.encode))]

/-- A delivery method as far as it has been read. -/
structure Gathered where
  id : Option (Option String)
  kind : Option (Option String)
  fields : Option (List MethodField)

/-- Reads one member of a delivery method. -/
def memberReader (g : Gathered) (key : String) : Reader Gathered := fun s =>
  match key with
  | "deliveryId" => (fieldReader key g.id (optionalReader textReader) s).map fun q => ({ g with id := q.1 }, q.2)
  | "deliveryType" => (fieldReader key g.kind (optionalReader textReader) s).map fun q => ({ g with kind := q.1 }, q.2)
  | "fields" =>
    (fieldReader key g.fields (listReader MethodField.reader) s).map fun q => ({ g with fields := q.1 }, q.2)
  | _ => unknownMember g s

/-- Reads a delivery method from text. -/
def reader : Reader DeliveryMethod :=
  recordReader "DeliveryMethod" ⟨none, none, none⟩ memberReader
    (fun g => ⟨g.id.join, g.kind.join, g.fields.getD []⟩) fun s =>
    let shape := rowShape "DeliveryMethod" 3
    match rowField shape 0 (optionalReader textReader) none s with
    | .error f => .error f
    | .ok (id, p) =>
      match rowField shape 1 (optionalReader textReader) none p.1 with
      | .error f => .error f
      | .ok (kind, q) =>
        match rowField shape 2 (listReader MethodField.reader) (some []) q.1 with
        | .error f => .error f
        | .ok (fields, t) => .ok (⟨id, kind, fields⟩, (p.leaving q).leaving t)

end DeliveryMethod

namespace UserPreferences

open Json

/-- Decodes preferences. -/
def decode : Decoder UserPreferences :=
  record "UserPreferences" 1
    (fun o => do
      let methods ← member o "deliveryMethods" (list DeliveryMethod.decode)
      return ⟨methods.getD []⟩)
    (fun row => do return ⟨← row.get 0 (list DeliveryMethod.decode) (some [])⟩)

/-- Preferences as a value. -/
def encode (p : UserPreferences) : Json := .obj [("deliveryMethods", .arr (p.methods.map DeliveryMethod.encode))]

/-- Reads one member of preferences. -/
def memberReader (methods : Option (List DeliveryMethod)) (key : String) : Reader (Option (List DeliveryMethod)) :=
  fun s =>
    match key with
    | "deliveryMethods" => fieldReader key methods (listReader DeliveryMethod.reader) s
    | _ => unknownMember methods s

/-- Reads preferences from text. -/
def reader : Reader UserPreferences :=
  recordReader "UserPreferences" none memberReader (fun methods => ⟨methods.getD []⟩) fun s =>
    (rowField (rowShape "UserPreferences" 1) 0 (listReader DeliveryMethod.reader) (some []) s).map fun q =>
      (⟨q.1⟩, q.2)

/-- The preferences that a JSON text holds. -/
def ofText (json : String) : Outcome UserPreferences :=
  match readAll reader json with
  | .ok p => .ok p
  | .error f => Outcome.fail ("The preferences could not be read: " ++ f.message json)

/-- The JSON text of preferences. -/
def toText (p : UserPreferences) : String := p.encode.compact

end UserPreferences

end StandingQuery
