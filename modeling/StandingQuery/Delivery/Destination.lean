import StandingQuery.Delivery.Preferences

/-!
# Destinations

Where one delivery goes. It is resolved from the preferences of a user: there has to be exactly one record of them, and in it
exactly one method with the identifier asked for, and that method has to name a kind of channel.
-/

namespace StandingQuery

/-- Where one delivery goes. -/
structure Destination where
  /-- The kind of channel, such as `email`. -/
  kind : String
  deliveryId : String
  /-- What the channel has to know, such as the address of the recipient. -/
  parameters : Keyed String
  deriving DecidableEq, Repr

namespace Destination

open Json in
/-- Decodes a destination. -/
def decode : Decoder Destination :=
  record "DeliveryDestination" 3
    (fun o => do
      let kind ← member o "channel_type" text
      let deliveryId ← member o "delivery_id" text
      let parameters ← member o "parameters" (mapping text)
      return ⟨← required "channel_type" kind, ← required "delivery_id" deliveryId, ← required "parameters" parameters⟩)
    (fun row => do return ⟨← row.get 0 text none, ← row.get 1 text none, ← row.get 2 (mapping text) none⟩)

/-- A destination as a value. -/
def encode (d : Destination) : Json :=
  .obj [("channel_type", .str d.kind), ("delivery_id", .str d.deliveryId),
    ("parameters", .obj (d.parameters.map fun p => (p.1, .str p.2)))]

end Destination

/-- The records of preferences stored for a user, or the failure of the store. -/
abbrev PreferencesStore := String → Outcome (List UserPreferences)

/-- Why no destination is found. -/
inductive DestinationError where
  /-- The store failed. -/
  | unavailable (username : String) (f : Failure)
  | records (count : Nat) (username : String)
  | methods (count : Nat) (deliveryId username : String)
  | untyped (deliveryId username : String)
  deriving DecidableEq, Repr

namespace DestinationError

/-- The message of an error. -/
def message : DestinationError → String
  | .unavailable user f => "There was a problem attempting to retrieve the preferences for user '" ++ user ++ "': " ++ f.message
  | .records n user => "There were " ++ Text.decimal n ++ " preference entries found for user '" ++ user ++ "'!"
  | .methods n id user =>
    "There were " ++ Text.decimal n ++ " destinations matching the ID \"" ++ id ++ "\" for user '" ++ user ++
      "'; only one is expected!"
  | .untyped id user => "The destination with ID \"" ++ id ++ "\" for user '" ++ user ++ "' has no delivery type!"

/-- The failure that an error is reported as. -/
def failure (e : DestinationError) : Failure := ⟨e.message⟩

end DestinationError

namespace PreferencesStore

/-- The store that holds these records for each user, and nothing for any other. -/
def ofRecords (users : Keyed (List UserPreferences)) : PreferencesStore := fun username =>
  .ok ((Keyed.get? users username).getD [])

/-- The store that always fails. -/
def failing (message : String) : PreferencesStore := fun _ => Outcome.fail message

end PreferencesStore

namespace DeliveryMethod

/-- The parameters of a method: of two fields of one name the later one counts. -/
def parameters (m : DeliveryMethod) : Keyed String := Keyed.ofList (m.fields.map fun f => (f.name, f.value))

end DeliveryMethod

namespace UserPreferences

/-- The methods with an identifier; a method without one is never meant. -/
def methodsWithId (p : UserPreferences) (id : String) : List DeliveryMethod := p.methods.filter fun m => m.id == some id

end UserPreferences

/-- Finds where a delivery of a user goes. -/
def resolveDestination (store : PreferencesStore) (username deliveryId : String) :
    Except DestinationError Destination :=
  match store username with
  | .error f => .error (.unavailable username f)
  | .ok [preferences] =>
    match preferences.methodsWithId deliveryId with
    | [m] =>
      match m.kind with
      | some kind => .ok ⟨kind, deliveryId, m.parameters⟩
      | none => .error (.untyped deliveryId username)
    | others => .error (.methods others.length deliveryId username)
  | .ok others => .error (.records others.length username)

end StandingQuery
