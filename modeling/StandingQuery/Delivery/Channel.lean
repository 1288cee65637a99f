import StandingQuery.Delivery.Destination
import StandingQuery.Query.Stored
import StandingQuery.Query.Results

/-!
# Delivery channels

A channel takes results to one kind of destination. Several channels may claim one kind; that is only reported when a delivery
asks for it. The deliveries handed to channels are kept, so that what a channel answers may hang on what went before.
-/

namespace StandingQuery

/-- The kind of value that a channel needs for a parameter. -/
inductive FieldKind where
  | text
  | email
  | number
  | boolean
  deriving DecidableEq, Repr

namespace FieldKind

/-- The kinds with their names. -/
def variants : List (String × FieldKind) :=
  [("text", .text), ("email", .email), ("number", .number), ("boolean", .boolean)]

/-- The name of a kind. -/
def name : FieldKind → String
  | .text => "text"
  | .email => "email"
  | .number => "number"
  | .boolean => "boolean"

/-- Decodes a kind by its name. -/
def decode : Json.Decoder FieldKind := Json.variant variants

/-- A kind as a value. -/
def encode (k : FieldKind) : Json := .str k.name

end FieldKind

/-- A parameter that a channel needs in every destination. -/
structure RequiredField where
  name : String
  kind : FieldKind
  deriving DecidableEq, Repr

namespace RequiredField

open Json in
/-- Decodes a required field. -/
def decode : Decoder RequiredField :=
  record "RequiredField" 2
    (fun o => do
      let kind ← member o "field_type" FieldKind.decode
      let name ← member o "name" text
      return ⟨← required "name" name, ← required "field_type" kind⟩)
    (fun row => do return ⟨← row.get 0 text none, ← row.get 1 FieldKind.decode none⟩)

/-- A required field as a value. -/
def encode (f : RequiredField) : Json := .obj [("field_type", f.kind.encode), ("name", .str f.name)]

end RequiredField

/-- Results on their way to one destination of a user. -/
structure Delivery where
  query : StoredQuery
  results : QueryResults
  username : String
  deliveryId : String
  parameters : Keyed String
  deriving Repr

/-- A delivery that was handed to a channel, with the name of the channel's implementation. -/
structure Handed where
  implementation : String
  delivery : Delivery
  deriving Repr

/-- A way of delivering results. -/
structure Channel where
  /-- The kind of destination that the channel serves. -/
  kind : String
  /-- The name shown to users. -/
  displayName : String
  requiredFields : List RequiredField
  /-- The name of the implementation, for reports of channels that claim the same kind. -/
  implementation : String
  /-- What comes of a delivery, after these were handed to channels before it. -/
  respond : List Handed → Delivery → Outcome Unit

/-- Why no channel is chosen. -/
inductive ChannelChoiceError where
  | unknown (kind : String) (known : List String)
  | ambiguous (kind : String) (implementations : List String)
  deriving DecidableEq, Repr

namespace ChannelChoiceError

/-- The message of an error. -/
def message : ChannelChoiceError → String
  | .unknown kind known =>
    "The delivery method \"" ++ kind ++
      "\" was not recognized; this query scheduling system found the following delivery methods: [" ++
      ", ".intercalate known ++ "]."
  | .ambiguous kind names =>
    Text.decimal names.length ++ " delivery services were found to handle the delivery type " ++ kind ++ ": " ++
      ", ".intercalate names ++ "."

/-- The failure that an error is reported as. -/
def failure (e : ChannelChoiceError) : Failure := ⟨e.message⟩

end ChannelChoiceError

/-- The channels there are, in the order in which they were registered. -/
structure Channels where
  list : List Channel

namespace Channels

/-- No channels. -/
def empty : Channels := ⟨[]⟩

/-- The channels with one more. -/
def register (cs : Channels) (c : Channel) : Channels := ⟨cs.list ++ [c]⟩

/-- The kinds served, in the order of registration. -/
def kinds (cs : Channels) : List String := cs.list.map (·.kind)

/-- The channels that serve a kind. -/
def serving (cs : Channels) (kind : String) : List Channel := cs.list.filter fun c => c.kind == kind

/-- The one channel that serves a kind. -/
def select (cs : Channels) (kind : String) : Except ChannelChoiceError Channel :=
  match cs.serving kind with
  | [] => .error (.unknown kind cs.kinds)
  | [c] => .ok c
  | several => .error (.ambiguous kind (several.map (·.implementation)))

/-- Hands a delivery to the channel that its destination names. What is handed over is added to the earlier deliveries,
whatever comes of it. -/
def deliver (cs : Channels) (handed : List Handed) (destination : Destination) (query : StoredQuery)
    (results : QueryResults) (username : String) : Outcome Unit × List Handed :=
  match cs.select destination.kind with
  | .error e => (.error e.failure, handed)
  | .ok c =>
    let delivery : Delivery := ⟨query, results, username, destination.deliveryId, destination.parameters⟩
    (c.respond handed delivery, handed ++ [⟨c.implementation, delivery⟩])

end Channels

end StandingQuery
