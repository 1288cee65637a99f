import StandingQuery.Delivery.Address
import StandingQuery.Delivery.Channel
import StandingQuery.Delivery.Error
import StandingQuery.Delivery.Mailbox
import StandingQuery.Time.Written

/-!
# Delivery by mail

Results go out as a plain text with one block for each hit. A mail is put together only for a recipient whose address matches
the pattern and only for a query with a title; nothing else reaches the mailer.
-/

namespace StandingQuery

/-- A mail that is ready to be sent. -/
structure OutgoingMail where
  sender : Mailbox
  recipient : Mailbox
  subject : String
  body : String
  deriving DecidableEq, Repr

/-- What comes of sending a mail. -/
abbrev Mailer := OutgoingMail → Except ChannelError Unit

/-- Why no mail is put together. -/
inductive EmailError where
  | noAddress
  | badAddress (address : String)
  | badSender (e : MailboxError)
  | badRecipient (e : MailboxError)
  | noTitle
  | refused (e : ChannelError)
  deriving DecidableEq, Repr

namespace EmailError

/-- The message of an error. -/
def message : EmailError → String
  | .noAddress => "No value was found for \"email\"!"
  | .badAddress address => "The email address \"" ++ address ++ "\" is not a valid email address!"
  | .badSender e => "There was a problem preparing the email sender address to send query results : " ++ e.message
  | .badRecipient e => "There was a problem preparing the email destination address to send query results : " ++ e.message
  | .noTitle => "No value was found for \"title\"!"
  | .refused e => "There was a problem sending an email with scheduled query results: " ++ e.message

/-- The failure that an error is reported as. -/
def failure (e : EmailError) : Failure := ⟨e.message⟩

end EmailError

namespace Email

/-- The line of an attribute in a mail, empty when it is `null`; a string stands as it is. -/
def attributeLine (key : String) : Json → String
  | .null => ""
  | .str s => "\n" ++ key ++ ": " ++ s
  | other => "\n" ++ key ++ ": " ++ other.compact

/-- The block of a hit in a mail. -/
def block (hit : ResultItem) : String :=
  "\n\n" ++ String.join (hit.attributes.map fun a => attributeLine a.1 a.2)

/-- The text of a mail: a heading with the minute it was put together, and a block for each hit. -/
def body (title : String) (results : QueryResults) (asOf : Instant) : String :=
  "Here are the results for query " ++ title ++ " as of " ++ asOf.toHeading ++ ":" ++ String.join (results.hits.map block)

/-- The subject of a mail. -/
def subject (title : String) : String := "Scheduled query results for \"" ++ title ++ "\""

/-- The parameter that holds the address of the recipient. -/
def parameter : String := "email"

/-- A mailbox, or what is wrong with it. -/
def mailbox (wrong : MailboxError → EmailError) (text : String) : Except EmailError Mailbox :=
  match Mailbox.parse text with
  | .ok m => .ok m
  | .error e => .error (wrong e)

/-- The mail that a delivery asks for. -/
def prepare (sender : String) (asOf : Instant) (d : Delivery) : Except EmailError OutgoingMail :=
  match Keyed.get? d.parameters parameter with
  | none => .error .noAddress
  | some address =>
    if !Address.isAddress address.toList then .error (.badAddress address)
    else do
      let sender ← mailbox .badSender sender
      let recipient ← mailbox .badRecipient address
      match d.query.title with
      | none => .error .noTitle
      | some title => .ok ⟨sender, recipient, subject title, body title d.results asOf⟩

/-- Sends the mail that a delivery asks for; the mail is given back if the mailer was called, whatever it answered. -/
def send (sender : String) (mailer : Mailer) (asOf : Instant) (d : Delivery) :
    Option OutgoingMail × Except EmailError Unit :=
  match prepare sender asOf d with
  | .error e => (none, .error e)
  | .ok mail =>
    match mailer mail with
    | .ok () => (some mail, .ok ())
    | .error e => (some mail, .error (.refused e))

/-- What comes of a delivery by mail. -/
def outcome (sender : String) (mailer : Mailer) (asOf : Instant) (d : Delivery) : Outcome Unit :=
  match (send sender mailer asOf d).2 with
  | .ok () => .ok ()
  | .error e => .error e.failure

/-- The name of the mail channel's implementation. -/
def implementation : String := "beacon_delivery::email::EmailChannel"

/-- The mail channel with a sender; `clock` tells the time once so many deliveries were handed over. -/
def channel (sender : String) (mailer : Mailer) (clock : Nat → Instant) : Channel where
  kind := "email"
  displayName := "Email"
  requiredFields := [⟨parameter, .email⟩]
  implementation := implementation
  respond handed d := outcome sender mailer (clock handed.length) d

end Email

end StandingQuery
