import StandingQuery.Outcome

/-!
# Errors of delivery channels

What a channel reports when it cannot be set up or cannot send.
-/

namespace StandingQuery

/-- A problem of a delivery channel. -/
inductive ChannelError where
  | invalidAddress (address reason : String)
  /-- The message could not be put together. -/
  | build (reason : String)
  /-- The transport refused or lost the message. -/
  | sendFailed (reason : String)
  /-- The channel's settings are missing or wrong. -/
  | settings (reason : String)
  deriving DecidableEq, Repr

namespace ChannelError

/-- The message of an error. -/
def message : ChannelError → String
  | .invalidAddress address reason => "invalid address \"" ++ address ++ "\": " ++ reason
  | .build reason => "message build failed: " ++ reason
  | .sendFailed reason => "send failed: " ++ reason
  | .settings reason => "configuration error: " ++ reason

/-- The failure that an error is reported as. -/
def failure (e : ChannelError) : Failure := ⟨e.message⟩

end ChannelError

end StandingQuery
