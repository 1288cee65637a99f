/-!
# Errors of the settings
-/

namespace StandingQuery

/-- The settings cannot be used, for a reason in words. -/
structure SettingsError where
  reason : String
  deriving DecidableEq, Repr

/-- The message of an error. -/
def SettingsError.message (e : SettingsError) : String := "Configuration error: " ++ e.reason

end StandingQuery
