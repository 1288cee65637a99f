/-!
# Pauses

How long a pause lasts. A clock keeps no alarm for later than thirty years ahead, so that a longer pause ends there.
-/

namespace StandingQuery.Pause

/-- The milliseconds of the longest pause: thirty years of 365 days. -/
def longestMs : Nat := 30 * 365 * 86400000

/-- The milliseconds that a pause lasts. -/
def lasting (ms : Nat) : Nat := min ms longestMs

end StandingQuery.Pause
