/-!
# Units of repetition

The six units in which a schedule repeats, with their names in stored schedules.
-/

namespace StandingQuery

/-- The unit that a schedule repeats in. -/
inductive TimeUnit where
  | minutes
  | hours
  | days
  | weeks
  | months
  | years
  deriving DecidableEq, Repr, Inhabited

namespace TimeUnit

/-- Every unit, from the shortest to the longest. -/
def all : List TimeUnit := [.minutes, .hours, .days, .weeks, .months, .years]

/-- The name of a unit in stored data. -/
def name : TimeUnit → String
  | .minutes => "MINUTES"
  | .hours => "HOURS"
  | .days => "DAYS"
  | .weeks => "WEEKS"
  | .months => "MONTHS"
  | .years => "YEARS"

/-- The name of a unit in a sentence. -/
def word : TimeUnit → String
  | .minutes => "minutes"
  | .hours => "hours"
  | .days => "days"
  | .weeks => "weeks"
  | .months => "months"
  | .years => "years"

/-- The unit with a name, whose ASCII letters may be in either case. -/
def ofName? (s : String) : Option TimeUnit := all.find? fun u => u.name == s.map Char.toUpper

/-- What is said of a name that is no unit's. -/
def unknown (s : String) : String :=
  "The unit of time \"" ++ s ++ "\" for the scheduled query time interval is not recognized!"

end TimeUnit

end StandingQuery
