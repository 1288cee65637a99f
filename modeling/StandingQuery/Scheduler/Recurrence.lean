import StandingQuery.TimeUnit
import StandingQuery.Time.Instant
import StandingQuery.Text.Digits

/-!
# Recurrences

Five fields that say at which minutes something recurs: minute, hour, day of the month, month, and weekday with Sunday as zero.
Each field holds any value or one. The instants of a recurrence are the whole minutes whose fields agree with it.
-/

namespace StandingQuery

/-- One field of a recurrence. -/
inductive CronField where
  | any
  | only (value : Nat)
  deriving DecidableEq, Repr, Inhabited

namespace CronField

/-- The field that holds one value if it is pinned, and otherwise any. -/
def pin (pinned : Bool) (value : Nat) : CronField := if pinned then .only value else .any

/-- Whether a field agrees with a value. -/
def agrees : CronField → Nat → Bool
  | .any, _ => true
  | .only v, value => v == value

/-- The values below `bound` that a field agrees with, in order. -/
def valuesBelow (bound : Nat) : CronField → List Nat
  | .any => List.range bound
  | .only v => if v < bound then [v] else []

/-- The text of a field. -/
def text : CronField → String
  | .any => "*"
  | .only v => Text.decimal v

end CronField

/-- At which minutes something recurs. -/
structure Recurrence where
  minute : CronField
  hour : CronField
  dayOfMonth : CronField
  month : CronField
  weekday : CronField
  deriving DecidableEq, Repr, Inhabited

/-- The search for the next instant would leave the calendar. -/
inductive HorizonError where
  | beyondCalendar
  deriving DecidableEq, Repr

namespace Recurrence

/-- The text of a recurrence, field by field. -/
def text (r : Recurrence) : String :=
  " ".intercalate [r.minute.text, r.hour.text, r.dayOfMonth.text, r.month.text, r.weekday.text]

/-- The weekday with Sunday as zero, from a number that counts from Monday as one. -/
def weekdayFromMonday (n : Nat) : Nat := n % 7

/-- Which fields a unit pins to those of the start: minute, hour, day of the month, month, weekday. -/
def pinned : TimeUnit → Bool × Bool × Bool × Bool × Bool
  | .minutes => (false, false, false, false, false)
  | .hours => (true, false, false, false, false)
  | .days => (true, true, false, false, false)
  | .weeks => (true, true, false, false, true)
  | .months => (true, true, true, false, false)
  | .years => (true, true, true, true, false)

/-- The recurrence that happens once in each unit, at the fields of a start. The start is read on the clock that it shows, which
need not be that of Coordinated Universal Time. -/
def ofStart (unit : TimeUnit) (shown : Instant) : Recurrence :=
  let (minute, hour, dayOfMonth, month, weekday) := pinned unit
  { minute := .pin minute shown.minute
    hour := .pin hour shown.hour
    dayOfMonth := .pin dayOfMonth shown.date.day
    month := .pin month shown.date.month
    weekday := .pin weekday (weekdayFromMonday (Date.isoWeekday shown.day)) }

/-- Whether the date of a day agrees with a recurrence. -/
def onDay (r : Recurrence) (day : Int) : Bool :=
  let date := Date.ofDays day
  r.dayOfMonth.agrees date.day && r.month.agrees date.month && r.weekday.agrees (Date.weekday day)

/-- Whether an instant is one of a recurrence: a whole minute whose fields agree. -/
def includes (r : Recurrence) (t : Instant) : Bool :=
  t.nanos == 0 && t.second == 0 && r.onDay t.day && r.hour.agrees t.hour && r.minute.agrees t.minute

/-- The first instant of a recurrence on one day that comes after another instant. -/
def nextOnDay (r : Recurrence) (after : Instant) (day : Int) : Option Instant :=
  if !r.onDay day then none
  else
    (r.hour.valuesBelow 24).findSome? fun hour =>
      (r.minute.valuesBelow 60).findSome? fun minute =>
        let t := Instant.atMinute day hour minute
        if after < t then some t else none

/-- The first instant of a recurrence after another, on one of so many days from a day on. -/
def search (r : Recurrence) (after : Instant) : Nat → Int → Option Instant
  | 0, _ => none
  | days + 1, day =>
    match r.nextOnDay after day with
    | some t => some t
    | none => search r after days (day + 1)

/-- How many days the search goes beyond the day it starts on: a 29 February may be eight years away. -/
def horizon : Nat := 366 * 8

/-- The first instant of a recurrence after another, none if there is none within the horizon. A horizon beyond the calendar is
an error, whether or not something would be found before. -/
def nextAfter (r : Recurrence) (after : Instant) : Except HorizonError (Option Instant) :=
  if Date.lastDay < after.day + horizon then .error .beyondCalendar
  else .ok (r.search after (horizon + 1) after.day)

end Recurrence

end StandingQuery
