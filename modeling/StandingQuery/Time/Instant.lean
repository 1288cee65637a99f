import StandingQuery.Time.Calendar

/-!
# Instants

Points of Coordinated Universal Time with nanoseconds. A leap second is a 60th second: it is counted at the second before it,
with a billion nanoseconds or more.
-/

namespace StandingQuery

/-- Seconds since 1970-01-01T00:00:00Z, and nanoseconds; from a billion nanoseconds on, a leap second. -/
structure Instant where
  seconds : Int
  nanos : Nat
  deriving DecidableEq, Repr, Inhabited

namespace Instant

/-- The nanoseconds of a second. -/
def billion : Nat := 1000000000

/-- Instants are ordered by their seconds, then by their nanoseconds. -/
instance : LT Instant := ⟨fun a b => a.seconds < b.seconds ∨ (a.seconds = b.seconds ∧ a.nanos < b.nanos)⟩

instance : LE Instant := ⟨fun a b => a.seconds < b.seconds ∨ (a.seconds = b.seconds ∧ a.nanos ≤ b.nanos)⟩

instance (a b : Instant) : Decidable (a < b) :=
  inferInstanceAs (Decidable (a.seconds < b.seconds ∨ (a.seconds = b.seconds ∧ a.nanos < b.nanos)))

instance (a b : Instant) : Decidable (a ≤ b) :=
  inferInstanceAs (Decidable (a.seconds < b.seconds ∨ (a.seconds = b.seconds ∧ a.nanos ≤ b.nanos)))

/-- The later of two instants. -/
instance : Max Instant := ⟨fun a b => if a < b then b else a⟩

theorem lt_def (a b : Instant) : a < b ↔ a.seconds < b.seconds ∨ (a.seconds = b.seconds ∧ a.nanos < b.nanos) := Iff.rfl

theorem le_def (a b : Instant) : a ≤ b ↔ a.seconds < b.seconds ∨ (a.seconds = b.seconds ∧ a.nanos ≤ b.nanos) := Iff.rfl

theorem not_lt (a b : Instant) : ¬a < b ↔ b ≤ a := by
  simp only [lt_def, le_def]
  omega

/-- The day of an instant, by its number from 1970-01-01. -/
def day (t : Instant) : Int := t.seconds / 86400

/-- The second of the day, a leap second being the one before it. -/
def secondOfDay (t : Instant) : Nat := (t.seconds % 86400).toNat

/-- The date of an instant. -/
def date (t : Instant) : Date := Date.ofDays t.day

/-- The hour of the day. -/
def hour (t : Instant) : Nat := t.secondOfDay / 3600

/-- The minute of the hour. -/
def minute (t : Instant) : Nat := t.secondOfDay / 60 % 60

/-- The second of the minute, a leap second being the one before it. -/
def second (t : Instant) : Nat := t.secondOfDay % 60

/-- The instant at an hour and a minute of a day. -/
def atMinute (day : Int) (hour minute : Nat) : Instant := ⟨day * 86400 + (hour * 3600 + minute * 60 : Nat), 0⟩

/-- The beginning of the minute that an instant lies in. -/
def toMinute (t : Instant) : Instant := ⟨t.seconds - t.seconds % 60, 0⟩

/-- An instant moved by whole seconds. -/
def shift (t : Instant) (seconds : Int) : Instant := ⟨t.seconds + seconds, t.nanos⟩

/-- Whether an instant lies in the calendar. -/
def inCalendar (t : Instant) : Bool := Date.firstDay ≤ t.day && t.day ≤ Date.lastDay

/-- The nanoseconds from one instant to another: the difference of their days and times of day, where a leap second counts
once it is over on the clock. -/
def elapsedNanos (t since : Instant) : Int :=
  let days := (t.day - since.day) * 86400
  let clock : Int := (t.secondOfDay : Int) - since.secondOfDay
  let leap : Int :=
    if since.secondOfDay < t.secondOfDay then (if billion ≤ since.nanos then 1 else 0)
    else if t.secondOfDay < since.secondOfDay then (if billion ≤ t.nanos then -1 else 0)
    else 0
  (days + clock + leap) * billion + ((t.nanos : Int) - since.nanos)

end Instant

end StandingQuery
