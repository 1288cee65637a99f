import StandingQuery.Time.Instant
import StandingQuery.Text.Digits

/-!
# Written instants

Instants as texts. A year from 0 to 9999 has four digits, any other a sign and at least four; the fraction has the least of
0, 3, 6 and 9 digits that is exact; a leap second is written as second 60.
-/

namespace StandingQuery.Instant

/-- The year of a written instant. -/
def writeYear (year : Int) : List Char :=
  if 0 ≤ year ∧ year ≤ 9999 then Text.fixedDigits 4 year.toNat
  else (if year < 0 then '-' else '+') :: Text.paddedDigits 4 year.natAbs

/-- The date of a written instant. -/
def writeDate (d : Date) : List Char :=
  writeYear d.year ++ '-' :: Text.fixedDigits 2 d.month ++ '-' :: Text.fixedDigits 2 d.day

/-- The fraction of a written second, with as many groups of three digits as it needs. -/
def writeFraction (nanos : Nat) : List Char :=
  if nanos = 0 then []
  else if nanos % 1000000 = 0 then '.' :: Text.fixedDigits 3 (nanos / 1000000)
  else if nanos % 1000 = 0 then '.' :: Text.fixedDigits 6 (nanos / 1000)
  else '.' :: Text.fixedDigits 9 nanos

/-- The time of day of a written instant. -/
def writeTime (t : Instant) : List Char :=
  let leap := billion ≤ t.nanos
  Text.fixedDigits 2 t.hour ++ ':' :: Text.fixedDigits 2 t.minute ++
    ':' :: Text.fixedDigits 2 (if leap then t.second + 1 else t.second) ++
    writeFraction (if leap then t.nanos - billion else t.nanos)

/-- An instant as a text, with the given name for Coordinated Universal Time at its end. -/
def write (t : Instant) (zone : List Char) : List Char := writeDate t.date ++ 'T' :: writeTime t ++ zone

/-- An instant as it stands in records, ending in `Z`. -/
def toRecord (t : Instant) : String := String.ofList (t.write ['Z'])

/-- An instant as it stands in the rows of a shared registry, ending in a numeric offset. -/
def toRow (t : Instant) : String := String.ofList (t.write ['+', '0', '0', ':', '0', '0'])

/-- The month, day, year, hour and minute of an instant, as they stand in the heading of a mail. -/
def toHeading (t : Instant) : String :=
  let d := t.date
  String.ofList (Text.fixedDigits 2 d.month ++ '/' :: Text.fixedDigits 2 d.day ++ '/' :: writeYear d.year ++
    ' ' :: Text.fixedDigits 2 t.hour ++ ':' :: Text.fixedDigits 2 t.minute)

end StandingQuery.Instant
