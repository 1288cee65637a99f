import StandingQuery.Time.Instant
import StandingQuery.Text.Blank
import StandingQuery.Text.Bytes
import StandingQuery.Text.Digits

/-!
# Timestamps

Three grammars for instants written as texts. `Timestamp.strict` is RFC 3339. `Timestamp.numeric` takes parts of any width with
blanks before them and a numeric offset whose colon may be missing. `Timestamp.relaxed` is the form in records: blanks around
every part, and the offset may be a name of Coordinated Universal Time. A schedule's timestamp (`Timestamp.parse`) may be in
either of the first two; when neither takes it, the second one says why.
-/

namespace StandingQuery

/-- Why a text is no timestamp. -/
inductive TimestampError where
  | premature
  | invalid
  | outOfRange
  | trailing
  /-- The instant lies beyond the calendar although its local time does not. -/
  | impossible
  deriving DecidableEq, Repr

namespace TimestampError

/-- The message of an error. -/
def message : TimestampError → String
  | .premature => "premature end of input"
  | .invalid => "input contains invalid characters"
  | .outOfRange => "input is out of range"
  | .trailing => "trailing input"
  | .impossible => "no possible date and time matching input"

end TimestampError

namespace Timestamp

/-- A part of a timestamp taken off the front of a text. -/
abbrev Scan (α : Type) := Except TimestampError (α × List Char)

/-- The parts of a timestamp; a second of 60 is a leap second. -/
structure Fields where
  year : Int
  month : Nat
  day : Nat
  hour : Nat
  minute : Nat
  second : Nat
  nanos : Nat
  /-- The seconds by which the local time is ahead. -/
  offset : Int
  deriving DecidableEq, Repr

/-- Whether a clock shows this time; a second of 60 is a leap second. -/
def isClockTime (hour minute second : Nat) : Bool := hour ≤ 23 && minute ≤ 59 && second ≤ 60

/-- The instant that the parts name, if there is one. -/
def Fields.instant (f : Fields) : Except TimestampError Instant :=
  let date : Date := ⟨f.year, f.month, f.day⟩
  if !date.exists? || !isClockTime f.hour f.minute f.second then .error .outOfRange
  else if f.offset ≤ -86400 ∨ 86400 ≤ f.offset then .error .outOfRange
  else
    let second := if f.second = 60 then 59 else f.second
    let nanos := if f.second = 60 then f.nanos + Instant.billion else f.nanos
    let t : Instant := ⟨date.toDays * 86400 + (f.hour * 3600 + f.minute * 60 + second : Nat) - f.offset, nanos⟩
    if t.inCalendar then .ok t else .error .impossible

/-- Takes one given character. -/
def literal (c : Char) : List Char → Scan Unit
  | [] => .error .premature
  | d :: s => if d = c then .ok ((), s) else .error .invalid

/-- Takes the separator of date and time: `T`, `t` or a space. -/
def separator : List Char → Scan Unit
  | [] => .error .premature
  | c :: s => if c = 'T' ∨ c = 't' ∨ c = ' ' then .ok ((), s) else .error .invalid

/-- Takes the digits of a fraction, at least one; those after the ninth are dropped. -/
def nanoseconds (s : List Char) : Scan Nat :=
  match s.takeWhile Char.isDigit with
  | [] => .error (if s.isEmpty then .premature else .invalid)
  | ds =>
    let kept := ds.take 9
    .ok (Text.decimalValue kept * Nat.pow 10 (9 - kept.length), s.dropWhile Char.isDigit)

/-- Takes a fraction if the text goes on with a point. -/
def fraction : List Char → Scan Nat
  | '.' :: s => nanoseconds s
  | s => .ok (0, s)

/-- The sign of an offset: a plus, a hyphen or a minus sign. -/
def sign : List Char → Scan Bool
  | [] => .error .premature
  | c :: s =>
    if c = '+' then .ok (false, s)
    else if c = '-' ∨ c = '−' then .ok (true, s)
    else .error .invalid

/-- Whether a text has fewer than two bytes. -/
def shorterThanTwoBytes (s : List Char) : Bool :=
  match s with
  | [] => true
  | [c] => c.utf8Size < 2
  | _ => false

/-- Takes the two digits of an offset's hours. -/
def offsetHours (s : List Char) : Scan Nat :=
  if shorterThanTwoBytes s then .error .premature
  else match s with
    | c :: d :: rest =>
      if c.isDigit && d.isDigit then .ok (Text.decimalValue [c, d], rest) else .error .invalid
    | _ => .error .invalid

/-- Takes the two digits of an offset's minutes. -/
def offsetMinutes (s : List Char) : Scan Nat :=
  if shorterThanTwoBytes s then .error .premature
  else match s with
    | c :: d :: rest =>
      if c.isDigit && d.isDigit then
        if Text.digitVal c ≤ 5 then .ok (Text.decimalValue [c, d], rest) else .error .outOfRange
      else .error .invalid
    | _ => .error .invalid

/-- Takes an offset in hours and minutes; `between` takes what stands between the two. -/
def offset (between : List Char → Scan Unit) (s : List Char) : Except TimestampError (Int × List Char) := do
  let (negative, s) ← sign s
  let (hours, s) ← offsetHours s
  let ((), s) ← between s
  let (minutes, s) ← offsetMinutes s
  let seconds : Int := (hours * 3600 + minutes * 60 : Nat)
  .ok (if negative then -seconds else seconds, s)

/-- Takes any run of colons and blanks. -/
def colonsOrBlanks (s : List Char) : Scan Unit := .ok ((), s.dropWhile fun c => c == ':' || Text.isBlank c)

/-- Nothing may be left of a text. -/
def finish (f : Fields) : List Char → Except TimestampError Fields
  | [] => .ok f
  | _ => .error .trailing

/-! ## RFC 3339 -/

/-- Takes exactly so many digits. -/
def fixed : Nat → List Char → Scan Nat
  | 0, s => .ok (0, s)
  | _ + 1, [] => .error .premature
  | n + 1, c :: s =>
    if c.isDigit then
      match fixed n s with
      | .ok (v, rest) => .ok (Text.digitVal c * Nat.pow 10 n + v, rest)
      | .error e => .error e
    else .error .invalid

/-- Takes an offset of RFC 3339: `Z`, or hours and minutes with a colon. -/
def strictOffset : List Char → Scan Int
  | [] => .error .premature
  | c :: s => if c = 'Z' ∨ c = 'z' then .ok (0, s) else offset (literal ':') (c :: s)

/-- Reads the parts of RFC 3339: fixed widths, a separator of one character, and an offset. -/
def strictFields (s : List Char) : Except TimestampError Fields := do
  if Text.byteCount s < 19 then throw .premature
  let (year, s) ← fixed 4 s
  let ((), s) ← literal '-' s
  let (month, s) ← fixed 2 s
  let ((), s) ← literal '-' s
  let (day, s) ← fixed 2 s
  if !Date.exists? ⟨year, month, day⟩ then throw .outOfRange
  let ((), s) ← separator s
  let (hour, s) ← fixed 2 s
  let ((), s) ← literal ':' s
  let (minute, s) ← fixed 2 s
  let ((), s) ← literal ':' s
  let (second, s) ← fixed 2 s
  let (nanos, s) ← fraction s
  if !isClockTime hour minute second then throw .outOfRange
  let (offset, s) ← strictOffset s
  finish ⟨year, month, day, hour, minute, second, nanos, offset⟩ s

/-- Reads an instant by RFC 3339. -/
def strict (s : List Char) : Except TimestampError Instant := do (← strictFields s).instant

/-! ## Parts of any width -/

/-- The end of the range of the numbers that are scanned. -/
def scanLimit : Nat := 0x8000000000000000

/-- Takes a number of at least one digit and at most so many, if there is a limit. -/
def digits (limit : Option Nat) (s : List Char) : Scan Nat :=
  let run := s.takeWhile Char.isDigit
  let ds := match limit with
    | some n => run.take n
    | none => run
  match ds with
  | [] => .error (if s.isEmpty then .premature else .invalid)
  | ds => if scanLimit ≤ Text.decimalValue ds then .error .outOfRange else .ok (Text.decimalValue ds, s.drop ds.length)

/-- Takes a number of one or two digits in a range, after blanks. -/
def part (low high : Nat) (s : List Char) : Except TimestampError (Nat × List Char) := do
  let (n, rest) ← digits (some 2) (Text.trimStart s)
  if low ≤ n ∧ n ≤ high then .ok (n, rest) else .error .outOfRange

/-- Takes a year as an integer of any size. -/
def signedYear : List Char → Scan Int
  | '-' :: t => (digits none t).map fun r => (-(r.1 : Int), r.2)
  | '+' :: t => (digits none t).map fun r => ((r.1 : Int), r.2)
  | t => (digits (some 4) t).map fun r => ((r.1 : Int), r.2)

/-- Takes a year, after blanks: with a sign any number of digits, without one at most four. -/
def yearPart (s : List Char) : Except TimestampError (Int × List Char) := do
  let (year, rest) ← signedYear (Text.trimStart s)
  if -0x80000000 ≤ year ∧ year < 0x80000000 then .ok (year, rest) else .error .outOfRange

/-- Reads parts of any width with a numeric offset whose colon may be missing. -/
def numeric (s : List Char) : Except TimestampError Instant := do
  let (year, s) ← yearPart s
  let ((), s) ← literal '-' s
  let (month, s) ← part 1 12 s
  let ((), s) ← literal '-' s
  let (day, s) ← part 1 31 s
  let ((), s) ← literal 'T' s
  let (hour, s) ← part 0 23 s
  let ((), s) ← literal ':' s
  let (minute, s) ← part 0 59 s
  let ((), s) ← literal ':' s
  let (second, s) ← part 0 60 s
  let (nanos, s) ← fraction s
  let (offset, s) ← offset colonsOrBlanks (Text.trimStart s)
  (← finish ⟨year, month, day, hour, minute, second, nanos, offset⟩ s).instant

/-- The instant that a schedule's timestamp names: RFC 3339, or else parts of any width. -/
def parse (text : String) : Except TimestampError Instant :=
  match strict text.toList with
  | .ok t => .ok t
  | .error _ => numeric text.toList

/-! ## The form in records -/

/-- Takes the offset of a record: a name of Coordinated Universal Time, or a numeric offset. -/
def relaxedOffset (s : List Char) : Scan Int :=
  match s with
  | [] => .error .premature
  | c :: rest =>
    if (s.take 3).map Char.toUpper = ['U', 'T', 'C'] then .ok (0, s.drop 3)
    else if c = 'Z' ∨ c = 'z' then .ok (0, rest)
    else offset colonsOrBlanks s

/-- Reads an instant as records hold it: blanks may stand around every part. -/
def relaxed (s : List Char) : Except TimestampError Instant := do
  let (year, s) ← yearPart s
  let ((), s) ← literal '-' (Text.trimStart s)
  let (month, s) ← part 1 12 s
  let ((), s) ← literal '-' (Text.trimStart s)
  let (day, s) ← part 1 31 s
  let ((), s) ← separator s
  let (hour, s) ← part 0 23 s
  let ((), s) ← literal ':' (Text.trimStart s)
  let (minute, s) ← part 0 59 s
  let ((), s) ← literal ':' (Text.trimStart s)
  let (second, s) ← part 0 60 s
  let (nanos, s) ← fraction s
  let (offset, s) ← relaxedOffset (Text.trimStart s)
  (← finish ⟨year, month, day, hour, minute, second, nanos, offset⟩ (Text.trimStart s)).instant

/-- The instant that a text in a record names. -/
def parseRecord (text : String) : Except TimestampError Instant := relaxed text.toList

/-- The instant that a text in a registry row names. -/
def parseRow (text : String) : Except TimestampError Instant := strict text.toList

/-- The instant whose clock in Coordinated Universal Time shows what a text shows on the clock of its own offset. -/
def parseShown (text : String) : Except TimestampError Instant := do
  let f ← strictFields text.toList
  return (← f.instant).shift f.offset

end Timestamp

end StandingQuery
