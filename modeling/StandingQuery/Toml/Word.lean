import StandingQuery.Decimal.Nearest
import StandingQuery.Text.Rest
import StandingQuery.Time.Calendar
import StandingQuery.Toml.Basic

/-!
# TOML words

The values that stand without quotes or brackets: truth values, integers, doubles, dates and times. A word is the longest run
of the characters that these are made of, and all of it has to be one value.
-/

namespace StandingQuery.Toml

open Text (Rest Scanner)

/-- Digits without the underscores between them; each underscore has to stand between two digits. -/
def ungrouped (isDigit : Char → Bool) : List Char → Option (List Char)
  | [] => none
  | [c] => if isDigit c then some [c] else none
  | c :: '_' :: s => if isDigit c then (ungrouped isDigit s).map (c :: ·) else none
  | c :: s => if isDigit c then (ungrouped isDigit s).map (c :: ·) else none

/-- The number that digits of a base up to sixteen name. -/
def valueIn (base : Nat) (ds : List Char) : Nat := ds.foldl (fun n c => n * base + (Text.hexVal? c).getD 0) 0

/-- Whether a character is a digit of a base up to sixteen. -/
def isDigitIn (base : Nat) (c : Char) : Bool := ((Text.hexVal? c).map fun n => decide (n < base)).getD false

/-- The digits of a decimal number without a superfluous zero in front. -/
def decimalDigits (w : List Char) : Option (List Char) := do
  let ds ← ungrouped Char.isDigit w
  if ds.length > 1 ∧ ds.head? = some '0' then none else some ds

/-- A sign taken off a word: whether it was a minus, and the rest. -/
def signed (w : List Char) : Bool × List Char :=
  match w with
  | '-' :: r => (true, r)
  | '+' :: r => (false, r)
  | r => (false, r)

/-- The integer that a word names, whatever its size. -/
def integerOf (w : List Char) : Option Int :=
  match w with
  | '0' :: 'x' :: ds => (ungrouped (isDigitIn 16) ds).map fun ds => (valueIn 16 ds : Int)
  | '0' :: 'o' :: ds => (ungrouped (isDigitIn 8) ds).map fun ds => (valueIn 8 ds : Int)
  | '0' :: 'b' :: ds => (ungrouped (isDigitIn 2) ds).map fun ds => (valueIn 2 ds : Int)
  | w =>
    let (negative, ds) := signed w
    (decimalDigits ds).map fun ds =>
      let n : Int := Text.decimalValue ds
      if negative then -n else n

/-- The value of an integer: it has to fit into 64 bits with its sign. -/
def integerValue (i : Int) : Option Toml := if -0x8000000000000000 ≤ i ∧ i < 0x8000000000000000 then some (.integer i) else none

/-- The power of ten that a word names after its `e`. -/
def powerOf (w : List Char) : Option Int :=
  let (negative, ds) := signed w
  (ungrouped Char.isDigit ds).map fun ds =>
    let n : Int := Text.decimalValue ds
    if negative then -n else n

/-- Whether a character marks a power of ten. -/
def isPowerMark (c : Char) : Bool := c == 'e' || c == 'E'

/-- The bits of the double that a word names: digits with a fraction, a power of ten or both, or a name. -/
def doubleOf (w : List Char) : Option UInt64 :=
  let (negative, r) := signed w
  if r = ['i', 'n', 'f'] then some (Decimal.infinity negative)
  else if r = ['n', 'a', 'n'] then some Decimal.notANumber
  else do
    let mantissa := r.takeWhile fun c => !isPowerMark c
    let power ← match r.drop mantissa.length with
      | [] => some 0
      | _ :: p => powerOf p
    let whole ← decimalDigits (mantissa.takeWhile (· != '.'))
    let fraction ← match mantissa.dropWhile (· != '.') with
      | [] => if r.any isPowerMark then some [] else none
      | _ :: ds => ungrouped Char.isDigit ds
    let bits := Decimal.nearest negative (Text.decimalValue (whole ++ fraction)) (power - fraction.length)
    if bits = Decimal.infinity false then none else some bits

/-- The number that two digits name, if it is at most a bound. -/
def pair (most : Nat) (a b : Char) : Bool := a.isDigit && b.isDigit && Text.decimalValue [a, b] ≤ most

/-- Whether a word is a date of the calendar. -/
def isDate (w : List Char) : Bool :=
  match w with
  | [a, b, c, d, '-', e, f, '-', g, h] =>
    [a, b, c, d, e, f, g, h].all Char.isDigit &&
      Date.exists? ⟨Text.decimalValue [a, b, c, d], Text.decimalValue [e, f], Text.decimalValue [g, h]⟩
  | _ => false

/-- Whether a text is an offset: a letter, or hours and minutes with a sign. -/
def isZone (s : List Char) : Bool :=
  match s with
  | [z] => z == 'Z' || z == 'z'
  | [sign, a, b, ':', c, d] => (sign == '+' || sign == '-') && pair 23 a b && pair 59 c d
  | _ => false

/-- What is left of a text after a time of day, if there is one at its front. -/
def afterClock (s : List Char) : Option (List Char) :=
  match s with
  | a :: b :: ':' :: c :: d :: ':' :: e :: f :: r =>
    if pair 23 a b && pair 59 c d && pair 60 e f then
      match r with
      | '.' :: t => if (t.takeWhile Char.isDigit).isEmpty then none else some (t.dropWhile Char.isDigit)
      | other => some other
    else none
  | _ => none

/-- Whether a word is a date, a time of day, or a date and a time of day that may have an offset. -/
def isMoment (w : List Char) : Bool :=
  if isDate (w.take 10) then
    match w.drop 10 with
    | [] => true
    | separator :: clock =>
      (separator == 'T' || separator == 't' || separator == ' ') &&
        match afterClock clock with
        | some [] => true
        | some zone => isZone zone
        | none => false
  else afterClock w == some []

/-- The value of a word. -/
def ofWord (w : List Char) : Option Toml :=
  if w = ['t', 'r', 'u', 'e'] then some (.boolean true)
  else if w = ['f', 'a', 'l', 's', 'e'] then some (.boolean false)
  else
    match integerOf w with
    | some i => integerValue i
    | none =>
      match doubleOf w with
      | some bits => some (.double bits)
      | none => if isMoment w then some (.moment (String.ofList w)) else none

/-- The characters of words. -/
def isWordChar (c : Char) : Bool := c.isAlphanum || c == '+' || c == '-' || c == '.' || c == ':' || c == '_'

/-- The word at the front of a text; a date and a time of day may be parted by a single space. -/
def wordAt (s : List Char) : List Char :=
  let w := s.takeWhile isWordChar
  match s.drop w.length with
  | ' ' :: r => if isDate w then w ++ (if (r.takeWhile isWordChar).isEmpty then [] else ' ' :: r.takeWhile isWordChar) else w
  | _ => w

/-- Takes a word. -/
def word : Scanner Toml := fun s =>
  match s with
  | [] => none
  | c :: r => do
    let w := wordAt (c :: r)
    if w.isEmpty then none
    else
      let v ← ofWord w
      some (v, (Text.AtMost.drop (w.length - 1) r).push)

end StandingQuery.Toml
