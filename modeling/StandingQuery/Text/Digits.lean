/-!
# Digits

Natural numbers as decimal digits, padded where a format fixes the width, and the values that runs of digits name.
-/

namespace StandingQuery.Text

/-- The character of a digit below sixteen, letters in lower case. -/
def digitChar (d : Nat) : Char :=
  if d < 10 then Char.ofNat (48 + d) else Char.ofNat (87 + d)

/-- The value of a decimal digit. -/
def digitVal (c : Char) : Nat := c.toNat - 48

/-- The value of a hexadecimal digit, in either case. -/
def hexVal? (c : Char) : Option Nat :=
  let n := c.toNat
  if 48 ≤ n && n ≤ 57 then some (n - 48)
  else if 97 ≤ n && n ≤ 102 then some (n - 87)
  else if 65 ≤ n && n ≤ 70 then some (n - 55)
  else none

/-- The decimal digits of a number, the most significant first, a single zero for zero. -/
def digits (n : Nat) : List Char :=
  if n < 10 then [digitChar n] else digits (n / 10) ++ [digitChar (n % 10)]
termination_by n
decreasing_by omega

/-- The last `width` decimal digits of a number, with leading zeros where it has fewer. -/
def fixedDigits : Nat → Nat → List Char
  | 0, _ => []
  | width + 1, n => fixedDigits width (n / 10) ++ [digitChar (n % 10)]

/-- The decimal digits of a number with leading zeros up to a least width. -/
def paddedDigits (width n : Nat) : List Char :=
  let ds := digits n
  List.replicate (width - ds.length) '0' ++ ds

/-- The number that a run of decimal digits names. -/
def decimalValue (ds : List Char) : Nat := ds.foldl (fun n c => n * 10 + digitVal c) 0

/-- The lower-case hexadecimal digits of a number, the most significant first. -/
def hexDigits (n : Nat) : List Char :=
  if n < 16 then [digitChar n] else hexDigits (n / 16) ++ [digitChar (n % 16)]
termination_by n
decreasing_by omega

/-- The last `width` hexadecimal digits of a number, in lower case. -/
def fixedHexDigits : Nat → Nat → List Char
  | 0, _ => []
  | width + 1, n => fixedHexDigits width (n / 16) ++ [digitChar (n % 16)]

@[simp] theorem length_fixedDigits (width n : Nat) : (fixedDigits width n).length = width := by
  induction width generalizing n with
  | zero => rfl
  | succ k ih => simp [fixedDigits, ih]

@[simp] theorem length_fixedHexDigits (width n : Nat) : (fixedHexDigits width n).length = width := by
  induction width generalizing n with
  | zero => rfl
  | succ k ih => simp [fixedHexDigits, ih]

/-- An integer in decimal, with a minus sign when negative. -/
def signedDigits (i : Int) : List Char :=
  if i < 0 then '-' :: digits i.natAbs else digits i.natAbs

/-- A natural number in decimal. -/
def decimal (n : Nat) : String := String.ofList (digits n)

/-- An integer in decimal. -/
def signedDecimal (i : Int) : String := String.ofList (signedDigits i)

end StandingQuery.Text
