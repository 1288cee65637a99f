import StandingQuery.Json.Basic
import StandingQuery.Decimal.Layout

/-!
# Compact JSON text

A value as text without blanks. Strings escape the quote, the backslash and the controls below the space, and nothing else;
a double is written so that the fewest digits read back.
-/

namespace StandingQuery.Json

/-- Doubles are written positionally from `1e-5` up to `1e16`, always with a point, and otherwise with a signed power. -/
def doubleLayout : Decimal.Layout where
  positional lead := -5 ≤ lead && lead < 16
  integralEnd := ['.', '0']
  plus := ['+']

/-- One character as it stands inside a string. -/
def escapedChar (c : Char) : List Char :=
  match c with
  | '"' => ['\\', '"']
  | '\\' => ['\\', '\\']
  | '\x08' => ['\\', 'b']
  | '\x0C' => ['\\', 'f']
  | '\n' => ['\\', 'n']
  | '\r' => ['\\', 'r']
  | '\t' => ['\\', 't']
  | _ => if c.toNat < 0x20 then ['\\', 'u'] ++ Text.fixedHexDigits 4 c.toNat else [c]

/-- The text of a string. -/
def writeString (s : String) : List Char := '"' :: s.toList.flatMap escapedChar ++ ['"']

/-- The text of a number. -/
def writeNumber : Number → List Char
  | .int i => Text.signedDigits i
  | .double bits => doubleLayout.write bits

mutual

/-- The text of a value. -/
def write : Json → List Char
  | .null => ['n', 'u', 'l', 'l']
  | .bool true => ['t', 'r', 'u', 'e']
  | .bool false => ['f', 'a', 'l', 's', 'e']
  | .num n => writeNumber n
  | .str s => writeString s
  | .arr [] => ['[', ']']
  | .arr (item :: items) => '[' :: write item ++ writeItems items
  | .obj [] => ['{', '}']
  | .obj ((key, value) :: members) => '{' :: writeString key ++ ':' :: write value ++ writeMembers members

/-- The text of the later items of a list, up to its closing bracket. -/
def writeItems : List Json → List Char
  | [] => [']']
  | item :: items => ',' :: write item ++ writeItems items

/-- The text of the later members of an object, up to its closing brace. -/
def writeMembers : List (String × Json) → List Char
  | [] => ['}']
  | (key, value) :: members => ',' :: writeString key ++ ':' :: write value ++ writeMembers members

end

/-- A value as compact text. -/
def compact (j : Json) : String := String.ofList j.write

end StandingQuery.Json
