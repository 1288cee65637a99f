import StandingQuery.Text.Bytes
import StandingQuery.Text.Digits
import StandingQuery.Text.Pieces

/-!
# Universally unique identifiers

Identifiers of 128 bits. The canonical text has five groups of lower-case hexadecimal digits; readers also take upper case, the
32 digits alone, the canonical form in braces, and the form of a URN. A text of the length of one of these forms that has hyphens
is judged as that form, from the first character of the canonical part on; any other text is judged as a whole.
-/

namespace StandingQuery

/-- An identifier of 128 bits. -/
structure Uuid where
  value : BitVec 128
  deriving DecidableEq, Repr, Inhabited

/-- Why a text is no identifier. -/
inductive UuidError where
  | length (found : Nat)
  | character (found : Char) (position : Nat)
  | groupCount (found : Nat)
  | groupLength (group expected found : Nat)
  deriving DecidableEq, Repr

namespace UuidError

/-- The message of an error. -/
def message : UuidError → String
  | .length n => "invalid length: found " ++ Text.decimal n
  | .character c i => "invalid character: found `" ++ String.singleton c ++ "` at " ++ Text.decimal i
  | .groupCount n => "invalid group count: expected 5, found " ++ Text.decimal n
  | .groupLength g e n =>
    "invalid group length in group " ++ Text.decimal g ++ ": expected " ++ Text.decimal e ++ ", found " ++ Text.decimal n

end UuidError

namespace Uuid

/-- The identifier with a number, taken below `2 ^ 128`. -/
def ofNat (n : Nat) : Uuid := ⟨BitVec.ofNat 128 n⟩

/-- The number of an identifier. -/
def toNat (u : Uuid) : Nat := u.value.toNat

/-- The lengths of the five groups of digits. -/
def groupLengths : List Nat := [8, 4, 4, 4, 12]

/-- Digits cut into groups of the given lengths, with hyphens between them. -/
def hyphenate : List Nat → List Char → List Char
  | [], ds => ds
  | [_], ds => ds
  | n :: ns, ds => ds.take n ++ '-' :: hyphenate ns (ds.drop n)

/-- The canonical text of an identifier. -/
def write (u : Uuid) : List Char := hyphenate groupLengths (Text.fixedHexDigits 32 u.toNat)

/-- The canonical text of an identifier, as a string. -/
def text (u : Uuid) : String := String.ofList u.write

/-- The number that hexadecimal digits name, if all of them are digits. -/
def hexValue? (ds : List Char) : Option Nat :=
  ds.foldlM (fun n c => (Text.hexVal? c).map (n * 16 + ·)) 0

/-- A text cut at its hyphens. -/
def groups (s : List Char) : List (List Char) := Text.pieces (· == '-') s

/-- The identifier that the hyphenated form names. -/
def ofHyphenated? (s : List Char) : Option Uuid :=
  let gs := groups s
  if gs.map List.length = groupLengths then (hexValue? gs.flatten).map ofNat else none

/-- The identifier that the digits alone name. -/
def ofDigits? (s : List Char) : Option Uuid :=
  if s.length = 32 then (hexValue? s).map ofNat else none

/-- The text in front of the canonical form in a URN, in lower case. -/
def urnFront : List Char := "urn:uuid:".toList

/-- What a text holds in its braces or behind the front of a URN, in upper or lower case, and the bytes of what stands there in
front; nothing for a text without either. -/
def unwrap (s : List Char) : Option (List Char × Nat) :=
  match s with
  | '{' :: inner => if inner.getLast? = some '}' then some (inner.dropLast, 1) else none
  | _ =>
    if (s.take urnFront.length).map Char.toLower = urnFront then some (s.drop urnFront.length, urnFront.length) else none

/-- The length of the canonical form. -/
def canonicalLength : Nat := 36

/-- The canonical form that a text is, or that it wraps, going by the number of its bytes alone. -/
def hyphenated (s : List Char) : Option (List Char) :=
  if Text.byteCount s = canonicalLength then some s
  else
    match unwrap s with
    | some (inner, _) => if Text.byteCount inner = canonicalLength then some inner else none
    | none => none

/-- The first character that is neither a hexadecimal digit nor a hyphen, with the bytes before it. -/
def strayCharacter : Nat → List Char → Option (Char × Nat)
  | _, [] => none
  | i, c :: s => if c = '-' ∨ (Text.hexVal? c).isSome then strayCharacter (i + c.utf8Size) s else some (c, i)

/-- What is wrong with the lengths of five groups; the last one is taken to reach from its place in the canonical form to the
end of a text of so many bytes. -/
def wrongGroup (bytes : Nat) : Nat → List Nat → List (List Char) → UuidError
  | i, n :: m :: ns, g :: gs => if g.length = n then wrongGroup bytes (i + 1) (m :: ns) gs else .groupLength i n g.length
  | i, ns, _ => .groupLength i (ns.headD 0) (bytes - (canonicalLength - ns.headD 0))

/-- What is wrong with text that should be in groups, of a text of so many bytes and with so many of them in front. -/
def misgrouped (bytes skipped : Nat) (s : List Char) : UuidError :=
  match strayCharacter skipped s with
  | some (c, i) => .character c i
  | none =>
    let gs := groups s
    if gs.length = groupLengths.length then wrongGroup bytes 0 groupLengths gs else .groupCount gs.length

/-- What is wrong with a text that is no identifier. -/
def diagnose (s : List Char) : UuidError :=
  let bytes := Text.byteCount s
  if bytes = 0 ∨ urnFront.length + canonicalLength < bytes then .length bytes
  else
    match hyphenated s with
    | some inner => misgrouped canonicalLength 0 inner
    | none =>
      match unwrap s with
      | some (inner, skipped) => misgrouped bytes skipped inner
      | none => if (groups s).length = 1 ∧ strayCharacter 0 s = none then .length bytes else misgrouped bytes 0 s

/-- The identifier that a text names. -/
def parse (text : String) : Except UuidError Uuid :=
  let s := text.toList
  match ((hyphenated s).bind ofHyphenated?).or (ofDigits? s) with
  | some u => .ok u
  | none => .error (diagnose s)

end Uuid

end StandingQuery
