import StandingQuery.Json.Basic
import StandingQuery.Json.Printer
import StandingQuery.Text.Quoted

/-!
# Mismatches

Why a well-formed value is not of the shape asked for, and how that is said.
-/

namespace StandingQuery

/-- What stands where something else was expected. -/
inductive Found where
  | null
  | bool (b : Bool)
  | signed (i : Int)
  | unsigned (n : Nat)
  | double (bits : UInt64)
  | character (c : Char)
  | text (s : String)
  | list
  | object
  deriving DecidableEq, Repr

/-- Why a value is not of the shape asked for; the expectation is given in words. -/
inductive Mismatch where
  | wrongType (found : Found) (expected : String)
  /-- An integer outside the range of its type. -/
  | outOfRange (found : Found) (expected : String)
  /-- A list with too few or too many items for the record it stands for. -/
  | wrongLength (found : Nat) (expected : String)
  | missingField (name : String)
  | duplicateField (name : String)
  | unknownVariant (name : String) (variants : List String)
  /-- An object in place of a variant does not have exactly one key. -/
  | manyVariants
  /-- A text that its own grammar refuses, with that grammar's message. -/
  | refused (message : String)
  deriving DecidableEq, Repr

namespace Json

/-- What a value is when something else was expected. -/
def found : Json → Found
  | .null => .null
  | .bool b => .bool b
  | .num (.int i) => if i < 0 then .signed i else .unsigned i.toNat
  | .num (.double bits) => .double bits
  | .str s => .text s
  | .arr _ => .list
  | .obj _ => .object

end Json

/-- The words for what was found in a JSON value or text. -/
def Found.inJson : Found → String
  | .null => "null"
  | .bool b => if b then "boolean `true`" else "boolean `false`"
  | .signed i => "integer `" ++ Text.signedDecimal i ++ "`"
  | .unsigned n => "integer `" ++ Text.decimal n ++ "`"
  | .double bits => "floating point `" ++ String.ofList (Json.doubleLayout.write bits) ++ "`"
  | .character c => "character `" ++ String.singleton c ++ "`"
  | .text s => "string " ++ Text.quoted s
  | .list => "sequence"
  | .object => "map"

/-- The words for the variants of an enumeration. -/
def variantWords : List String → String
  | [] => "there are no variants"
  | [a] => "`" ++ a ++ "`"
  | [a, b] => "`" ++ a ++ "` or `" ++ b ++ "`"
  | names => "one of " ++ ", ".intercalate (names.map fun n => "`" ++ n ++ "`")

/-- The message of a mismatch in a JSON value or text. -/
def Mismatch.inJson : Mismatch → String
  | .wrongType found expected => "invalid type: " ++ found.inJson ++ ", expected " ++ expected
  | .outOfRange found expected => "invalid value: " ++ found.inJson ++ ", expected " ++ expected
  | .wrongLength found expected => "invalid length " ++ Text.decimal found ++ ", expected " ++ expected
  | .missingField name => "missing field `" ++ name ++ "`"
  | .duplicateField name => "duplicate field `" ++ name ++ "`"
  | .unknownVariant name variants => "unknown variant `" ++ name ++ "`, expected " ++ variantWords variants
  | .manyVariants => "invalid value: map, expected map with a single key"
  | .refused message => message

end StandingQuery
