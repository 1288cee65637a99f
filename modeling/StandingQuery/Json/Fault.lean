import StandingQuery.Json.Mismatch
import StandingQuery.Text.Bytes
import StandingQuery.Text.Rest

/-!
# Faults in JSON text

Why a text is not read, and where. A fault keeps the text that was left when it arose; the line and the column are found from
that and the whole text, so that readers need not count.
-/

namespace StandingQuery.Json

/-- The ways in which a text is not JSON. -/
inductive Flaw where
  | endInValue
  | endInObject
  | endInList
  | endInString
  | noValue
  | noLiteral
  | noColon
  | noObjectComma
  | noListComma
  | keyNotString
  | trailingComma
  | trailingText
  | badNumber
  | numberTooLarge
  | badEscape
  | controlCharacter
  | unpairedSurrogate
  | unfinishedSurrogate
  | tooDeep
  deriving DecidableEq, Repr

/-- The message of a flaw. -/
def Flaw.message : Flaw → String
  | .endInValue => "EOF while parsing a value"
  | .endInObject => "EOF while parsing an object"
  | .endInList => "EOF while parsing a list"
  | .endInString => "EOF while parsing a string"
  | .noValue => "expected value"
  | .noLiteral => "expected ident"
  | .noColon => "expected `:`"
  | .noObjectComma => "expected `,` or `\x7d`"
  | .noListComma => "expected `,` or `]`"
  | .keyNotString => "key must be a string"
  | .trailingComma => "trailing comma"
  | .trailingText => "trailing characters"
  | .badNumber => "invalid number"
  | .numberTooLarge => "number out of range"
  | .badEscape => "invalid escape"
  | .controlCharacter => "control character (\\u0000-\\u001F) found while parsing a string"
  | .unpairedSurrogate => "lone leading surrogate in hex escape"
  | .unfinishedSurrogate => "unexpected end of hex escape"
  | .tooDeep => "recursion limit exceeded"

/-- Why a text is not read as a value of some shape. -/
inductive Cause where
  | flaw (f : Flaw)
  | mismatch (m : Mismatch)
  deriving DecidableEq, Repr

/-- The message of a cause, without its place. -/
def Cause.message : Cause → String
  | .flaw f => f.message
  | .mismatch m => m.inJson

/-- A cause with its place: `past` bytes into the text that was left. -/
structure Fault where
  cause : Cause
  left : List Char
  past : Nat
  deriving DecidableEq, Repr

namespace Fault

/-- A flaw at the first character of the text left. -/
def here (f : Flaw) (left : List Char) : Fault := ⟨.flaw f, left, 1⟩

/-- A flaw just before the text left. -/
def before (f : Flaw) (left : List Char) : Fault := ⟨.flaw f, left, 0⟩

/-- A mismatch just before the text left. -/
def mismatch (m : Mismatch) (left : List Char) : Fault := ⟨.mismatch m, left, 0⟩

/-- The line and the column after some bytes of a text: lines count from one, columns are the bytes since the line began. -/
def place : List UInt8 → Nat × Nat
  | bytes => bytes.foldl (fun p b => if b == 10 then (p.1 + 1, 0) else (p.1, p.2 + 1)) (1, 0)

/-- The message of a fault in a text, with its place. -/
def message (text : String) (f : Fault) : String :=
  let bytes := text.toUTF8.toList
  let p := place (bytes.take (bytes.length - Text.byteCount f.left + f.past))
  f.cause.message ++ " at line " ++ Text.decimal p.1 ++ " column " ++ Text.decimal p.2

end Fault

export Text (Rest AtMost)

/-- A reader takes a value off the front of a text and leaves less text, or reports a fault. -/
abbrev Reader (α : Type) := (s : List Char) → Except Fault (α × Rest s)

end StandingQuery.Json
