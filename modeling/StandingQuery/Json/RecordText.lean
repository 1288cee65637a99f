import StandingQuery.Json.Reader
import StandingQuery.Json.Skip
import StandingQuery.Json.Decode

/-!
# Records in JSON text

Readers of records straight from text, so that a mismatch is reported with its place. As with values, a record may be written
as an object or as a list of its fields; a field named twice is a mismatch here.
-/

namespace StandingQuery.Json

/-- The fault of a text that begins with a value of another type; the value is read first, so that a flaw in it comes before
the mismatch. -/
def mistypedText (expected : String) (s : List Char) : Fault :=
  let mismatch (found : Found) (left : List Char) : Fault := .mismatch (.wrongType found expected) left
  match s with
  | [] => .before .endInValue []
  | 'n' :: r =>
    match expect ['u', 'l', 'l'] r with
    | .ok q => mismatch .null q.1
    | .error f => f
  | 't' :: r =>
    match expect ['r', 'u', 'e'] r with
    | .ok q => mismatch (.bool true) q.1
    | .error f => f
  | 'f' :: r =>
    match expect ['a', 'l', 's', 'e'] r with
    | .ok q => mismatch (.bool false) q.1
    | .error f => f
  | '-' :: r =>
    match number true r with
    | .ok (n, q) => mismatch (Json.num n).found q.1
    | .error f => f
  | '"' :: r =>
    match stringTail r with
    | .ok (cs, q) => mismatch (.text (String.ofList cs)) q.1
    | .error f => f
  | '[' :: r => mismatch .list ('[' :: r)
  | '{' :: r => mismatch .object ('{' :: r)
  | c :: r =>
    if c.isDigit then
      match number false (c :: r) with
      | .ok (n, q) => mismatch (Json.num n).found q.1
      | .error f => f
    else .here .noValue (c :: r)

/-- Reads a string. -/
def textReader : Reader String := fun s =>
  match h : (skipBlanks s).1 with
  | '"' :: r => (stringTail r).map fun q => (String.ofList q.1, ((skipBlanks s).tail h).leavingRest q.2)
  | other => .error (mistypedText "a string" other)

/-- Reads a value that may be `null`. -/
def optionalReader {α : Type} (read : Reader α) : Reader (Option α) := fun s =>
  match h : (skipBlanks s).1 with
  | 'n' :: r => (expect ['u', 'l', 'l'] r).map fun q => (none, ((skipBlanks s).tail h).leaving q)
  | _ => (read s).map fun q => (some q.1, q.2)

/-- Reads a list. -/
def listReader {α : Type} (item : Reader α) : Reader (List α) := fun s =>
  match h : (skipBlanks s).1 with
  | '[' :: r => (itemsTail item true r).map fun q => (q.1, ((skipBlanks s).tail h).leavingRest q.2)
  | other => .error (mistypedText "a sequence" other)

/-! ## Records as objects -/

/-- A text just behind the closing brace, if it goes on with one; a mismatch between the members is placed there. -/
def behindBrace (s : List Char) : List Char :=
  match (skipBlanks s).1 with
  | '}' :: r => r
  | other => other

/-- Reads the value of a field whose key has been read; `slot` is what the field holds already. -/
def fieldReader {α : Type} (key : String) (slot : Option α) (read : Reader α) : Reader (Option α) := fun s =>
  if slot.isSome then .error (.mismatch (.duplicateField key) (behindBrace s))
  else (keyed read s).map fun q => (some q.1, q.2)

/-- Passes over the value of a member that the record does not know. -/
def unknownMember {σ : Type} (gathered : σ) : Reader σ := fun s =>
  (keyed skipValue s).map fun q => (gathered, q.2)

/-! ## Records as lists of their fields -/

/-- Where the next item of a list begins, or that there is none. -/
def nextItem (first : Bool) (s : List Char) : Except Fault (Option (AtMost s)) :=
  match h : (skipBlanks s).1 with
  | [] => .error (.before .endInList [])
  | ']' :: _ => .ok none
  | c :: r =>
    if first then .ok (some (skipBlanks s))
    else if c = ',' then
      match (skipBlanks r).1 with
      | [] => .error (.before .endInValue [])
      | ']' :: t => .error (.here .trailingComma (']' :: t))
      | _ => .ok (some (((skipBlanks s).tail h).leaving (skipBlanks r)).atMost)
    else .error (.here .noListComma (c :: r))

/-- A text just behind the closing bracket, if it goes on with one. -/
def behindBracket (s : List Char) : List Char :=
  match (skipBlanks s).1 with
  | ']' :: r => r
  | other => other

/-- Reads the field at a position of a list of fields; a missing one takes its default, if it has one. -/
def rowField {α : Type} (shape : String) (i : Nat) (read : Reader α) (default : Option α) (s : List Char) :
    Except Fault (α × AtMost s) :=
  match nextItem (i == 0) s with
  | .error f => .error f
  | .ok none =>
    match default with
    | some a => .ok (a, .all s)
    | none => .error (.mismatch (.wrongLength i shape) (behindBracket s))
  | .ok (some t) => (read t.1).map fun q => (q.1, (t.leavingRest q.2).atMost)

/-- Takes the closing bracket of a list of fields. -/
def rowEnd (s : List Char) : Except Fault (Rest s) :=
  match h : (skipBlanks s).1 with
  | [] => .error (.before .endInList [])
  | ']' :: _ => .ok ((skipBlanks s).tail h)
  | ',' :: r =>
    match (skipBlanks r).1 with
    | ']' :: t => .error (.here .trailingComma (']' :: t))
    | left => .error (.here .trailingText left)
  | c :: r => .error (.here .trailingText (c :: r))

/-- Reads a record: `member` gathers the fields of an object and `build` makes the record of them; `row` reads a list of the
fields up to its closing bracket. -/
def recordReader {σ α : Type} (name : String) (start : σ) (member : σ → String → Reader σ) (build : σ → α)
    (row : (s : List Char) → Except Fault (α × AtMost s)) : Reader α := fun s =>
  match h : (skipBlanks s).1 with
  | '{' :: r => (membersTail member true start r).map fun q => (build q.1, ((skipBlanks s).tail h).leavingRest q.2)
  | '[' :: r =>
    match row r with
    | .error f => .error f
    | .ok (a, q) => (rowEnd q.1).map fun t => (a, ((skipBlanks s).tail h).leavingRest (q.leavingRest t))
  | other => .error (mistypedText ("struct " ++ name) other)

end StandingQuery.Json
