import StandingQuery.Text.Digits
import StandingQuery.Text.Rest

/-!
# Quoted TOML text

The four kinds of strings: with escapes or literal, on one line or on several. Lines end in line feeds alone; a text with other
line ends is brought into that form before it is read.
-/

namespace StandingQuery.Toml

open Text (Rest AtMost Scanner)

/-- The blanks within a line. -/
def isBlank (c : Char) : Bool := c == ' ' || c == '\t'

/-- Whether a character may stand for itself in strings and comments: no control but the tab. -/
def isPlain (c : Char) : Bool := c == '\t' || (0x20 ≤ c.toNat && c.toNat != 0x7F)

/-- The character with a code, if there is one. -/
def charOf? (n : Nat) : Option Char := if n.isValidChar then some (Char.ofNat n) else none

/-- The character that so many hexadecimal digits name. -/
def codePoint (width : Nat) (s : List Char) : Option (Char × AtMost s) := do
  let ds := s.take width
  if ds.length < width then none
  else
    let n ← ds.foldlM (fun n c => (Text.hexVal? c).map (n * 16 + ·)) 0
    let c ← charOf? n
    some (c, .drop width s)

/-- The character that a short escape stands for. -/
def shortEscape (c : Char) : Option Char :=
  match c with
  | '"' => some '"'
  | '\\' => some '\\'
  | 'b' => some '\x08'
  | 'f' => some '\x0C'
  | 'n' => some '\n'
  | 'r' => some '\r'
  | 't' => some '\t'
  | _ => none

/-- Takes what follows the backslash of an escape. -/
def escape (s : List Char) : Option (Char × Rest s) :=
  match s with
  | [] => none
  | c :: r =>
    if c = 'u' then (codePoint 4 r).map fun q => (q.1, q.2.push)
    else if c = 'U' then (codePoint 8 r).map fun q => (q.1, q.2.push)
    else (shortEscape c).map fun d => (d, .tail r)

/-- Takes a string with escapes whose opening quote was taken. -/
def basicTail (s : List Char) : Option (List Char × Rest s) :=
  match s with
  | [] => none
  | '"' :: r => some ([], .tail r)
  | '\\' :: r =>
    match escape r with
    | none => none
    | some (c, q) => (basicTail q.1).map fun t => (c :: t.1, (q.leavingRest t.2).push)
  | c :: r =>
    if isPlain c then (basicTail r).map fun t => (c :: t.1, t.2.push) else none
termination_by s.length

/-- Takes a literal string whose opening quote was taken. -/
def literalTail (s : List Char) : Option (List Char × Rest s) :=
  match s with
  | [] => none
  | '\'' :: r => some ([], .tail r)
  | c :: r =>
    if isPlain c then (literalTail r).map fun t => (c :: t.1, t.2.push) else none

/-- Takes the quotes that end a string of several lines, when three of them stand in front; up to two more before those belong to
the string. -/
def closing (quote : Char) (s : List Char) : Option (List Char × Rest s) :=
  match s with
  | a :: b :: c :: r =>
    if a = quote ∧ b = quote ∧ c = quote then
      match r with
      | d :: e :: t =>
        if d = quote ∧ e = quote then some ([quote, quote], (Text.Rest.tail t).push.push.push.push)
        else if d = quote then some ([quote], (Text.Rest.tail (e :: t)).push.push.push)
        else some ([], (Text.Rest.tail (d :: e :: t)).push.push)
      | [d] =>
        if d = quote then some ([quote], (Text.Rest.tail []).push.push.push)
        else some ([], (Text.Rest.tail [d]).push.push)
      | [] => some ([], (Text.Rest.tail []).push.push)
    else none
  | _ => none

/-- Whether a character may stand for itself in a string of several lines. -/
def isPlainOrLineEnd (c : Char) : Bool := isPlain c || c == '\n'

/-- Takes a string of several lines with escapes, whose opening quotes were taken. A backslash at the end of a line joins it to
the next character that is no blank. -/
def basicLinesTail (s : List Char) : Option (List Char × Rest s) :=
  match closing '"' s with
  | some found => some found
  | none =>
    match s with
    | [] => none
    | '\\' :: r =>
      if (r.dropWhile isBlank).head? = some '\n' then
        let joined := (Text.AtMost.dropWhile (fun c => isBlank c || c == '\n') r).push
        (basicLinesTail joined.1).map fun t => (t.1, joined.leavingRest t.2)
      else
        match escape r with
        | none => none
        | some (c, q) =>
          (basicLinesTail q.1).map fun t => (c :: t.1, (q.leavingRest t.2).push)
    | c :: r =>
      if isPlainOrLineEnd c then (basicLinesTail r).map fun t => (c :: t.1, t.2.push)
      else none
termination_by s.length
decreasing_by
  · exact joined.2
  · exact q.push.2
  · exact Nat.lt_succ_self _

/-- Takes a literal string of several lines whose opening quotes were taken. -/
def literalLinesTail (s : List Char) : Option (List Char × Rest s) :=
  match closing '\'' s with
  | some found => some found
  | none =>
    match s with
    | [] => none
    | c :: r =>
      if isPlainOrLineEnd c then (literalLinesTail r).map fun t => (c :: t.1, t.2.push)
      else none

/-- A text without a line end at its front. -/
def dropLineEnd (s : List Char) : AtMost s :=
  match s with
  | '\n' :: r => (Text.Rest.tail r).atMost
  | other => .all other

/-- Takes a string on one line. -/
def lineString : Scanner String := fun s =>
  match s with
  | '"' :: r => (basicTail r).map fun t => (String.ofList t.1, t.2.push)
  | '\'' :: r => (literalTail r).map fun t => (String.ofList t.1, t.2.push)
  | _ => none

/-- Takes a string of any kind. -/
def string : Scanner String := fun s =>
  match s with
  | '"' :: '"' :: '"' :: r =>
    (basicLinesTail (dropLineEnd r).1).map fun t => (String.ofList t.1, ((dropLineEnd r).leavingRest t.2).push.push.push)
  | '\'' :: '\'' :: '\'' :: r =>
    (literalLinesTail (dropLineEnd r).1).map fun t => (String.ofList t.1, ((dropLineEnd r).leavingRest t.2).push.push.push)
  | other => lineString other

end StandingQuery.Toml
