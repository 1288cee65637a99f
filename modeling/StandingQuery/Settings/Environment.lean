import StandingQuery.Decimal.Nearest
import StandingQuery.Settings.Layer
import StandingQuery.Text.Blank
import StandingQuery.Text.Rest
import StandingQuery.Toml.Quoted

/-!
# Settings in the environment

A variable whose name begins with `BEACON_`, in upper or lower case, holds the setting whose keys are named by the parts of the
rest of its name, parted by two underscores; a name with an empty part holds none. Its value is guessed from its text: truth
values, numbers, quoted strings, lists and tables are taken for what they look like, blanks around them aside; a plain word is a
string without the blanks around it, and a text that is no value is a string as it stands.
-/

namespace StandingQuery.Environment

open Text (Rest AtMost)

/-- What the names of the variables begin with. -/
def namePrefix : String := "BEACON_"

/-! ## Names -/

/-- A name cut at pairs of underscores and at points. -/
def keysOf : List Char → List (List Char)
  | [] => [[]]
  | '_' :: '_' :: s => [] :: keysOf s
  | c :: s =>
    if c = '.' then [] :: keysOf s
    else
      match keysOf s with
      | [] => [[c]]
      | k :: ks => (c :: k) :: ks

/-- The keys that the name of a variable stands for, in lower case; none for a variable that holds no setting. -/
def path (name : String) : List String :=
  let cs := (Text.trim name.toList).map Char.toLower
  let front := namePrefix.toList.map Char.toLower
  let keys := keysOf (Text.trim (cs.drop front.length))
  if cs.take front.length = front && keys.all (!·.isEmpty) then keys.map String.ofList else []

/-! ## Values -/

/-- Takes part of a value off the front of a text, perhaps an empty one. -/
abbrev Scan (α : Type) := (s : List Char) → Option (α × AtMost s)

/-- The blanks of values. -/
def isBlank (c : Char) : Bool := c == ' ' || c == '\t' || c == '\n' || c == '\r' || c == '\x0C'

/-- A text without the blanks at its front. -/
def skipBlanks (s : List Char) : AtMost s := .dropWhile isBlank s

/-- Whether a character may stand in a value without quotes. -/
def isLoose (c : Char) : Bool := !(c == ',' || c == '{' || c == '}' || c == '[' || c == ']')

/-- Whether a character may stand in a key without quotes. -/
def isKeyChar (c : Char) : Bool := c.isAlphanum || c == '_' || c == '-'

/-- Digits as the power of ten after an `e`, with a sign if there is one. -/
def powerOf (s : List Char) : Option Int :=
  let (negative, ds) := match s with
    | '-' :: r => (true, r)
    | '+' :: r => (false, r)
    | r => (false, r)
  if ds.isEmpty || !ds.all Char.isDigit then none
  else
    let n : Int := Text.decimalValue ds
    some (if negative then -n else n)

/-- The double that a text with a point names. -/
def doubleOf (s : List Char) : Option UInt64 := do
  let (negative, r) := match s with
    | '-' :: r => (true, r)
    | '+' :: r => (false, r)
    | r => (false, r)
  let mantissa := r.takeWhile fun c => !(c == 'e' || c == 'E')
  let power ← match r.drop mantissa.length with
    | [] => some 0
    | _ :: p => powerOf p
  let whole := mantissa.takeWhile (· != '.')
  let fraction ← match mantissa.dropWhile (· != '.') with
    | [] => none
    | _ :: ds => some ds
  let ds := whole ++ fraction
  if ds.isEmpty || !ds.all Char.isDigit then none
  else some (Decimal.nearest negative (Text.decimalValue ds) (power - fraction.length))

/-- The number that a text of digits names. -/
def naturalOf (s : List Char) : Option Nat :=
  let ds := match s with
    | '+' :: r => r
    | r => r
  if ds.isEmpty || !ds.all Char.isDigit then none
  else if Text.decimalValue ds < 0x10000000000000000 then some (Text.decimalValue ds) else none

/-- The number that a text of digits with a minus names. -/
def negativeOf (s : List Char) : Option Int :=
  match s with
  | '-' :: ds =>
    if ds.isEmpty || !ds.all Char.isDigit then none
    else if Text.decimalValue ds ≤ 0x8000000000000000 then some (-(Text.decimalValue ds : Int)) else none
  | _ => none

/-- What a text without quotes is taken for. -/
def guess (s : List Char) : Scalar :=
  match if s.contains '.' then doubleOf s else none with
  | some bits => .double bits
  | none =>
    match naturalOf s with
    | some n => .unsigned n
    | none =>
      match negativeOf s with
      | some i => .signed i
      | none => .text (String.ofList s)

/-- A setting of the environment. -/
def setting (v : Scalar) : Setting := .scalar .environment v

/-- Takes the items of a list up to its closing bracket. -/
def itemsTail (item : Scan Setting) (s : List Char) : Option (List Setting × AtMost s) :=
  match s with
  | ']' :: r => some ([], (Text.Rest.tail r).atMost)
  | s =>
    match item s with
    | none => none
    | some (v, q) =>
      match h : q.1 with
      | ',' :: _ =>
        let next := q.tail h
        (itemsTail item next.1).map fun t => (v :: t.1, (next.leaving t.2).atMost)
      | ']' :: _ => some ([v], (q.tail h).atMost)
      | _ => none
termination_by s.length
decreasing_by exact next.2

/-- Takes the key of a member. -/
def key (s : List Char) : Option (String × Rest s) :=
  match s with
  | [] => none
  | '"' :: r => (Toml.basicTail r).map fun t => (String.ofList t.1, t.2.push)
  | c :: r =>
    if isKeyChar c then some (String.ofList (c :: r.takeWhile isKeyChar), (AtMost.dropWhile isKeyChar r).push) else none

/-- Takes a key and its value. -/
def member (item : Scan Setting) (s : List Char) : Option ((String × Setting) × Rest s) :=
  match key (skipBlanks s).1 with
  | none => none
  | some (k, q) =>
    let behind := ((skipBlanks s).leavingRest q).leaving (skipBlanks q.1)
    match h : behind.1 with
    | '=' :: r =>
      match item (skipBlanks r).1 with
      | none => none
      | some (v, t) =>
        some ((k, v), (behind.atMost.tail h).leaving (((skipBlanks r).leaving t).leaving (skipBlanks t.1)))
    | _ => none

/-- Takes the members of a table up to its closing brace; of two with one key the later one stays. -/
def membersTail (item : Scan Setting) (gathered : Setting.Members) (s : List Char) :
    Option (Setting.Members × AtMost s) :=
  match s with
  | '}' :: r => some (gathered, (Text.Rest.tail r).atMost)
  | s =>
    match member item s with
    | none => none
    | some ((k, v), q) =>
      match h : q.1 with
      | ',' :: _ =>
        let next := q.atMost.tail h
        (membersTail item (Keyed.set k v gathered) next.1).map fun t => (t.1, (next.leaving t.2).atMost)
      | '}' :: _ => some (Keyed.set k v gathered, (q.atMost.tail h).atMost)
      | _ => none
termination_by s.length
decreasing_by exact next.2

/-- Takes a value without the blanks around it, its lists and tables nested at most so deep. -/
def bareValue : Nat → Scan Setting
  | depth, s =>
    match s with
    | 't' :: 'r' :: 'u' :: 'e' :: _ => some (setting (.boolean true), .drop 4 _)
    | 'f' :: 'a' :: 'l' :: 's' :: 'e' :: _ => some (setting (.boolean false), .drop 5 _)
    | '"' :: r =>
      (Toml.basicTail r).map fun t => (setting (.text (String.ofList t.1)), t.2.push.atMost)
    | '\'' :: c :: '\'' :: _ => some (setting (.character c), .drop 3 _)
    | '\'' :: _ => none
    | '[' :: r =>
      match depth with
      | 0 => none
      | below + 1 =>
        let item : Scan Setting := fun u =>
          (bareValue below (skipBlanks u).1).map fun q =>
            (q.1, ((skipBlanks u).leaving q.2).leaving (skipBlanks q.2.1))
        (itemsTail item r).map fun t => (.list .environment t.1, t.2.push.atMost)
    | '{' :: r =>
      match depth with
      | 0 => none
      | below + 1 =>
        (membersTail (bareValue below) [] r).map fun t => (.table .environment t.1, t.2.push.atMost)
    | s => some (setting (guess (Text.trim (s.takeWhile isLoose))), .dropWhile isLoose s)

/-- The setting that the text of a variable stands for; a text that is no value is a string as it stands. -/
def valueOf (text : String) : Setting :=
  let s := (skipBlanks text.toList).1
  match bareValue s.length s with
  | some (v, rest) => if (skipBlanks rest.1).1.isEmpty then v else setting (.text text)
  | none => setting (.text text)

/-- The settings that the variables of an environment hold, the later ones over the earlier ones. -/
def settings (vars : List (String × String)) : Setting.Members :=
  vars.foldl (fun layer v =>
    match path v.1 with
    | [] => layer
    | key :: path => Setting.mergeMembers layer [(key, Setting.nest .environment path (valueOf v.2))]) []

end StandingQuery.Environment
