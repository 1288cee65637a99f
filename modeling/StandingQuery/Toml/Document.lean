import StandingQuery.Toml.Quoted
import StandingQuery.Toml.Table
import StandingQuery.Toml.Word

/-!
# TOML documents

A document is a sequence of lines: headers that open tables, and keys with values that go into the table opened last. Main
definition: `Toml.parse`, which takes every text to the root table it describes, or to nothing.
-/

namespace StandingQuery.Toml

open Text (Rest AtMost Scanner)

/-- A text without the blanks at its front. -/
def skipBlanks (s : List Char) : AtMost s := .dropWhile isBlank s

/-- A text without the blanks, line ends and comments at its front. -/
def skipFiller (s : List Char) : AtMost s :=
  match s with
  | [] => .all []
  | c :: r =>
    if isBlank c || c == '\n' then (skipFiller r).push.atMost
    else if c = '#' then
      let behind := (AtMost.dropWhile isPlain r).push
      behind.atMost.leaving (skipFiller behind.1)
    else .all (c :: r)
termination_by s.length
decreasing_by
  · exact Nat.lt_succ_self _
  · exact behind.2

/-- How deep lists and tables in braces may be nested. -/
def depthLimit : Nat := 79

/-- How many parts a key may have. -/
def keyLimit : Nat := 79

/-! ## Keys -/

/-- Whether a character may stand in a key without quotes. -/
def isBareChar (c : Char) : Bool := c.isAlphanum || c == '_' || c == '-'

/-- Takes one part of a key. -/
def keyPart : Scanner String := fun s =>
  match s with
  | [] => none
  | c :: r =>
    if isBareChar c then some (String.ofList (c :: r.takeWhile isBareChar), (AtMost.dropWhile isBareChar r).push)
    else lineString (c :: r)

/-- Takes the parts of a key with the blanks around them. -/
def keyParts (s : List Char) : Option (List String × Rest s) :=
  match keyPart (skipBlanks s).1 with
  | none => none
  | some (part, q) =>
    let behind := ((skipBlanks s).leavingRest q).leaving (skipBlanks q.1)
    match h : behind.1 with
    | '.' :: _ =>
      let next := behind.atMost.tail h
      (keyParts next.1).map fun t => (part :: t.1, next.leavingRest t.2)
    | _ => some ([part], behind)
termination_by s.length
decreasing_by exact next.2

/-- Takes a key. -/
def key : Scanner (List String) := fun s => do
  let found ← keyParts s
  if keyLimit < found.1.length then none else some found

/-! ## Values -/

/-- Takes the items of a list up to its closing bracket. -/
def itemsTail (item : Scanner Toml) (s : List Char) : Option (List Toml × Rest s) :=
  match h : (skipFiller s).1 with
  | [] => none
  | ']' :: _ => some ([], (skipFiller s).tail h)
  | _ =>
    match item (skipFiller s).1 with
    | none => none
    | some (v, q) =>
      let behind := ((skipFiller s).leavingRest q).leaving (skipFiller q.1)
      match h2 : behind.1 with
      | ']' :: _ => some ([v], behind.atMost.tail h2)
      | ',' :: _ =>
        let next := behind.atMost.tail h2
        (itemsTail item next.1).map fun t => (v :: t.1, next.leavingRest t.2)
      | _ => none
termination_by s.length
decreasing_by exact next.2

/-- Takes a key and its value. -/
def keyValue (item : Scanner Toml) : Scanner (List String × Toml) := fun s =>
  match key s with
  | none => none
  | some (path, p) =>
    match h : p.1 with
    | '=' :: r =>
      (item (skipBlanks r).1).map fun t => ((path, t.1), (p.atMost.tail h).leavingRest ((skipBlanks r).leavingRest t.2))
    | _ => none

/-- Takes the members of a table in braces up to the closing brace. -/
def membersTail (item : Scanner Toml) (gathered : Node.Members) (s : List Char) : Option (Node.Members × Rest s) :=
  match keyValue item s with
  | none => none
  | some ((path, v), q) =>
    match Node.insert path v .header gathered with
    | none => none
    | some (_, members) =>
      let behind := q.leaving (skipBlanks q.1)
      match h : behind.1 with
      | '}' :: _ => some (members, behind.atMost.tail h)
      | ',' :: _ =>
        let next := behind.atMost.tail h
        (membersTail item members next.1).map fun t => (t.1, next.leavingRest t.2)
      | _ => none
termination_by s.length
decreasing_by exact next.2

/-- Takes a table whose opening brace was taken. -/
def inlineTail (item : Scanner Toml) (s : List Char) : Option (Node.Members × Rest s) :=
  match h : (skipBlanks s).1 with
  | '}' :: _ => some ([], (skipBlanks s).tail h)
  | _ => membersTail item [] s

/-- Takes a value nested at most so deep. -/
def value : Nat → Scanner Toml
  | depth, s =>
    match s with
    | [] => none
    | c :: r =>
      if c = '"' ∨ c = '\'' then (string (c :: r)).map fun t => (.text t.1, t.2)
      else if c = '[' then
        match depth with
        | 0 => none
        | below + 1 => (itemsTail (value below) r).map fun t => (.list t.1, t.2.push)
      else if c = '{' then
        match depth with
        | 0 => none
        | below + 1 => (inlineTail (value below) r).map fun t => (.table (Node.toMembers t.1), t.2.push)
      else word (c :: r)

/-! ## Lines -/

/-- A document as far as it was read. -/
structure Draft where
  root : Node.Members
  /-- The path of the header that came last. -/
  path : List String

/-- The text after a line, if nothing but blanks and a comment follows on it. -/
def atLineEnd (s : List Char) : Bool :=
  match (skipBlanks s).1 with
  | [] => true
  | c :: _ => c == '\n' || c == '#'

/-- Takes a header: with one bracket on either side it opens a table, with two another table of a list. -/
def header (d : Draft) : Scanner Draft := fun s =>
  match s with
  | '[' :: '[' :: r =>
    match key r with
    | none => none
    | some (path, q) =>
      match h : q.1 with
      | ']' :: ']' :: t =>
        (Node.openItem path d.root).map fun root =>
          (⟨root, path⟩, ((q.atMost.tail h).leavingRest (.tail t)).push.push)
      | _ => none
  | '[' :: r =>
    match key r with
    | none => none
    | some (path, q) =>
      match h : q.1 with
      | ']' :: _ => (Node.openTable path d.root).map fun root => (⟨root, path⟩, (q.atMost.tail h).push)
      | _ => none
  | _ => none

/-- Takes a key with its value, for the table opened last. -/
def assignment (d : Draft) : Scanner Draft := fun s =>
  match keyValue (value depthLimit) s with
  | none => none
  | some ((path, v), q) => (Node.atHeader (Node.insert path v) d.path d.root).map fun root => (⟨root, d.path⟩, q)

/-- Takes one line that is not blank. -/
def line (d : Draft) : Scanner Draft := fun s => if s.head? = some '[' then header d s else assignment d s

/-- Takes every line of a document. -/
def lines (d : Draft) (s : List Char) : Option Node.Members :=
  if (skipFiller s).1.isEmpty then some d.root
  else
    match line d (skipFiller s).1 with
    | none => none
    | some (d, q) =>
      let behind := (skipFiller s).leavingRest q
      if atLineEnd behind.1 then lines d behind.1 else none
termination_by s.length
decreasing_by exact behind.2

/-- A text whose lines all end in line feeds alone. -/
def normalized : List Char → List Char
  | '\r' :: '\n' :: s => '\n' :: normalized s
  | c :: s => c :: normalized s
  | [] => []

/-- A text without a byte order mark in front. -/
def withoutMark (s : List Char) : List Char :=
  match s with
  | '\uFEFF' :: r => r
  | other => other

/-- The members of the root table that a text describes. -/
def parse (text : String) : Option (Keyed Toml) :=
  (lines ⟨[], []⟩ (normalized (withoutMark text.toList))).map Node.toMembers

end StandingQuery.Toml
