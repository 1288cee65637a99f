import StandingQuery.Json.Scan

/-!
# Reading JSON text

Readers for lists and objects, parametrised by the readers of what they hold, and on top of them the reader of any value. The
same readers serve records whose shape is known, so that a fault is found at the same place in either.
-/

namespace StandingQuery.Json

/-- Reads the items of a list up to its closing bracket; `first` says that none has been read yet. -/
def itemsTail {α : Type} (item : Reader α) (first : Bool) (s : List Char) : Except Fault (List α × Rest s) :=
  match h : (skipBlanks s).1 with
  | [] => .error (.before .endInList [])
  | ']' :: _ => .ok ([], (skipBlanks s).tail h)
  | c :: r =>
    if first then
      match item (skipBlanks s).1 with
      | .error f => .error f
      | .ok (a, q) =>
        let left := (skipBlanks s).leavingRest q
        match itemsTail item false left.1 with
        | .error f => .error f
        | .ok (as, t) => .ok (a :: as, left.leavingRest t)
    else if c = ',' then
      match (skipBlanks r).1 with
      | [] => .error (.before .endInValue [])
      | ']' :: t => .error (.here .trailingComma (']' :: t))
      | _ =>
        match item (skipBlanks r).1 with
        | .error f => .error f
        | .ok (a, q) =>
          let left := ((skipBlanks s).tail h).leavingRest ((skipBlanks r).leavingRest q)
          match itemsTail item false left.1 with
          | .error f => .error f
          | .ok (as, t) => .ok (a :: as, left.leavingRest t)
    else .error (.here .noListComma (c :: r))
termination_by s.length
decreasing_by
  · exact left.2
  · exact left.2

/-- Reads the colon after a key and the value behind it. -/
def keyed {α : Type} (value : Reader α) (s : List Char) : Except Fault (α × Rest s) :=
  match h : (skipBlanks s).1 with
  | [] => .error (.before .endInObject [])
  | ':' :: r => (value r).map fun q => (q.1, ((skipBlanks s).tail h).leavingRest q.2)
  | c :: r => .error (.here .noColon (c :: r))

/-- Where the next key of an object begins, when its closing brace does not come first: behind the comma after the member
before, if there was one. -/
def nextKey (first : Bool) (s : List Char) : Except Fault (AtMost s) :=
  match h : (skipBlanks s).1 with
  | [] => .error (.before .endInObject [])
  | c :: r =>
    if first then .ok (skipBlanks s)
    else if c = ',' then .ok (((skipBlanks s).tail h).leaving (skipBlanks r)).atMost
    else .error (.here .noObjectComma (c :: r))

/-- Reads the members of an object up to its closing brace. `member` is given what has been gathered, the key, and the text
after the key; `first` says that no member has been read yet. -/
def membersTail {σ : Type} (member : σ → String → Reader σ) (first : Bool) (gathered : σ) (s : List Char) :
    Except Fault (σ × Rest s) :=
  match h : (skipBlanks s).1 with
  | '}' :: _ => .ok (gathered, (skipBlanks s).tail h)
  | _ =>
    match nextKey first s with
    | .error f => .error f
    | .ok start =>
      match h2 : start.1 with
      | '"' :: t =>
        match stringTail t with
        | .error f => .error f
        | .ok (key, k) =>
          match member gathered (String.ofList key) k.1 with
          | .error f => .error f
          | .ok (g, q) =>
            let left := (start.tail h2).leavingRest (k.leavingRest q)
            match membersTail member false g left.1 with
            | .error f => .error f
            | .ok (out, u) => .ok (out, left.leavingRest u)
      | '}' :: t => .error (.here .trailingComma ('}' :: t))
      | [] => .error (.before .endInValue [])
      | d :: t => .error (.here .keyNotString (d :: t))
termination_by s.length
decreasing_by exact left.2

/-- How deep values may be nested. -/
def depthLimit : Nat := 128

/-- Reads a value nested at most so deep. -/
def value : Nat → Reader Json
  | depth, s =>
    match h : (skipBlanks s).1 with
    | [] => .error (.before .endInValue [])
    | c :: r =>
      let behind := (skipBlanks s).tail h
      match c with
      | 'n' => (expect ['u', 'l', 'l'] r).map fun q => (.null, behind.leaving q)
      | 't' => (expect ['r', 'u', 'e'] r).map fun q => (.bool true, behind.leaving q)
      | 'f' => (expect ['a', 'l', 's', 'e'] r).map fun q => (.bool false, behind.leaving q)
      | '"' => (stringTail r).map fun q => (.str (String.ofList q.1), behind.leavingRest q.2)
      | '-' => (number true r).map fun q => (.num q.1, behind.leavingRest q.2)
      | '[' =>
        match depth with
        | 0 => .error (.here .tooDeep (c :: r))
        | below + 1 => (itemsTail (value below) true r).map fun q => (.arr q.1, behind.leavingRest q.2)
      | '{' =>
        match depth with
        | 0 => .error (.here .tooDeep (c :: r))
        | below + 1 =>
          let member (o : Members) (key : String) : Reader Members := fun t =>
            (keyed (value below) t).map fun q => (o.set key q.1, q.2)
          (membersTail member true [] r).map fun q => (.obj q.1, behind.leavingRest q.2)
      | _ =>
        if c.isDigit then (number false (skipBlanks s).1).map fun q => (.num q.1, (skipBlanks s).leavingRest q.2)
        else .error (.here .noValue (c :: r))

/-- Reads a whole text: nothing but blanks may follow the value. -/
def readAll {α : Type} (read : Reader α) (text : String) : Except Fault α :=
  match read text.toList with
  | .error f => .error f
  | .ok (a, rest) =>
    match (skipBlanks rest.1).1 with
    | [] => .ok a
    | left => .error (.here .trailingText left)

/-- The value that a text is. -/
def parse (text : String) : Except Fault Json := readAll (value depthLimit) text

end StandingQuery.Json
