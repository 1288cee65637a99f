import StandingQuery.Json.Scan

/-!
# Passing over JSON text

The values of members that nobody asked for are passed over. What is open around the present place is a list of brackets, so
that no depth is too great, and strings are not looked into further than their end.
-/

namespace StandingQuery.Json

/-- A bracket that is open. -/
inductive Bracket where
  | list
  | object
  deriving DecidableEq, Repr

namespace Bracket

/-- The character that closes a bracket. -/
def closer : Bracket → Char
  | .list => ']'
  | .object => '}'

/-- What is wrong when the text ends inside a bracket. -/
def atEnd : Bracket → Flaw
  | .list => .endInList
  | .object => .endInObject

/-- What is wrong when a bracket goes on without a comma. -/
def noComma : Bracket → Flaw
  | .list => .noListComma
  | .object => .noObjectComma

end Bracket

/-- Passes over a value that opens no bracket. -/
def skipScalar (s : List Char) : Except Fault (Rest s) :=
  match s with
  | [] => .error (.before .endInValue [])
  | 'n' :: r => (expect ['u', 'l', 'l'] r).map (·.push)
  | 't' :: r => (expect ['r', 'u', 'e'] r).map (·.push)
  | 'f' :: r => (expect ['a', 'l', 's', 'e'] r).map (·.push)
  | '-' :: r => (skipNumber r).map (·.push)
  | '"' :: r => (skipStringTail r).map (·.push)
  | c :: r => if c.isDigit then skipNumber (c :: r) else .error (.here .noValue (c :: r))

/-- Passes over the key of a member and its colon, if the bracket is that of an object. -/
def skipKey (b : Bracket) (s : List Char) : Except Fault (AtMost s) :=
  match b with
  | .list => .ok (.all s)
  | .object =>
    match h : (skipBlanks s).1 with
    | [] => .error (.before .endInObject [])
    | '"' :: r =>
      match skipStringTail r with
      | .error f => .error f
      | .ok q =>
        match h2 : (skipBlanks q.1).1 with
        | [] => .error (.before .endInObject [])
        | ':' :: _ => .ok (((skipBlanks s).tail h).leavingRest (q.leavingRest ((skipBlanks q.1).tail h2))).atMost
        | c :: t => .error (.here .noColon (c :: t))
    | c :: r => .error (.here .keyNotString (c :: r))

mutual

/-- Passes over a value and all that follows it up to the end of the outermost open bracket. -/
def skipFrom (opened : List Bracket) (s : List Char) : Except Fault (Rest s) :=
  match h : (skipBlanks s).1 with
  | [] => .error (.before .endInValue [])
  | c :: r =>
    let behind := (skipBlanks s).tail h
    if c = '[' then (skipOpened .list opened behind.1).map behind.leavingRest
    else if c = '{' then (skipOpened .object opened behind.1).map behind.leavingRest
    else
      match skipScalar (skipBlanks s).1 with
      | .error f => .error f
      | .ok q =>
        let left := (skipBlanks s).leavingRest q
        (skipAfter opened left.1).map left.leaving
termination_by (s.length, 0)
decreasing_by
  · exact Prod.Lex.left _ _ behind.2
  · exact Prod.Lex.left _ _ behind.2
  · exact Prod.Lex.left _ _ left.2

/-- Passes over what follows an opening bracket. -/
def skipOpened (b : Bracket) (opened : List Bracket) (s : List Char) : Except Fault (Rest s) :=
  match h : (skipBlanks s).1 with
  | [] => .error (.before b.atEnd [])
  | c :: r =>
    let behind := (skipBlanks s).tail h
    if c = b.closer then (skipAfter opened behind.1).map behind.leaving
    else
      match skipKey b s with
      | .error f => .error f
      | .ok q => (skipFrom (b :: opened) q.1).map q.leavingRest
termination_by (s.length, 1)
decreasing_by
  · exact Prod.Lex.left _ _ behind.2
  · rcases Nat.lt_or_eq_of_le q.2 with hlt | heq
    · exact Prod.Lex.left _ _ hlt
    · rw [heq]
      exact Prod.Lex.right _ Nat.zero_lt_one

/-- Passes over what follows a value, as long as a bracket is open. -/
def skipAfter (opened : List Bracket) (s : List Char) : Except Fault (AtMost s) :=
  match opened with
  | [] => .ok (.all s)
  | b :: outer =>
    match h : (skipBlanks s).1 with
    | [] => .error (.before b.atEnd [])
    | c :: r =>
      let behind := (skipBlanks s).tail h
      if c = ',' then
        match skipKey b behind.1 with
        | .error f => .error f
        | .ok q =>
          let left := behind.leaving q
          (skipFrom (b :: outer) left.1).map fun t => (left.leavingRest t).atMost
      else if c = b.closer then (skipAfter outer behind.1).map fun t => (behind.leaving t).atMost
      else .error (.here b.noComma (c :: r))
termination_by (s.length, 0)
decreasing_by
  · exact Prod.Lex.left _ _ left.2
  · exact Prod.Lex.left _ _ behind.2

end

/-- Passes over one value. -/
def skipValue : Reader Unit := fun s => (skipFrom [] s).map fun q => ((), q)

end StandingQuery.Json
