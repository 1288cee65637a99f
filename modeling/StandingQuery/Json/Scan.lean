import StandingQuery.Json.Fault

/-!
# Scanning JSON text

The parts that every reader of JSON text shares: blanks, literals, strings and numbers.
-/

namespace StandingQuery.Json

/-- The four blanks of JSON. -/
def isBlank (c : Char) : Bool := c == ' ' || c == '\n' || c == '\t' || c == '\r'

/-- A text without the blanks it begins with. -/
def skipBlanks (s : List Char) : AtMost s := .dropWhile isBlank s

/-- Reads the given characters, the later ones of a literal whose first has been seen. -/
def expect : List Char → (s : List Char) → Except Fault (AtMost s)
  | [], s => .ok (.all s)
  | _ :: _, [] => .error (.before .endInValue [])
  | e :: es, c :: s =>
    if c = e then
      match expect es s with
      | .ok r => .ok r.push.atMost
      | .error f => .error f
    else .error (.here .noLiteral (c :: s))

/-- Reads four hexadecimal digits; the place of a bad digit is that of the fourth byte. -/
def hexEscape (s : List Char) : Except Fault (Nat × Rest s) :=
  match s with
  | a :: b :: c :: d :: r =>
    match hexVal a, hexVal b, hexVal c, hexVal d with
    | some w, some x, some y, some z => .ok (((w * 16 + x) * 16 + y) * 16 + z, (Text.Rest.tail r).push.push.push)
    | _, _, _, _ => .error ⟨.flaw .badEscape, a :: b :: c :: d :: r, 4⟩
  | short => if Text.byteCount short < 4 then .error (.before .endInString []) else .error ⟨.flaw .badEscape, short, 4⟩
where
  /-- The value of a hexadecimal digit. -/
  hexVal (c : Char) : Option Nat := Text.hexVal? c

/-- Reads the digits of a `\u` escape: a leading surrogate has to be followed by the escape of a trailing one. -/
def unicodeEscape (s : List Char) : Except Fault (Char × Rest s) := do
  let (n, r) ← hexEscape s
  if 0xDC00 ≤ n ∧ n ≤ 0xDFFF then .error (.before .unpairedSurrogate r.1)
  else if n < 0xD800 ∨ 0xDBFF < n then .ok (Char.ofNat n, r)
  else
    match h : r.1 with
    | [] => .error (.before .endInString [])
    | ['\\'] => .error (.before .endInString [])
    | '\\' :: 'u' :: t =>
      let (m, q) ← hexEscape t
      if m < 0xDC00 ∨ 0xDFFF < m then .error (.before .unpairedSurrogate q.1)
      else .ok (Char.ofNat ((n - 0xD800) * 0x400 + (m - 0xDC00) + 0x10000), (r.atMost.tail h).leavingRest q.push)
    | '\\' :: t => .error (.here .unfinishedSurrogate t)
    | t => .error (.here .unfinishedSurrogate t)

/-- Reads what follows the backslash of an escape. -/
def escape (s : List Char) : Except Fault (Char × Rest s) :=
  match s with
  | [] => .error (.before .endInString [])
  | 'u' :: r =>
    match unicodeEscape r with
    | .ok (c, q) => .ok (c, q.push)
    | .error f => .error f
  | c :: r =>
    match shortEscape c with
    | some d => .ok (d, .tail r)
    | none => .error (.here .badEscape (c :: r))
where
  /-- The character that a short escape stands for. -/
  shortEscape (c : Char) : Option Char :=
    match c with
    | '"' => some '"'
    | '\\' => some '\\'
    | '/' => some '/'
    | 'b' => some '\x08'
    | 'f' => some '\x0C'
    | 'n' => some '\n'
    | 'r' => some '\r'
    | 't' => some '\t'
    | _ => none

/-- Reads a string whose opening quote has been taken. -/
def stringTail (s : List Char) : Except Fault (List Char × Rest s) :=
  match s with
  | [] => .error (.before .endInString [])
  | '"' :: r => .ok ([], .tail r)
  | '\\' :: r =>
    match escape r with
    | .error f => .error f
    | .ok (c, q) =>
      match stringTail q.1 with
      | .error f => .error f
      | .ok (cs, t) => .ok (c :: cs, (q.leavingRest t).push)
  | c :: r =>
    if c.toNat < 0x20 then .error (.here .controlCharacter (c :: r))
    else
      match stringTail r with
      | .error f => .error f
      | .ok (cs, t) => .ok (c :: cs, t.push)
termination_by s.length
decreasing_by
  · have := q.2
    simp
    omega
  · simp

/-- Passes over a string whose opening quote has been taken; an escaped surrogate need not be paired here. -/
def skipStringTail (s : List Char) : Except Fault (Rest s) :=
  match s with
  | [] => .error (.before .endInString [])
  | '"' :: r => .ok (.tail r)
  | ['\\'] => .error (.before .endInString [])
  | '\\' :: 'u' :: r =>
    match hexEscape r with
    | .error f => .error f
    | .ok (_, q) =>
      match skipStringTail q.1 with
      | .error f => .error f
      | .ok t => .ok (q.leavingRest t).push.push
  | '\\' :: c :: r =>
    if (escape.shortEscape c).isSome then
      match skipStringTail r with
      | .error f => .error f
      | .ok t => .ok t.push.push
    else .error (.here .badEscape (c :: r))
  | c :: r =>
    if c.toNat < 0x20 then .error (.before .controlCharacter (c :: r))
    else
      match skipStringTail r with
      | .error f => .error f
      | .ok t => .ok t.push
termination_by s.length
decreasing_by
  · have := q.2
    simp only [List.length_cons]
    omega
  · simp only [List.length_cons]
    omega
  · simp only [List.length_cons]
    omega

/-! ## Numbers -/

/-- The digits at the front of a text. -/
def digitRun (s : List Char) : List Char := s.takeWhile Char.isDigit

/-- A text without the digits at its front. -/
def afterDigits (s : List Char) : AtMost s := .dropWhile Char.isDigit s

/-- Digits joined to a significand as long as it stays below `2 ^ 64`, with the number of digits joined. -/
def joinDigits (significand : Nat) : List Char → Nat × Nat
  | [] => (significand, 0)
  | d :: ds =>
    let next := significand * 10 + Text.digitVal d
    if next < 0x10000000000000000 then
      let r := joinDigits next ds
      (r.1, r.2 + 1)
    else (significand, 0)

/-- A power of ten as a double. -/
def powerOfTen (k : Nat) : Float := Float.ofScientific 1 false k

/-- A double times a power of ten, one rounding for each step of at most 308 places; `none` when it grows too large. -/
def scaleByTen (x : Float) (k : Int) : Option Float :=
  if k.natAbs ≤ 308 then
    if 0 ≤ k then
      let y := x * powerOfTen k.natAbs
      if y.isInf then none else some y
    else some (x / powerOfTen k.natAbs)
  else if x == 0.0 then some x
  else if 0 ≤ k then none
  else scaleByTen (x / powerOfTen 308) (k + 308)
termination_by (-k).toNat
decreasing_by omega

/-- The double of a decimal: its significand as a double, scaled by its power of ten. -/
def doubleOf (negative : Bool) (significand : Nat) (power : Int) : Option UInt64 :=
  (scaleByTen (UInt64.ofNat significand).toFloat power).map fun x => (if negative then -x else x).toBits

/-- A text without the sign it begins with, if it does, and whether that is a minus. -/
def powerSign (s : List Char) : Bool × AtMost s :=
  match s with
  | '-' :: r => (true, (Text.Rest.tail r).atMost)
  | '+' :: r => (false, (Text.Rest.tail r).atMost)
  | other => (false, .all other)

/-- Reads the power of a number whose `e` has been taken. -/
def powerPart (negative : Bool) (significand : Nat) (power : Int) (s : List Char) : Except Fault (Number × AtMost s) :=
  let minus := (powerSign s).1
  let t := (powerSign s).2
  match digitRun t.1 with
  | [] => if t.1.isEmpty then .error (.before .endInValue []) else .error (.here .badNumber t.1)
  | ds =>
    let rest := t.leaving (afterDigits t.1)
    let values := ds.scanl (fun n c => n * 10 + Text.digitVal c) 0
    if Text.decimalValue ds < 0x80000000 then
      let k := Text.decimalValue ds
      let sum := if minus then max (power - k) (-0x80000000) else min (power + k) 0x7FFFFFFF
      match doubleOf negative significand sum with
      | some bits => .ok (.double bits, rest)
      | none => .error (.before .numberTooLarge rest.1)
    else if significand != 0 && !minus then
      .error (.before .numberTooLarge (t.1.drop (values.takeWhile (· < 0x80000000)).length))
    else .ok (.double (if negative then -0.0 else (0.0 : Float)).toBits, rest)

/-- Ends a number that is no integer where it stands. -/
def endDouble (negative : Bool) (significand : Nat) (power : Int) (s : List Char) : Except Fault (Number × AtMost s) :=
  match doubleOf negative significand power with
  | some bits => .ok (.double bits, .all s)
  | none => .error (.before .numberTooLarge s)

/-- Reads what follows the digits before and after the point of a number that is no integer. -/
def afterPoint (negative : Bool) (significand : Nat) (power : Int) (s : List Char) : Except Fault (Number × AtMost s) :=
  match s with
  | [] => endDouble negative significand power []
  | c :: r =>
    if c = 'e' ∨ c = 'E' then
      match powerPart negative significand power r with
      | .ok (n, q) => .ok (n, q.push.atMost)
      | .error f => .error f
    else endDouble negative significand power (c :: r)

/-- Reads the digits after the point of a number. -/
def fractionPart (negative : Bool) (significand : Nat) (power : Int) (s : List Char) : Except Fault (Number × AtMost s) :=
  match digitRun s with
  | [] => if s.isEmpty then .error (.before .endInValue []) else .error (.here .badNumber s)
  | ds =>
    let joined := joinDigits significand ds
    match afterPoint negative joined.1 (power - joined.2) (afterDigits s).1 with
    | .ok (n, q) => .ok (n, (afterDigits s).leaving q)
    | .error f => .error f

/-- The number of an integer literal below `2 ^ 64`: a negative one below `-2 ^ 63`, and minus zero, are doubles. -/
def integerOf (negative : Bool) (n : Nat) : Number :=
  if !negative then .int n
  else if n = 0 ∨ 0x8000000000000000 < n then .double (-(UInt64.ofNat n).toFloat).toBits
  else .int (-(n : Int))

/-- Reads a number whose minus sign, if any, has been taken. -/
def number (negative : Bool) (s : List Char) : Except Fault (Number × Rest s) :=
  match s with
  | [] => .error (.before .endInValue [])
  | c :: r =>
    if !c.isDigit then .error (.here .badNumber (c :: r))
    else if c = '0' && (r.head?.map Char.isDigit).getD false then .error (.here .badNumber r)
    else
      let ds := if c = '0' then [c] else c :: digitRun r
      let rest := if c = '0' then .all r else afterDigits r
      let joined := joinDigits 0 ds
      let dropped := ds.length - joined.2
      match h : rest.1 with
      | '.' :: q =>
        match fractionPart negative joined.1 dropped q with
        | .ok (n, t) => .ok (n, (rest.push.atMost.tail h).leaving t)
        | .error f => .error f
      | other =>
        if dropped = 0 && !(other.head? == some 'e' || other.head? == some 'E') then
          .ok (integerOf negative joined.1, rest.push)
        else
          match afterPoint negative joined.1 dropped rest.1 with
          | .ok (n, t) => .ok (n, rest.push.leaving t)
          | .error f => .error f

/-- Passes over a number whose minus sign, if any, has been taken. -/
def skipNumber (s : List Char) : Except Fault (Rest s) :=
  match s with
  | [] => .error (.before .badNumber [])
  | c :: r =>
    if !c.isDigit then .error (.here .badNumber (c :: r))
    else if c = '0' && (r.head?.map Char.isDigit).getD false then .error (.here .badNumber r)
    else
      let rest := if c = '0' then .all r else afterDigits r
      match skipFraction rest.1 with
      | .ok q => .ok (rest.leaving q).push
      | .error f => .error f
where
  /-- Passes over the digits of a power, at least one. -/
  skipPower (s : List Char) : Except Fault (AtMost s) :=
    let t := (powerSign s).2
    if (digitRun t.1).isEmpty then .error (.here .badNumber t.1) else .ok (t.leaving (afterDigits t.1))
  /-- Passes over a power, if there is one. -/
  skipExponent (s : List Char) : Except Fault (AtMost s) :=
    match s with
    | c :: r =>
      if c = 'e' ∨ c = 'E' then
        match skipPower r with
        | .ok q => .ok q.push.atMost
        | .error f => .error f
      else .ok (.all (c :: r))
    | [] => .ok (.all [])
  /-- Passes over the point and what follows it, if there is one. -/
  skipFraction (s : List Char) : Except Fault (AtMost s) :=
    match s with
    | '.' :: r =>
      if (digitRun r).isEmpty then .error (.here .badNumber r)
      else
        match skipExponent (afterDigits r).1 with
        | .ok q => .ok ((afterDigits r).leaving q).push.atMost
        | .error f => .error f
    | other => skipExponent other

end StandingQuery.Json
