import StandingQuery.Text.Digits
import StandingQuery.Text.Pieces

/-!
# Numbered hosts

The numbers that stand for hosts where a name could: eight groups of hexadecimal digits with colons between them, of which the last
two may be four decimal numbers with dots between them. One run of groups that are zero may be left out, which two colons show.
-/

namespace StandingQuery.Domain

/-- Whether a text is one of the four numbers below 256, without leading zeros. -/
def isOctet (s : List Char) : Bool :=
  s.all Char.isDigit && (s.length == 1 || ((s.length == 2 || s.length == 3) && s.head? != some '0')) &&
    Text.decimalValue s < 256

/-- Whether a text is four numbers with dots between them. -/
def isOctets (s : List Char) : Bool :=
  let numbers := Text.pieces (· == '.') s
  numbers.length == 4 && numbers.all isOctet

/-- Whether a text is a group. -/
def isGroup (s : List Char) : Bool := (1 ≤ s.length && s.length ≤ 4) && s.all fun c => (Text.hexVal? c).isSome

/-- The number of groups that texts stand for, the four decimal numbers at the end for two. -/
def groupCount? : List (List Char) → Option Nat
  | [] => some 0
  | [g] => if isGroup g then some 1 else if isOctets g then some 2 else none
  | g :: gs => if isGroup g then (groupCount? gs).map (· + 1) else none

/-- What stands before and after the first two colons. -/
def aroundGap? : List Char → Option (List Char × List Char)
  | [] => none
  | ':' :: ':' :: s => some ([], s)
  | c :: s => (aroundGap? s).map fun r => (c :: r.1, r.2)

/-- The groups of a text that may be empty. -/
def groups (s : List Char) : List (List Char) := if s.isEmpty then [] else Text.pieces (· == ':') s

/-- Whether a text is the number of a host. -/
def isNumbered (s : List Char) : Bool :=
  match aroundGap? s with
  | none => groupCount? (groups s) == some 8
  | some (front, back) =>
    (groups front).all isGroup && ((groupCount? (groups back)).any fun n => (groups front).length + n < 8)

end StandingQuery.Domain
