/-!
# Recipient addresses

The pattern that the address of a recipient has to match as a whole: a part before the `@`, a domain, and a last label of two to
six letters. Letters match without regard to case, and so do the two letters beyond ASCII whose other case is an ASCII letter.
-/

namespace StandingQuery.Address

/-- Whether a character is an ASCII letter up to case: the long s and the kelvin sign have ASCII letters as their other case. -/
def isLetter (c : Char) : Bool := c.isAlpha || c == '\u017F' || c == '\u212A'

/-- Whether a character may stand before the `@`. -/
def isUserChar (c : Char) : Bool :=
  isLetter c || c.isDigit || c == '.' || c == '_' || c == '%' || c == '+' || c == '-'

/-- Whether a character may stand in a domain. -/
def isDomainChar (c : Char) : Bool := isLetter c || c.isDigit || c == '.' || c == '-'

/-- Whether a text is a last label: two to six letters. -/
def isTopLabel (s : List Char) : Bool := 2 ≤ s.length && s.length ≤ 6 && s.all isLetter

/-- Whether a text is a domain with a last label after its last dot; no letter is a dot, so no other dot can end the domain. -/
def isDomain (s : List Char) : Bool :=
  let back := s.reverse
  let top := (back.takeWhile (· != '.')).reverse
  match back.dropWhile (· != '.') with
  | _ :: front => isTopLabel top && !front.isEmpty && front.all isDomainChar
  | [] => false

/-- Whether a text matches the pattern. -/
def isAddress (s : List Char) : Bool :=
  let user := s.takeWhile (· != '@')
  match s.dropWhile (· != '@') with
  | _ :: domain => !user.isEmpty && user.all isUserChar && isDomain domain
  | [] => false

end StandingQuery.Address
