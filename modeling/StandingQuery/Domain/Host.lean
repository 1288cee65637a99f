import StandingQuery.Domain.Label
import StandingQuery.Domain.Numbered
import StandingQuery.Text.Atom
import StandingQuery.Text.Bytes

/-!
# Hosts of mail addresses

What may stand behind the `@` of an address: a name of labels, a number, or anything printed in brackets. A domain that is no host
as it stands can be one in ASCII.
-/

namespace StandingQuery.Domain

/-- Whether a label keeps to the limits of names: it is an atom that begins and ends with a letter or a digit, and has at most 63
bytes. -/
def isNameLabel (label : List Char) : Bool :=
  Text.byteCount label ≤ 63 && label.all Text.isAtomChar && label.head?.any Text.isAlphanumeric &&
    label.getLast?.any Text.isAlphanumeric

/-- Whether a text is a name of labels. -/
def isName (s : List Char) : Bool := (Text.pieces (· == '.') s).all isNameLabel

/-- Whether a text stands in brackets, with neither brackets nor blanks nor a backslash inside. -/
def isBracketed (s : List Char) : Bool :=
  match s with
  | '[' :: inner =>
    inner.getLast? == some ']' &&
      inner.dropLast.all fun c => 0x21 ≤ c.toNat && c.toNat != 0x7F && c != '[' && c != '\\' && c != ']'
  | _ => false

/-- Whether a text is a host as it stands. -/
def isHost (s : List Char) : Bool := (Text.byteCount s ≤ 254 && (isBracketed s || isName s)) || isNumbered s

/-- Whether a domain is a host, as it stands or in ASCII. -/
def namesHost (domain : List Char) : Bool := isHost domain || (ascii? domain).any isHost

end StandingQuery.Domain
