import StandingQuery.Text.Letters

/-!
# Atoms

The characters that the words of mail addresses are made of: letters, digits and some punctuation.
-/

namespace StandingQuery.Text

/-- The punctuation that may stand in an atom. -/
def atomMarks : List Char :=
  ['!', '#', '$', '%', '&', '\'', '*', '+', '-', '/', '=', '?', '^', '_', '\x60', '{', '|', '}', '~']

/-- Whether a character may stand in an atom of an address: letters and digits of all scripts, and some punctuation. -/
def isAtomChar (c : Char) : Bool := isAlphanumeric c || atomMarks.contains c

end StandingQuery.Text
