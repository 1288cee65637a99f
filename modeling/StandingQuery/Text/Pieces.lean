/-!
# Pieces of a text

A text cut at certain characters, which belong to no piece: the groups of an identifier, the labels of a domain, the rows of a
table. There is one piece more than there are cuts, so an empty text has one empty piece.
-/

namespace StandingQuery.Text

/-- A text cut at every character that satisfies a predicate. -/
def pieces (cut : Char → Bool) : List Char → List (List Char)
  | [] => [[]]
  | c :: s =>
    if cut c then [] :: pieces cut s
    else match pieces cut s with
      | [] => [[c]]
      | p :: ps => (c :: p) :: ps

end StandingQuery.Text
