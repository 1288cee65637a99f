/-!
# Sizes in bytes

Limits and places count the bytes of a text, not its characters.
-/

namespace StandingQuery.Text

/-- The number of bytes of a text. -/
def byteCount : List Char → Nat
  | [] => 0
  | c :: s => c.utf8Size + byteCount s

end StandingQuery.Text
