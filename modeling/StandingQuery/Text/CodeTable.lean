import StandingQuery.Text.Blank
import StandingQuery.Text.Digits
import StandingQuery.Text.Pieces

/-!
# Tables of code points

Properties of characters are tables over the code points. A table is written as a text of rows with blanks between them, all
numbers in hexadecimal. A row of a set is a code point, or the first and the last of a range with a hyphen between them. A row of
a mapping is such a range, `=`, and what the first of the range is mapped to; the others are mapped in step with it. Where a range
is followed by `/2`, it is of every second code point, and where there are several images, they have dots between them.
-/

namespace StandingQuery.Text

/-- The number that hexadecimal digits name. -/
def hexNumber (ds : List Char) : Nat := ds.foldl (fun n c => n * 16 + (hexVal? c).getD 0) 0

/-- The first and the last code point that a row is of. -/
def codeRange (row : List Char) : Nat × Nat :=
  match (pieces (· == '-') row).map hexNumber with
  | [first, last] => (first, last)
  | ns => (ns.headD 0, ns.headD 0)

/-- The rows of a table. -/
def tableRows (table : String) : List (List Char) := (pieces isBlank table.toList).filter fun row => !row.isEmpty

/-- A set of code points. -/
structure CodeSet where
  ranges : List (Nat × Nat)

namespace CodeSet

/-- The set that a table names. -/
def ofTable (table : String) : CodeSet := ⟨(tableRows table).map codeRange⟩

/-- Whether a character is in a set. -/
def contains (set : CodeSet) (c : Char) : Bool := set.ranges.any fun r => r.1 ≤ c.toNat && c.toNat ≤ r.2

end CodeSet

/-- The images of a range of code points, or of every second one of it. -/
structure CodeImages where
  first : Nat
  last : Nat
  step : Nat
  images : List Nat

namespace CodeImages

/-- The images that a row names. -/
def ofRow (row : List Char) : CodeImages :=
  match pieces (· == '=') row with
  | [source, images] =>
    let range := codeRange (source.takeWhile (· != '/'))
    ⟨range.1, range.2, if source.contains '/' then 2 else 1, (pieces (· == '.') images).map hexNumber⟩
  | _ => ⟨0, 0, 1, []⟩

/-- The image of a character, if it is one of the range. -/
def get? (row : CodeImages) (c : Char) : Option (List Char) :=
  let past := c.toNat - row.first
  if row.first ≤ c.toNat && c.toNat ≤ row.last && past % row.step == 0 then
    some (row.images.map fun n => Char.ofNat (n + past))
  else none

end CodeImages

/-- A mapping of characters to texts. -/
structure CodeMap where
  rows : List CodeImages

namespace CodeMap

/-- The mapping that a table names. -/
def ofTable (table : String) : CodeMap := ⟨(tableRows table).map CodeImages.ofRow⟩

/-- The text that a character is mapped to. -/
def get? (map : CodeMap) (c : Char) : Option (List Char) := map.rows.findSome? (·.get? c)

end CodeMap

end StandingQuery.Text
