import StandingQuery.Decimal.Shortest

/-!
# Written doubles

The text of a double from its shortest digits, under a layout that says which magnitudes are written positionally, how an
integral value ends, and what an exponent looks like.
-/

namespace StandingQuery.Decimal

/-- The choices of a format that writes doubles. -/
structure Layout where
  /-- Whether a value whose leading digit stands at this power of ten is written positionally. -/
  positional : Int → Bool
  /-- What follows an integral value in positional form. -/
  integralEnd : List Char
  /-- The sign written before a non-negative exponent. -/
  plus : List Char

namespace Layout

/-- The digits of a decimal in positional form: zeros fill up to the point on either side. -/
def plain (l : Layout) (ds : List Char) (exponent : Int) : List Char :=
  if 0 ≤ exponent then ds ++ List.replicate exponent.toNat '0' ++ l.integralEnd
  else
    let places := exponent.natAbs
    if places < ds.length then ds.take (ds.length - places) ++ '.' :: ds.drop (ds.length - places)
    else '0' :: '.' :: List.replicate (places - ds.length) '0' ++ ds

/-- The digits of a decimal with one digit before the point and a power of ten. -/
def scientific (l : Layout) (ds : List Char) (lead : Int) : List Char :=
  let mantissa := match ds with
    | d :: e :: rest => d :: '.' :: e :: rest
    | short => short
  let power := if lead < 0 then '-' :: Text.digits lead.natAbs else l.plus ++ Text.digits lead.natAbs
  mantissa ++ 'e' :: power

/-- The text of a finite double by its bits. -/
def write (l : Layout) (bits : UInt64) : List Char :=
  match parts bits with
  | .nan => ['N', 'a', 'N']
  | .infinite negative => (if negative then ['-'] else []) ++ ['i', 'n', 'f']
  | .finite negative significand exponent least =>
    let sign := if negative then ['-'] else []
    if significand == 0 then sign ++ '0' :: l.integralEnd
    else
      let d := shortest significand exponent least
      let ds := Text.digits d.digits
      let lead := d.exponent + ds.length - 1
      sign ++ if l.positional lead then l.plain ds d.exponent else l.scientific ds lead

end Layout

end StandingQuery.Decimal
