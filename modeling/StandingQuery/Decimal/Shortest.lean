import StandingQuery.Decimal.Double
import StandingQuery.Text.Digits

/-!
# The fewest digits that read back

Of all decimals that round to a given positive double, the one with the fewest digits, and of those the nearest to it. The
grids of decimals with 1, 2, … 17 digits are tried in turn; on each only the two neighbours of the value can lie in the
interval of reals that round to it, and membership is decided in exact arithmetic on natural numbers.
-/

namespace StandingQuery.Decimal

/-- The decimal `digits · 10 ^ exponent`, written without trailing zeros. -/
structure Scientific where
  digits : Nat
  exponent : Int
  deriving DecidableEq, Repr

namespace Shortest

/-- `a · 2 ^ p · 10 ^ d` as a fraction of natural numbers. -/
def fraction (a : Nat) (p d : Int) : Nat × Nat :=
  (a * Nat.pow 2 p.toNat * Nat.pow 10 d.toNat, Nat.pow 2 (-p).toNat * Nat.pow 10 (-d).toNat)

/-- The power of ten of the leading digit of the positive number `a · 2 ^ p`; the shift by 400 places makes every double at
least one. -/
def leading (a : Nat) (p : Int) : Int :=
  let f := fraction a p 400
  ((Text.digits (f.1 / f.2)).length : Int) - 401

/-- The value `significand · 2 ^ exponent` with the interval of reals that round to it, in quarters of its last place. -/
structure Interval where
  value : Nat
  low : Nat
  high : Nat
  /-- The exponent of a quarter of the last place. -/
  exponent : Int
  /-- The ends belong to the interval exactly when the significand is even. -/
  closed : Bool

/-- The interval of a double's magnitude. -/
def Interval.of (significand : Nat) (exponent : Int) (least : Bool) : Interval where
  value := 4 * significand
  low := if least then 4 * significand - 1 else 4 * significand - 2
  high := 4 * significand + 2
  exponent := exponent - 2
  closed := significand % 2 == 0

/-- Whether `c · 10 ^ k` lies in the interval: both sides of each comparison are cleared of their denominators. -/
def Interval.contains (i : Interval) (c : Nat) (k : Int) : Bool :=
  let at10 := c * Nat.pow 10 k.toNat * Nat.pow 2 (-i.exponent).toNat
  let scale := Nat.pow 2 i.exponent.toNat * Nat.pow 10 (-k).toNat
  if i.closed then i.low * scale ≤ at10 && at10 ≤ i.high * scale
  else i.low * scale < at10 && at10 < i.high * scale

/-- The nearest of the two neighbours of the value on the grid of multiples of `10 ^ k` that lie in the interval; a tie goes
to the even one. -/
def Interval.onGrid (i : Interval) (k : Int) : Option Nat :=
  let f := fraction i.value i.exponent (-k)
  let below := f.1 / f.2
  let rest := f.1 % f.2
  match i.contains below k, i.contains (below + 1) k with
  | false, false => none
  | true, false => some below
  | false, true => some (below + 1)
  | true, true =>
    if 2 * rest < f.2 || (2 * rest == f.2 && below % 2 == 0) then some below else some (below + 1)

/-- A decimal without the trailing zeros of its digits. -/
def stripZeros : Nat → Nat → Int → Scientific
  | 0, d, k => ⟨d, k⟩
  | fuel + 1, d, k => if d % 10 == 0 && d != 0 then stripZeros fuel (d / 10) (k + 1) else ⟨d, k⟩

/-- The first grid with a hit, from `count` digits on, with at most `more` grids to try. -/
def search (i : Interval) (lead : Int) : (more count : Nat) → Scientific
  | 0, count => ⟨i.value, lead - count⟩
  | more + 1, count =>
    let k := lead - (count : Int) + 1
    match i.onGrid k with
    | some d => stripZeros 20 d k
    | none => search i lead more (count + 1)

end Shortest

/-- The decimal with the fewest digits that reads back as the magnitude `significand · 2 ^ exponent` of a double. -/
def shortest (significand : Nat) (exponent : Int) (least : Bool) : Scientific :=
  Shortest.search (.of significand exponent least) (Shortest.leading significand exponent) 17 1

end StandingQuery.Decimal
