/-!
# Doubles by their bits

An IEEE 754 double taken apart: its sign, and its magnitude as a whole significand times a power of two. Everything that
writes a double starts from these parts, so that the written digits are decided in exact arithmetic.
-/

namespace StandingQuery.Decimal

/-- What the bits of a double say. -/
inductive Parts where
  /-- The value `± significand · 2 ^ exponent`; `least` says that the significand is the smallest of its binade, below which
  the neighbouring doubles lie twice as dense. -/
  | finite (negative : Bool) (significand : Nat) (exponent : Int) (least : Bool)
  | infinite (negative : Bool)
  | nan
  deriving DecidableEq, Repr

/-- The parts of the double with these bits. -/
def parts (bits : UInt64) : Parts :=
  let n : Nat := bits.toNat
  let negative := n / 0x8000000000000000 == 1
  let biased : Nat := n / 0x10000000000000 % 2048
  let fraction : Nat := n % 0x10000000000000
  if biased == 2047 then
    if fraction == 0 then .infinite negative else .nan
  else if biased == 0 then .finite negative fraction (-1074) false
  else .finite negative (0x10000000000000 + fraction) ((biased : Int) - 1075) (fraction == 0 && biased != 1)

/-- Whether the bits are those of a zero, of either sign. -/
def isZero (bits : UInt64) : Bool := bits.toNat % 0x8000000000000000 == 0

end StandingQuery.Decimal
