import StandingQuery.Text.Digits

/-!
# Doubles from decimals

The double nearest to a decimal of any length.
-/

namespace StandingQuery.Decimal

/-- The bits of the double nearest to a significand times a power of ten, an infinity beyond the largest double. -/
def nearest (negative : Bool) (significand : Nat) (power : Int) : UInt64 :=
  let lead := power + (Text.digits significand).length
  let magnitude : Float :=
    if significand = 0 ∨ lead < -330 then 0.0
    else if 330 < lead then 1.0 / 0.0
    else Float.ofScientific significand (decide (power < 0)) power.natAbs
  (if negative then -magnitude else magnitude).toBits

/-- The bits of an infinity. -/
def infinity (negative : Bool) : UInt64 := if negative then 0xFFF0000000000000 else 0x7FF0000000000000

/-- The bits of a value that is no number. -/
def notANumber : UInt64 := 0x7FF8000000000000

end StandingQuery.Decimal
