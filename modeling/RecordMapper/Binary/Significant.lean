import RecordMapper.Binary.Layout

set_option autoImplicit false

/-!
Binary numbers rounded to a fixed number of decimal digits. The number is divided exactly on the
grid of its last digit, and a half is rounded up.
-/

namespace RecordMapper.Binary

/-- Whole quotient nearest to `numerator / denominator`; a half goes up. -/
def divideHalfUp (numerator denominator : Nat) : Nat :=
  (2 * numerator + denominator) / (2 * denominator)

/-- Decimal place of the leading digit of the positive number `significand * 2 ^ exponent`. -/
def decimalPlace (significand : Nat) (exponent : Int) : Int :=
  let whole := significand * twoTo exponent.toNat
  let denominator := twoTo (-exponent).toNat
  if denominator ≤ whole then (Nat.toDigits 10 (whole / denominator)).length - 1
  else -((Nat.toDigits 10 (denominator / whole)).length : Int)

/-- A positive number with `count` digits. Rounding up to the next power of ten gives one digit
too many, the last of which is a zero. -/
def significant (count : Nat) (significand : Nat) (exponent : Int) : Decimal :=
  let place := decimalPlace significand exponent - count + 1
  let digits :=
    divideHalfUp (significand * twoTo exponent.toNat * tenTo (-place).toNat)
      (twoTo (-exponent).toNat * tenTo place.toNat)
  Decimal.trim ⟨digits, place⟩

/-- The text of a finite number of which `count` digits are written. -/
def Layout.ofSignificant? (layout : Layout) (count : Nat) : Datum → Option String
  | .finite negative significand exponent =>
      if significand = 0 then some "0.0"
      else
        let magnitude := layout.ofDecimal (significant count significand exponent)
        some (String.ofList (if negative then '-' :: magnitude else magnitude))
  | _ => none

end RecordMapper.Binary
