import RecordMapper.Binary.Number

set_option autoImplicit false

/-!
The fewest decimal digits that read back as a given binary number. The reals that round to the
number form an interval, whose ends belong to it exactly when the significand is even. On the
grid of `count` significant digits the candidates are the two neighbours of the number; the first
grid with a candidate in the interval gives the digits, of two candidates the nearer, and of two
equally near the even one.
-/

namespace RecordMapper.Binary

/-- A decimal number `digits * 10 ^ exponent`. -/
structure Decimal where
  digits : Nat
  exponent : Int
deriving DecidableEq, Repr

/-- The reals that round to a positive number, in quarters of its last place: it lies at
`4 * significand`, and the gap below is half as wide at a power of two. -/
structure RoundingInterval where
  lower : Nat
  middle : Nat
  upper : Nat
  closed : Bool
  exponent : Int

namespace RoundingInterval

def of (format : Format) (significand : Nat) (exponent : Int) : RoundingInterval where
  lower :=
    if significand = twoTo format.fractionBits ∧ format.minExponent < exponent
    then 4 * significand - 1 else 4 * significand - 2
  middle := 4 * significand
  upper := 4 * significand + 2
  closed := significand % 2 = 0
  exponent := exponent - 2

/-- Compares `digits * 10 ^ place` with `quarters * 2 ^ exponent`. -/
def compareGrid (interval : RoundingInterval) (digits : Nat) (place : Int) (quarters : Nat) :
    Ordering :=
  compare (digits * tenTo place.toNat * twoTo (-interval.exponent).toNat)
    (quarters * twoTo interval.exponent.toNat * tenTo (-place).toNat)

def contains (interval : RoundingInterval) (digits : Nat) (place : Int) : Bool :=
  match interval.compareGrid digits place interval.lower,
      interval.compareGrid digits place interval.upper with
  | .gt, .lt => true
  | .eq, _ => interval.closed
  | _, .eq => interval.closed
  | _, _ => false

/-- Whole part of the number on the grid of `10 ^ place`. -/
def floorGrid (interval : RoundingInterval) (place : Int) : Nat :=
  interval.middle * twoTo interval.exponent.toNat * tenTo (-place).toNat
    / (tenTo place.toNat * twoTo (-interval.exponent).toNat)

/-- Whether the number lies below the middle of two neighbours on the grid, or above it. -/
def compareMiddle (interval : RoundingInterval) (below : Nat) (place : Int) : Ordering :=
  interval.compareGrid (2 * below + 1) place (2 * interval.middle)

/-- The candidate on one grid, if the interval holds one. -/
def candidate? (interval : RoundingInterval) (place : Int) : Option Nat :=
  let below := interval.floorGrid place
  match interval.contains below place, interval.contains (below + 1) place with
  | true, false => some below
  | false, true => some (below + 1)
  | false, false => none
  | true, true =>
      match interval.compareMiddle below place with
      | .gt => some below
      | .lt => some (below + 1)
      | .eq => some (below + below % 2)

/-- Tries ever finer grids; `remaining` counts those still allowed. -/
def search (interval : RoundingInterval) (place : Int) : Nat → Decimal
  | 0 => ⟨interval.floorGrid place, place⟩
  | remaining + 1 =>
      match interval.candidate? place with
      | some digits => ⟨digits, place⟩
      | none => interval.search (place - 1) remaining

end RoundingInterval

def Decimal.trim (number : Decimal) : Decimal :=
  go number.digits number.exponent number.digits
where
  go (digits : Nat) (exponent : Int) : Nat → Decimal
    | 0 => ⟨digits, exponent⟩
    | fuel + 1 =>
        if digits ≠ 0 ∧ digits % 10 = 0 then go (digits / 10) (exponent + 1) fuel
        else ⟨digits, exponent⟩

/-- Decimal place of the leading digit of a positive number, or one less. -/
def leadingPlace (interval : RoundingInterval) : Int :=
  let whole := interval.middle * twoTo interval.exponent.toNat
  let denominator := twoTo (-interval.exponent).toNat
  if denominator ≤ whole then (Nat.toDigits 10 (whole / denominator)).length - 1
  else -((Nat.toDigits 10 (denominator / whole)).length : Int)

/-- Shortest decimal of a positive number. Seventeen digits tell all 64-bit numbers apart, and
one more place covers a leading place that was one too low. -/
def shortest (format : Format) (significand : Nat) (exponent : Int) : Decimal :=
  let interval := RoundingInterval.of format significand exponent
  (interval.search (leadingPlace interval + 1) 20).trim

end RecordMapper.Binary
