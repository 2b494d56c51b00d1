import RecordMapper.Binary.Format

set_option autoImplicit false

/-!
The two floating-point types of a database value. They are kept as bit patterns, so that two
of them are the same value exactly when they are the same pattern, and every conversion is the
nearest pattern of the exact number.
-/

namespace RecordMapper.Binary

namespace Datum

/-- Numeric equality: zeros of either sign agree and a NaN equals nothing, itself included. -/
def equals : Datum → Datum → Bool
  | .infinity left, .infinity right => left == right
  | .finite _ 0 _, .finite _ 0 _ => true
  | .finite leftSign left leftExponent, .finite rightSign right rightExponent =>
      leftSign == rightSign
        && left * twoTo (leftExponent - rightExponent).toNat
          == right * twoTo (rightExponent - leftExponent).toNat
  | _, _ => false

def toInt? : Datum → Option Int
  | .finite negative significand exponent =>
      let denominator := twoTo (-exponent).toNat
      if significand % denominator = 0 then
        let magnitude : Int := (significand / denominator * twoTo exponent.toNat : Nat)
        some (if negative then -magnitude else magnitude)
      else none
  | _ => none

end Datum

structure Double where
  bits : UInt64
deriving DecidableEq, Repr

structure Single where
  bits : UInt32
deriving DecidableEq, Repr

namespace Double

def datum (number : Double) : Datum :=
  Format.double.decode number.bits.toNat

def ofDatum (datum : Datum) : Double :=
  ⟨(Format.double.ofDatum datum).toUInt64⟩

def ofInt (whole : Int) : Double :=
  ⟨(Format.double.nearest (decide (whole < 0)) whole.natAbs 1).toUInt64⟩

def isNaN (number : Double) : Bool :=
  number.datum == .nan

end Double

namespace Single

def datum (number : Single) : Datum :=
  Format.single.decode number.bits.toNat

def ofDatum (datum : Datum) : Single :=
  ⟨(Format.single.ofDatum datum).toUInt32⟩

/-- Exact, since every 32-bit number is a 64-bit number. -/
def toDouble (number : Single) : Double :=
  .ofDatum number.datum

def isNaN (number : Single) : Bool :=
  number.datum == .nan

end Single

def Double.toSingle (number : Double) : Single :=
  .ofDatum number.datum

end RecordMapper.Binary
