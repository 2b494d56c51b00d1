import RecordMapper.Binary.Power

set_option autoImplicit false

/-!
Binary floating-point numbers as bit patterns. A pattern decodes to a sign, a whole
significand and a power of two, and every quotient of natural numbers has a nearest pattern,
ties going to the even significand. All arithmetic is exact on natural numbers.
-/

namespace RecordMapper.Binary

/-- Widths of a binary interchange format: the stored fraction and the exponent field. -/
structure Format where
  fractionBits : Nat
  exponentBits : Nat
deriving DecidableEq, Repr

/-- What a bit pattern stands for. A finite one is `significand * 2 ^ exponent` with a sign. -/
inductive Datum where
  | nan
  | infinity (negative : Bool)
  | finite (negative : Bool) (significand : Nat) (exponent : Int)
deriving DecidableEq, Repr

/-- Whole quotient nearest to `numerator / denominator`; a half goes to the even neighbour. -/
def divideToEven (numerator denominator : Nat) : Nat :=
  let quotient := numerator / denominator
  let twice := 2 * (numerator % denominator)
  if twice < denominator then quotient
  else if denominator < twice then quotient + 1
  else quotient + quotient % 2

/-- Largest power of two that is at most `numerator / denominator`, both being positive. -/
def floorLog2 (numerator denominator : Nat) : Int :=
  let guess : Int := numerator.log2 - denominator.log2
  if denominator * twoTo guess.toNat ≤ numerator * twoTo (-guess).toNat then guess else guess - 1

namespace Format

def single : Format := ⟨23, 8⟩

def double : Format := ⟨52, 11⟩

def minExponent (format : Format) : Int :=
  2 - twoTo (format.exponentBits - 1) - format.fractionBits

def signWeight (format : Format) : Nat :=
  twoTo (format.fractionBits + format.exponentBits)

/-- Pattern of positive infinity: all ones in the exponent field. -/
def infinityBits (format : Format) : Nat :=
  (twoTo format.exponentBits - 1) * twoTo format.fractionBits

def decode (format : Format) (bits : Nat) : Datum :=
  let negative := decide (bits / format.signWeight % 2 = 1)
  let field := bits / twoTo format.fractionBits % twoTo format.exponentBits
  let fraction := bits % twoTo format.fractionBits
  if field = twoTo format.exponentBits - 1 then
    if fraction = 0 then .infinity negative else .nan
  else if field = 0 then .finite negative fraction format.minExponent
  else .finite negative (twoTo format.fractionBits + fraction) (format.minExponent + field - 1)

/-- Pattern, without sign, nearest to `numerator / denominator`. A significand that rounds up
to the next power of two carries into the exponent field by itself. -/
def magnitudeBits (format : Format) (numerator denominator : Nat) : Nat :=
  if numerator = 0 then 0
  else
    let quantum := max format.minExponent (floorLog2 numerator denominator - format.fractionBits)
    let significand :=
      divideToEven (numerator * twoTo (-quantum).toNat) (denominator * twoTo quantum.toNat)
    (quantum - format.minExponent).toNat * twoTo format.fractionBits + significand

/-- Pattern nearest to a signed quotient; what is too large becomes infinity. -/
def nearest (format : Format) (negative : Bool) (numerator denominator : Nat) : Nat :=
  (if negative then format.signWeight else 0)
    + min format.infinityBits (format.magnitudeBits numerator denominator)

/-- Pattern of a datum of any other format, rounded to this one. -/
def ofDatum (format : Format) : Datum → Nat
  | .nan => format.infinityBits + twoTo (format.fractionBits - 1)
  | .infinity negative => (if negative then format.signWeight else 0) + format.infinityBits
  | .finite negative significand exponent =>
      format.nearest negative (significand * twoTo exponent.toNat) (twoTo (-exponent).toNat)

end Format

end RecordMapper.Binary
