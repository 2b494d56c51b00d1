import RecordMapper.Engine.Affinity

set_option autoImplicit false

/-!
Arithmetic on stored values, and casts between their classes. Text and blobs count as the number
at their start. Whole numbers stay whole as far as their range goes, and become real numbers beyond
it; nothing is divided by zero.
-/

namespace RecordMapper.Engine

open Binary (twoTo)

inductive Arithmetic where
  | add
  | subtract
  | multiply
  | divide
  | remainder
  | conjunction
  | disjunction
  | shiftLeft
  | shiftRight
deriving DecidableEq, Repr

namespace Stored

def toOperand : Stored → Stored
  | .text bytes => leadingNumber bytes
  | .blob bytes => leadingNumber bytes
  | stored => stored

/-- The nearest whole number within the range of integers. -/
def clamped (whole : Int) : Int :=
  max Int64.minValue.toInt (min Int64.maxValue.toInt whole)

/-- The whole number at the start of a text, or zero. -/
def leadingInteger (bytes : List UInt8) : Int :=
  let chars := (bytes.dropWhile isBlank).map fun byte => Char.ofNat byte.toNat
  let (negative, unsigned) := Binary.Numeral.takeSign chars
  signed negative (Binary.digitsValue (unsigned.takeWhile Char.isDigit))

/-- A number without what stands behind its point. -/
def truncated : Binary.Datum → Int
  | .nan => 0
  | .infinity negative => if negative then Int64.minValue.toInt else Int64.maxValue.toInt
  | .finite negative significand exponent =>
      signed negative (significand * twoTo exponent.toNat / twoTo (-exponent).toNat)

def toInt : Stored → Int
  | .null => 0
  | .integer whole => whole.toInt
  | .real number => clamped (truncated number.datum)
  | .text bytes => clamped (leadingInteger bytes)
  | .blob bytes => clamped (leadingInteger bytes)

def toFloat (stored : Stored) : Float :=
  match stored.toOperand.toReal with
  | .real number => Float.ofBits number.bits
  | _ => 0

def ofFloat (number : Float) : Stored :=
  ofDouble ⟨number.toBits⟩

/-- A whole number, or the real number nearest to it when it is out of range. -/
def ofInt (whole : Int) : Stored :=
  if inRange whole then .integer (.ofInt whole) else .real (.ofInt whole)

def opposite (stored : Stored) : Stored :=
  match stored.toOperand with
  | .integer whole => ofInt (-whole.toInt)
  | .real number => .real ⟨number.bits ^^^ 0x8000000000000000⟩
  | _ => .null

def complement (stored : Stored) : Stored :=
  if stored.isNull then .null else .integer (.ofInt (-1 - stored.toInt))

/-- Both texts in a row; the bytes of a blob are taken as text. -/
def concat (left right : Stored) : Stored :=
  match left.toText, right.toText with
  | .text first, .text second => .text (first ++ second)
  | .text first, .blob second => .text (first ++ second)
  | .blob first, .text second => .text (first ++ second)
  | .blob first, .blob second => .text (first ++ second)
  | _, _ => .null

/-- A cast to a type. Blobs are taken as text byte by byte, and of a text the number at its start
counts. -/
def cast (affinity : Affinity) (stored : Stored) : Stored :=
  match affinity, stored with
  | _, .null => .null
  | .none, stored => .blob (bytesOf stored)
  | .text, stored => .text (bytesOf stored)
  | .integer, stored => .integer (.ofInt stored.toInt)
  | .real, stored => stored.toOperand.toReal
  | .numeric, .integer whole => .integer whole
  | .numeric, .real number => .real number
  | .numeric, stored =>
      match stored.toOperand with
      | .real number => integral number
      | operand => operand
where
  bytesOf (stored : Stored) : List UInt8 :=
    match stored.toText with
    | .text bytes => bytes
    | .blob bytes => bytes
    | _ => []

end Stored

namespace Arithmetic

/-- Multiplies by a power of two, or divides by one when the power is negative. -/
def shift (whole places : Int) : Int64 :=
  if 63 < places then 0
  else if places < -63 then if whole < 0 then -1 else 0
  else if places < 0 then .ofInt (whole.fdiv (twoTo (-places).toNat))
  else .ofInt (whole * twoTo places.toNat)

/-- The remainder, which has the sign of the dividend. -/
def remainderOf (left right : Int) : Option Int :=
  if right = 0 then none else some (left.tmod right)

/-- An operation on whole numbers; a quotient loses what stands behind the point. -/
def onIntegers (operator : Arithmetic) (left right : Int) : Stored :=
  match operator with
  | .add => .ofInt (left + right)
  | .subtract => .ofInt (left - right)
  | .multiply => .ofInt (left * right)
  | .divide => if right = 0 then .null else .ofInt (left.tdiv right)
  | .remainder => ((remainderOf left right).map Stored.ofInt).getD .null
  | .conjunction => .integer (Int64.ofInt left &&& Int64.ofInt right)
  | .disjunction => .integer (Int64.ofInt left ||| Int64.ofInt right)
  | .shiftLeft => .integer (shift left right)
  | .shiftRight => .integer (shift left (-right))

/-- An operation of which an operand is not whole; the remainder and the operations on bits leave
what stands behind the point aside. -/
def onReals (operator : Arithmetic) (left right : Stored) : Stored :=
  match operator with
  | .add => .ofFloat (left.toFloat + right.toFloat)
  | .subtract => .ofFloat (left.toFloat - right.toFloat)
  | .multiply => .ofFloat (left.toFloat * right.toFloat)
  | .divide => if right.toFloat == 0 then .null else .ofFloat (left.toFloat / right.toFloat)
  | .remainder => (onIntegers .remainder left.toInt right.toInt).toReal
  | _ => onIntegers operator left.toInt right.toInt

/-- NULL as an operand gives NULL. -/
def evaluate (operator : Arithmetic) (left right : Stored) : Stored :=
  match left.toOperand, right.toOperand with
  | .null, _ => .null
  | _, .null => .null
  | .integer first, .integer second => operator.onIntegers first.toInt second.toInt
  | _, _ => operator.onReals left right

end Arithmetic

end RecordMapper.Engine
