import RecordMapper.Binary.Number

set_option autoImplicit false

/-!
Decimal numerals and the number nearest to one. A numeral is an optional sign, then digits with
at most one point and at least one digit, then an optional power of ten; the words `inf`,
`infinity` and `nan` are read in any case.
-/

namespace RecordMapper.Binary

def digitsValue (digits : List Char) : Nat :=
  digits.foldl (fun value digit => 10 * value + (digit.toNat - '0'.toNat)) 0

/-- A decimal number: `digits * 10 ^ exponent` with a sign. -/
structure Numeral where
  negative : Bool
  digits : Nat
  exponent : Int
deriving DecidableEq, Repr

namespace Numeral

def takeSign : List Char → Bool × List Char
  | '-' :: rest => (true, rest)
  | '+' :: rest => (false, rest)
  | chars => (false, chars)

/-- The power of ten that ends a numeral: nothing, or `e` and a whole number. -/
def readExponent? : List Char → Option Int
  | [] => some 0
  | mark :: rest =>
      if mark = 'e' ∨ mark = 'E' then
        let (negative, digits) := takeSign rest
        if digits.isEmpty ∨ digits.any (fun digit => !digit.isDigit) then none
        else some (if negative then -(digitsValue digits : Int) else digitsValue digits)
      else none

/-- A numeral without sign. -/
def readUnsigned? (negative : Bool) (chars : List Char) : Option Numeral :=
  let whole := chars.takeWhile Char.isDigit
  let afterWhole := chars.dropWhile Char.isDigit
  let (fraction, rest) :=
    match afterWhole with
    | '.' :: afterPoint => (afterPoint.takeWhile Char.isDigit, afterPoint.dropWhile Char.isDigit)
    | _ => ([], afterWhole)
  if whole.isEmpty && fraction.isEmpty then none
  else (readExponent? rest).map fun exponent =>
    ⟨negative, digitsValue (whole ++ fraction), exponent - fraction.length⟩

def read? (chars : List Char) : Option Numeral :=
  let (negative, rest) := takeSign chars
  readUnsigned? negative rest

/-- The 64-bit number nearest to the numeral. Beyond 400 places either way the outcome is
settled by size alone, and no power of ten is formed. -/
def toDouble (numeral : Numeral) : Double :=
  let places : Int := (Nat.toDigits 10 numeral.digits).length + numeral.exponent
  if numeral.digits = 0 ∨ places < -400 then
    .ofDatum (.finite numeral.negative 0 0)
  else if 400 < places then .ofDatum (.infinity numeral.negative)
  else
    ⟨(Format.double.nearest numeral.negative (numeral.digits * tenTo numeral.exponent.toNat)
      (tenTo (-numeral.exponent).toNat)).toUInt64⟩

end Numeral

def Double.read? (text : String) : Option Double :=
  let (negative, rest) := Numeral.takeSign text.toList
  let word := rest.map Char.toLower
  if word = "inf".toList ∨ word = "infinity".toList then some (.ofDatum (.infinity negative))
  else if word = "nan".toList then some (.ofDatum .nan)
  else (Numeral.readUnsigned? negative rest).map Numeral.toDouble

end RecordMapper.Binary
