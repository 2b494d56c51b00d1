import RecordMapper.Binary.Numeral
import RecordMapper.Binary.Significant
import RecordMapper.Engine.Storage

set_option autoImplicit false

/-!
Column affinities and the order of stored values. An affinity is what a column's type name asks
of the values stored in it: text that is a number becomes one in a numeric column, and numbers
become text in a text column. Values of different classes are ordered by class; numbers compare
exactly, whether whole or not, and texts and blobs by their bytes.
-/

namespace RecordMapper.Engine

open Binary (twoTo)

inductive Affinity where
  | none
  | text
  | numeric
  | integer
  | real
deriving DecidableEq, Repr

namespace Affinity

def mentions (name part : String) : Bool :=
  1 < (name.splitOn part).length

/-- The affinity of a type name, told by what it contains. A column without a type has none. -/
def ofTypeName (name : String) : Affinity :=
  let upper := name.map Char.toUpper
  if mentions upper "INT" then .integer
  else if ["CHAR", "CLOB", "TEXT"].any (mentions upper) then .text
  else if upper.isEmpty || mentions upper "BLOB" then .none
  else if ["REAL", "FLOA", "DOUB"].any (mentions upper) then .real
  else .numeric

def isNumeric : Affinity → Bool
  | .none => false
  | .text => false
  | .numeric => true
  | .integer => true
  | .real => true

end Affinity

namespace Stored

/-! ## Numbers in text -/

def isBlank (byte : UInt8) : Bool :=
  byte == 32 || (9 ≤ byte && byte ≤ 13)

def trimBlanks (bytes : List UInt8) : List UInt8 :=
  ((bytes.dropWhile isBlank).reverse.dropWhile isBlank).reverse

def inRange (whole : Int) : Bool :=
  Int64.minValue.toInt ≤ whole && whole ≤ Int64.maxValue.toInt

/-- The number that characters write. Digits alone make an integer, as far as its range goes. -/
def ofNumeral (chars : List Char) (numeral : Binary.Numeral) : Stored :=
  let whole : Int := if numeral.negative then -numeral.digits else numeral.digits
  if chars.any (fun char => char == '.' || char == 'e' || char == 'E') || !inRange whole then
    .real numeral.toDouble
  else .integer (.ofInt whole)

/-- The number that a text writes, blanks around it left aside. -/
def numberOfText? (bytes : List UInt8) : Option Stored :=
  let chars := (trimBlanks bytes).map fun byte => Char.ofNat byte.toNat
  (Binary.Numeral.read? chars).map (ofNumeral chars)

/-- The number at the start of a text, or zero. -/
def leadingNumber (bytes : List UInt8) : Stored :=
  let chars := (bytes.dropWhile isBlank).map fun byte => Char.ofNat byte.toNat
  let starts := (List.range (chars.length + 1)).reverse.map chars.take
  (starts.findSome? fun start => (Binary.Numeral.read? start).map (ofNumeral start)).getD
    (.integer 0)

/-! ## Conversions -/

/-- A whole number strictly inside the range of integers becomes one. -/
def integral (number : Binary.Double) : Stored :=
  match number.datum.toInt? with
  | some whole =>
      if Int64.minValue.toInt < whole && whole < Int64.maxValue.toInt then
        .integer (.ofInt whole)
      else .real number
  | none => .real number

def toNumber : Stored → Stored
  | .text bytes =>
      match numberOfText? bytes with
      | some (.real number) => integral number
      | some number => number
      | none => .text bytes
  | stored => stored

def toReal : Stored → Stored
  | .integer whole => .real (.ofInt whole.toInt)
  | stored => stored

/-- A zero kept in a real column has no sign. -/
def unsignedZero : Stored → Stored
  | .real number =>
      if number.datum.toInt? == some 0 then .real (.ofInt 0) else .real number
  | stored => stored

/-- How numbers that are not whole are written as text. -/
def realLayout : Binary.Layout :=
  { firstPlace := -4, lastPlace := 14, pointed := true, powerDigits := 2 }

/-- The text of a number that is not whole: fifteen digits of it. A zero has no sign. -/
def realText (number : Binary.Double) : String :=
  match number.datum with
  | .infinity negative => if negative then "-Inf" else "Inf"
  | datum => (realLayout.ofSignificant? 15 datum).getD "NaN"

def toText : Stored → Stored
  | .integer whole => .text (Text.Utf8.encode (toString whole.toInt))
  | .real number => .text (Text.Utf8.encode (realText number))
  | stored => stored

def keptBy (affinity : Affinity) (stored : Stored) : Stored :=
  match affinity with
  | .none => stored
  | .text => stored.toText
  | .real => stored.toNumber.toReal.unsignedZero
  | _ =>
      match stored.toNumber with
      | .real number => integral number
      | kept => kept

/-! ## Order -/

def isNull (stored : Stored) : Bool :=
  stored == .null

def classRank : Stored → Nat
  | .null => 0
  | .integer _ => 1
  | .real _ => 1
  | .text _ => 2
  | .blob _ => 3

/-- Compares a whole number with `significand * 2 ^ exponent`. -/
def compareScaled (whole : Int) (significand : Int) (exponent : Int) : Ordering :=
  compare (whole * twoTo (-exponent).toNat) (significand * twoTo exponent.toNat)

def signed (negative : Bool) (significand : Nat) : Int :=
  if negative then -significand else significand

def compareInteger (whole : Int) : Binary.Datum → Ordering
  | .nan => .gt
  | .infinity negative => if negative then .gt else .lt
  | .finite negative significand exponent =>
      compareScaled whole (signed negative significand) exponent

def compareReal : Binary.Datum → Binary.Datum → Ordering
  | .finite negative significand exponent, right =>
      let scaled := signed negative significand * twoTo exponent.toNat
      match right with
      | .finite rightNegative rightSignificand rightExponent =>
          compare (scaled * twoTo (-rightExponent).toNat)
            (signed rightNegative rightSignificand * twoTo rightExponent.toNat
              * twoTo (-exponent).toNat)
      | other => compareInteger 0 other
  | .infinity left, .infinity right => compare right left
  | left, .finite _ _ _ => (compareInteger 0 left).swap
  | .nan, .infinity _ => .lt
  | .infinity _, .nan => .gt
  | .nan, .nan => .eq

def compareBytes (left right : List UInt8) : Ordering :=
  compare (left.map UInt8.toNat) (right.map UInt8.toNat)

/-- The order in which values are sorted. -/
def order (left right : Stored) : Ordering :=
  match left, right with
  | .integer left, .integer right => compare left.toInt right.toInt
  | .integer left, .real right => compareInteger left.toInt right.datum
  | .real left, .integer right => (compareInteger right.toInt left.datum).swap
  | .real left, .real right => compareReal left.datum right.datum
  | .text left, .text right => compareBytes left right
  | .blob left, .blob right => compareBytes left right
  | left, right => compare left.classRank right.classRank

/-- Compares two operands with the affinities of the columns they come from. A numeric column
makes a number of the other operand, and a text column a text of an operand without affinity.
NULL compares with nothing. -/
def compareWith (leftAffinity rightAffinity : Affinity) (left right : Stored) :
    Option Ordering :=
  if left.isNull || right.isNull then none
  else if leftAffinity.isNumeric && !rightAffinity.isNumeric then
    some (order left right.toNumber)
  else if rightAffinity.isNumeric && !leftAffinity.isNumeric then
    some (order left.toNumber right)
  else if leftAffinity == .text && rightAffinity == .none then some (order left right.toText)
  else if rightAffinity == .text && leftAffinity == .none then some (order left.toText right)
  else some (order left right)

/-- Whether a value counts as true; NULL is neither. -/
def truth : Stored → Option Bool
  | .null => none
  | .integer whole => some (whole != 0)
  | .real number => some (number.datum.toInt? != some 0)
  | .text bytes => some (order (leadingNumber bytes) (.integer 0) != .eq)
  | .blob bytes => some (order (leadingNumber bytes) (.integer 0) != .eq)

def ofTruth : Option Bool → Stored
  | none => .null
  | some value => .integer (if value then 1 else 0)

end Stored

end RecordMapper.Engine
