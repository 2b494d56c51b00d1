import RecordMapper.Binary.Shortest

set_option autoImplicit false

/-!
The written form of binary numbers: their shortest digits, with a point where the leading digit
lies in a range of places around the units and with a signed power of ten elsewhere.
-/

namespace RecordMapper.Binary

/-- The places of the leading digit for which a number is written without a power of ten, and how
a number with one is written. -/
structure Layout where
  firstPlace : Int
  lastPlace : Int
  /-- Whether a single digit before a power of ten has a point and a zero behind it. -/
  pointed : Bool := false
  /-- The fewest digits of a power of ten. -/
  powerDigits : Nat := 1

namespace Layout

def single : Layout := { firstPlace := -6, lastPlace := 12 }

def double : Layout := { firstPlace := -5, lastPlace := 15 }

private def zeros (count : Int) : List Char :=
  List.replicate count.toNat '0'

/-- At least one digit stands on either side of the point. -/
def positional (digits : List Char) (exponent : Int) : List Char :=
  let place := digits.length + exponent
  if 0 ≤ exponent then digits ++ zeros exponent ++ ['.', '0']
  else if 0 < place then digits.take place.toNat ++ '.' :: digits.drop place.toNat
  else '0' :: '.' :: zeros (-place) ++ digits

def power (layout : Layout) (place : Int) : List Char :=
  let digits := Nat.toDigits 10 place.natAbs
  'e' :: (if place < 0 then '-' else '+')
    :: List.replicate (layout.powerDigits - digits.length) '0' ++ digits

/-- The first digit alone before the point. -/
def scientific (layout : Layout) (digits : List Char) (place : Int) : List Char :=
  match digits with
  | first :: second :: rest => first :: '.' :: second :: rest ++ layout.power place
  | _ => digits ++ (if layout.pointed then ['.', '0'] else []) ++ layout.power place

def ofDecimal (layout : Layout) (number : Decimal) : List Char :=
  let digits := Nat.toDigits 10 number.digits
  let place := digits.length + number.exponent - 1
  if layout.firstPlace ≤ place ∧ place ≤ layout.lastPlace then positional digits number.exponent
  else layout.scientific digits place

/-- The text of a finite number; the others have none. -/
def ofDatum? (layout : Layout) (format : Format) : Datum → Option String
  | .finite negative significand exponent =>
      let magnitude :=
        if significand = 0 then ['0', '.', '0']
        else layout.ofDecimal (shortest format significand exponent)
      some (String.ofList (if negative then '-' :: magnitude else magnitude))
  | _ => none

end Layout

def Double.render? (number : Double) : Option String :=
  Layout.double.ofDatum? .double number.datum

def Single.render? (number : Single) : Option String :=
  Layout.single.ofDatum? .single number.datum

end RecordMapper.Binary
