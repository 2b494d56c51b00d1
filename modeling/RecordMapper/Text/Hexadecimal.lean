set_option autoImplicit false

/-!
Hexadecimal digits, in lower case. Octets are two digits each, and their digits read back as the
same octets.
-/

namespace RecordMapper.Text.Hexadecimal

def digit (value : Nat) : Char :=
  if value < 10 then Char.ofNat (48 + value) else Char.ofNat (87 + value)

def value (digit : Char) : Nat :=
  if digit.isDigit then digit.toNat - 48 else digit.toNat - 87

/-- A number in at least so many digits. -/
def numeral (width number : Nat) : String :=
  let digits := Nat.toDigits 16 number
  String.ofList (List.replicate (width - digits.length) '0' ++ digits)

def number (digits : List Char) : Nat :=
  digits.foldl (fun total digit => 16 * total + value digit) 0

def octetDigits (octet : UInt8) : List Char :=
  [digit (octet.toNat / 16), digit (octet.toNat % 16)]

def ofOctets (octets : List UInt8) : String :=
  String.ofList (octets.flatMap octetDigits)

def toOctets : List Char → List UInt8
  | high :: low :: rest => UInt8.ofNat (16 * value high + value low) :: toOctets rest
  | _ => []

theorem value_digit : ∀ number < 16, value (digit number) = number := by
  decide

theorem toOctets_flatMap (octets : List UInt8) :
    toOctets (octets.flatMap octetDigits) = octets := by
  induction octets with
  | nil => rfl
  | cons octet rest ih =>
      have bound : octet.toNat < 256 := octet.toNat_lt
      have high := value_digit (octet.toNat / 16) (by omega)
      have low := value_digit (octet.toNat % 16) (by omega)
      simp only [List.flatMap_cons, octetDigits, List.cons_append, List.nil_append, toOctets,
        high, low]
      rw [Nat.div_add_mod, UInt8.ofNat_toNat]
      exact congrArg _ ih

theorem toOctets_ofOctets (octets : List UInt8) :
    toOctets (ofOctets octets).toList = octets := by
  rw [ofOctets, String.toList_ofList]
  exact toOctets_flatMap octets

end RecordMapper.Text.Hexadecimal
