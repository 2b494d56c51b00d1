import RecordMapper.Declaration.Token.Scan

set_option autoImplicit false

/-!
The value of a literal that writes a whole number. A base mark may stand before the digits, single
underscores between them, and a name behind them.
-/

namespace RecordMapper.Declaration.Token

/-- The base that the start of a number announces, and the characters after it. -/
def numberBase : List Char → Nat × List Char
  | '0' :: 'x' :: rest => (16, rest)
  | '0' :: 'o' :: rest => (8, rest)
  | '0' :: 'b' :: rest => (2, rest)
  | rest => (10, rest)

def digitValue? (base : Nat) (char : Char) : Option Nat :=
  if char.isDigit then some (char.toNat - '0'.toNat)
  else if 10 < base && 'a' ≤ char && char ≤ 'f' then some (char.toNat - 'a'.toNat + 10)
  else if 10 < base && 'A' ≤ char && char ≤ 'F' then some (char.toNat - 'A'.toNat + 10)
  else none

/-- What may stand behind the digits of a number: nothing, or a name. -/
def isSuffix : List Char → Bool
  | [] => true
  | first :: rest => !first.isDigit && (first :: rest).all isWordChar

/-- Whether the characters after the mark `e` of a decimal number make it a fraction: they are
digits, with nothing or a name behind them. -/
def isExponent (digitSeen : Bool) : List Char → Bool
  | [] => digitSeen
  | char :: rest =>
      if char == '_' then isExponent digitSeen rest
      else if char.isDigit then isExponent true rest
      else if char == '-' || char == '+' then true
      else digitSeen && isSuffix (char :: rest)

/-- Reads digits; underscores between them do not count. -/
def readDigits (base value : Nat) (digitSeen : Bool) : List Char → Option Nat
  | [] => if digitSeen then some value else none
  | char :: rest =>
      match digitValue? base char with
      | some digit =>
          if digit < base then readDigits base (value * base + digit) true rest else none
      | none =>
          if char == '_' then readDigits base value digitSeen rest
          else if base == 10 && char == '.' then none
          else if base == 10 && (char == 'e' || char == 'E') && isExponent false rest then none
          else if digitSeen && isSuffix (char :: rest) then some value
          else none

def natural? : Token → Option Nat
  | .literal text =>
      if text.toList.head?.any Char.isDigit then
        let (base, digits) := numberBase text.toList
        readDigits base 0 false digits
      else none
  | _ => none

end RecordMapper.Declaration.Token

