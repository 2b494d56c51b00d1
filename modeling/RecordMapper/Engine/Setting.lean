import RecordMapper.Binary.Numeral
import RecordMapper.Text.Hexadecimal

set_option autoImplicit false

/-!
The values of settings that are on or off. A value that starts with a digit is on when the last
eight bits of the number at its start are not all zero; of other values some words are on, in any
case of their letters.
-/

namespace RecordMapper.Engine.Setting

/-- The digits to the base sixteen behind a zero and an x. -/
def hexDigits? : List Char → Option (List Char)
  | '0' :: mark :: digit :: rest =>
      let isHex (char : Char) : Bool := char.isDigit || ('a' ≤ char && char ≤ 'f')
      if mark == 'x' && isHex digit then some ((digit :: rest).takeWhile isHex) else none
  | _ => none

/-- The number at the start of a value in lower case; what does not fit into 31 bits is zero. -/
def leadingNumber (chars : List Char) : Nat :=
  let value :=
    match hexDigits? chars with
    | some digits => Text.Hexadecimal.number digits
    | none => Binary.digitsValue (chars.takeWhile Char.isDigit)
  if value < 2147483648 then value else 0

def isOn (value : String) : Bool :=
  let chars := value.toList.map Char.toLower
  if chars.head?.any Char.isDigit then leadingNumber chars % 256 != 0
  else ["on", "yes", "true"].any (·.toList == chars)

end RecordMapper.Engine.Setting
