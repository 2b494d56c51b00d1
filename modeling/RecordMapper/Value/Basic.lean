import RecordMapper.Binary.Numeral
import RecordMapper.Text.Utf8

set_option autoImplicit false

/-!
Database values. Literals of expressions, bound parameters and columns of result rows are all
values. The views `toBool?`, `toInt64?`, `toUInt64?`, `toDouble?`, `text?` and `bytes?` widen a
value where nothing is lost in kind, and say nothing where the value is of another kind.
-/

namespace RecordMapper

inductive Value where
  | null
  | bool (value : Bool)
  | tinyInt (value : Int8)
  | smallInt (value : Int16)
  | int (value : Int32)
  | bigInt (value : Int64)
  | unsigned (value : UInt64)
  | float (value : Binary.Single)
  | double (value : Binary.Double)
  | decimal (digits : String)
  | text (value : String)
  | bytes (value : List UInt8)
  | uuid (value : Vector UInt8 16)
  | timestamp (micros : Int64)
deriving DecidableEq, Repr

namespace Value

def isNull : Value → Bool
  | .null => true
  | _ => false

/-- Name of the variant, under which a value is written out. -/
def variant : Value → String
  | .null => "Null"
  | .bool _ => "Bool"
  | .tinyInt _ => "TinyInt"
  | .smallInt _ => "SmallInt"
  | .int _ => "Int"
  | .bigInt _ => "BigInt"
  | .unsigned _ => "Unsigned"
  | .float _ => "Float"
  | .double _ => "Double"
  | .decimal _ => "Decimal"
  | .text _ => "Text"
  | .bytes _ => "Bytes"
  | .uuid _ => "Uuid"
  | .timestamp _ => "Timestamp"

def typeName : Value → String
  | .null => "NULL"
  | .bool _ => "BOOLEAN"
  | .tinyInt _ => "TINYINT"
  | .smallInt _ => "SMALLINT"
  | .int _ => "INTEGER"
  | .bigInt _ => "BIGINT"
  | .unsigned _ => "UNSIGNED"
  | .float _ => "REAL"
  | .double _ => "DOUBLE"
  | .decimal _ => "DECIMAL"
  | .text _ => "TEXT"
  | .bytes _ => "BLOB"
  | .uuid _ => "UUID"
  | .timestamp _ => "TIMESTAMP"

/-- A truth value or a plain integer; every integer but zero is true. -/
def toBool? : Value → Option Bool
  | .bool value => some value
  | .tinyInt value => some (value != 0)
  | .smallInt value => some (value != 0)
  | .int value => some (value != 0)
  | .bigInt value => some (value != 0)
  | .unsigned value => some (value != 0)
  | _ => none

/-- The first number beyond the signed 64-bit range. -/
abbrev signedBound : Nat :=
  9223372036854775808

/-- A truth value, an integer of the signed 64-bit range or a timestamp. -/
def toInt64? : Value → Option Int64
  | .bool value => some (if value then 1 else 0)
  | .tinyInt value => some value.toInt64
  | .smallInt value => some value.toInt64
  | .int value => some value.toInt64
  | .bigInt value => some value
  | .timestamp micros => some micros
  | .unsigned value => if value.toNat < signedBound then some value.toInt64 else none
  | _ => none

/-- Like `toInt64?` for the unsigned range. -/
def toUInt64? (value : Value) : Option UInt64 :=
  match value with
  | .unsigned number => some number
  | other => other.toInt64?.bind fun number => if 0 ≤ number then some number.toUInt64 else none

/-- A number of any kind, rounded to 64 bits; a decimal when its digits are a numeral. -/
def toDouble? : Value → Option Binary.Double
  | .float value => some value.toDouble
  | .double value => some value
  | .tinyInt value => some (.ofInt value.toInt)
  | .smallInt value => some (.ofInt value.toInt)
  | .int value => some (.ofInt value.toInt)
  | .bigInt value => some (.ofInt value.toInt)
  | .unsigned value => some (.ofInt value.toNat)
  | .decimal digits => Binary.Double.read? digits
  | _ => none

def text? : Value → Option String
  | .text value => some value
  | .decimal digits => some digits
  | _ => none

def bytes? : Value → Option (List UInt8)
  | .bytes value => some value
  | .uuid value => some value.toList
  | .text value => some (Text.Utf8.encode value)
  | _ => none

def ofUnsignedClamped (number : UInt64) : Value :=
  if number.toNat < signedBound then .bigInt number.toInt64 else .bigInt Int64.maxValue

/-- An unsigned number that the signed 64-bit range cannot hold. -/
def signedOverflow? : Value → Option UInt64
  | .unsigned number => if number.toNat < signedBound then none else some number
  | _ => none

end Value

end RecordMapper
