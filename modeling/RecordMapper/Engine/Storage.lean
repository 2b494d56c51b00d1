import RecordMapper.Value.Basic

set_option autoImplicit false

/-!
How the engine stores values. There are five storage classes; every integer width, truth values
and timestamps are stored as signed 64-bit integers, decimals as text and UUIDs as blobs. What is
read back is the stored content, so a value returns in the variant of its storage class.
-/

namespace RecordMapper.Engine

inductive StorageClass where
  | null
  | integer
  | real
  | text
  | blob
deriving DecidableEq, Repr

def StorageClass.name : StorageClass → String
  | .null => "NULL"
  | .integer => "INTEGER"
  | .real => "REAL"
  | .text => "TEXT"
  | .blob => "BLOB"

def StorageClass.ofValue : Value → StorageClass
  | .null => .null
  | .bool _ | .tinyInt _ | .smallInt _ | .int _ | .bigInt _ | .unsigned _ | .timestamp _ =>
      .integer
  | .float _ | .double _ => .real
  | .decimal _ | .text _ => .text
  | .bytes _ | .uuid _ => .blob

/-- A stored value. Text is kept as the bytes it was given. -/
inductive Stored where
  | null
  | integer (value : Int64)
  | real (value : Binary.Double)
  | text (bytes : List UInt8)
  | blob (bytes : List UInt8)
deriving DecidableEq, Repr

namespace Stored

/-- A real number; the engine keeps no NaN. -/
def ofDouble (number : Binary.Double) : Stored :=
  if number.isNaN then .null else .real number

/-- What a value is stored as, unless it is an unsigned number beyond the signed range. The engine
takes the lengths of texts and blobs as signed 32-bit numbers, so lengths below 2^31 are meant. -/
def ofValue? : Value → Option Stored
  | .null => some .null
  | .bool value => some (.integer (if value then 1 else 0))
  | .tinyInt value => some (.integer value.toInt64)
  | .smallInt value => some (.integer value.toInt64)
  | .int value => some (.integer value.toInt64)
  | .bigInt value => some (.integer value)
  | .timestamp micros => some (.integer micros)
  | .unsigned value => (Value.unsigned value).toInt64?.map .integer
  | .float value => some (ofDouble value.toDouble)
  | .double value => some (ofDouble value)
  | .decimal digits => some (.text (Text.Utf8.encode digits))
  | .text value => some (.text (Text.Utf8.encode value))
  | .bytes value => some (.blob value)
  | .uuid value => some (.blob value.toList)

/-- The value of a stored column. Integers take the narrower variant that holds them, and text
must be UTF-8. -/
def toValue : Stored → Except Text.Utf8.Fault Value
  | .null => .ok .null
  | .integer value =>
      if value.toInt32.toInt64 = value then .ok (.int value.toInt32) else .ok (.bigInt value)
  | .real value => .ok (.double value)
  | .text bytes => (Text.Utf8.decode bytes).map .text
  | .blob bytes => .ok (.bytes bytes)

end Stored

end RecordMapper.Engine
