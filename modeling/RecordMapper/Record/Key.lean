import RecordMapper.ColumnKind
import RecordMapper.Error
import RecordMapper.Value.Native

set_option autoImplicit false

/-!
Join keys. A key column is normalized by the declared kind of the key before it is compared, so
that equal keys are found across the widths and variants a database may return.
-/

namespace RecordMapper

inductive KeyKind where
  | bool
  | int
  | uint
  | float
  | double
  | text
  | timestamp
  | blob
deriving DecidableEq, Repr

namespace KeyKind

def name : KeyKind → String
  | .bool => "Bool"
  | .int => "Int"
  | .uint => "UInt"
  | .float => "Float"
  | .double => "Double"
  | .text => "Text"
  | .timestamp => "Timestamp"
  | .blob => "Blob"

def ofColumn? : ColumnKind → Option KeyKind
  | .bool => some .bool
  | .int8 | .int16 | .int32 | .int64 | .uint8 | .uint16 | .uint32 => some .int
  | .uint64 => some .uint
  | .float => some .float
  | .double => some .double
  | .text => some .text
  | .timestamp => some .timestamp
  | .blob => some .blob
  | .decimal | .uuid => none

end KeyKind

inductive KeyValue where
  | bool (value : Bool)
  | int (value : Int64)
  | uint (value : UInt64)
  | float (value : Binary.Single)
  | double (value : Binary.Double)
  | text (value : String)
  | timestamp (micros : Int64)
  | blob (value : List UInt8)
deriving DecidableEq, Repr

namespace KeyValue

/-- Whether two keys join. Numbers are compared as numbers, so a NaN joins with nothing. -/
def joins : KeyValue → KeyValue → Bool
  | .float left, .float right => left.datum.equals right.datum
  | .double left, .double right => left.datum.equals right.datum
  | left, right => left == right

def ofValue? (kind : KeyKind) (value : Value) : Option KeyValue :=
  match kind with
  | .bool => value.toBool?.map .bool
  | .int => value.toInt64?.map .int
  | .uint => value.toUInt64?.map .uint
  | .float => (value.decode .float).toOption.map .float
  | .double => value.toDouble?.map .double
  | .text => value.text?.map .text
  | .timestamp => value.toInt64?.map .timestamp
  | .blob => value.bytes?.map .blob

/-- Reads a key column. NULL has no key and so joins with nothing. -/
def read (kind : KeyKind) (value : Value) : Except Error (Option KeyValue) :=
  if value.isNull then .ok none
  else
    match ofValue? kind value with
    | some key => .ok (some key)
    | none =>
        .error (.conversion
          ⟨"join key", s!"{value.typeName} cannot be compared as {kind.name}", none⟩)

end KeyValue

end RecordMapper
