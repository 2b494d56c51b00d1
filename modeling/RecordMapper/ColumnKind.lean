import RecordMapper.Binary.Number
import RecordMapper.Named

set_option autoImplicit false

/-!
The kinds of columns. A kind fixes what a program holds for a column of that kind and the names
under which that type appears in messages.
-/

namespace RecordMapper

inductive ColumnKind where
  | bool
  | int8
  | int16
  | int32
  | int64
  | uint8
  | uint16
  | uint32
  | uint64
  | float
  | double
  | decimal
  | text
  | blob
  | uuid
  | timestamp
deriving DecidableEq, Repr

namespace ColumnKind

/-- What a program holds for a column. A decimal keeps its digits as text and a timestamp counts
microseconds. -/
abbrev Native : ColumnKind → Type
  | .bool => Bool
  | .int8 => Int8
  | .int16 => Int16
  | .int32 => Int32
  | .int64 => Int64
  | .uint8 => UInt8
  | .uint16 => UInt16
  | .uint32 => UInt32
  | .uint64 => UInt64
  | .float => Binary.Single
  | .double => Binary.Double
  | .decimal => String
  | .text => String
  | .blob => List UInt8
  | .uuid => Vector UInt8 16
  | .timestamp => Int64

def all : List ColumnKind :=
  [.bool, .int8, .int16, .int32, .int64, .uint8, .uint16, .uint32, .uint64, .float, .double,
    .decimal, .text, .blob, .uuid, .timestamp]

def name : ColumnKind → String
  | .bool => "bool"
  | .int8 => "int8"
  | .int16 => "int16"
  | .int32 => "int32"
  | .int64 => "int64"
  | .uint8 => "uint8"
  | .uint16 => "uint16"
  | .uint32 => "uint32"
  | .uint64 => "uint64"
  | .float => "float"
  | .double => "double"
  | .decimal => "decimal"
  | .text => "text"
  | .blob => "blob"
  | .uuid => "uuid"
  | .timestamp => "timestamp"

instance : Named ColumnKind := ⟨all, name, by intro kind; cases kind <;> rfl⟩

/-- Name of the kind where a declaration is described. -/
def title : ColumnKind → String
  | .bool => "Bool"
  | .int8 => "Int8"
  | .int16 => "Int16"
  | .int32 => "Int32"
  | .int64 => "Int64"
  | .uint8 => "UInt8"
  | .uint16 => "UInt16"
  | .uint32 => "UInt32"
  | .uint64 => "UInt64"
  | .float => "Float"
  | .double => "Double"
  | .decimal => "Decimal"
  | .text => "Text"
  | .blob => "Blob"
  | .uuid => "Uuid"
  | .timestamp => "Timestamp"

/-- Name of the native type where a conversion fails. -/
def typeName : ColumnKind → String
  | .bool => "bool"
  | .int8 => "i8"
  | .int16 => "i16"
  | .int32 => "i32"
  | .int64 => "i64"
  | .uint8 => "u8"
  | .uint16 => "u16"
  | .uint32 => "u32"
  | .uint64 => "u64"
  | .float => "f32"
  | .double => "f64"
  | .decimal => "Decimal"
  | .text => "String"
  | .blob => "Vec<u8>"
  | .uuid => "[u8; 16]"
  | .timestamp => "Timestamp"

/-- Name of the native type where a column is missing: the full path of a type that has one. -/
def pathName : ColumnKind → String
  | .decimal => "sqlcrud_core::value::Decimal"
  | .text => "alloc::string::String"
  | .blob => "alloc::vec::Vec<u8>"
  | .timestamp => "sqlcrud_core::value::Timestamp"
  | kind => kind.typeName

end ColumnKind

end RecordMapper
