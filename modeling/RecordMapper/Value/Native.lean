import RecordMapper.ColumnKind
import RecordMapper.Value.Basic

set_option autoImplicit false

/-!
Between values and native types. `decode` reads a value as a native type and fails rather than
change it; `encode` gives the value that a native one is stored as. Unsigned integers of up to
32 bits are stored in the next wider signed value.
-/

namespace RecordMapper

/-- Why a value is not of a native type. -/
inductive Mismatch where
  | kind (value : Value)
  | outOfRange (number : Int64)
  | byteCount (count : Nat)
deriving DecidableEq, Repr

def Mismatch.found : Mismatch → String
  | .kind value => value.typeName
  | .outOfRange number => s!"value {number.toInt} out of range"
  | .byteCount count => s!"BLOB of {count} bytes"

namespace Value

private def orMismatch {α : Type} (value : Value) : Option α → Except Mismatch α
  | some found => .ok found
  | none => .error (.kind value)

def toIntWithin (lower upper : Int) (value : Value) : Except Mismatch Int64 :=
  match value.toInt64? with
  | none => .error (.kind value)
  | some number =>
      if lower ≤ number.toInt ∧ number.toInt ≤ upper then .ok number
      else .error (.outOfRange number)

/-- Decimal digits: of a decimal or text as they stand, of an integer its numeral. A truth value
and the other kinds have none. -/
def toDecimal (value : Value) : Except Mismatch String :=
  match value with
  | .decimal digits => .ok digits
  | .text digits => .ok digits
  | .null | .bool _ | .float _ | .double _ => .error (.kind value)
  | other =>
      match other.toInt64?, other.toUInt64? with
      | some number, _ => .ok (toString number.toInt)
      | none, some number => .ok (toString number.toNat)
      | none, none => .error (.kind value)

def toUuid (value : Value) : Except Mismatch (Vector UInt8 16) :=
  match value with
  | .uuid octets => .ok octets
  | .bytes octets =>
      if length : octets.length = 16 then .ok ⟨octets.toArray, by simpa using length⟩
      else .error (.byteCount octets.length)
  | other => .error (.kind other)

def decode : (kind : ColumnKind) → Value → Except Mismatch kind.Native
  | .bool, value => value.orMismatch value.toBool?
  | .int8, value => (value.toIntWithin (-128) 127).map Int64.toInt8
  | .int16, value => (value.toIntWithin (-32768) 32767).map Int64.toInt16
  | .int32, value => (value.toIntWithin (-2147483648) 2147483647).map Int64.toInt32
  | .int64, value => value.orMismatch value.toInt64?
  | .uint8, value => (value.toIntWithin 0 255).map fun number => number.toUInt64.toUInt8
  | .uint16, value => (value.toIntWithin 0 65535).map fun number => number.toUInt64.toUInt16
  | .uint32, value => (value.toIntWithin 0 4294967295).map fun number => number.toUInt64.toUInt32
  | .uint64, value => value.orMismatch value.toUInt64?
  | .float, .float number => .ok number
  | .float, value => value.orMismatch (value.toDouble?.map Binary.Double.toSingle)
  | .double, value => value.orMismatch value.toDouble?
  | .decimal, value => value.toDecimal
  | .text, value => value.orMismatch value.text?
  | .blob, value => value.orMismatch value.bytes?
  | .uuid, value => value.toUuid
  | .timestamp, value => value.orMismatch value.toInt64?

def encode : (kind : ColumnKind) → kind.Native → Value
  | .bool, native => .bool native
  | .int8, native => .tinyInt native
  | .int16, native => .smallInt native
  | .int32, native => .int native
  | .int64, native => .bigInt native
  | .uint8, native => .smallInt native.toUInt16.toInt16
  | .uint16, native => .int native.toUInt32.toInt32
  | .uint32, native => .bigInt native.toUInt64.toInt64
  | .uint64, native => .unsigned native
  | .float, native => .float native
  | .double, native => .double native
  | .decimal, native => .decimal native
  | .text, native => .text native
  | .blob, native => .bytes native
  | .uuid, native => .uuid native
  | .timestamp, native => .timestamp native

end Value

/-- A type that values are read as: a value itself, or a column's native type, which may be
optional. -/
inductive NativeType where
  | any
  | required (kind : ColumnKind)
  | optional (kind : ColumnKind)
deriving DecidableEq, Repr

namespace NativeType

abbrev Carrier : NativeType → Type
  | .any => Value
  | .required kind => kind.Native
  | .optional kind => Option kind.Native

/-- The type of a column that may or may not be optional. -/
def ofColumn (kind : ColumnKind) (isOptional : Bool) : NativeType :=
  if isOptional then .optional kind else .required kind

def kind? : NativeType → Option ColumnKind
  | .any => none
  | .required kind => some kind
  | .optional kind => some kind

/-- What a failed reading expected. An optional type expects what is inside it. -/
def expected : NativeType → String
  | .any => "Value"
  | .required kind => kind.typeName
  | .optional kind => kind.typeName

def pathName : NativeType → String
  | .any => "sqlcrud_core::value::Value"
  | .required kind => kind.pathName
  | .optional kind => s!"core::option::Option<{kind.pathName}>"

def decode : (type : NativeType) → Value → Except Mismatch type.Carrier
  | .any, value => .ok value
  | .required kind, value => value.decode kind
  | .optional kind, value => if value.isNull then .ok none else (value.decode kind).map some

def encode : (type : NativeType) → type.Carrier → Value
  | .any, native => native
  | .required kind, native => Value.encode kind native
  | .optional _, none => .null
  | .optional kind, some native => Value.encode kind native

end NativeType

end RecordMapper
