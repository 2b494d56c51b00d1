import RecordMapper.ColumnKind
import RecordMapper.Declaration.Token.Natural
import RecordMapper.Declaration.TypeReading

set_option autoImplicit false

/-!
What a field holds, told from its written type. Only the last segment of a path counts, so a type
may be named with or without its module. Scalars, byte vectors and arrays of sixteen bytes are
columns, vectors of anything else are collections, and an option of one of these is optional.
-/

namespace RecordMapper.Declaration

inductive FieldContent where
  | column (kind : ColumnKind)
  | collection (item : TypeExpr)

structure FieldShape where
  content : FieldContent
  optional : Bool := false

def FieldShape.column? (shape : FieldShape) : Option ColumnKind :=
  match shape.content with
  | .column kind => some kind
  | .collection _ => none

inductive ShapeError where
  | nestedOption
  | unsupported
deriving DecidableEq, Repr

def ShapeError.message : ShapeError → String
  | .nestedOption => "nested Option fields are not supported"
  | .unsupported =>
      "unsupported field type; expected a scalar, String, Vec<u8>, [u8; 16], Timestamp, " ++
        "Decimal, Vec<Record> or an Option of one of these"

namespace TypeExpr

/-- The name that a path without arguments ends in. -/
def plainName? : TypeExpr → Option String
  | .path _ name .none => some name
  | _ => none

/-- The one type argument of a wrapper of the given name. -/
def wrapped? (wrapper : String) : TypeExpr → Option TypeExpr
  | .path _ name (.angled _ [.type inner _]) => if name = wrapper then some inner else none
  | _ => none

def isByte (type : TypeExpr) : Bool :=
  type.plainName? == some "u8"

/-- Whether a type is an array of sixteen bytes; the length is written as one number. -/
def isUuid : TypeExpr → Bool
  | .array element [length] => element.isByte && length.natural? == some 16
  | _ => false

/-- The types that are columns by their name alone. -/
def scalars : List (String × ColumnKind) :=
  [("bool", .bool), ("i8", .int8), ("i16", .int16), ("i32", .int32), ("i64", .int64),
    ("u8", .uint8), ("u16", .uint16), ("u32", .uint32), ("u64", .uint64), ("f32", .float),
    ("f64", .double), ("String", .text), ("Timestamp", .timestamp), ("Decimal", .decimal)]

/-- What a field that is no option holds. -/
def content (type : TypeExpr) : Except ShapeError FieldContent :=
  match type.wrapped? "Vec" with
  | some item => .ok (if item.isByte then .column .blob else .collection item)
  | none =>
      if type.isUuid then .ok (.column .uuid)
      else
        match type.plainName?.bind (List.lookup · scalars) with
        | some kind => .ok (.column kind)
        | none => .error .unsupported

/-- What a field of a type holds. An option of an option is refused. -/
def shape (type : TypeExpr) : Except ShapeError FieldShape :=
  match type.wrapped? "Option" with
  | none => type.content.map fun content => { content }
  | some inner =>
      match inner.wrapped? "Option" with
      | some _ => .error .nestedOption
      | none => inner.content.map fun content => { content, optional := true }

end TypeExpr

end RecordMapper.Declaration
