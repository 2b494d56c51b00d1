import RecordMapper.Record.Basic
import RecordMapper.Row

set_option autoImplicit false

/-!
Records read from rows. Columns are read by name as their native types and kept as the values
these are stored as. Collections come from a source of related rows; a related record has no
source of its own, so its collections stay unjoined.
-/

namespace RecordMapper

inductive FieldValue (Item : Type) where
  | column (value : Value)
  /-- An optional collection that no join fills. -/
  | unjoined
  | related (items : List Item)
deriving DecidableEq, Repr

abbrev FieldValues (Item : Type) := List (String × FieldValue Item)

abbrev RelatedRecord := FieldValues Empty

abbrev HydratedRecord := FieldValues RelatedRecord

def FieldValues.columns {Item : Type} (values : FieldValues Item) : List (String × Value) :=
  values.filterMap fun (name, value) =>
    match value with
    | .column value => some (name, value)
    | _ => none

/-- Where the related rows of a root row come from: none when no join fills the field. -/
abbrev RelatedRows := RecordType → String → Row → Except Error (Option (List Row))

namespace RecordType

def decodeError (record : RecordType) (field : String) (cause : DecodeError.Cause) : Error :=
  .decode ⟨record.table, field, cause⟩

def readColumn (record : RecordType) (row : Row) (column : Column) : Except Error Value :=
  let type := NativeType.ofColumn column.kind column.optional
  match row.getByName? column.name with
  | none => .error (record.decodeError column.name .missingColumn)
  | some value =>
      match type.decode value with
      | .ok native => .ok (type.encode native)
      | .error reason => .error (Row.mismatch type (some column.name) reason)

/-- A collection that no join fills: nothing if it is optional. -/
def readUnjoined {Item : Type} (record : RecordType) (field : Field) :
    Except Error (FieldValue Item) :=
  if field.optional then .ok .unjoined
  else .error (record.decodeError field.name .missingJoin)

def readRelatedField (record : RecordType) (row : Row) (field : Field) :
    Except Error (String × FieldValue Empty) :=
  match field.column? with
  | some column => (record.readColumn row column).map fun value => (field.name, .column value)
  | none => (record.readUnjoined field).map fun value => (field.name, value)

/-- Reads a record whose collections have no source. -/
def readRelated (record : RecordType) (row : Row) : Except Error RelatedRecord :=
  record.fields.mapM (record.readRelatedField row)

def readCollection (schema : Schema) (record : RecordType) (field : Field) (item : String)
    (rows : List Row) : Except Error (FieldValue RelatedRecord) :=
  match schema.find? item with
  | none => .error (record.decodeError field.name (.undeclaredRecord item))
  | some related => (rows.mapM related.readRelated).map .related

def readField (schema : Schema) (source : RelatedRows) (record : RecordType) (row : Row)
    (field : Field) : Except Error (String × FieldValue RelatedRecord) :=
  match field.kind with
  | .column kind =>
      (record.readColumn row ⟨field.name, kind, field.optional, field.primaryKey⟩).map
        fun value => (field.name, .column value)
  | .collection item =>
      match source record field.name row with
      | .error error => .error error
      | .ok none => (record.readUnjoined field).map fun value => (field.name, value)
      | .ok (some rows) =>
          (readCollection schema record field item rows).map fun value => (field.name, value)

/-- Reads a record; the first field that cannot be read decides the failure. -/
def hydrate (schema : Schema) (source : RelatedRows) (record : RecordType) (row : Row) :
    Except Error HydratedRecord :=
  record.fields.mapM (readField schema source record row)

def decodeRow (schema : Schema) (record : RecordType) (row : Row) : Except Error HydratedRecord :=
  record.hydrate schema (fun _ _ _ => .ok none) row

end RecordType

end RecordMapper
