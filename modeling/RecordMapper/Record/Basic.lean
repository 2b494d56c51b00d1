import RecordMapper.ColumnKind
import RecordMapper.Error
import RecordMapper.Identifier

set_option autoImplicit false

/-!
Record types. A record type is stored in one table; its fields are columns of that table or
collections of related records, in declaration order. Collections name their record type, and a
schema is the list of record types such names refer to. Two references to a record type agree
when they hold the same declaration.
-/

namespace RecordMapper

inductive FieldKind where
  | column (kind : ColumnKind)
  /-- Any number of records of the named type, filled by a join. -/
  | collection (item : String)
deriving DecidableEq, Repr

def FieldKind.name : FieldKind → String
  | .column kind => kind.name
  | .collection _ => "collection"

structure Field where
  name : String
  kind : FieldKind
  optional : Bool := false
  primaryKey : Bool := false
deriving DecidableEq, Repr

/-- A field that is stored as a column. -/
structure Column where
  name : String
  kind : ColumnKind
  optional : Bool
  primaryKey : Bool
deriving DecidableEq, Repr

structure Collection where
  name : String
  item : String
  optional : Bool
deriving DecidableEq, Repr

namespace Field

def column? (field : Field) : Option Column :=
  match field.kind with
  | .column kind => some ⟨field.name, kind, field.optional, field.primaryKey⟩
  | .collection _ => none

def collection? (field : Field) : Option Collection :=
  match field.kind with
  | .column _ => none
  | .collection item => some ⟨field.name, item, field.optional⟩

end Field

structure RecordType where
  name : String
  table : String
  fields : List Field
deriving DecidableEq, Repr

namespace RecordType

def field? (record : RecordType) (name : String) : Option Field :=
  record.fields.find? (·.name == name)

def columns (record : RecordType) : List Column :=
  record.fields.filterMap Field.column?

def collections (record : RecordType) : List Collection :=
  record.fields.filterMap Field.collection?

/-- The first column marked as primary key, else the column named `id`. -/
def primaryKey? (record : RecordType) : Option Column :=
  match record.columns.find? (·.primaryKey) with
  | some column => some column
  | none => record.columns.find? (·.name == "id")

/-- The first name, table or field, that is no plain identifier. -/
def firstBadName? (record : RecordType) : Option String :=
  (record.table :: record.fields.map (·.name)).find? fun name => !Identifier.isPlain name

def validate (record : RecordType) : Except Error Unit :=
  match record.firstBadName? with
  | some name => .error (.schema (.invalidIdentifier name))
  | none => .ok ()

end RecordType

/-- A field named on a record type; the record type need not have it. -/
structure FieldRef where
  record : RecordType
  name : String
deriving DecidableEq, Repr

/-- The column that a reference means: the first field of the name, if that is a column. -/
def FieldRef.column? (reference : FieldRef) : Option String :=
  ((reference.record.field? reference.name).bind Field.column?).map (·.name)

abbrev Schema := List RecordType

def Schema.find? (schema : Schema) (name : String) : Option RecordType :=
  List.find? (fun record => record.name == name) schema

/-- The record types of a record's collections, as far as they are declared. -/
def Schema.related (schema : Schema) (record : RecordType) : List RecordType :=
  record.collections.filterMap fun collection => schema.find? collection.item

/-- Refuses a name that is no plain identifier. -/
def Identifier.validate (name : String) : Except Error Unit :=
  if isPlain name then .ok () else .error (.schema (.invalidIdentifier name))

end RecordMapper
