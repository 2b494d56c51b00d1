import RecordMapper.Declaration.Basic
import RecordMapper.Record.Basic

set_option autoImplicit false

/-!
Checks of a declaration that has been read, and the record type it declares. All violations are
reported together: a record without columns, names that are no plain identifiers, and marks of a
primary key after the first.
-/

namespace RecordMapper.Declaration

inductive Violation where
  | noColumns
  | tableName (name : String)
  | columnName (name : String)
  | secondKey
deriving DecidableEq, Repr

def Violation.message : Violation → String
  | .noColumns => "Record struct must have at least one column field"
  | .tableName name => s!"invalid table name '{name}': use letters, digits and underscores"
  | .columnName name => s!"invalid column name '{name}': use letters, digits and underscores"
  | .secondKey => "only one field can be marked #[crud(primary_key)]"

namespace Entry

def columns (entry : Entry) : List FieldEntry :=
  entry.fields.filter fun field => field.shape.column?.isSome

def nameViolations (make : String → Violation) (name : String) : List Violation :=
  if Identifier.isPlain name then [] else [make name]

def violations (entry : Entry) : List Violation :=
  (if entry.columns.isEmpty then [.noColumns] else [])
    ++ nameViolations .tableName entry.table
    ++ entry.fields.flatMap (fun field => nameViolations .columnName field.columnName)
    ++ ((entry.fields.filter (·.primaryKey)).drop 1).map fun _ => .secondKey

end Entry

/-- The field that an entry declares; `path` completes the name of a collection's record type. -/
def FieldEntry.toField (path : String) (entry : FieldEntry) : Field :=
  { name := entry.columnName
    kind := match entry.shape.content with
      | .column kind => .column kind
      | .collection item => .collection (path ++ item.render)
    optional := entry.shape.optional
    primaryKey := entry.primaryKey }

/-- The record type that a declaration stands for, within the module at a path. -/
def Entry.toRecordType (path : String) (entry : Entry) : RecordType :=
  { name := path ++ entry.name
    table := entry.table
    fields := entry.fields.map (·.toField path) }

end RecordMapper.Declaration
