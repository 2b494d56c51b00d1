import RecordMapper.Named
import RecordMapper.Record.Basic
import RecordMapper.Text.Quoted

set_option autoImplicit false

/-!
SQL dialects: how placeholders, names, column types and limits are written.
-/

namespace RecordMapper

inductive Dialect where
  | sqlite
  | postgres
  | mysql
deriving DecidableEq, Repr

namespace Dialect

def all : List Dialect :=
  [.sqlite, .postgres, .mysql]

def name : Dialect → String
  | .sqlite => "sqlite"
  | .postgres => "postgres"
  | .mysql => "mysql"

instance : Named Dialect := ⟨all, name, by intro dialect; cases dialect <;> rfl⟩

/-- The placeholder of a position, counted from one. MySQL's placeholders carry no number. -/
def placeholder (dialect : Dialect) (index : Nat) : String :=
  match dialect with
  | .sqlite => s!"?{index}"
  | .postgres => s!"${index}"
  | .mysql => "?"

def quoteMark : Dialect → Char
  | .sqlite => '"'
  | .postgres => '"'
  | .mysql => '\x60'

def quoteIdentifier (dialect : Dialect) (name : String) : String :=
  Text.Quoted.quote dialect.quoteMark name

/-- The type of a column. MySQL cannot key a TEXT column without a length. -/
def columnType (dialect : Dialect) (kind : ColumnKind) (primaryKey : Bool) : String :=
  match dialect, kind with
  | .sqlite, .float | .sqlite, .double => "REAL"
  | .sqlite, .text | .sqlite, .decimal => "TEXT"
  | .sqlite, .blob | .sqlite, .uuid => "BLOB"
  | .sqlite, _ => "INTEGER"
  | .postgres, .bool => "BOOLEAN"
  | .postgres, .int8 | .postgres, .int16 | .postgres, .uint8 => "SMALLINT"
  | .postgres, .int32 | .postgres, .uint16 => "INTEGER"
  | .postgres, .int64 | .postgres, .uint32 | .postgres, .timestamp => "BIGINT"
  | .postgres, .uint64 => "NUMERIC(20)"
  | .postgres, .float => "REAL"
  | .postgres, .double => "DOUBLE PRECISION"
  | .postgres, .decimal => "NUMERIC"
  | .postgres, .text => "TEXT"
  | .postgres, .blob => "BYTEA"
  | .postgres, .uuid => "UUID"
  | .mysql, .bool => "TINYINT(1)"
  | .mysql, .int8 => "TINYINT"
  | .mysql, .int16 => "SMALLINT"
  | .mysql, .int32 => "INT"
  | .mysql, .int64 | .mysql, .timestamp => "BIGINT"
  | .mysql, .uint8 => "TINYINT UNSIGNED"
  | .mysql, .uint16 => "SMALLINT UNSIGNED"
  | .mysql, .uint32 => "INT UNSIGNED"
  | .mysql, .uint64 => "BIGINT UNSIGNED"
  | .mysql, .float => "FLOAT"
  | .mysql, .double => "DOUBLE"
  | .mysql, .decimal => "DECIMAL(65,30)"
  | .mysql, .text => if primaryKey then "VARCHAR(255)" else "TEXT"
  | .mysql, .blob => "BLOB"
  | .mysql, .uuid => "BINARY(16)"

/-- The column type of a field; a collection has none. -/
def fieldType (dialect : Dialect) (kind : FieldKind) (primaryKey : Bool) : Except Error String :=
  match kind with
  | .column kind => .ok (dialect.columnType kind primaryKey)
  | .collection _ => .error (.schema .collectionColumn)

/-- The clause for at most `max` rows after the first `skip`; a `max` of zero is no bound.
SQLite and MySQL have no offset without a limit, so they get one that bounds nothing. -/
def limitClause (dialect : Dialect) (max skip : UInt64) : String :=
  if skip = 0 then
    if max = 0 then "" else s!"LIMIT {max}"
  else if max = 0 then
    match dialect with
    | .sqlite => s!"LIMIT -1 OFFSET {skip}"
    | .mysql => s!"LIMIT 18446744073709551615 OFFSET {skip}"
    | .postgres => s!"OFFSET {skip}"
  else s!"LIMIT {max} OFFSET {skip}"

end Dialect

end RecordMapper
