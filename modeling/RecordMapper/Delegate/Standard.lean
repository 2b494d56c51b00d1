import RecordMapper.Delegate.Basic
import RecordMapper.Dialect

set_option autoImplicit false

/-!
The delegate of a dialect. Its buffer is the list of bound values; the placeholder of a value
has the number of its place in that list.
-/

namespace RecordMapper.Dialect

def bindValue (dialect : Dialect) (value : Value) (bindings : List Binding) :
    String × List Binding :=
  let placeholder := dialect.placeholder (bindings.length + 1)
  (placeholder, bindings ++ [⟨placeholder, value⟩])

def columnDefinition (dialect : Dialect) (column : Column) : String :=
  let type := dialect.columnType column.kind column.primaryKey
  let constraint :=
    if column.primaryKey then " PRIMARY KEY" else if column.optional then "" else " NOT NULL"
  dialect.quoteIdentifier column.name ++ " " ++ type ++ constraint

/-- The statements for one table, without those below it. -/
def ownStatements (dialect : Dialect) (policy : CreatePolicy) (table : String)
    (columns : List Column) : List String :=
  let name := dialect.quoteIdentifier table
  let definitions := String.intercalate ", " (columns.map dialect.columnDefinition)
  let create := "CREATE TABLE IF NOT EXISTS " ++ name ++ " (" ++ definitions ++ ")"
  if policy.dropTable then ["DROP TABLE IF EXISTS " ++ name, create] else [create]

/-- A table comes before the tables below it. -/
def tableStatements (dialect : Dialect) (policy : CreatePolicy) : TableStructure → List String
  | ⟨table, columns, subTables⟩ =>
      let below :=
        if policy.shallow then []
        else subTables.flatMap (tableStatements dialect policy)
      dialect.ownStatements policy table columns ++ below

/-- MySQL cannot skip an index that exists. -/
def indexStatement (dialect : Dialect) (table : String) (columns : List String)
    (unique : Bool) : String :=
  let name := "index_" ++ table ++ "_" ++ String.intercalate "_" columns
  let guard := match dialect with
    | .mysql => ""
    | .sqlite => "IF NOT EXISTS "
    | .postgres => "IF NOT EXISTS "
  "CREATE " ++ (if unique then "UNIQUE " else "") ++ "INDEX " ++ guard
    ++ dialect.quoteIdentifier name ++ " ON " ++ dialect.quoteIdentifier table
    ++ " (" ++ String.intercalate ", " (columns.map dialect.quoteIdentifier) ++ ")"

def indexStatements (dialect : Dialect) (table : String) (columns : List String)
    (unique : Bool) : Except Error (List String) :=
  if columns.isEmpty then .error (.schema (.emptyIndex table))
  else .ok [dialect.indexStatement table columns unique]

def delegate (dialect : Dialect) : Delegate (List Binding) where
  empty := []
  bind value := fun bindings =>
    let (placeholder, extended) := dialect.bindValue value bindings
    (.ok placeholder, extended)
  takeBindings bindings := (bindings, [])
  quoteIdentifier _ name := .ok (dialect.quoteIdentifier name)
  limitClause max skip := pure (dialect.limitClause max skip)
  createTable table policy := pure (dialect.tableStatements policy table)
  createIndex table columns unique :=
    Action.ofOutcome (dialect.indexStatements table columns unique)

end RecordMapper.Dialect
