import RecordMapper.Error

set_option autoImplicit false

/-!
What the engine refuses. Every refusal carries its cause; its words and its kind follow from that.
-/

namespace RecordMapper.Engine

inductive TransactionEnd where
  | commit
  | rollback
deriving DecidableEq, Repr

def TransactionEnd.name : TransactionEnd → String
  | .commit => "commit"
  | .rollback => "rollback"

inductive Named where
  | table
  | column
  | function
  | index
  | savepoint
  | collation
deriving DecidableEq, Repr

def Named.word : Named → String
  | .table => "table"
  | .column => "column"
  | .function => "function"
  | .index => "index"
  | .savepoint => "savepoint"
  | .collation => "collation sequence"

inductive Failure where
  | nullByte
  | emptyStatement
  | syntaxNear (token : String)
  | unrecognized (token : String)
  /-- The text ends inside a statement. -/
  | incomplete
  | parameterNumber
  | wideNumeral (digits : String)
  | absent (sort : Named) (name : String)
  | ambiguousColumn (name : String)
  | tableExists (name : String)
  | indexExists (name : String)
  | repeatedColumn (name : String)
  | severalKeys (table : String)
  | unknownColumn (table column : String)
  | valueCount (values columns : Nat)
  | suppliedCount (table : String) (values columns : Nat)
  /-- Rows of values that differ in length. -/
  | unevenRows
  | unevenQueries (combination : String)
  | earlyClause (clause combination : String)
  /-- A query that should have so many columns. -/
  | columnCount (found wanted : Nat)
  /-- All columns are asked for, but there is no table. -/
  | noTables
  | termOutOfRange (place : Nat) (clause : String) (columns : Nat)
  | unmatchedTerm (place : Nat)
  | argumentCount (function : String)
  | misusedAggregate (function : String)
  /-- An aggregate in a condition on the rows that it is computed from. -/
  | aggregateInCondition (function : String)
  | groupedAggregate
  | plainHaving
  | escapeLength
  | integerOverflow
  /-- A conflict is handled for columns that are no key. -/
  | unmatchedConflict
  | notUnique (table : String) (columns : List String)
  | nullColumn (table column : String)
  | mismatch
  /-- Ids that are never given twice are used up. -/
  | full
  | misplacedGrowth
  | readOnly
  | locked
  | nestedTransaction
  | noTransaction (ending : TransactionEnd)
  /-- The database cannot be packed inside of a transaction. -/
  | nestedVacuum
  | unprepared
deriving DecidableEq, Repr

namespace Failure

/-- A place in a list, counted from one. -/
def ordinal (place : Nat) : String :=
  let ending :=
    if place % 100 / 10 = 1 then "th"
    else
      match place % 10 with
      | 1 => "st"
      | 2 => "nd"
      | 3 => "rd"
      | _ => "th"
  s!"{place}{ending}"

def message : Failure → String
  | .nullByte => "SQL contains null byte"
  | .emptyStatement => "statement is empty"
  | .syntaxNear token => s!"near \"{token}\": syntax error"
  | .unrecognized token => s!"unrecognized token: \"{token}\""
  | .incomplete => "incomplete input"
  | .parameterNumber => "variable number must be between ?1 and ?32766"
  | .wideNumeral digits => s!"hex literal too big: {digits}"
  | .absent sort name => s!"no such {sort.word}: {name}"
  | .ambiguousColumn name => s!"ambiguous column name: {name}"
  | .tableExists name => s!"table {name} already exists"
  | .indexExists name => s!"index {name} already exists"
  | .repeatedColumn name => s!"duplicate column name: {name}"
  | .severalKeys table => s!"table \"{table}\" has more than one primary key"
  | .unknownColumn table column => s!"table {table} has no column named {column}"
  | .valueCount values columns => s!"{values} values for {columns} columns"
  | .suppliedCount table values columns =>
      s!"table {table} has {columns} columns but {values} values were supplied"
  | .unevenRows => "all VALUES must have the same number of terms"
  | .unevenQueries combination =>
      s!"SELECTs to the left and right of {combination} do not have the same number of " ++
        "result columns"
  | .earlyClause clause combination =>
      s!"{clause} clause should come after {combination} not before"
  | .columnCount found wanted => s!"sub-select returns {found} columns - expected {wanted}"
  | .noTables => "no tables specified"
  | .termOutOfRange place clause columns =>
      s!"{ordinal place} {clause} BY term out of range - should be between 1 and {columns}"
  | .unmatchedTerm place =>
      s!"{ordinal place} ORDER BY term does not match any column in the result set"
  | .argumentCount function => s!"wrong number of arguments to function {function}()"
  | .misusedAggregate function => s!"misuse of aggregate function {function}()"
  | .aggregateInCondition function => s!"misuse of aggregate: {function}()"
  | .groupedAggregate => "aggregate functions are not allowed in the GROUP BY clause"
  | .plainHaving => "HAVING clause on a non-aggregate query"
  | .escapeLength => "ESCAPE expression must be a single character"
  | .unmatchedConflict =>
      "ON CONFLICT clause does not match any PRIMARY KEY or UNIQUE constraint"
  | .integerOverflow => "integer overflow"
  | .notUnique table columns =>
      let names := ", ".intercalate (columns.map fun column => s!"{table}.{column}")
      s!"UNIQUE constraint failed: {names}"
  | .nullColumn table column => s!"NOT NULL constraint failed: {table}.{column}"
  | .mismatch => "datatype mismatch"
  | .full => "database or disk is full"
  | .misplacedGrowth => "AUTOINCREMENT is only allowed on an INTEGER PRIMARY KEY"
  | .readOnly => "attempt to write a readonly database"
  | .locked => "database table is locked"
  | .nestedTransaction => "cannot start a transaction within a transaction"
  | .noTransaction ending => s!"cannot {ending.name} - no transaction is active"
  | .nestedVacuum => "cannot VACUUM from within a transaction"
  | .unprepared => "statement is not prepared"

/-- The kind under which a refusal is reported. Names that do not exist are told apart from
other faults of a statement. -/
def kind : Failure → QueryError.Kind
  | .absent _ _ => .notFound
  | .notUnique _ _ => .constraint
  | .nullColumn _ _ => .constraint
  | .readOnly => .permission
  | .locked => .busy
  | .mismatch => .database
  | .full => .database
  | .unprepared => .misuse
  | _ => .syntaxError

def toError (failure : Failure) (sql : String) : Error :=
  .query { kind := failure.kind, message := failure.message, sql := some sql }

end Failure

end RecordMapper.Engine
