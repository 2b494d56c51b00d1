import RecordMapper.Engine.Arithmetic
import RecordMapper.Engine.Failure

set_option autoImplicit false

/-!
The instructions of the engine, as SQL text states them: names are not yet resolved. Expressions
and queries contain each other.
-/

namespace RecordMapper.Engine

inductive Comparison where
  | eq
  | ne
  | lt
  | le
  | gt
  | ge
deriving DecidableEq, Repr

def Comparison.holds (comparison : Comparison) (order : Ordering) : Bool :=
  match comparison with
  | .eq => order == .eq
  | .ne => order != .eq
  | .lt => order == .lt
  | .le => order != .gt
  | .gt => order == .gt
  | .ge => order != .lt

inductive Collation where
  | binary
  /-- Letters of ASCII are the same in both cases. -/
  | caseless
  /-- Spaces at the end are left aside. -/
  | trimmed
deriving DecidableEq, Repr

inductive Operation where
  /-- The operand itself, no longer a column. -/
  | plain
  | negate
  | complement
  | arithmetic (operator : Arithmetic)
  | concat
  | compare (comparison : Comparison)
  /-- Whether two operands agree, NULL agreeing with itself. -/
  | agrees
  | isNull
  | not
  | and
  | or
  /-- Whether the first operand is among the others. -/
  | among
  /-- The result behind the first condition that holds, else the last operand. -/
  | choose
  | cast (affinity : Affinity)
  | collate (collation : Collation)
deriving DecidableEq, Repr

inductive QueryUse where
  /-- The only column of the first row. -/
  | value
  /-- Whether there is a row. -/
  | presence
  /-- Whether an operand is among the rows of one column. -/
  | among
deriving DecidableEq, Repr

inductive Combination where
  | union
  | unionAll
  | except
  | intersect
deriving DecidableEq, Repr

def Combination.name : Combination → String
  | .union => "UNION"
  | .unionAll => "UNION ALL"
  | .except => "EXCEPT"
  | .intersect => "INTERSECT"

mutual

inductive Expression where
  | literal (value : Stored)
  /-- Parameters count from one. -/
  | parameter (number : Nat)
  /-- A column; a name in double quotes that fits none is a text. -/
  | column (table : Option String) (name : String) (quoted : Bool)
  | apply (operation : Operation) (operands : List Expression)
  | call (function : String) (distinct : Bool) (arguments : List Expression)
  | query (use : QueryUse) (operands : List Expression) (query : Query)

inductive Output where
  | all
  | allOf (table : String)
  | value (expression : Expression) (name : Option String)

inductive Table where
  | named (name : String)
  | query (query : Query)

/-- A table under the name by which its columns are qualified, with what joins it to those before
it. A padded table gives a row of NULLs where nothing joins it. -/
structure Source where
  table : Table
  label : String
  padded : Bool
  on : List Expression

structure SortTerm where
  expression : Expression
  descending : Bool

/-- All conditions must hold. -/
structure Selection where
  distinct : Bool
  outputs : List Output
  sources : List Source
  conditions : List Expression
  groups : List Expression
  having : List Expression
  sorts : List SortTerm

inductive Query where
  | select (selection : Selection)
  | values (rows : List (List Expression))
  | combine (combination : Combination) (left right : Query)
  /-- A query whose rows are sorted by its columns. -/
  | sorted (query : Query) (sorts : List SortTerm)
  /-- At most so many rows, and after so many when there is a second bound. -/
  | bounded (query : Query) (bounds : List Expression)

end

structure ColumnSource where
  name : String
  typeName : String := ""
  notNull : Bool := false
  /-- What a row gets that gives no value. -/
  default : Option Expression := none

/-- Columns that together may not repeat. -/
structure KeySource where
  columns : List String
  primary : Bool
  /-- Whether ids are never given twice. -/
  growing : Bool := false

inductive OnConflict where
  /-- Undoes what the instruction did. -/
  | abort
  /-- Keeps what the instruction did before. -/
  | fail
  /-- Leaves the row out. -/
  | ignore
  /-- Removes the rows in the way. -/
  | replace
  /-- Undoes the whole transaction. -/
  | rollback
deriving DecidableEq, Repr

/-- What becomes of a row that repeats a key. Without columns any key is meant; without
assignments to the row that was there the new row is left out. -/
structure Merging where
  columns : List String
  assignments : List (String × Expression)
  conditions : List Expression

inductive Instruction where
  | query (query : Query)
  | insert (onConflict : OnConflict) (table label : String) (columns : Option (List String))
      (query : Query) (merging : Option Merging)
  /-- Inserts one row without values. -/
  | insertDefaults (onConflict : OnConflict) (table : String)
  | update (onConflict : OnConflict) (table label : String)
      (assignments : List (String × Expression)) (conditions : List Expression)
  | delete (table label : String) (conditions : List Expression)
  | createTable (name : String) (ifAbsent : Bool) (columns : List ColumnSource)
      (keys : List KeySource)
  | createTableAs (name : String) (ifAbsent : Bool) (query : Query)
  | dropTable (name : String) (ifPresent : Bool)
  | createIndex (name : String) (ifAbsent unique : Bool) (table : String) (columns : List String)
  | dropIndex (name : String) (ifPresent : Bool)
  /-- Opens a transaction, for writing at once or not. -/
  | begin (writing : Bool)
  | finish (ending : TransactionEnd)
  | savepoint (name : String)
  | release (name : String)
  | rollbackTo (name : String)
  /-- A setting, read or written. -/
  | pragma (name : String) (value : Option String)
  | vacuum
  /-- Describes how an instruction would run. -/
  | explain (instruction : Instruction)

end RecordMapper.Engine
