import RecordMapper.Engine.Relation

set_option autoImplicit false

/-!
What names stand for. A scope gives every column of a row the table label by which it may be
qualified, and names the outputs that are computed from the row. A query inside of another sees
the scopes of both, its own first; its environment holds a row for each of them.
-/

namespace RecordMapper.Engine

structure Environment where
  parameters : List Stored := []
  /-- The present row of every scope, the innermost first. -/
  rows : List (List Stored) := []
  /-- The rows of the innermost scope that are taken together. -/
  group : List (List Stored) := []
  lastRowId : Int64 := 0
  changes : Nat := 0

namespace Environment

def enter (environment : Environment) (row : List Stored) : Environment :=
  { environment with rows := row :: environment.rows, group := [] }

/-- Enters a scope with rows that are taken together; the first of them is the present one. -/
def enterGroup (environment : Environment) (group : List (List Stored)) : Environment :=
  { environment with rows := group.headD [] :: environment.rows, group }

/-- Leaves so many scopes. -/
def leave (environment : Environment) (depth : Nat) : Environment :=
  if depth = 0 then environment
  else { environment with rows := environment.rows.drop depth, group := [] }

def withRow (environment : Environment) (row : List Stored) : Environment :=
  { environment with rows := row :: environment.rows.drop 1, group := [] }

end Environment

structure Formula where
  /-- The affinity of the column or cast that it is. -/
  affinity : Affinity := .none
  collation : Option Collation := none
  /-- Whether it is the row id. -/
  isId : Bool := false
  /-- Whether it looks at no row. -/
  isConstant : Bool := false
  /-- The function by which it computes from a group of rows. -/
  aggregate : Option String := none
  value : Environment → Except Failure Stored
  /-- Its truth as a condition on rows, where that is found by looking an id up. -/
  sought : Option (Environment → Except Failure (Option Bool)) := none

structure ScopeColumn where
  label : String
  name : String
  affinity : Affinity
  isId : Bool := false
  /-- A hidden column is found by its name only. -/
  hidden : Bool := false
  /-- Whether it is found behind its label only. -/
  qualified : Bool := false
deriving DecidableEq, Repr

structure Answered where
  name : String
  formula : Formula

structure Scope where
  columns : List ScopeColumn := []
  /-- Outputs that may be named in place of a column. -/
  outputs : List Answered := []
  /-- Whether rows may be taken together. -/
  grouping : Bool := false

namespace Scope

/-- The columns of a table under a label, and its row id behind them. -/
def ofRelation (label : String) (relation : Relation) : List ScopeColumn :=
  (relation.columns.zipIdx.map fun (column, place) =>
    { label, name := column.name, affinity := column.affinity
      isId := relation.idColumn == some place })
  ++ [{ label, name := "rowid", affinity := .integer, isId := true, hidden := true }]

def isNamed (table : Option String) (name : String) (column : ScopeColumn) : Bool :=
  table.all (sameName column.label) && (table.isSome || !column.qualified) &&
    if column.hidden then isIdName name else sameName column.name name

def displayName (table : Option String) (name : String) : String :=
  match table with
  | some label => s!"{label}.{name}"
  | none => name

/-- The formula of the column at a place of a row, so many scopes further out. -/
def formula (depth place : Nat) (column : ScopeColumn) : Formula :=
  { affinity := column.affinity
    isId := column.isId && depth == 0
    value := fun environment => .ok ((environment.rows.getD depth []).getD place .null) }

def fromOutside (depth : Nat) (formula : Formula) : Formula :=
  { formula with
    isId := formula.isId && depth == 0
    value := fun environment => formula.value (environment.leave depth) }

/-- Finds a column of one scope. A name must fit one column only; outputs and hidden columns are
looked at when it fits none. -/
def find (scope : Scope) (depth : Nat) (table : Option String) (name : String) :
    Except Failure (Option Formula) :=
  let fitting := scope.columns.zipIdx.filter fun (column, _) => isNamed table name column
  match fitting.filter fun (column, _) => !column.hidden with
  | [(column, place)] => .ok (some (formula depth place column))
  | _ :: _ :: _ => .error (.ambiguousColumn (displayName table name))
  | [] =>
      let output :=
        if table.isSome then none else scope.outputs.find? fun output => sameName output.name name
      match output, fitting with
      | some output, _ => .ok (some (fromOutside depth output.formula))
      | none, [(column, place)] => .ok (some (formula depth place column))
      | none, _ => .ok none

def search (table : Option String) (name : String) (depth : Nat) :
    List Scope → Except Failure (Option Formula)
  | [] => .ok none
  | scope :: outer => do
      match ← scope.find depth table name with
      | some formula => pure (some formula)
      | none => search table name (depth + 1) outer

def constant (stored : Stored) : Formula :=
  { isConstant := true, value := fun _ => .ok stored }

/-- What a name stands for that fits no column: a text when it stands in double quotes, or a
truth value. -/
def substitute (name : String) (quoted : Bool) : Option Formula :=
  if quoted then some (constant (.text (Text.Utf8.encode name)))
  else if sameName name "true" then some (constant (.integer 1))
  else if sameName name "false" then some (constant (.integer 0))
  else none

def resolve (scopes : List Scope) (table : Option String) (name : String) (quoted : Bool) :
    Except Failure Formula := do
  match ← search table name 0 scopes with
  | some formula => pure formula
  | none =>
      match if table.isSome then none else substitute name quoted with
      | some formula => pure formula
      | none => throw (.absent .column (displayName table name))

end Scope

end RecordMapper.Engine
