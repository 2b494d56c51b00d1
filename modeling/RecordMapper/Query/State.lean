import RecordMapper.Query.Expr

set_option autoImplicit false

/-!
The state of one query: its tables, filters, orderings and limit, the instance that is written,
and the statements rendered so far.
-/

namespace RecordMapper

structure SortKey where
  field : FieldRef
  descending : Bool
deriving DecidableEq, Repr

/-- An ordering that no statement has used. It remembers how many tables the query had when it
was declared, and is usable only while there are no more. -/
structure PendingSort where
  key : SortKey
  tableCount : Nat
deriving DecidableEq, Repr

/-- A `max` of zero is no bound. -/
structure Limit where
  max : UInt64
  skip : UInt64
deriving DecidableEq, Repr

/-- The columns of a record that are written: those included, or all when none is, without those
excluded. -/
structure ColumnFilter where
  included : List FieldRef := []
  excluded : List FieldRef := []
deriving DecidableEq, Repr

namespace ColumnFilter

def lists (references : List FieldRef) (name : String) : Bool :=
  references.any (·.name == name)

def knows (record : RecordType) (reference : FieldRef) : Bool :=
  reference.record == record && record.columns.any (·.name == reference.name)

/-- The chosen columns in declaration order. Every listed reference must be a column. -/
def columns (filter : ColumnFilter) (record : RecordType) : Except Error (List Column) :=
  match (filter.included ++ filter.excluded).find? (fun reference => !knows record reference) with
  | some reference => .error (.generation (.unresolvedField record.table reference.name))
  | none =>
      .ok (record.columns.filter fun column =>
        (filter.included.isEmpty || lists filter.included column.name)
          && !lists filter.excluded column.name)

end ColumnFilter

abbrev Instance := List (String × Value)

def Instance.value? (values : Instance) (name : String) : Option Value :=
  (values.find? (·.1 == name)).map (·.2)

/-- The value that a column is written with: NULL when the instance has none. -/
def Instance.valueOrNull (values : Instance) (name : String) : Value :=
  (values.value? name).getD .null

structure QueryState where
  tables : List Table := []
  command : Command := .unset
  filters : List Expr := []
  sorts : List PendingSort := []
  limit : Option Limit := none
  values : Instance := []
  columnFilter : ColumnFilter := {}
  statements : List Statement := []

namespace QueryState

def ofCommand (command : Command) : QueryState :=
  { command }

def scope (state : QueryState) : Scope where
  tables := state.tables
  qualified := state.command == .select || state.command == .count

def root? (state : QueryState) : Option Table :=
  state.tables.head?

def table? (state : QueryState) (record : RecordType) : Option Table :=
  state.scope.table? record

/-- The alias of the next table: `t` and its position from zero. -/
def nextAlias (state : QueryState) : String :=
  s!"t{state.tables.length}"

/-- Adds a table. A record type can be part of a query once. -/
def addTable (state : QueryState) (record : RecordType) (join : Option Join) :
    Except Error QueryState :=
  match state.table? record with
  | some _ => .error (.generation (.duplicateTable record.name))
  | none => .ok { state with tables := state.tables ++ [⟨record, state.nextAlias, join⟩] }

/-- The tables that a join brought in. Each has a statement after the root's. -/
def joinedTables (state : QueryState) : List Table :=
  state.tables.filter (·.join.isSome)

def addFilter (state : QueryState) (filter : Expr) : QueryState :=
  { state with filters := state.filters ++ [filter] }

def condition? (state : QueryState) : Option Expr :=
  Expr.fold? .and state.filters

def addOrdering (state : QueryState) (fields : List FieldRef) (descending : Bool) : QueryState :=
  let added := fields.map fun field => ⟨⟨field, descending⟩, state.tables.length⟩
  { state with sorts := state.sorts ++ added }

def setLimit (state : QueryState) (limit : Limit) : QueryState :=
  { state with limit := some limit }

def isUsable (state : QueryState) (sort : PendingSort) : Bool :=
  sort.tableCount == state.tables.length

/-- Takes the orderings declared since the last table. Earlier ones stay. -/
def drainOrderings (state : QueryState) : List SortKey × QueryState :=
  ((state.sorts.filter state.isUsable).map (·.key),
    { state with sorts := state.sorts.filter fun sort => !state.isUsable sort })

def takeLimit (state : QueryState) : Option Limit × QueryState :=
  (state.limit, { state with limit := none })

def setInstance (state : QueryState) (values : Instance) (columnFilter : ColumnFilter) :
    QueryState :=
  { state with values, columnFilter }

def pushStatement (state : QueryState) (statement : Statement) : QueryState :=
  { state with statements := state.statements ++ [statement] }

end QueryState

end RecordMapper
