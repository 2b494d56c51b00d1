import RecordMapper.Query.JoinClause

set_option autoImplicit false

/-!
Rendering a query into statements. A select renders the root's statement and then one statement
for each joined table; every other command renders one statement. Each statement carries the
values of its own placeholders.
-/

namespace RecordMapper

structure Workspace (Buffer : Type) where
  query : QueryState
  draft : Draft Buffer

abbrev Generating (Buffer : Type) : Type → Type :=
  Action (Workspace Buffer)

namespace Generating

variable {Buffer Result : Type}

def query : Generating Buffer QueryState :=
  fun workspace => (.ok workspace.query, workspace)

def update (change : QueryState → Result × QueryState) : Generating Buffer Result :=
  fun workspace =>
    let (result, query) := change workspace.query
    (.ok result, { workspace with query })

def render (rendering : QueryState → Rendering Buffer Result) : Generating Buffer Result :=
  fun workspace =>
    let (outcome, draft) := (rendering workspace.query).runOn workspace.draft
    (outcome, { workspace with draft })

def emit (delegate : Delegate Buffer) (sql : String) : Generating Buffer Unit := do
  let bindings ← render fun _ => Rendering.takeBindings delegate
  update fun query => ((), query.pushStatement ⟨sql, bindings⟩)

end Generating

namespace Generation

variable {Buffer : Type}

/-- The WHERE clause with the blank before it. Several filters stand in parentheses. -/
def whereClause (delegate : Delegate Buffer) (state : QueryState) : Rendering Buffer String := do
  match state.filters with
  | [] => pure ""
  | [filter] =>
      let text ← filter.render delegate state.scope
      pure (" WHERE " ++ text)
  | filters =>
      let parts ← filters.mapM fun filter => do
        let text ← filter.render delegate state.scope
        pure ("(" ++ text ++ ")")
      pure (" WHERE " ++ String.intercalate " AND " parts)

/-- The ORDER BY clause of a statement on a record: the terms that are fields of it. -/
def orderClause (delegate : Delegate Buffer) (state : QueryState) (keys : List SortKey)
    (record : RecordType) : Rendering Buffer String := do
  let terms ← (keys.filter (·.field.record == record)).mapM fun key => do
    let text ← Expr.renderField delegate state.scope key.field
    pure (if key.descending then text ++ " DESC" else text)
  pure (if terms.isEmpty then "" else " ORDER BY " ++ String.intercalate ", " terms)

def limitClause (delegate : Delegate Buffer) (limit : Option Limit) :
    Rendering Buffer String := do
  match limit with
  | none => pure ""
  | some limit =>
      let clause ← Rendering.limitClause delegate limit.max limit.skip
      pure (if clause.isEmpty then "" else " " ++ clause)

/-- Whether a statement of the query selects the rows of the field's record: the root or a
joined table. -/
def isSortable (state : QueryState) (key : SortKey) : Bool :=
  match state.table? key.field.record with
  | none => false
  | some table =>
      table.join.isSome || state.root?.any (·.record == key.field.record)

def checkSortable (state : QueryState) (keys : List SortKey) : Except Error Unit :=
  match keys.find? (fun key => !isSortable state key) with
  | some key => .error (.generation (.unsortable key.field.record.name))
  | none => .ok ()

def rootTable (state : QueryState) : Except Error Table :=
  match state.root? with
  | some root => .ok root
  | none => .error (.generation .noTables)

/-- The root's select; a count leaves its order out. -/
def rootSelect (delegate : Delegate Buffer) (keys : List SortKey) (limit : Option Limit)
    (state : QueryState) : Rendering Buffer String := do
  let root ← Action.ofOutcome (rootTable state)
  let quotedAlias ← Rendering.quote delegate root.aliasName
  let source ← JoinClause.tableReference delegate root
  let joins ← JoinClause.forcedClauses delegate state root.record
  let condition ← whereClause delegate state
  let order ←
    if state.command = .select then orderClause delegate state keys root.record else pure ""
  let window ← limitClause delegate limit
  pure ("SELECT DISTINCT " ++ quotedAlias ++ ".* FROM " ++ source ++ joins ++ condition ++ order
    ++ window)

/-- The statement of one joined table. It has no limit, which belongs to the root. -/
def joinedSelect (delegate : Delegate Buffer) (keys : List SortKey) (table : Table)
    (state : QueryState) : Rendering Buffer String := do
  let head ← JoinClause.joinedHead delegate state.scope table
  let joins ← JoinClause.forcedClauses delegate state table.record
  let condition ← whereClause delegate state
  let order ← orderClause delegate state keys table.record
  pure (head ++ joins ++ condition ++ order)

/-- Renders a select, or a count of the root's rows. -/
def generateSelect (delegate : Delegate Buffer) : Generating Buffer Unit := do
  let keys ← Generating.update QueryState.drainOrderings
  let limit ← Generating.update QueryState.takeLimit
  let state ← Generating.query
  Action.ofOutcome (checkSortable state keys)
  let sql ← Generating.render (rootSelect delegate keys limit)
  if state.command = .count then
    Generating.emit delegate ("SELECT COUNT(*) AS count FROM (" ++ sql ++ ") AS s1")
  else do
    Generating.emit delegate sql
    state.joinedTables.forM fun table => do
      let joinedSql ← Generating.render (joinedSelect delegate keys table)
      Generating.emit delegate joinedSql

/-- Checks that filters name the root only. Each filter is looked at once, up to the first that
does not. -/
def checkRootOnly (root : RecordType) : List Expr → Rendering Buffer Unit
  | [] => pure ()
  | filter :: rest => do
      let referenced ← Rendering.counting filter.referencedTypes
      match referenced.find? (· != root) with
      | some other => throw (.generation (.unknownType other.name))
      | none => checkRootOnly root rest

/-- The one table of a command that writes. -/
def singleTable (command : String) (state : QueryState) : Rendering Buffer RecordType := do
  let root ← Action.ofOutcome (rootTable state)
  if 1 < state.tables.length then throw (.generation (.afterJoin command))
  else do
    checkRootOnly root.record state.filters
    pure root.record

def assignment (delegate : Delegate Buffer) (values : Instance) (column : Column) :
    Rendering Buffer String := do
  let name ← Rendering.quote delegate column.name
  let placeholder ← Rendering.bind delegate (values.valueOrNull column.name)
  pure (name ++ "=" ++ placeholder)

def updateStatement (delegate : Delegate Buffer) (state : QueryState) :
    Rendering Buffer String := do
  let record ← singleTable "update" state
  let columns ← Action.ofOutcome (state.columnFilter.columns record)
  if columns.isEmpty then throw (.generation .nothingToUpdate)
  else do
    let assignments ← columns.mapM (assignment delegate state.values)
    let table ← Rendering.quote delegate record.table
    let condition ← whereClause delegate state
    pure ("UPDATE " ++ table ++ " SET " ++ String.intercalate ", " assignments ++ condition)

def deleteStatement (delegate : Delegate Buffer) (state : QueryState) :
    Rendering Buffer String := do
  let record ← singleTable "delete" state
  let table ← Rendering.quote delegate record.table
  let condition ← whereClause delegate state
  pure ("DELETE FROM " ++ table ++ condition)

def insertion (delegate : Delegate Buffer) (values : Instance) (column : Column) :
    Rendering Buffer (String × String) := do
  let name ← Rendering.quote delegate column.name
  let placeholder ← Rendering.bind delegate (values.valueOrNull column.name)
  pure (name, placeholder)

def insertStatement (delegate : Delegate Buffer) (state : QueryState) :
    Rendering Buffer String := do
  let record ← singleTable "insert" state
  if !state.filters.isEmpty then throw (.generation .filteredInsert)
  else do
    let columns ← Action.ofOutcome (state.columnFilter.columns record)
    if columns.isEmpty then throw (.generation .nothingToInsert)
    else do
      let insertions ← columns.mapM (insertion delegate state.values)
      let table ← Rendering.quote delegate record.table
      pure ("INSERT INTO " ++ table ++ " (" ++ String.intercalate ", " (insertions.map (·.1))
        ++ ") VALUES (" ++ String.intercalate ", " (insertions.map (·.2)) ++ ")")

def generateOne (delegate : Delegate Buffer)
    (statement : Delegate Buffer → QueryState → Rendering Buffer String) :
    Generating Buffer Unit := do
  let sql ← Generating.render (statement delegate)
  Generating.emit delegate sql

def generateCommand (delegate : Delegate Buffer) : Command → Generating Buffer Unit
  | .unset => pure ()
  | .select => generateSelect delegate
  | .count => generateSelect delegate
  | .update => generateOne delegate updateStatement
  | .delete => generateOne delegate deleteStatement
  | .insert => generateOne delegate insertStatement

/-- Renders the statements of the query's command and adds them to the query. Values that an
earlier rendering left in the buffer are discarded. An ordering that no statement has used is an
error; a limit that none has used is dropped. -/
def generate (delegate : Delegate Buffer) : Generating Buffer Unit := do
  let state ← Generating.query
  if state.command = .unset then throw (.generation .commandUnset)
  else if state.tables.isEmpty then throw (.generation .noTables)
  else do
    let _ ← Generating.render fun _ => Rendering.takeBindings delegate
    generateCommand delegate state.command
    let after ← Generating.query
    if !after.sorts.isEmpty then throw (.generation .orderingsNotConsumed)
    else do
      let _ ← Generating.update QueryState.takeLimit
      pure ()

end Generation

end RecordMapper
