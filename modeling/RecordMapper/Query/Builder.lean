import RecordMapper.Database
import RecordMapper.Query.Cursor

set_option autoImplicit false

/-!
Queries as the stages that build them. Every operation on a query replays its stages into a fresh
state, so one query can be run many times.
-/

namespace RecordMapper

inductive Stage where
  | filter (condition : Expr)
  | join (record : RecordType) (join : Join)
  | ordering (fields : List FieldRef) (descending : Bool)
  | limit (limit : Limit)

structure Query where
  root : RecordType
  stages : List Stage := []

namespace Query

def add (query : Query) (stage : Stage) : Query :=
  { query with stages := query.stages ++ [stage] }

/-- Adds what a stage declares. The pivot of a join becomes a table of its own. -/
def addStage (state : QueryState) : Stage → Except Error QueryState
  | .filter condition => .ok (state.addFilter condition)
  | .ordering fields descending => .ok (state.addOrdering fields descending)
  | .limit limit => .ok (state.setLimit limit)
  | .join record join => do
      let joined ← state.addTable record (some join)
      match join.pivot with
      | none => .ok joined
      | some pivot => joined.addTable pivot.record none

/-- The state of the query for a command, before anything is rendered. -/
def toState (query : Query) (command : Command) : Except Error QueryState := do
  let state ← (QueryState.ofCommand command).addTable query.root none
  query.stages.foldlM addStage state

variable {Buffer World Handle Result : Type}

def generate (database : Database Buffer World Handle) (query : Query) (command : Command) :
    Action (Session World) QueryState := do
  let state ← Action.ofOutcome (query.toState command)
  database.generate state

/-- The statements of a command, without running them. Writes have no instance here, so every
column is NULL. -/
def toSql (database : Database Buffer World Handle) (query : Query) (command : Command) :
    Action (Session World) (List Statement) := do
  let state ← query.generate database command
  pure state.statements

def select (database : Database Buffer World Handle) [database.connection.Finite] (query : Query)
    (body : Cursor Handle → Action World Result) : Action (Session World) Result := do
  let state ← query.generate database .select
  Session.onWorld (Cursor.withOpen database.connection query.root state body)

def all (database : Database Buffer World Handle) [database.connection.Finite] (query : Query) :
    Action (Session World) (List HydratedRecord) :=
  query.select database fun cursor => cursor.all database.connection database.schema

def first (database : Database Buffer World Handle) [database.connection.Finite] (query : Query) :
    Action (Session World) (Option HydratedRecord) :=
  query.select database fun cursor => cursor.first database.connection database.schema

def take (database : Database Buffer World Handle) [database.connection.Finite] (query : Query)
    (count : Nat) : Action (Session World) (List (Option (Except Error HydratedRecord))) :=
  query.select database fun cursor => fun world =>
    let (items, after) := Cursor.take database.connection database.schema count cursor world
    (.ok items, after)

/-- The number in the count column of the first row. -/
def readCount (record : RecordType) (rows : List Row) : Except Error Nat :=
  match rows.head?.bind (·.getByName? "count") with
  | none => .error (record.decodeError "count" .missingCount)
  | some value =>
      match value.toInt64? with
      | none => .error (.conversion ⟨"integer", value.typeName, some "count"⟩)
      | some number =>
          if number < 0 then .error (.custom s!"negative row count {number.toInt}")
          else .ok number.toInt.toNat

def count (database : Database Buffer World Handle) [database.connection.Finite] (query : Query) :
    Action (Session World) Nat := do
  let state ← query.generate database .count
  match state.statements with
  | [] => throw (.custom "count produced no statement")
  | statement :: _ =>
      let rows ← Session.onWorld (database.connection.fetchAll statement)
      Action.ofOutcome (readCount query.root rows)

/-- Runs every statement of a rendered query. -/
def executeAll (database : Database Buffer World Handle) [database.connection.Finite]
    (state : QueryState) : Action (Session World) Unit :=
  state.statements.forM fun statement =>
    Session.onWorld (database.connection.execute statement)

def update (database : Database Buffer World Handle) [database.connection.Finite] (query : Query)
    (values : Instance) (columnFilter : ColumnFilter) : Action (Session World) Unit := do
  let state ← Action.ofOutcome (query.toState .update)
  let rendered ← database.generate (state.setInstance values columnFilter)
  executeAll database rendered

def delete (database : Database Buffer World Handle) [database.connection.Finite] (query : Query) :
    Action (Session World) Unit := do
  let rendered ← query.generate database .delete
  executeAll database rendered

def rebind (bindings : List Binding) (columns : List Column) (values : Instance) :
    List Binding :=
  bindings.zipWith (fun binding column =>
    { binding with value := values.valueOrNull column.name }) columns

def insertOne (connection : Connection World Handle) [connection.Finite] (handle : Handle)
    (bindings : List Binding) : Action World Unit := do
  connection.bind handle bindings 0
  connection.runToEnd handle

/-- Inserts instances with one prepared statement. The first one fixes the statement. -/
def insert (database : Database Buffer World Handle) [database.connection.Finite] (query : Query)
    (instances : List Instance) (columnFilter : ColumnFilter) : Action (Session World) Unit := do
  match instances with
  | [] => pure ()
  | first :: rest => do
      let columns ← Action.ofOutcome (columnFilter.columns query.root)
      let state ← Action.ofOutcome (query.toState .insert)
      let rendered ← database.generate (state.setInstance first columnFilter)
      match rendered.statements with
      | [] => throw (.custom "insert produced no statement")
      | statement :: _ =>
          Session.onWorld (database.connection.withPrepared statement.sql fun handle => do
            insertOne database.connection handle statement.bindings
            rest.forM fun values =>
              insertOne database.connection handle (rebind statement.bindings columns values))

def indexColumns (record : RecordType) : List FieldRef → Except Error (List String)
  | [] => .ok []
  | reference :: rest =>
      match if reference.record = record then reference.column? else none with
      | none => .error (.generation (.unresolvedField record.table reference.name))
      | some column => (indexColumns record rest).map (column :: ·)

def createIndex (database : Database Buffer World Handle) [database.connection.Finite]
    (query : Query) (unique : Bool) (fields : List FieldRef) : Action (Session World) Unit := do
  let columns ← Action.ofOutcome (indexColumns query.root fields)
  let created :=
    (database.delegate.createIndex query.root.table columns unique).runOn database.delegate.empty
  let statements ← Action.ofOutcome created.1
  statements.forM fun text => database.sql text []

end Query

end RecordMapper
