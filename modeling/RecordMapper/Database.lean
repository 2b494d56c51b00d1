import RecordMapper.Connection
import RecordMapper.Query.Generation
import RecordMapper.Record.Hydration
import RecordMapper.Transaction

set_option autoImplicit false

/-!
A database: a connection, the delegate that writes SQL for it and the schema of its records. Raw
statements, table creation and transactions are here; queries build on it.
-/

namespace RecordMapper

structure Database (Buffer World Handle : Type) where
  delegate : Delegate Buffer
  connection : Connection World Handle
  schema : Schema

/-- What operations on a database change: its world, and the calls made to the producers of
deferred expressions. -/
structure Session (World : Type) where
  world : World
  calls : Calls := Calls.zero

namespace Session

variable {World Result : Type}

def onWorld (action : Action World Result) : Action (Session World) Result :=
  Action.zoom Session.world (fun world session => { session with world }) action

end Session

namespace Database

variable {Buffer World Handle Result : Type}

/-- A raw statement with its values bound in order by a new delegate. -/
def statement (database : Database Buffer World Handle) (sql : String) (values : List Value) :
    Except Error Statement :=
  let bindAll : Action Buffer Unit := values.forM fun value => do
    let _ ← database.delegate.bind value
  match bindAll.runOn database.delegate.empty with
  | (.error error, _) => .error error
  | (.ok (), buffer) => .ok ⟨sql, (database.delegate.takeBindings buffer).1⟩

def sql (database : Database Buffer World Handle) [database.connection.Finite] (text : String)
    (values : List Value) : Action (Session World) Unit := do
  let statement ← Action.ofOutcome (database.statement text values)
  Session.onWorld (database.connection.execute statement)

def sqlRows (database : Database Buffer World Handle) [database.connection.Finite]
    (text : String) (values : List Value) : Action (Session World) (List Row) := do
  let statement ← Action.ofOutcome (database.statement text values)
  Session.onWorld (database.connection.fetchAll statement)

/-- Runs a raw query and reads its rows as records without joined data. -/
def sqlSelect (database : Database Buffer World Handle) [database.connection.Finite]
    (record : RecordType) (text : String) (values : List Value) :
    Action (Session World) (List HydratedRecord) := do
  let rows ← database.sqlRows text values
  Action.ofOutcome (rows.mapM (record.decodeRow database.schema))

/-- Creates the table of a record type and, unless the policy is shallow, those of its
collections. The record's own names must be plain. -/
def create (database : Database Buffer World Handle) [database.connection.Finite]
    (record : RecordType) (primaryKey : Option String) (policy : CreatePolicy) :
    Action (Session World) Unit := do
  Action.ofOutcome record.validate
  let tables ← Action.ofOutcome (TableStructure.of database.schema record primaryKey policy)
  let created := (database.delegate.createTable tables policy).runOn database.delegate.empty
  let statements ← Action.ofOutcome created.1
  statements.forM fun text => database.sql text []

def transaction (database : Database Buffer World Handle) [database.connection.Finite]
    (body : Action (Session World) Result) : Action (Session World) Result :=
  Transaction.around (m := StateM (Session World))
    (fun text => database.sql text []) body

def generate (database : Database Buffer World Handle) (query : QueryState) :
    Action (Session World) QueryState :=
  fun session =>
    let draft : Draft Buffer := ⟨database.delegate.empty, session.calls⟩
    let (outcome, workspace) := (Generation.generate database.delegate).runOn ⟨query, draft⟩
    (outcome.map fun _ => workspace.query, { session with calls := workspace.draft.calls })

end Database

end RecordMapper
