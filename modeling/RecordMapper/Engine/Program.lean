import RecordMapper.Engine.Selecting
import RecordMapper.Engine.Setting

set_option autoImplicit false

/-!
What instructions do. An instruction is resolved against the content of the database and then run
with its parameters. A run that fails undoes its changes, unless its instruction says otherwise;
which row was inserted last is remembered in any case. A transaction keeps the content at its start
and at each of its savepoints, and rolling back restores it.
-/

namespace RecordMapper.Engine

/-! ## State -/

structure Savepoint where
  name : String
  content : Content

structure Transaction where
  /-- The content at the start. -/
  content : Content
  /-- The latest savepoint stands first. -/
  savepoints : List Savepoint := []
  /-- Whether a savepoint opened it, so that releasing that savepoint ends it. -/
  bySavepoint : Bool := false

structure State where
  content : Content := []
  transaction : Option Transaction := none
  readOnly : Bool := false
  /-- The id of the row inserted last. -/
  lastRowId : Int64 := 0
  /-- How many rows the last change touched. -/
  changes : Nat := 0

def State.environment (state : State) (parameters : List Stored) : Environment :=
  { parameters, lastRowId := state.lastRowId, changes := state.changes }

/-- What may fail and changes the state; a failure keeps the state it reached. -/
abbrev Effect := ExceptT Failure (StateM State)

namespace Effect

variable {Item : Type}

def run (effect : Effect Item) (state : State) : Except Failure Item × State :=
  ExceptT.run effect state

def ofExcept (outcome : Except Failure Item) : Effect Item :=
  fun state => (outcome, state)

/-- The content that stays when a change fails. Only broken constraints are handled as the
instruction says. -/
def contentAfter (onConflict : OnConflict) (failure : Failure) (before after : State) : State :=
  if failure.kind != .constraint then { after with content := before.content }
  else
    match onConflict with
    | .fail => after
    | .rollback =>
        match before.transaction with
        | some transaction => { after with content := transaction.content, transaction := none }
        | none => { after with content := before.content }
    | _ => { after with content := before.content }

def undoing (onConflict : OnConflict) (effect : Effect Item) : Effect Item :=
  fun before =>
    match effect.run before with
    | (.ok item, after) => (.ok item, after)
    | (.error failure, after) => (.error failure, contentAfter onConflict failure before after)

/-- Refuses to write to a read-only database. -/
def checkWritable : Effect Unit := do
  if (← get).readOnly then throw .readOnly

def relation (name : String) : Effect Relation := do
  ofExcept ((← get).content.find name)

def putRelation (relation : Relation) : Effect Unit :=
  modify fun state => { state with content := state.content.update relation }

end Effect

/-- The rows that a run answers and the state after it. -/
abbrev Outcome := Except Failure (List (List Stored)) × State

/-- A resolved instruction. A run is told whether another statement stands on a row. -/
structure Program where
  columns : List String := []
  run : List Stored → Bool → Effect (List (List Stored))

namespace Program

def ofResolved (resolved : Resolved) : Program where
  columns := resolved.columns.map (·.name)
  run parameters _ := do
    Effect.ofExcept (resolved.rows ((← get).environment parameters))

/-- A program without rows that changes the state. -/
def changing (change : List Stored → Effect Unit) : Program where
  run parameters _ := do
    change parameters
    pure []

def idle : Program :=
  changing fun _ => pure ()

def writing (change : List Stored → Effect Unit) : Program :=
  changing fun parameters => do
    Effect.checkWritable
    change parameters

/-- A program that changes rows one after the other. -/
def changingRows (onConflict : OnConflict) (change : List Stored → Effect Unit) : Program :=
  writing fun parameters => Effect.undoing onConflict (change parameters)

/-! ## Assignments -/

/-- The places of columns, which must be there. -/
def columnPlaces (relation : Relation) (columns : List String) : Except Failure (List Nat) :=
  columns.mapM fun name =>
    match relation.columnIndex? name with
    | some place => .ok place
    | none => .error (.absent .column name)

/-- The place of a column that is set, and its formula. -/
def resolveAssignment (content : Content) (relation : Relation) (scope : Scope) :
    String × Expression → Except Failure (Nat × Formula)
  | (name, expression) =>
      match relation.place? name with
      | none => .error (.absent .column name)
      | some place => (expression.resolve content [scope]).map fun formula => (place, formula)

/-- The values of a row after the assignments, which all see the old values. -/
def assign (assignments : List (Nat × Formula)) (environment : Environment)
    (values : List Stored) : Except Failure (List Stored) := do
  let assigned ← assignments.mapM fun (place, formula) => do
    pure (place, ← formula.value (environment.enter values))
  pure (assigned.foldl (fun changed (place, stored) => changed.set place stored) values)

/-! ## Inserts -/

/-- The places of the columns that an insert names; all of them when it names none. -/
def insertedPlaces (relation : Relation) (columns : Option (List String)) :
    Except Failure (List Nat) :=
  match columns with
  | none => .ok (List.range relation.columns.length)
  | some names =>
      names.mapM fun name =>
        match relation.place? name with
        | some place => .ok place
        | none => .error (.unknownColumn relation.name name)

def checkCount (relation : Relation) (named : Bool) (values columns : Nat) :
    Except Failure Unit :=
  if values = columns then .ok ()
  else if named then .error (.valueCount values columns)
  else .error (.suppliedCount relation.name values columns)

/-- The values of a whole row, and what is asked for as its id. Columns that are not named get
their defaults. -/
def spread (relation : Relation) (places : List Nat) (values : List Stored) : List Stored :=
  let defaults := relation.columns.map (·.default) ++ [.null]
  defaults.zipIdx.map fun (default, place) => ((places.zip values).lookup place).getD default

structure ResolvedMerging where
  places : List Nat
  assignments : List (Nat × Formula)
  conditions : List Formula

/-- The columns of the row that was there, and those of the new row behind the label `excluded`. -/
def mergingScope (label : String) (relation : Relation) : Scope :=
  { columns :=
      Scope.ofRelation label relation
        ++ (Scope.ofRelation "excluded" relation).map fun column =>
          { column with qualified := true } }

def resolveMerging (content : Content) (relation : Relation) (label : String)
    (merging : Merging) : Except Failure ResolvedMerging := do
  let places ← columnPlaces relation merging.columns
  if !places.isEmpty && !relation.isKey places then throw .unmatchedConflict
  let scope := mergingScope label relation
  let assignments ← merging.assignments.mapM (resolveAssignment content relation scope)
  let conditions ← resolveAll content [scope] merging.conditions
  pure { places, assignments, conditions }

/-- Keeps a table in which a row was changed, and counts the row. -/
def keepChange (relation : Relation) : Effect Unit := do
  Effect.putRelation relation
  modify fun state => { state with changes := state.changes + 1 }

def changeRow (relation : Relation) (onConflict : OnConflict) (old : StoredRow)
    (values : List Stored) : Effect Unit := do
  match ← Effect.ofExcept (relation.replace onConflict old values) with
  | none => pure ()
  | some changed => keepChange changed

/-- Changes the row that was there, if there is something to assign and the conditions hold. -/
def mergeRow (relation : Relation) (merging : ResolvedMerging) (environment : Environment)
    (old new : StoredRow) : Effect Unit := do
  let both := old.withId ++ new.withId
  if !merging.assignments.isEmpty then
    if ← Effect.ofExcept (Formula.allHold merging.conditions (environment.enter both)) then
      let values ← Effect.ofExcept (assign merging.assignments environment both)
      changeRow relation .abort old values

/-- Adds a row; its id is remembered. -/
def addRow (relation : Relation) (onConflict : OnConflict) (row : StoredRow) : Effect Unit := do
  match ← Effect.ofExcept (relation.insert onConflict row) with
  | none => pure ()
  | some grown =>
      keepChange grown
      modify fun state => { state with lastRowId := row.id }

structure Inserting where
  onConflict : OnConflict
  table : String
  places : List Nat
  merging : Option ResolvedMerging := none

def insertRow (inserting : Inserting) (environment : Environment) (values : List Stored) :
    Effect Unit := do
  let relation ← Effect.relation inserting.table
  let row ← Effect.ofExcept (relation.newRow (spread relation inserting.places values))
  let merged := do
    let merging ← inserting.merging
    let old ← relation.rowInTheWay? merging.places row
    pure (merging, old)
  match merged with
  | some (merging, old) => mergeRow relation merging environment old row
  | none => addRow relation inserting.onConflict row

def countAnew : Effect Unit :=
  modify fun state => { state with changes := 0 }

/-- Inserts the rows of a query, which is evaluated before any of them is inserted. -/
def insertRows (inserting : Inserting)
    (rows : Environment → Except Failure (List (List Stored))) : Program :=
  changingRows inserting.onConflict fun parameters => do
    let environment := (← get).environment parameters
    let given ← Effect.ofExcept (rows environment)
    countAnew
    given.forM (insertRow inserting environment)

def insert (content : Content) (onConflict : OnConflict) (table label : String)
    (columns : Option (List String)) (query : Query) (merging : Option Merging) :
    Except Failure Program := do
  let relation ← content.find table
  let places ← insertedPlaces relation columns
  let resolved ← query.resolve content []
  checkCount relation columns.isSome resolved.columns.length places.length
  let merging ← merging.mapM (resolveMerging content relation label)
  pure (insertRows { onConflict, table, places, merging } resolved.rows)

def insertDefaults (content : Content) (onConflict : OnConflict) (table : String) :
    Except Failure Program := do
  let _ ← content.find table
  pure (insertRows { onConflict, table, places := [] } fun _ => .ok [[]])

/-! ## Updates -/

def matched (conditions : List Formula) (environment : Environment) (relation : Relation) :
    Except Failure (List StoredRow) :=
  relation.rows.filterM fun row => Formula.allHold conditions (environment.enter row.withId)

/-- Changes the row of an id, unless it was removed in between. -/
def updateRow (onConflict : OnConflict) (table : String) (assignments : List (Nat × Formula))
    (environment : Environment) (id : Int64) : Effect Unit := do
  let relation ← Effect.relation table
  match relation.rows.find? (·.id == id) with
  | none => pure ()
  | some row =>
      let values ← Effect.ofExcept (assign assignments environment row.withId)
      changeRow relation onConflict row values

def update (content : Content) (onConflict : OnConflict) (table label : String)
    (assignments : List (String × Expression)) (conditions : List Expression) :
    Except Failure Program := do
  let relation ← content.find table
  let scope : Scope := { columns := Scope.ofRelation label relation }
  let resolved ← assignments.mapM (resolveAssignment content relation scope)
  let conditions ← resolveAll content [scope] conditions
  pure <| changingRows onConflict fun parameters => do
    let environment := (← get).environment parameters
    let rows ← Effect.ofExcept (matched conditions environment (← Effect.relation table))
    countAnew
    rows.forM fun row => updateRow onConflict table resolved environment row.id

def delete (content : Content) (table label : String) (conditions : List Expression) :
    Except Failure Program := do
  let relation ← content.find table
  let conditions ← resolveAll content [{ columns := Scope.ofRelation label relation }] conditions
  pure <| writing fun parameters => do
    let current ← Effect.relation table
    let rows ← Effect.ofExcept (matched conditions ((← get).environment parameters) current)
    let kept := current.rows.filter fun row => rows.all (·.id != row.id)
    Effect.putRelation { current with rows := kept }
    modify fun state => { state with changes := rows.length }

/-! ## Tables -/

def isIdType (typeName : String) : Bool :=
  sameName typeName "INTEGER"

/-- A column as it is kept; its default is evaluated once. -/
def storedColumn (column : ColumnSource) : Except Failure StoredColumn := do
  let default ←
    match column.default with
    | none => pure .null
    | some expression => (← expression.resolve [] []).value {}
  pure
    { name := column.name, affinity := .ofTypeName column.typeName, notNull := column.notNull
      default }

def repeatedName? : List String → List String → Option String
  | _, [] => none
  | seen, name :: rest =>
      if seen.any (sameName name) then some name else repeatedName? (name :: seen) rest

def idColumn? (columns : List ColumnSource) (keys : List KeySource) : Option Nat :=
  match keys.find? (·.primary) with
  | some { columns := [name], .. } =>
      columns.findIdx? fun column => sameName column.name name && isIdType column.typeName
  | _ => none

/-- Whether a key is the one that is the row id. -/
def isIdKey (relation : Relation) (key : KeySource) : Bool :=
  key.primary && relation.idColumn.isSome

def withKey (relation : Relation) (key : KeySource) : Except Failure Relation := do
  let places ← columnPlaces relation key.columns
  relation.withIndex { name := none, columns := places, unique := true }

def declare (name : String) (columns : List ColumnSource) (keys : List KeySource) :
    Except Failure Relation := do
  if let some repeated := repeatedName? [] (columns.map (·.name)) then
    throw (.repeatedColumn repeated)
  if 1 < (keys.filter (·.primary)).length then throw (.severalKeys name)
  let growing := keys.any (·.growing)
  let relation : Relation :=
    { name, columns := ← columns.mapM storedColumn, idColumn := idColumn? columns keys
      lastId := if growing then some 0 else none }
  if growing && relation.idColumn.isNone then throw .misplacedGrowth
  (keys.filter fun key => !isIdKey relation key).foldlM withKey relation

/-- Creates a table that is not there yet. -/
def createOnce (content : Content) (name : String) (ifAbsent : Bool)
    (create : Except Failure Program) : Except Failure Program :=
  match content.find? name with
  | none => create
  | some _ => if ifAbsent then .ok idle else .error (.tableExists name)

def addRelation (relation : Relation) : Effect Unit :=
  modify fun state => { state with content := state.content ++ [relation] }

def createTable (content : Content) (name : String) (ifAbsent : Bool)
    (columns : List ColumnSource) (keys : List KeySource) : Except Failure Program :=
  createOnce content name ifAbsent do
    let relation ← declare name columns keys
    pure (writing fun _ => addRelation relation)

def createTableAs (content : Content) (name : String) (ifAbsent : Bool) (query : Query) :
    Except Failure Program :=
  createOnce content name ifAbsent do
    let resolved ← query.resolve content []
    let columns : List StoredColumn := resolved.columns.map fun column =>
      { name := column.name, affinity := column.affinity }
    pure <| writing fun parameters => do
      let rows ← Effect.ofExcept (resolved.rows ((← get).environment parameters))
      let stored := rows.zipIdx.map fun (values, place) => ⟨.ofNat (place + 1), values⟩
      addRelation { name, columns, idColumn := none, rows := stored }

/-- A program that takes something away, unless some statement stands on a row. -/
def dropping (change : Content → Content) : Program where
  run _ reading := do
    Effect.checkWritable
    if reading then throw .locked
    modify fun state => { state with content := change state.content }
    pure []

def dropTable (content : Content) (name : String) (ifPresent : Bool) : Except Failure Program :=
  if (content.find? name).isSome then .ok (dropping fun content => content.remove name)
  else if ifPresent then .ok idle
  else .error (.absent .table name)

/-! ## Indexes -/

def createIndex (content : Content) (name : String) (ifAbsent unique : Bool) (table : String)
    (columns : List String) : Except Failure Program :=
  match content.find? table with
  | none => .error (.absent .table s!"main.{table}")
  | some relation =>
      if content.hasIndex name then
        if ifAbsent then .ok idle else .error (.indexExists name)
      else do
        let places ← columnPlaces relation columns
        pure <| writing fun _ => do
          let current ← Effect.relation table
          let index : Index := { name := some name, columns := places, unique }
          Effect.putRelation (← Effect.ofExcept (current.withIndex index))

def dropIndex (content : Content) (name : String) (ifPresent : Bool) : Except Failure Program :=
  if content.hasIndex name then
    .ok (dropping fun content => content.map (Relation.withoutIndex name))
  else if ifPresent then .ok idle
  else .error (.absent .index name)

/-! ## Transactions -/

/-- Opens a transaction. One for writing at once is refused by a read-only database. -/
def begin (forWriting : Bool) : Program :=
  changing fun _ => do
    if forWriting then Effect.checkWritable
    let state ← get
    if state.transaction.isSome then throw .nestedTransaction
    set { state with transaction := some { content := state.content } }

/-- Ends a transaction; rolling back restores the content at its start. -/
def finish (ending : TransactionEnd) : Program :=
  changing fun _ => do
    let state ← get
    match state.transaction, ending with
    | none, _ => throw (.noTransaction ending)
    | some _, .commit => set { state with transaction := none }
    | some transaction, .rollback =>
        set { state with content := transaction.content, transaction := none }

/-- Marks the present content; outside of a transaction the mark opens one. -/
def savepoint (name : String) : Program :=
  changing fun _ => modify fun state =>
    let transaction := state.transaction.getD { content := state.content, bySavepoint := true }
    let savepoints := { name, content := state.content } :: transaction.savepoints
    { state with transaction := some { transaction with savepoints } }

/-- The savepoints from the latest of a name on, the latest of all left aside. -/
def savepointsFrom (name : String) (transaction : Option Transaction) :
    Except Failure (Transaction × List Savepoint) :=
  match transaction with
  | none => .error (.absent .savepoint name)
  | some transaction =>
      match transaction.savepoints.dropWhile fun savepoint => !sameName savepoint.name name with
      | [] => .error (.absent .savepoint name)
      | savepoints => .ok (transaction, savepoints)

/-- Gives a savepoint up, and those after it. -/
def release (name : String) : Program :=
  changing fun _ => do
    let state ← get
    let (transaction, savepoints) ← Effect.ofExcept (savepointsFrom name state.transaction)
    let left := savepoints.drop 1
    if left.isEmpty && transaction.bySavepoint then set { state with transaction := none }
    else set { state with transaction := some { transaction with savepoints := left } }

/-- Restores the content at a savepoint, which stays. -/
def rollbackTo (name : String) : Program :=
  changing fun _ => do
    let state ← get
    let (transaction, savepoints) ← Effect.ofExcept (savepointsFrom name state.transaction)
    let content := (savepoints.head?.map (·.content)).getD state.content
    set { state with content, transaction := some { transaction with savepoints } }

/-! ## Settings -/

/-- The setting that makes the database read-only. Other settings are ignored. -/
def setting (name : String) (value : Option String) : Program :=
  if sameName name "query_only" then
    match value with
    | some value =>
        changing fun _ => modify fun state => { state with readOnly := Setting.isOn value }
    | none =>
        { columns := [name]
          run := fun _ _ => do
            pure [[.integer (if (← get).readOnly then 1 else 0)]] }
  else idle

/-- Packs the database anew, which changes no content. -/
def vacuum : Program :=
  writing fun _ => do
    if (← get).transaction.isSome then throw .nestedVacuum

end Program

def Instruction.resolve (content : Content) : Instruction → Except Failure Program
  | .query asked => (asked.resolve content []).map Program.ofResolved
  | .insert onConflict table label columns asked merging =>
      Program.insert content onConflict table label columns asked merging
  | .insertDefaults onConflict table => Program.insertDefaults content onConflict table
  | .update onConflict table label assignments conditions =>
      Program.update content onConflict table label assignments conditions
  | .delete table label conditions => Program.delete content table label conditions
  | .createTable name ifAbsent columns keys =>
      Program.createTable content name ifAbsent columns keys
  | .createTableAs name ifAbsent asked => Program.createTableAs content name ifAbsent asked
  | .dropTable name ifPresent => Program.dropTable content name ifPresent
  | .createIndex name ifAbsent unique table columns =>
      Program.createIndex content name ifAbsent unique table columns
  | .dropIndex name ifPresent => Program.dropIndex content name ifPresent
  | .begin forWriting => .ok (.begin forWriting)
  | .finish ending => .ok (.finish ending)
  | .savepoint name => .ok (.savepoint name)
  | .release name => .ok (.release name)
  | .rollbackTo name => .ok (.rollbackTo name)
  | .pragma name value => .ok (.setting name value)
  | .vacuum => .ok .vacuum
  | .explain instruction => (instruction.resolve content).map fun _ => .idle

end RecordMapper.Engine
