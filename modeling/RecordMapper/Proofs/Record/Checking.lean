import RecordMapper.Database
import RecordMapper.Proofs.Connection.Performing
import RecordMapper.Proofs.Connection.Replying
import RecordMapper.Proofs.Record.Creating

set_option autoImplicit false

/-!
Which names are checked when tables are created, and which are written. Those of the first record
type are checked; the statements carry those of every record type whose table is needed.
-/

namespace RecordMapper

open Sql (Carries Names ownNames names_own tokens)

/-! ## Names of tables and columns -/

/-- The name of a record type's table, and those of its columns. -/
def RecordType.storedNames (record : RecordType) : List String :=
  record.table :: record.columns.map (·.name)

def RecordType.IsPlain (record : RecordType) : Prop :=
  ∀ name ∈ record.storedNames, Identifier.isPlain name = true

def TableStructure.names (table : TableStructure) : List String :=
  table.table :: table.columns.map (·.name)

theorem RecordType.firstBadName_none {record : RecordType} :
    record.firstBadName? = none ↔
      ∀ name ∈ record.table :: record.fields.map (·.name), Identifier.isPlain name = true := by
  simp [firstBadName?]

theorem RecordType.isPlain_of_checked {record : RecordType}
    (checked : record.firstBadName? = none) : record.IsPlain := by
  intro name stored
  refine firstBadName_none.mp checked name ?_
  rcases List.mem_cons.mp stored with rfl | inColumns
  · exact List.mem_cons_self
  · obtain ⟨column, isColumn, rfl⟩ := List.mem_map.mp inColumns
    obtain ⟨field, isField, stores⟩ := List.mem_filterMap.mp isColumn
    refine List.mem_cons_of_mem _ (List.mem_map.mpr ⟨field, isField, ?_⟩)
    unfold Field.column? at stores
    split at stores <;> cases stores
    rfl

theorem Sql.mem_ownNames {policy : CreatePolicy} {table name : String} {columns : List Column} :
    name ∈ (ownNames policy table columns).flatten ↔
      name ∈ table :: columns.map (·.name) := by
  unfold ownNames
  split <;> simp

namespace Unfolding

variable {schema : Schema} {record other : RecordType} {policy : CreatePolicy}
  {key : Option String} {way : List RecordType} {table : TableStructure}

theorem Leads.names_eq (leads : (schema.unfolding record policy).Leads key way table)
    (ends : way.getLast? = some other) : table.names = other.storedNames := by
  obtain ⟨last, lastEnds, tableEq, columnsEq⟩ := leads.tabulates
  obtain rfl : last = other := Option.some.inj (lastEnds.symm.trans ends)
  simp [TableStructure.names, RecordType.storedNames, tableEq, columnsEq,
    TableStructure.keyedColumns, Function.comp_def]

/-- The tables of a structure have the names of the record types that are needed. -/
theorem exists_names_iff (names : List String) :
    (∃ table ∈ ((schema.unfolding record policy).tables key).all, table.names = names) ↔
      ∃ other, schema.Needs record policy other ∧ other.storedNames = names := by
  have ended (other : RecordType) := exists_leads_iff schema record other policy key
  constructor
  · rintro ⟨table, member, rfl⟩
    obtain ⟨way, leads⟩ := (mem_all_iff _ key).mp member
    obtain ⟨other, ends, -, -⟩ := leads.tabulates
    exact ⟨other, (ended other).mp ⟨way, table, leads, ends⟩, (leads.names_eq ends).symm⟩
  · rintro ⟨other, needs, rfl⟩
    obtain ⟨way, table, leads, ends⟩ := (ended other).mpr needs
    exact ⟨table, (mem_all_iff _ key).mpr ⟨way, leads⟩, leads.names_eq ends⟩

end Unfolding

/-- The names in each of the statements for a structure. -/
def Schema.carried (schema : Schema) (record : RecordType) (policy : CreatePolicy)
    (key : Option String) : List (List String) :=
  ((schema.unfolding record policy).tables key).all.flatMap fun table =>
    ownNames policy table.table table.columns

theorem Schema.statements_carry (schema : Schema) (record : RecordType) (policy : CreatePolicy)
    (dialect : Dialect) (key : Option String) :
    List.Forall₂ (fun text names => Carries dialect (tokens dialect text) names)
      (dialect.tableStatements policy ((schema.unfolding record policy).tables key))
      (schema.carried record policy key) := by
  have own (table other : TableStructure) (same : table = other) :
      List.Forall₂ (fun text names => Carries dialect (tokens dialect text) names)
        (dialect.ownStatements policy table.table table.columns)
        (ownNames policy other.table other.columns) :=
    same ▸ (names_own dialect policy table.table table.columns).imp fun _ _ named => named.carries
  rw [schema.statements_unfolding record policy dialect key]
  exact List.rel_flatMap (List.forall₂_same.mpr fun _ _ => rfl) own

theorem Schema.mem_carried (schema : Schema) (record : RecordType) (policy : CreatePolicy)
    (key : Option String) (name : String) :
    name ∈ (schema.carried record policy key).flatten ↔
      ∃ other, schema.Needs record policy other ∧ name ∈ other.storedNames := by
  have inTables : name ∈ (schema.carried record policy key).flatten ↔
      ∃ table ∈ ((schema.unfolding record policy).tables key).all, name ∈ table.names := by
    simp only [carried, List.mem_flatten, List.mem_flatMap]
    constructor
    · rintro ⟨names, ⟨table, member, own⟩, named⟩
      exact ⟨table, member, Sql.mem_ownNames.mp (List.mem_flatten.mpr ⟨names, own, named⟩)⟩
    · rintro ⟨table, member, named⟩
      obtain ⟨names, own, named⟩ := List.mem_flatten.mp (Sql.mem_ownNames.mpr named)
      exact ⟨names, ⟨table, member, own⟩, named⟩
  rw [inTables]
  constructor
  · rintro ⟨table, member, named⟩
    obtain ⟨other, needs, same⟩ := (Unfolding.exists_names_iff table.names).mp ⟨table, member, rfl⟩
    exact ⟨other, needs, same ▸ named⟩
  · rintro ⟨other, needs, named⟩
    obtain ⟨table, member, same⟩ :=
      (Unfolding.exists_names_iff other.storedNames).mpr ⟨other, needs, rfl⟩
    exact ⟨table, member, same ▸ named⟩

/-! ## Creation -/

namespace Database

variable {Buffer World Handle : Type}

theorem create_refuses (database : Database Buffer World Handle)
    [database.connection.Finite] {record : RecordType} {name : String}
    (bad : record.firstBadName? = some name) (primaryKey : Option String)
    (policy : CreatePolicy) (session : Session World) :
    (database.create record primaryKey policy).runOn session =
      (.error (.schema (.invalidIdentifier name)), session) := by
  have refused : (Action.ofOutcome record.validate : Action (Session World) Unit).runOn session =
      (.error (.schema (.invalidIdentifier name)), session) := by
    unfold RecordType.validate
    rw [bad]
    rfl
  unfold create
  rw [Action.runOn_bind, refused]

variable {dialect : Dialect} {connection : Connection World Handle} {schema : Schema}
  {record : RecordType} {primaryKey : Option String} {policy : CreatePolicy}

theorem create_checked (database : Database Buffer World Handle)
    [database.connection.Finite] (checked : record.firstBadName? = none) (session : Session World) :
    (database.create record primaryKey policy).runOn session =
      (do
        let tables ← Action.ofOutcome (TableStructure.of database.schema record primaryKey policy)
        let created := (database.delegate.createTable tables policy).runOn database.delegate.empty
        let statements ← Action.ofOutcome created.1
        statements.forM fun text => database.sql text [] :
          Action (Session World) Unit).runOn session := by
  have accepted : (Action.ofOutcome record.validate : Action (Session World) Unit).runOn session =
      (.ok (), session) := by
    unfold RecordType.validate
    rw [checked]
    rfl
  exact Action.runOn_bind_of_ok accepted _

/-- What is executed is the statements of the structure, one after the other. -/
theorem create_runs [connection.Finite] (checked : record.firstBadName? = none)
    {tables : TableStructure}
    (structured : TableStructure.of schema record primaryKey policy = .ok tables)
    (session : Session World) :
    let database : Database (List Binding) World Handle := ⟨dialect.delegate, connection, schema⟩
    (database.create record primaryKey policy).runOn session =
      ((dialect.tableStatements policy tables).forM fun text => database.sql text []).runOn
        session := by
  intro database
  rw [database.create_checked checked, structured]
  rfl

theorem create_unkeyed (database : Database Buffer World Handle)
    [database.connection.Finite] (checked : record.firstBadName? = none) {error : Error}
    (unkeyed : TableStructure.of database.schema record primaryKey policy = .error error)
    (session : Session World) :
    (database.create record primaryKey policy).runOn session = (.error error, session) := by
  rw [database.create_checked checked, unkeyed]
  rfl

/-- Nothing is executed for a record type with a name of its own that is not plain, nor for an
explicit key that is no column. Otherwise the statements that are executed have the names of all
record types whose tables are needed, and so they have plain names only if the names of those others
are plain, which is not checked. -/
theorem create_names (dialect : Dialect) (connection : Connection World Handle)
    [connection.Finite] (schema : Schema) (record : RecordType) (primaryKey : Option String)
    (policy : CreatePolicy) (session : Session World) :
    let database : Database (List Binding) World Handle := ⟨dialect.delegate, connection, schema⟩
    let ran := (database.create record primaryKey policy).runOn session
    (∀ name, record.firstBadName? = some name →
      ran = (.error (.schema (.invalidIdentifier name)), session)) ∧
    (record.firstBadName? = none →
      (∃ name, primaryKey = some name ∧ name ∉ record.columns.map (·.name) ∧
        ran = (.error (.schema (.primaryKeyNotFound name record.table)), session)) ∨
      (∀ name ∈ primaryKey, name ∈ record.columns.map (·.name)) ∧
        ∃ statements carried,
          ran = (statements.forM fun text => database.sql text []).runOn session ∧
          List.Forall₂ (fun text names => Carries dialect (tokens dialect text) names)
            statements carried ∧
          (∀ name, name ∈ carried.flatten ↔
            ∃ other, schema.Needs record policy other ∧ name ∈ other.storedNames) ∧
          ((∀ name ∈ carried.flatten, Identifier.isPlain name = true) ↔
            ∀ other, schema.Needs record policy other → other ≠ record → other.IsPlain)) := by
  intro database ran
  refine ⟨fun name bad => database.create_refuses bad primaryKey policy session, fun checked => ?_⟩
  cases structured : TableStructure.of schema record primaryKey policy with
  | error error =>
      obtain ⟨name, named, notColumn, rfl⟩ := TableStructure.of_error_iff.mp structured
      exact .inl ⟨name, named, notColumn, database.create_unkeyed checked structured session⟩
  | ok tables =>
      obtain ⟨isColumn, rfl⟩ := TableStructure.of_ok_iff.mp structured
      have runs : ran = _ := create_runs checked structured session
      have named := schema.statements_carry record policy dialect (primaryKey.or record.ownKey?)
      have stored := schema.mem_carried record policy (primaryKey.or record.ownKey?)
      refine .inr ⟨isColumn, _, _, runs, named, stored, fun plain other needs _ name isStored => ?_,
        fun others name isCarried => ?_⟩
      · exact plain name ((stored name).mpr ⟨other, needs, isStored⟩)
      · obtain ⟨other, needs, isStored⟩ := (stored name).mp isCarried
        by_cases itself : other = record
        · exact RecordType.isPlain_of_checked checked name (itself ▸ isStored)
        · exact others other needs itself name isStored

end Database

/-! ## A table whose name is not plain -/

namespace Sample

def oddment : RecordType where
  name := "Odd"
  table := "od\"d`t"
  fields := [{ name := "id", kind := .column .int64 }]

def drawer : RecordType where
  name := "Parent"
  table := "parent"
  fields :=
    [{ name := "id", kind := .column .int64 }, { name := "odds", kind := .collection "Odd" }]

/-- A record type of plain names that collects one of a table whose name is not. -/
def drawers : Schema := [drawer, oddment]

end Sample

namespace Database

open Sample

theorem create_names_sample :
    let database : Database (List Binding) Replying.World Nat :=
      ⟨Dialect.mysql.delegate, Replying.connection fun _ => .ok [], drawers⟩
    let session : Session Replying.World := { world := [] }
    (database.create oddment none {}).runOn session =
        (.error (.schema (.invalidIdentifier "od\"d`t")), session) ∧
      drawer.firstBadName? = none ∧
      (database.create drawer (some "odds") {}).runOn session =
        (.error (.schema (.primaryKeyNotFound "odds" "parent")), session) := by
  intro database session
  have refused := (create_names .mysql database.connection drawers oddment none {} session).1
  have checked := (create_names .mysql database.connection drawers drawer (some "odds") {}
    session).2 rfl
  have notColumn : "odds" ∉ drawer.columns.map (·.name) := by decide
  refine ⟨refused _ (by decide), rfl, ?_⟩
  rcases checked with ⟨name, named, -, unkeyed⟩ | ⟨isColumn, -⟩
  · cases named
    exact unkeyed
  · exact absurd (isColumn "odds" rfl) notColumn

/-- An engine without rows is through with a text when it has prepared it. -/
theorem sql_idle (dialect : Dialect) (schema : Schema) (text : String)
    (session : Session Replying.World) :
    let database : Database (List Binding) Replying.World Nat :=
      ⟨dialect.delegate, Replying.connection fun _ => .ok [], schema⟩
    (database.sql text []).runOn session =
      (.ok (), { session with world := session.world ++ [{ sql := text }] }) := by
  intro database
  have opens : database.connection.Opens ⟨text, []⟩ session.world session.world.length
      (session.world ++ [{ sql := text }]) := Replying.opens_iff.mpr ⟨rfl, rfl⟩
  have stepped : (database.connection.hasNext session.world.length).runOn
      (session.world ++ [{ sql := text }]) = (.ok false, session.world ++ [{ sql := text }]) := by
    change (Replying.hasNext _).runOn _ = _
    unfold Replying.hasNext Action.runOn ExceptT.run
    simp
  have finished : (database.connection.runToEnd session.world.length).runOn
      (session.world ++ [{ sql := text }]) = (.ok (), session.world ++ [{ sql := text }]) :=
    Connection.runToEnd_of_hasNext stepped
  have executed : (database.connection.execute ⟨text, []⟩).runOn session.world =
      (.ok (), session.world ++ [{ sql := text }]) := by
    unfold Connection.execute
    rw [Connection.withStatement_eq opens, finished]
    rfl
  change (fun ran : Except Error Unit × Replying.World => (ran.1, { session with world := ran.2 }))
    ((database.connection.execute ⟨text, []⟩).runOn session.world) = _
  rw [executed]

theorem forM_idle (dialect : Dialect) (schema : Schema) (texts : List String)
    (session : Session Replying.World) :
    let database : Database (List Binding) Replying.World Nat :=
      ⟨dialect.delegate, Replying.connection fun _ => .ok [], schema⟩
    (texts.forM fun text => database.sql text []).runOn session =
      (.ok (),
        { session with world := session.world ++ texts.map fun text => { sql := text } }) := by
  intro database
  induction texts generalizing session with
  | nil => simp; rfl
  | cons text texts ih =>
      have first := sql_idle dialect schema text session
      rw [List.forM_eq_forM, List.forM_cons, Action.runOn_bind_of_ok first]
      refine (ih _).trans ?_
      simp

/-- The table of a collection is created under a name that is not plain. -/
theorem create_unchecked :
    let database : Database (List Binding) Replying.World Nat :=
      ⟨Dialect.sqlite.delegate, Replying.connection fun _ => .ok [], drawers⟩
    let ran := (database.create drawer none {}).runOn { world := [] }
    drawers.Needs drawer {} oddment ∧ Identifier.isPlain oddment.table = false ∧
      ran.1 = .ok () ∧ ∃ carried,
        List.Forall₂ (fun executed names => Carries .sqlite (tokens .sqlite executed.sql) names)
          ran.2.world carried ∧
        oddment.table ∈ carried.flatten := by
  intro database ran
  have needs : drawers.Needs drawer {} oddment := by
    refine .single (Schema.mem_related.mp ?_)
    decide
  let tables := (drawers.unfolding drawer {}).tables drawer.ownKey?
  have runs : ran = (.ok (), { world :=
      (Dialect.sqlite.tableStatements {} tables).map fun text => { sql := text } }) := by
    refine (create_runs rfl (TableStructure.of_none drawers drawer {}) _).trans ?_
    rw [forM_idle, List.nil_append]
  have carry := drawers.statements_carry drawer {} .sqlite drawer.ownKey?
  have carried := (drawers.mem_carried drawer {} drawer.ownKey? oddment.table).mpr
    ⟨oddment, needs, List.mem_cons_self⟩
  rw [runs]
  exact ⟨needs, by decide, rfl, _, List.forall₂_map_left_iff.mpr carry, carried⟩

end Database

end RecordMapper
