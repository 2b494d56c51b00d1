import RecordMapper.Proofs.Connection.Performing
import RecordMapper.Proofs.Query.Bindings
import RecordMapper.Proofs.Query.Opening
import RecordMapper.Proofs.Query.Sample

set_option autoImplicit false

/-!
Inserting several records. A query without stages can always be rendered as an insert of the chosen
columns, with a text that is the same for all records. So one prepared statement, bound anew for
each record, does what inserting the records one by one does.
-/

namespace RecordMapper

/-! ## Columns and rows -/

namespace ColumnFilter

def chooses (filter : ColumnFilter) (column : Column) : Bool :=
  (filter.included.isEmpty || lists filter.included column.name)
    && !lists filter.excluded column.name

theorem columns_of_known {filter : ColumnFilter} {record : RecordType}
    (known : ∀ reference ∈ filter.included ++ filter.excluded, knows record reference = true) :
    filter.columns record = .ok (record.columns.filter filter.chooses) := by
  have none : (filter.included ++ filter.excluded).find?
      (fun reference => !knows record reference) = none := by
    rw [List.find?_eq_none]
    intro reference member
    simp [known reference member]
  unfold columns
  rw [none]
  rfl

end ColumnFilter

def insertionText (dialect : Dialect) (table : String) (columns : List Column) : String :=
  "INSERT INTO " ++ dialect.quoteIdentifier table ++ " ("
    ++ String.intercalate ", " (columns.map fun column => dialect.quoteIdentifier column.name)
    ++ ") VALUES ("
    ++ String.intercalate ", " ((List.range' 1 columns.length).map dialect.placeholder) ++ ")"

/-- What the placeholders of an insert are bound to. -/
def Instance.row (dialect : Dialect) (columns : List Column) (values : Instance) : List Binding :=
  Sql.bindings dialect (Sql.numbered 0 (columns.map fun column => values.valueOrNull column.name))

namespace Instance

theorem row_placeholders (dialect : Dialect) (columns : List Column) (values : Instance) :
    (values.row dialect columns).map (·.placeholder) =
      (List.range' 1 columns.length).map dialect.placeholder := by
  have indices := Sql.numbered_indices 0 (columns.map fun column => values.valueOrNull column.name)
  rw [List.length_map] at indices
  rw [← indices]
  simp [row, Sql.bindings, Sql.Parameter.binding, Function.comp_def]

theorem row_values (dialect : Dialect) (columns : List Column) (values : Instance) :
    (values.row dialect columns).map (·.value) =
      columns.map fun column => values.valueOrNull column.name := by
  have numbered := Sql.numbered_values 0 (columns.map fun column => values.valueOrNull column.name)
  simpa [row, Sql.bindings, Sql.Parameter.binding, Function.comp_def] using numbered

theorem assignments_names (values : Instance) (bound : Nat) (columns : List Column) :
    (values.assignments bound columns).map (·.column) = columns.map (·.name) := by
  induction columns generalizing bound with
  | nil => rfl
  | cons column columns ih => simp [assignments, ih]

/-- The text does not depend on the values. -/
theorem insertion_statement (dialect : Dialect) (table : String) (values : Instance)
    (columns : List Column) :
    (Sql.Sentence.insert table (values.assignments 0 columns)).statement dialect =
      ⟨insertionText dialect table columns, values.row dialect columns⟩ := by
  have names : (values.assignments 0 columns).map
      (fun assignment => dialect.quoteIdentifier assignment.column) =
        columns.map fun column => dialect.quoteIdentifier column.name := by
    have mapped := congrArg (List.map dialect.quoteIdentifier) (assignments_names values 0 columns)
    simpa [Function.comp_def] using mapped
  have placeholders : (values.assignments 0 columns).map
      (fun assignment => dialect.placeholder assignment.parameter.index) =
        (List.range' 1 columns.length).map dialect.placeholder := by
    have parameters := congrArg (Sql.bindings dialect) (assignments_parameters values 0 columns)
    have mapped := congrArg (List.map (·.placeholder)) parameters
    have row := row_placeholders dialect columns values
    rw [Instance.row, ← mapped] at row
    simpa [Sql.bindings, Sql.Parameter.binding, Function.comp_def] using row
  unfold Sql.Sentence.statement
  rw [Sql.Sentence.text_insert, Sql.insertText_eq, names, placeholders, Sql.Sentence.parameters,
    assignments_parameters]
  rfl

end Instance

theorem Query.rebind_row (dialect : Dialect) (columns : List Column) (first values : Instance) :
    Query.rebind (first.row dialect columns) columns values = values.row dialect columns := by
  have rebound (bound : Nat) :
      Query.rebind (Sql.bindings dialect (Sql.numbered bound
          (columns.map fun column => first.valueOrNull column.name))) columns values =
        Sql.bindings dialect (Sql.numbered bound
          (columns.map fun column => values.valueOrNull column.name)) := by
    induction columns generalizing bound with
    | nil => rfl
    | cons column columns ih => exact congrArg (_ :: ·) (ih (bound + 1))
  exact rebound 0

/-! ## Rendering an insert -/

namespace Generation

variable {dialect : Dialect} {state : QueryState} {root : Table} {columns : List Column}

theorem singleTable_total (command : String) (single : state.tables = [root])
    (unfiltered : state.filters = []) (draft : Draft (List Binding)) :
    (singleTable command state).runOn draft = (.ok root.record, draft) := by
  have found : (Action.ofOutcome (rootTable state)).runOn draft = (.ok root, draft) := by
    unfold rootTable QueryState.root?
    rw [single]
    rfl
  unfold singleTable
  rw [Action.runOn_bind_of_ok found, single, unfiltered]
  rfl

theorem insertStatement_total (single : state.tables = [root]) (unfiltered : state.filters = [])
    (chosen : state.columnFilter.columns root.record = .ok columns) (nonempty : columns ≠ [])
    (draft : Draft (List Binding)) :
    ∃ text after, (insertStatement dialect.delegate state).runOn draft = (.ok text, after) := by
  have choosing : (Action.ofOutcome (state.columnFilter.columns root.record)).runOn draft =
      (.ok columns, draft) := by
    rw [chosen]
    rfl
  have some : ¬ columns.isEmpty = true := by simpa using nonempty
  have bindable : ∀ column ∈ columns, ∀ before, ∃ written after,
      (insertion dialect.delegate state.values column).runOn before = (.ok written, after) :=
    fun column _ before => ⟨_, _, rfl⟩
  obtain ⟨insertions, after, inserted⟩ := Action.mapM_total bindable draft
  unfold insertStatement
  rw [Action.runOn_bind_of_ok (singleTable_total "insert" single unfiltered draft), unfiltered,
    if_neg (by simp), Action.runOn_bind_of_ok choosing, if_neg some,
    Action.runOn_bind_of_ok inserted]
  exact ⟨_, _, rfl⟩

/-- A state for an insert of chosen columns, with nothing else in it. -/
structure Inserts (state : QueryState) (root : Table) (columns : List Column) : Prop where
  command : state.command = .insert
  tables : state.tables = [root]
  filters : state.filters = []
  sorts : state.sorts = []
  chosen : state.columnFilter.columns root.record = .ok columns
  nonempty : columns ≠ []

theorem Inserts.generate_total (inserts : Inserts state root columns)
    (draft : Draft (List Binding)) :
    ∃ after, (generate dialect.delegate).runOn ⟨state, draft⟩ = (.ok (), after) := by
  let start : Draft (List Binding) := ⟨[], draft.calls⟩
  obtain ⟨text, rendered, ran⟩ := insertStatement_total inserts.tables inserts.filters
    inserts.chosen inserts.nonempty start
  have renders : (Generating.render (insertStatement dialect.delegate)).runOn ⟨state, start⟩ =
      (.ok text, ⟨state, rendered⟩) := by
    change (fun ran : Except Error String × Draft (List Binding) => (ran.1,
      (⟨state, ran.2⟩ : Workspace (List Binding))))
        ((insertStatement dialect.delegate state).runOn start) = _
    rw [ran]
  let ended : Workspace (List Binding) :=
    ⟨state.pushStatement ⟨text, rendered.buffer⟩, ⟨[], rendered.calls⟩⟩
  have emitted : (generateOne dialect.delegate insertStatement).runOn ⟨state, start⟩ =
      (.ok (), ended) := by
    unfold generateOne
    rw [Action.runOn_bind_of_ok renders]
    rfl
  have queried : Generating.query.runOn (⟨state, start⟩ : Workspace (List Binding)) =
      (.ok state, ⟨state, start⟩) := rfl
  have closing : Generating.query.runOn ended = (.ok ended.query, ended) := rfl
  have unsorted : ended.query.sorts = [] := inserts.sorts
  rw [generate_eq, inserts.command, inserts.tables, if_neg (by simp), if_neg (by simp)]
  change ∃ after, (generateEmptied dialect.delegate).runOn ⟨state, start⟩ = (.ok (), after)
  unfold generateEmptied
  rw [Action.runOn_bind_of_ok queried, inserts.command]
  change ∃ after, (generateOne dialect.delegate insertStatement >>= _).runOn _ = (.ok (), after)
  rw [Action.runOn_bind_of_ok emitted, Action.runOn_bind_of_ok closing,
    if_neg (by simp [unsorted])]
  exact ⟨_, rfl⟩

/-- Such a state is rendered as one statement, whatever has been bound or called before. -/
theorem Inserts.generate_eq (inserts : Inserts state root columns)
    (draft : Draft (List Binding)) :
    (generate dialect.delegate).runOn ⟨state, draft⟩ =
      (.ok (), ⟨generated state
          [⟨insertionText dialect root.record.table columns, state.values.row dialect columns⟩],
        ⟨[], draft.calls⟩⟩) := by
  obtain ⟨⟨query, buffer, calls⟩, ran⟩ := inserts.generate_total draft
  obtain ⟨sentences, written, -, rfl, rfl⟩ := generate_sentences ran
  rw [ran]
  cases written with
  | select isSelect =>
      rw [inserts.command] at isSelect
      cases isSelect
  | count isCount =>
      rw [inserts.command] at isCount
      cases isCount
  | change changes =>
      dsimp only at changes
      rw [inserts.command] at changes
      cases changes with
      | @insert table calls found single _ chosen =>
          obtain ⟨tables, searched, -⟩ := single
          rw [inserts.filters] at searched
          cases searched
          have sameTable : [table] = [root] := tables.symm.trans inserts.tables
          cases sameTable
          have sameColumns : Except.ok found = Except.ok columns := chosen.symm.trans inserts.chosen
          cases sameColumns
          rw [List.map_singleton, Instance.insertion_statement]

end Generation

/-! ## Inserting records -/

namespace Query

variable {World Handle : Type} {dialect : Dialect} {connection : Connection World Handle}
  {schema : Schema} {query : Query} {filter : ColumnFilter}

/-- A query without stages, as it is rendered. -/
def bareState (query : Query) (command : Command) : QueryState where
  tables := [⟨query.root, (QueryState.ofCommand command).nextAlias, none⟩]
  command := command

theorem toState_bare (bare : query.stages = []) (command : Command) :
    query.toState command = .ok (query.bareState command) := by
  unfold toState
  rw [bare]
  rfl

/-- The columns that an insert writes. -/
def inserted (query : Query) (filter : ColumnFilter) : List Column :=
  query.root.columns.filter filter.chooses

/-- A query without stages, and lists that name only columns of its root and leave one. -/
structure Insertable (query : Query) (filter : ColumnFilter) : Prop where
  bare : query.stages = []
  known : ∀ reference ∈ filter.included ++ filter.excluded,
    ColumnFilter.knows query.root reference = true
  left : ∃ column ∈ query.root.columns, filter.chooses column = true

namespace Insertable

variable (insertable : query.Insertable filter)

include insertable

theorem chosen : filter.columns query.root = .ok (query.inserted filter) :=
  ColumnFilter.columns_of_known insertable.known

theorem inserts (values : Instance) :
    Generation.Inserts ((query.bareState .insert).setInstance values filter)
      ⟨query.root, (QueryState.ofCommand .insert).nextAlias, none⟩ (query.inserted filter) where
  command := rfl
  tables := rfl
  filters := rfl
  sorts := rfl
  chosen := insertable.chosen
  nonempty := by
    obtain ⟨column, member, chosen⟩ := insertable.left
    exact List.ne_nil_of_mem (List.mem_filter.mpr ⟨member, chosen⟩)

/-- The statement of one record alone. -/
theorem generate_alone (values : Instance) (before : Session World) :
    (Database.generate ⟨dialect.delegate, connection, schema⟩
        ((query.bareState .insert).setInstance values filter)).runOn before =
      (.ok (Generation.generated ((query.bareState .insert).setInstance values filter)
          [⟨insertionText dialect query.root.table (query.inserted filter),
            values.row dialect (query.inserted filter)⟩]), before) := by
  have ran : (Generation.generate dialect.delegate).runOn
      ⟨(query.bareState .insert).setInstance values filter,
        ⟨dialect.delegate.empty, before.calls⟩⟩ = _ :=
    (insertable.inserts values).generate_eq ⟨[], before.calls⟩
  rw [Database.runOn_generate]
  dsimp only
  rw [ran]
  rfl

/-- An insert is one run of the connection: the text is prepared once, and every record binds its
own row. -/
theorem insert_eq [connection.Finite] (first : Instance) (rest : List Instance)
    (before : Session World) :
    (query.insert ⟨dialect.delegate, connection, schema⟩ (first :: rest) filter).runOn before =
      (Session.onWorld (connection.withPrepared
        (insertionText dialect query.root.table (query.inserted filter)) fun handle =>
          (first :: rest).forM fun values => do
            connection.bind handle (values.row dialect (query.inserted filter)) 0
            connection.runToEnd handle)).runOn before := by
  have choosing : (Action.ofOutcome (filter.columns query.root)).runOn before =
      (.ok (query.inserted filter), before) := Prod.ext insertable.chosen rfl
  have building : (Action.ofOutcome (query.toState .insert)).runOn before =
      (.ok (query.bareState .insert), before) := Prod.ext (toState_bare insertable.bare _) rfl
  unfold insert
  dsimp only
  rw [Action.runOn_bind_of_ok choosing, Action.runOn_bind_of_ok building,
    Action.runOn_bind_of_ok (insertable.generate_alone first before)]
  change (Session.onWorld (connection.withPrepared _ fun handle => do
    insertOne connection handle (first.row dialect (query.inserted filter))
    rest.forM fun values => insertOne connection handle
      (rebind (first.row dialect (query.inserted filter)) (query.inserted filter) values))).runOn
        before = _
  simp only [rebind_row]
  rfl

end Insertable

/-- Records that are inserted with one prepared text, each with a row of its own, up to the first
error. The second list has those that were executed. -/
structure Stores (connection : Connection World Handle) (sql : String)
    (row : Instance → List Binding) (instances : List Instance) (before : Session World)
    (executed : List Instance) (outcome : Except Error Unit) (after : Session World) : Prop where
  performs : connection.Performs sql row instances before.world executed outcome after.world
  inOrder : executed <+: instances
  complete : outcome = .ok () ↔ executed = instances
  calls : after.calls = before.calls

theorem Insertable.stores [connection.Finite] (insertable : query.Insertable filter)
    {instances : List Instance} (nonempty : instances ≠ []) (before : Session World) :
    let run := (query.insert ⟨dialect.delegate, connection, schema⟩ instances filter).runOn before
    ∃ executed, Stores connection
      (insertionText dialect query.root.table (query.inserted filter))
      (Instance.row dialect (query.inserted filter)) instances before executed run.1 run.2 := by
  obtain ⟨first, rest, rfl⟩ := List.exists_cons_of_ne_nil nonempty
  dsimp only
  rw [insertable.insert_eq first rest before]
  obtain ⟨executed, performs⟩ := connection.withPrepared_performs before.world
  exact ⟨executed, performs, performs.taken_prefix, performs.ok_iff nonempty, rfl⟩

/-- An insert prepares one text and runs it with the row of each record in turn, up to the first
error. The rows are those of the records alone, and inserting the records one by one runs the same
rows in the same order. -/
theorem insert_rowwise (dialect : Dialect) (connection : Connection World Handle)
    (schema : Schema) (insertable : query.Insertable filter) :
    let database : Database (List Binding) World Handle := ⟨dialect.delegate, connection, schema⟩
    let columns := query.inserted filter
    let sql := insertionText dialect query.root.table columns
    let row : Instance → List Binding := Instance.row dialect columns
    filter.columns query.root = .ok columns ∧
    (∀ (values : Instance) (before : Session World), ∃ start state,
      query.toState .insert = .ok start ∧
      (database.generate (start.setInstance values filter)).runOn before = (.ok state, before) ∧
      state.statements = [⟨sql, row values⟩]) ∧
    (∀ values : Instance,
      (row values).map (·.placeholder) =
        (List.range' 1 columns.length).map dialect.placeholder ∧
      (row values).map (·.value) = columns.map fun column => values.valueOrNull column.name) ∧
    ∀ [connection.Finite] (instances : List Instance) (before : Session World), instances ≠ [] →
      let together := (query.insert database instances filter).runOn before
      let apart := (instances.forM fun values => query.insert database [values] filter).runOn before
      (∃ executed,
        Stores connection sql row instances before executed together.1 together.2) ∧
      ∃ executed,
        UntilError (fun values before outcome after => ∃ alone,
          Stores connection sql row [values] before alone outcome after)
          instances before executed apart.1 apart.2 ∧
        executed <+: instances ∧ (apart.1 = .ok () ↔ executed = instances) := by
  intro database columns sql row
  refine ⟨insertable.chosen, ?alone, ?rows, ?runs⟩
  case alone =>
    intro values before
    exact ⟨_, _, toState_bare insertable.bare .insert, insertable.generate_alone values before, rfl⟩
  case rows =>
    intro values
    exact ⟨values.row_placeholders dialect columns, values.row_values dialect columns⟩
  case runs =>
    intro finite instances before nonempty together apart
    have singly : ∃ executed, UntilError (fun values before outcome after => ∃ alone,
        Stores connection sql row [values] before alone outcome after)
        instances before executed apart.1 apart.2 :=
      UntilError.forM (fun values => insertable.stores (List.cons_ne_nil values []))
        instances before
    obtain ⟨executed, run⟩ := singly
    exact ⟨insertable.stores nonempty before, executed, run, run.taken_prefix, run.ok_iff⟩

theorem insert_rowwise_sample :
    let query : Query := { root := Sample.book }
    let filter : ColumnFilter := { excluded := [⟨Sample.book, "id"⟩] }
    let instances : List Instance :=
      [[("author_id", .bigInt 1), ("title", .text "Emma")], [("author_id", .bigInt 1)]]
    let database := Sample.library fun _ => .ok []
    let run := (query.insert database instances filter).runOn ⟨[], .zero⟩
    query.Insertable filter ∧
      Stores database.connection
        "INSERT INTO \"book\" (\"author_id\", \"title\") VALUES (?1, ?2)"
        (Instance.row .sqlite (query.inserted filter)) instances ⟨[], .zero⟩ instances
        run.1 run.2 := by
  intro query filter instances database run
  have insertable : query.Insertable filter :=
    { bare := rfl
      known := by decide
      left := ⟨⟨"title", .text, false, false⟩, by decide, by decide⟩ }
  obtain ⟨-, -, -, runs⟩ := insert_rowwise .sqlite database.connection database.schema insertable
  obtain ⟨⟨executed, stores⟩, -⟩ := runs instances ⟨[], .zero⟩ (List.cons_ne_nil _ _)
  have succeeded : run.1 = .ok () := by decide +kernel
  have all : executed = instances := stores.complete.mp succeeded
  have text : insertionText .sqlite query.root.table (query.inserted filter) =
      "INSERT INTO \"book\" (\"author_id\", \"title\") VALUES (?1, ?2)" := by decide
  rw [all, text] at stores
  exact ⟨insertable, stores⟩

end Query

end RecordMapper
