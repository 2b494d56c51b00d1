import RecordMapper.Proofs.Query.Failing
import RecordMapper.Proofs.Query.Inserting

set_option autoImplicit false

/-!
Which columns an update or an insert writes. The lists of a column filter choose columns of the
record type, in declaration order; a list that names anything else is refused. The chosen columns
are written in that order, each with the instance's first value of its name, and the condition of an
update counts its placeholders on from them.
-/

namespace RecordMapper

/-! ## Chosen columns -/

namespace ColumnFilter

variable {filter other : ColumnFilter} {record : RecordType}

/-- The reference is a column of the record type. -/
def Names (record : RecordType) (reference : FieldRef) : Prop :=
  reference.record = record ∧ ∃ column ∈ record.columns, column.name = reference.name

/-- The column is included, or none is, and it is not excluded. -/
def Chooses (filter : ColumnFilter) (record : RecordType) (column : Column) : Prop :=
  (filter.included = [] ∨ ⟨record, column.name⟩ ∈ filter.included) ∧
    ⟨record, column.name⟩ ∉ filter.excluded

/-- The lists of both have the same members, in any order and any number. -/
structure SameMembers (filter other : ColumnFilter) : Prop where
  included : ∀ reference, reference ∈ filter.included ↔ reference ∈ other.included
  excluded : ∀ reference, reference ∈ filter.excluded ↔ reference ∈ other.excluded

theorem knows_iff {reference : FieldRef} :
    knows record reference = true ↔ Names record reference := by
  simp [knows, Names]

theorem lists_iff {references : List FieldRef} {name : String}
    (known : ∀ reference ∈ references, Names record reference) :
    lists references name = true ↔ ⟨record, name⟩ ∈ references := by
  simp only [lists, List.any_eq_true, beq_iff_eq]
  constructor
  · intro listed
    obtain ⟨reference, member, same⟩ := listed
    obtain ⟨sameRecord, -⟩ := known reference member
    have written : reference = ⟨record, name⟩ := by rw [← sameRecord, ← same]
    exact written ▸ member
  · intro member
    exact ⟨_, member, rfl⟩

theorem columns_error {error : Error} (failed : filter.columns record = .error error) :
    ∃ reference ∈ filter.included ++ filter.excluded, ¬Names record reference ∧
      error = .generation (.unresolvedField record.table reference.name) := by
  unfold columns at failed
  split at failed
  · rename_i reference found
    cases failed
    have unknown := List.find?_some found
    rw [Bool.not_eq_true', Bool.eq_false_iff, ne_eq, knows_iff] at unknown
    exact ⟨reference, List.mem_of_find?_eq_some found, unknown, rfl⟩
  · cases failed

theorem columns_ok {columns : List Column} (succeeded : filter.columns record = .ok columns) :
    (∀ reference ∈ filter.included ++ filter.excluded, Names record reference) ∧
      columns = record.columns.filter filter.chooses := by
  unfold ColumnFilter.columns at succeeded
  split at succeeded
  · cases succeeded
  · rename_i none
    cases succeeded
    refine ⟨?_, rfl⟩
    intro reference member
    simpa [knows_iff] using List.find?_eq_none.mp none reference member

theorem columns_of_names
    (known : ∀ reference ∈ filter.included ++ filter.excluded, Names record reference) :
    filter.columns record = .ok (record.columns.filter filter.chooses) :=
  columns_of_known fun reference member => knows_iff.mpr (known reference member)

theorem chooses_iff
    (known : ∀ reference ∈ filter.included ++ filter.excluded, Names record reference)
    (column : Column) : filter.chooses column = true ↔ filter.Chooses record column := by
  obtain ⟨included, excluded⟩ := List.forall_mem_append.mp known
  rw [chooses, Bool.and_eq_true, Bool.or_eq_true, Bool.not_eq_true', Bool.eq_false_iff, ne_eq,
    lists_iff included, lists_iff excluded, List.isEmpty_iff]
  rfl

theorem SameMembers.chooses_iff (same : SameMembers filter other) (column : Column) :
    filter.Chooses record column ↔ other.Chooses record column := by
  have none : filter.included = [] ↔ other.included = [] := by
    simp only [List.eq_nil_iff_forall_not_mem, same.included]
  rw [Chooses, Chooses, none, same.included, same.excluded]

theorem SameMembers.names (same : SameMembers filter other) :
    (∀ reference ∈ filter.included ++ filter.excluded, Names record reference) ↔
      ∀ reference ∈ other.included ++ other.excluded, Names record reference := by
  simp only [List.mem_append, same.included, same.excluded]

theorem SameMembers.columns_ok (same : SameMembers filter other) {columns : List Column}
    (succeeded : filter.columns record = .ok columns) : other.columns record = .ok columns := by
  obtain ⟨known, rfl⟩ := ColumnFilter.columns_ok succeeded
  have otherKnown := same.names.mp known
  rw [columns_of_names otherKnown, Except.ok.injEq]
  apply List.filter_congr
  intro column _
  rw [Bool.eq_iff_iff, ColumnFilter.chooses_iff known, ColumnFilter.chooses_iff otherKnown,
    same.chooses_iff]

theorem SameMembers.symm (same : SameMembers filter other) : SameMembers other filter :=
  ⟨fun reference => (same.included reference).symm, fun reference => (same.excluded reference).symm⟩

/-- What the lists of a column filter choose of a record type. -/
structure Chosen (filter : ColumnFilter) (record : RecordType) : Prop where
  refused_iff : (∃ error, filter.columns record = .error error) ↔
    ∃ reference ∈ filter.included ++ filter.excluded, ¬Names record reference
  refused : ∀ error, filter.columns record = .error error →
    ∃ reference ∈ filter.included ++ filter.excluded, ¬Names record reference ∧
      error = .generation (.unresolvedField record.table reference.name)
  inOrder : ∀ columns, filter.columns record = .ok columns →
    columns.Sublist record.columns ∧ columns.Nodup ∧
      ∀ column, column ∈ columns ↔ column ∈ record.columns ∧ filter.Chooses record column
  unordered : ∀ other, SameMembers filter other → ∀ columns,
    filter.columns record = .ok columns ↔ other.columns record = .ok columns

theorem chosen_of_distinct (filter : ColumnFilter)
    (distinct : (record.columns.map (·.name)).Nodup) : filter.Chosen record where
  refused_iff := by
    constructor
    · intro failed
      obtain ⟨error, failed⟩ := failed
      obtain ⟨reference, member, unknown, -⟩ := columns_error failed
      exact ⟨reference, member, unknown⟩
    · intro unknown
      obtain ⟨reference, member, unknown⟩ := unknown
      cases chosen : filter.columns record with
      | error error => exact ⟨error, rfl⟩
      | ok columns => exact absurd ((columns_ok chosen).1 reference member) unknown
  refused := fun _ => columns_error
  inOrder := by
    intro columns chosen
    obtain ⟨known, rfl⟩ := columns_ok chosen
    refine ⟨List.filter_sublist, (List.Nodup.of_map _ distinct).filter _, ?_⟩
    intro column
    rw [List.mem_filter, chooses_iff known]
  unordered := by
    intro other same columns
    exact ⟨same.columns_ok, same.symm.columns_ok⟩

end ColumnFilter

/-! ## Values -/

namespace Instance

/-- What a column of the name is written with: the first value of the name, and NULL without one. -/
inductive Gives (values : Instance) (name : String) : Value → Prop where
  | first {front rest : Instance} {value : Value} :
      values = front ++ (name, value) :: rest → (∀ entry ∈ front, entry.1 ≠ name) →
      Gives values name value
  | missing : (∀ entry ∈ values, entry.1 ≠ name) → Gives values name .null

theorem gives_valueOrNull (values : Instance) (name : String) :
    values.Gives name (values.valueOrNull name) := by
  unfold valueOrNull value?
  cases found : values.find? (·.1 == name) with
  | none =>
      refine .missing ?_
      intro entry member
      simpa using List.find?_eq_none.mp found entry member
  | some entry =>
      obtain ⟨same, front, rest, written, before⟩ := List.find?_eq_some_iff_append.mp found
      obtain rfl : entry.1 = name := by simpa using same
      exact .first written fun other member => by simpa using before other member

theorem numbered_getElem? (bound index : Nat) (values : List Value) :
    (Sql.numbered bound values)[index]? =
      values[index]?.map fun value => ⟨bound + index + 1, value⟩ := by
  induction values generalizing bound index with
  | nil => rfl
  | cons value values ih =>
      cases index with
      | zero => rfl
      | succ index =>
          rw [Sql.numbered, List.getElem?_cons_succ, List.getElem?_cons_succ, ih,
            show bound + 1 + index + 1 = bound + (index + 1) + 1 by omega]

/-- Bindings for columns: each placeholder, counted from one, with what its column is given. -/
structure Assigns (values : Instance) (dialect : Dialect) (columns : List Column)
    (bindings : List Binding) : Prop where
  length : bindings.length = columns.length
  each : ∀ (index : Nat) (column : Column), columns[index]? = some column →
    ∃ value, bindings[index]? = some ⟨dialect.placeholder (index + 1), value⟩ ∧
      values.Gives column.name value

theorem assigns_row (values : Instance) (dialect : Dialect) (columns : List Column) :
    values.Assigns dialect columns (values.row dialect columns) where
  length := by simp [row, Sql.bindings]
  each := by
    intro index column found
    refine ⟨values.valueOrNull column.name, ?_, values.gives_valueOrNull column.name⟩
    simp [row, Sql.bindings, numbered_getElem?, found, Sql.Parameter.binding]

end Instance

/-! ## Writes -/

/-- The commands that write columns of an instance. -/
inductive Write where
  | update
  | insert
deriving DecidableEq, Repr

namespace Write

def command : Write → Command
  | .update => .update
  | .insert => .insert

/-- How a write without columns is refused. -/
def refusal : Write → GenerationError
  | .update => .nothingToUpdate
  | .insert => .nothingToInsert

theorem refusal_kind (write : Write) : write.refusal.kind = .invalidStage := by
  cases write <;> rfl

def updateText (dialect : Dialect) (table : String) (columns : List Column) : String :=
  "UPDATE " ++ dialect.quoteIdentifier table ++ " SET "
    ++ String.intercalate ", "
      (List.zipWith (fun column index =>
        dialect.quoteIdentifier column.name ++ "=" ++ dialect.placeholder index)
        columns (List.range' 1 columns.length))

/-- The text of a write up to its condition. -/
def text (dialect : Dialect) (table : String) (columns : List Column) : Write → String
  | .update => updateText dialect table columns
  | .insert => insertionText dialect table columns

def statement {Buffer : Type} : Write → Delegate Buffer → QueryState → Rendering Buffer String
  | .update => Generation.updateStatement
  | .insert => Generation.insertStatement

/-- A state for the write: one table, no filter for an insert, and for an update filters that name
no other table, as far as the search before the statement finds out. -/
structure Applies (write : Write) (state : QueryState) (root : Table) (calls searched : Calls) :
    Prop where
  command : state.command = write.command
  single : state.Single root calls searched
  unfiltered : write = .insert → state.filters = []

end Write

namespace Generation

variable {dialect : Dialect} {state : QueryState} {root : Table} {columns : List Column}

theorem checkRootOnly_searched {Buffer : Type} {root : RecordType} {filters : List Expr}
    {found : List (List RecordType)} {calls searched : Calls}
    (search : (filters.mapM Expr.referencedTypes).run calls = (found, searched))
    (only : ∀ records ∈ found, ∀ record ∈ records, record = root) (buffer : Buffer) :
    (checkRootOnly root filters).runOn ⟨buffer, calls⟩ = (.ok (), ⟨buffer, searched⟩) := by
  induction filters generalizing found calls with
  | nil =>
      cases search
      rfl
  | cons filter filters ih =>
      rcases looked : filter.referencedTypes.run calls with ⟨records, middle⟩
      rcases others : (filters.mapM Expr.referencedTypes).run middle with ⟨rest, last⟩
      rw [List.mapM_cons, StateT.run_bind, looked] at search
      change StateT.run (filters.mapM Expr.referencedTypes >>= _) middle = _ at search
      rw [StateT.run_bind, others] at search
      cases search
      obtain ⟨inFirst, inRest⟩ := List.forall_mem_cons.mp only
      have counted : (Rendering.counting filter.referencedTypes).runOn
          (⟨buffer, calls⟩ : Draft Buffer) = (.ok records, ⟨buffer, middle⟩) := by
        change (Except.ok (filter.referencedTypes.run calls).1,
          (⟨buffer, (filter.referencedTypes.run calls).2⟩ : Draft Buffer)) = _
        rw [looked]
      have none : records.find? (· != root) = none := by
        rw [List.find?_eq_none]
        intro record member
        simp [inFirst record member]
      unfold checkRootOnly
      rw [Action.runOn_bind_of_ok counted, none]
      exact ih others inRest

theorem singleTable_searched {Buffer : Type} (command : String) {calls searched : Calls}
    (single : state.Single root calls searched) (buffer : Buffer) :
    (singleTable command state).runOn ⟨buffer, calls⟩ =
      (.ok root.record, ⟨buffer, searched⟩) := by
  obtain ⟨tables, search, only⟩ := single
  have found : (Action.ofOutcome (rootTable state)).runOn (⟨buffer, calls⟩ : Draft Buffer) =
      (.ok root, ⟨buffer, calls⟩) := by
    unfold rootTable QueryState.root?
    rw [tables]
    rfl
  unfold singleTable
  rw [Action.runOn_bind_of_ok found, tables, if_neg (by simp),
    Action.runOn_bind_of_ok (checkRootOnly_searched search only buffer)]
  rfl

/-- Columns written one after another: the results are images of the assignments, and the values
are bound in their order. -/
theorem assign_run {Result : Type} (dialect : Dialect) (values : Instance)
    (step : Column → Rendering (List Binding) Result) (image : Sql.Assignment → Result)
    (each : ∀ column draft, (step column).runOn draft =
      (.ok (image ⟨column.name, ⟨draft.buffer.length + 1, values.valueOrNull column.name⟩⟩),
        ⟨draft.buffer ++ [⟨dialect.placeholder (draft.buffer.length + 1),
          values.valueOrNull column.name⟩], draft.calls⟩))
    (columns : List Column) (draft : Draft (List Binding)) :
    Action.runOn (columns.mapM step) draft =
      (.ok ((values.assignments draft.buffer.length columns).map image),
        ⟨draft.buffer ++ Sql.bindings dialect
          ((values.assignments draft.buffer.length columns).map (·.parameter)), draft.calls⟩) := by
  induction columns generalizing draft with
  | nil =>
      rw [List.mapM_nil]
      simp only [Instance.assignments, List.map_nil, Sql.bindings_nil, List.append_nil]
      rfl
  | cons column columns ih =>
      rw [List.mapM_cons, Action.runOn_bind_of_ok (each column draft),
        Action.runOn_bind_of_ok (ih _)]
      simp only [Instance.assignments, List.map_cons, List.length_append, List.length_singleton,
        List.append_assoc]
      rfl

theorem whereClause_unfiltered {Buffer : Type} {delegate : Delegate Buffer}
    (unfiltered : state.filters = []) (draft : Draft Buffer) :
    (whereClause delegate state).runOn draft = (.ok "", draft) := by
  unfold whereClause
  rw [unfiltered]
  rfl

theorem assignments_bindings (dialect : Dialect) (values : Instance) (columns : List Column) :
    [] ++ Sql.bindings dialect ((values.assignments 0 columns).map (·.parameter)) =
      values.row dialect columns := by
  rw [List.nil_append, Instance.assignments_parameters, Instance.row]

theorem updateText_eq (dialect : Dialect) (table : String) (values : Instance)
    (columns : List Column) :
    Sql.setText dialect table (values.assignments 0 columns) =
      Write.updateText dialect table columns := by
  have texts (bound : Nat) : (values.assignments bound columns).map (·.text dialect) =
      List.zipWith (fun column index =>
        dialect.quoteIdentifier column.name ++ "=" ++ dialect.placeholder index)
        columns (List.range' (bound + 1) columns.length) := by
    induction columns generalizing bound with
    | nil => rfl
    | cons column columns ih =>
        rw [Instance.assignments, List.map_cons, ih, List.length_cons, List.range'_succ,
          List.zipWith_cons_cons]
        rfl
  rw [Sql.setText_eq, texts]
  rfl

end Generation

namespace Write

variable {dialect : Dialect} {state : QueryState} {root : Table} {calls searched : Calls}

open Generation

/-- The rendering of a write after the search: the columns are chosen and bound, and then the
condition is rendered. -/
def rendered (write : Write) (dialect : Dialect) (state : QueryState) (record : RecordType)
    (searched : Calls) : Except Error String × Draft (List Binding) :=
  match state.columnFilter.columns record with
  | .error error => (.error error, ⟨[], searched⟩)
  | .ok [] => (.error (.generation write.refusal), ⟨[], searched⟩)
  | .ok columns =>
      match (whereClause dialect.delegate state).runOn
          ⟨state.values.row dialect columns, searched⟩ with
      | (.error error, after) => (.error error, after)
      | (.ok condition, after) =>
          (.ok (write.text dialect record.table columns ++ condition), after)

theorem update_run (single : state.Single root calls searched) :
    (updateStatement dialect.delegate state).runOn ⟨[], calls⟩ =
      Write.update.rendered dialect state root.record searched := by
  unfold updateStatement rendered
  rw [Action.runOn_bind_of_ok (singleTable_searched "update" single [])]
  rcases state.columnFilter.columns root.record with error | _ | ⟨first, rest⟩
  · rfl
  · rfl
  · have assigned := assign_run dialect state.values
      (assignment dialect.delegate state.values) (Sql.Assignment.text dialect) (fun _ _ => rfl)
      (first :: rest) ⟨[], searched⟩
    have chosen : (Action.ofOutcome (.ok (first :: rest))).runOn
        (⟨[], searched⟩ : Draft (List Binding)) = (.ok (first :: rest), ⟨[], searched⟩) := rfl
    rw [List.length_nil, assignments_bindings] at assigned
    rw [Action.runOn_bind_of_ok chosen, if_neg (by simp), Action.runOn_bind_of_ok assigned]
    have named : (Rendering.quote dialect.delegate root.record.table).runOn
        (⟨state.values.row dialect (first :: rest), searched⟩ : Draft (List Binding)) =
          (.ok (dialect.quoteIdentifier root.record.table), _) := rfl
    rw [Action.runOn_bind_of_ok named, Action.runOn_bind]
    dsimp only
    rw [Write.text, ← updateText_eq dialect root.record.table state.values, Sql.setText_eq]
    rcases (whereClause dialect.delegate state).runOn
      ⟨state.values.row dialect (first :: rest), searched⟩ with ⟨error | condition, after⟩
    · rfl
    · rfl

theorem insert_run (single : state.Single root calls searched) (unfiltered : state.filters = []) :
    (insertStatement dialect.delegate state).runOn ⟨[], calls⟩ =
      Write.insert.rendered dialect state root.record searched := by
  unfold insertStatement rendered
  rw [Action.runOn_bind_of_ok (singleTable_searched "insert" single []), unfiltered,
    if_neg (by simp)]
  rcases state.columnFilter.columns root.record with error | _ | ⟨first, rest⟩
  · rfl
  · rfl
  · have inserted := assign_run dialect state.values (insertion dialect.delegate state.values)
      (fun assignment => (dialect.quoteIdentifier assignment.column,
        dialect.placeholder assignment.parameter.index))
      (fun _ _ => rfl) (first :: rest) ⟨[], searched⟩
    have chosen : (Action.ofOutcome (.ok (first :: rest))).runOn
        (⟨[], searched⟩ : Draft (List Binding)) = (.ok (first :: rest), ⟨[], searched⟩) := rfl
    rw [List.length_nil, assignments_bindings] at inserted
    rw [Action.runOn_bind_of_ok chosen, if_neg (by simp), Action.runOn_bind_of_ok inserted]
    have text : insertionText dialect root.record.table (first :: rest) =
        Sql.insertText dialect root.record.table (state.values.assignments 0 (first :: rest)) :=
      (congrArg Statement.sql
        (Instance.insertion_statement dialect root.record.table state.values (first :: rest))).symm
    dsimp only
    rw [whereClause_unfiltered unfiltered]
    dsimp only
    rw [Write.text, text, Sql.insertText_eq, String.append_empty]
    simp only [List.map_map, Function.comp_def]
    rfl

theorem statement_run {write : Write} (applies : write.Applies state root calls searched) :
    (write.statement dialect.delegate state).runOn ⟨[], calls⟩ =
      write.rendered dialect state root.record searched := by
  cases write with
  | update => exact update_run applies.single
  | insert => exact insert_run applies.single (applies.unfiltered rfl)

/-- A write renders one statement, and then no ordering may be left. -/
theorem generate_run (dialect : Dialect) {write : Write}
    (command : state.command = write.command) (tables : state.tables ≠ [])
    (draft : Draft (List Binding)) :
    (generate dialect.delegate).runOn ⟨state, draft⟩ =
      match (write.statement dialect.delegate state).runOn ⟨[], draft.calls⟩ with
      | (.error error, after) => (.error error, ⟨state, after⟩)
      | (.ok sql, after) =>
          if state.sorts = [] then
            (.ok (), ⟨generated state [⟨sql, after.buffer⟩], ⟨[], after.calls⟩⟩)
          else
            (.error (.generation .orderingsNotConsumed),
              ⟨state.pushStatement ⟨sql, after.buffer⟩, ⟨[], after.calls⟩⟩) := by
  have commanded : generateCommand dialect.delegate state.command =
      generateOne dialect.delegate write.statement := by
    rw [command]
    cases write <;> rfl
  have set : ¬state.command = .unset := by
    rw [command]
    cases write <;> simp [Write.command]
  have queried : Generating.query.runOn (⟨state, ⟨[], draft.calls⟩⟩ : Workspace (List Binding)) =
      (.ok state, ⟨state, ⟨[], draft.calls⟩⟩) := rfl
  rw [generate_eq, if_neg set, if_neg (by simpa using tables)]
  change (generateEmptied dialect.delegate).runOn ⟨state, ⟨[], draft.calls⟩⟩ = _
  unfold generateEmptied
  rw [Action.runOn_bind_of_ok queried, commanded]
  unfold generateOne
  rw [Action.runOn_bind, Action.runOn_bind, runOn_render]
  dsimp only
  rcases (write.statement dialect.delegate state).runOn ⟨[], draft.calls⟩ with ⟨error | sql, after⟩
  · rfl
  · dsimp only
    rw [emission_eq]
    dsimp only
    have closing (query : QueryState) (draft : Draft (List Binding)) :
        Generating.query.runOn (⟨query, draft⟩ : Workspace (List Binding)) =
          (.ok query, ⟨query, draft⟩) := rfl
    rw [Action.runOn_bind_of_ok (closing _ _)]
    by_cases unsorted : state.sorts = []
    · rw [if_pos unsorted, if_neg (by simp [QueryState.pushStatement, unsorted])]
      have same : state = { state with sorts := [] } := by rw [← unsorted]
      rw [same]
      rfl
    · rw [if_neg unsorted, if_pos (by simp [QueryState.pushStatement, unsorted])]
      rfl

/-- A write is generated only for a state that it applies to, and only without orderings. -/
theorem applies_of_generate {write : Write} {draft : Draft (List Binding)}
    {after : Workspace (List Binding)} (command : state.command = write.command)
    (succeeded : (generate dialect.delegate).runOn ⟨state, draft⟩ = (.ok (), after)) :
    ∃ root searched, write.Applies state root draft.calls searched ∧ state.sorts = [] := by
  obtain ⟨query, buffer, calls⟩ := after
  obtain ⟨sentences, written, -⟩ := generate_sentences succeeded
  obtain ⟨statements, -, -, used, -, -⟩ := generate_ok succeeded
  have unselected : state.command ≠ .select ∧ state.command ≠ .count := by
    rw [command]
    cases write <;> simp [Write.command]
  have unsorted : state.sorts = [] := by
    cases used with
    | selected selects => exact absurd selects (not_or.mpr unselected)
    | absent _ _ sorts => exact sorts
  cases written with
  | select isSelect => exact absurd isSelect unselected.1
  | count isCount => exact absurd isCount unselected.2
  | change changes =>
      dsimp only at changes
      cases write with
      | update =>
          rw [command] at changes
          cases changes with
          | update single => exact ⟨_, _, ⟨command, single, nofun⟩, unsorted⟩
      | insert =>
          rw [command] at changes
          cases changes with
          | insert single unfiltered =>
              exact ⟨_, _, ⟨command, single, fun _ => unfiltered⟩, unsorted⟩

/-- A condition binds its values after those that are bound already, and counts on from them. -/
structure Continues (dialect : Dialect) (bound : List Binding) (condition : String)
    (others : List Binding) : Prop where
  numbered : others.map (·.placeholder) =
    (List.range' (bound.length + 1) others.length).map dialect.placeholder
  placeholders : Sql.placeholders dialect (Sql.tokens dialect condition) =
    others.map (·.placeholder)

theorem whereClause_continues {condition : String} {draft after : Draft (List Binding)}
    (succeeded : (whereClause dialect.delegate state).runOn draft = (.ok condition, after)) :
    ∃ others, after.buffer = draft.buffer ++ others ∧
      Continues dialect draft.buffer condition others := by
  obtain ⟨phrases, writes, rfl, bound⟩ := whereClause_ok succeeded
  have indices : (Sql.conditionParameters phrases).map (·.index) =
      List.range' (draft.buffer.length + 1) (Sql.conditionParameters phrases).length := by
    rw [writes.binds.parameters, Sql.numbered_indices, Sql.numbered_length]
    rfl
  refine ⟨_, bound, ?_, ?_⟩
  · rw [bindings_placeholders, Sql.bindings, List.length_map, ← indices, List.map_map]
    rfl
  · rw [(Sql.follows_condition dialect phrases).spells.tokens_eq, Sql.placeholders_condition,
      bindings_placeholders]

/-- What a generation makes of a write that applies to a state. -/
structure Generates (write : Write) (dialect : Dialect) (state : QueryState) (root : Table)
    (draft : Draft (List Binding)) (searched : Calls) : Prop where
  refused : ∀ error, state.columnFilter.columns root.record = .error error →
    ((generate dialect.delegate).runOn ⟨state, draft⟩).1 = .error error
  empty : state.columnFilter.columns root.record = .ok [] →
    ((generate dialect.delegate).runOn ⟨state, draft⟩).1 = .error (.generation write.refusal)
  written : ∀ columns, state.columnFilter.columns root.record = .ok columns → columns ≠ [] →
    ∃ assigned, state.values.Assigns dialect columns assigned ∧
      (∀ error after,
        (whereClause dialect.delegate state).runOn ⟨assigned, searched⟩ = (.error error, after) →
        ((generate dialect.delegate).runOn ⟨state, draft⟩).1 = .error error) ∧
      ∀ condition after,
        (whereClause dialect.delegate state).runOn ⟨assigned, searched⟩ = (.ok condition, after) →
        state.sorts = [] →
        ∃ others, Continues dialect assigned condition others ∧
          (write = .insert → condition = "" ∧ others = []) ∧
          (generate dialect.delegate).runOn ⟨state, draft⟩ =
            (.ok (), ⟨generated state
              [⟨write.text dialect root.record.table columns ++ condition, assigned ++ others⟩],
              ⟨[], after.calls⟩⟩)

theorem Applies.generates {write : Write} {draft : Draft (List Binding)}
    (applies : write.Applies state root draft.calls searched) :
    write.Generates dialect state root draft searched := by
  have tables : state.tables ≠ [] := by simp [applies.single.tables_eq]
  have ran := generate_run dialect applies.command tables draft
  rw [statement_run applies, rendered] at ran
  constructor
  · intro error chosen
    rw [ran, chosen]
  · intro chosen
    rw [ran, chosen]
  · intro columns chosen nonempty
    obtain ⟨first, rest, rfl⟩ := List.exists_cons_of_ne_nil nonempty
    rw [chosen] at ran
    dsimp only at ran
    refine ⟨_, state.values.assigns_row dialect (first :: rest), ?_, ?_⟩
    · intro error after failed
      rw [ran, failed]
    · intro condition after succeeded unsorted
      obtain ⟨others, bound, continues⟩ := whereClause_continues succeeded
      rw [succeeded] at ran
      dsimp only at ran bound
      refine ⟨others, continues, ?_, ?_⟩
      · intro inserts
        rw [whereClause_unfiltered (applies.unfiltered inserts)] at succeeded
        obtain ⟨sameText, sameDraft⟩ := Prod.mk.inj succeeded
        rw [← sameDraft] at bound
        exact ⟨(Except.ok.inj sameText).symm, by simpa using bound.symm⟩
      · rw [ran, if_pos unsorted, bound]

/-- Writes set exactly the chosen columns. The lists of the filter are refused when they name what
is no column of the record type, and else choose its columns in declaration order, whatever the
order and the repetitions in them. Only a state that the write applies to is generated; there the
chosen columns are written in that order, each with the instance's first value of its name or NULL,
and the condition of an update counts on from them. Without a column the write is refused. -/
theorem generate_chosen (write : Write) (dialect : Dialect) (state : QueryState) (root : Table)
    (distinct : (root.record.columns.map (·.name)).Nodup) :
    state.columnFilter.Chosen root.record ∧ write.refusal.kind = .invalidStage ∧
    (∀ draft after, state.command = write.command →
      (generate dialect.delegate).runOn ⟨state, draft⟩ = (.ok (), after) →
      ∃ table searched, write.Applies state table draft.calls searched ∧ state.sorts = []) ∧
    ∀ draft searched, write.Applies state root draft.calls searched →
      write.Generates dialect state root draft searched := by
  refine ⟨ColumnFilter.chosen_of_distinct _ distinct, write.refusal_kind, ?_, ?_⟩
  · intro draft after command succeeded
    exact applies_of_generate command succeeded
  · intro draft searched applies
    exact applies.generates

theorem generate_chosen_retitled :
    (Sample.book.columns.map (·.name)).Nodup ∧
    ∃ columns, Sample.retitled.columnFilter.columns Sample.book = .ok columns ∧
      (∀ column, column ∈ columns ↔
        column ∈ Sample.book.columns ∧ Sample.retitled.columnFilter.Chooses Sample.book column) ∧
      ∃ assigned others after,
        Sample.retitled.values.Assigns .sqlite columns assigned ∧
        others.map (·.placeholder) = (List.range' 3 others.length).map Dialect.sqlite.placeholder ∧
        (generate Dialect.sqlite.delegate).runOn ⟨Sample.retitled, ⟨[], .zero⟩⟩ =
          (.ok (), ⟨generated Sample.retitled
            [⟨"UPDATE \"book\" SET \"author_id\"=?1, \"title\"=?2" ++
                " WHERE \"title\" <> ?3 AND \"author_id\" IS NULL", assigned ++ others⟩],
            after⟩) := by
  have distinct : (Sample.book.columns.map (·.name)).Nodup := by decide
  have applies : Write.update.Applies Sample.retitled ⟨Sample.book, "t0", none⟩ .zero .zero :=
    { command := rfl
      single := .searched rfl rfl (by decide)
      unfiltered := nofun }
  obtain ⟨chosen, -, -, generates⟩ :=
    generate_chosen .update .sqlite Sample.retitled ⟨Sample.book, "t0", none⟩ distinct
  have columns : Sample.retitled.columnFilter.columns Sample.book =
      .ok [⟨"author_id", .int64, false, false⟩, ⟨"title", .text, false, false⟩] := by decide
  obtain ⟨-, -, members⟩ := chosen.inOrder _ columns
  obtain ⟨assigned, assigns, -, succeeds⟩ :=
    (generates ⟨[], .zero⟩ .zero applies).written _ columns (by decide)
  obtain ⟨author, title, rfl⟩ := List.length_eq_two.mp assigns.length
  obtain ⟨spelled, written, condition⟩ : ∃ spelled,
      spelled = " WHERE \"title\" <> ?3 AND \"author_id\" IS NULL" ∧
      (whereClause Dialect.sqlite.delegate Sample.retitled).runOn ⟨[author, title], .zero⟩ =
        (.ok spelled,
          ⟨[author, title, ⟨Dialect.sqlite.placeholder 3, .text "Emma"⟩], .zero⟩) := by
    refine ⟨" WHERE " ++ (Dialect.sqlite.quoteIdentifier "title" ++ " " ++ "<>" ++ " "
      ++ Dialect.sqlite.placeholder 3 ++ " " ++ "AND" ++ " "
      ++ (Dialect.sqlite.quoteIdentifier "author_id" ++ " " ++ "IS NULL")), ?_, rfl⟩
    decide
  obtain ⟨others, continues, -, ran⟩ := succeeds _ _ condition rfl
  have assignments : Write.update.text .sqlite "book"
      [⟨"author_id", .int64, false, false⟩, ⟨"title", .text, false, false⟩] =
        "UPDATE \"book\" SET \"author_id\"=?1, \"title\"=?2" := by decide
  change _ = (_, (⟨generated _ [⟨Write.update.text .sqlite "book" _ ++ spelled, _⟩], _⟩ :
    Workspace (List Binding))) at ran
  rw [assignments, written] at ran
  exact ⟨distinct, _, columns, members, _, others, _, assigns, continues.numbered, ran⟩

end Write

end RecordMapper
