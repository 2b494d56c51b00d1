import RecordMapper.Proofs.Query.Attaching

set_option autoImplicit false

/-!
What the stages of a query leave in its state: filters and joins in the order of their stages, the
limit of the last one, and no statement. A pivot's table stands beside the joined one and is not
one of the joined tables.
-/

namespace RecordMapper

namespace Stage

def filter? : Stage → Option Expr
  | .filter condition => some condition
  | .join _ _ | .ordering _ _ | .limit _ => none

def join? : Stage → Option (RecordType × Join)
  | .join record clause => some (record, clause)
  | .filter _ | .ordering _ _ | .limit _ => none

def limit? : Stage → Option Limit
  | .limit bound => some bound
  | .filter _ | .join _ _ | .ordering _ _ => none

end Stage

namespace Query

def filters (query : Query) : List Expr :=
  query.stages.filterMap Stage.filter?

def joins (query : Query) : List (RecordType × Join) :=
  query.stages.filterMap Stage.join?

/-- A later limit takes the place of an earlier one. -/
def limit? (query : Query) : Option Limit :=
  (query.stages.filterMap Stage.limit?).getLast?

end Query

/-- A table that a join has brought in for a record type. -/
def Table.Joins (table : Table) (joined : RecordType × Join) : Prop :=
  table.record = joined.1 ∧ table.join = some joined.2

/-- A state that the stages of a query have led to. -/
structure QueryState.Holds (state : QueryState) (query : Query) (command : Command) : Prop where
  command : state.command = command
  root : state.root? = some ⟨query.root, "t0", none⟩
  distinct : state.IsDistinct
  filters : state.filters = query.filters
  joined : List.Forall₂ Table.Joins state.joinedTables query.joins
  limit : state.limit = query.limit?
  statements : state.statements = []

/-- What is rendered from such a state are all of its statements. -/
theorem QueryState.Holds.statements_generated {state : QueryState} {query : Query}
    {command : Command} (holds : state.Holds query command) (statements : List Statement) :
    (Generation.generated state statements).statements = statements :=
  congrArg (· ++ statements) holds.statements

namespace Query

variable {state next : QueryState} {query : Query} {command : Command}

theorem filters_add (query : Query) (stage : Stage) :
    (query.add stage).filters = query.filters ++ stage.filter?.toList := by
  simp only [filters, add, List.filterMap_append]
  cases stage <;> rfl

theorem joins_add (query : Query) (stage : Stage) :
    (query.add stage).joins = query.joins ++ stage.join?.toList := by
  simp only [joins, add, List.filterMap_append]
  cases stage <;> rfl

theorem limit?_add (query : Query) (stage : Stage) :
    (query.add stage).limit? = stage.limit?.or query.limit? := by
  unfold limit? add
  rw [List.filterMap_append]
  cases stage with
  | limit limit => exact List.getLast?_concat
  | filter | join | ordering => exact congrArg List.getLast? (List.append_nil _)

theorem joinedTables_append (state : QueryState) (added : List Table) :
    QueryState.joinedTables { state with tables := state.tables ++ added } =
      state.joinedTables ++ added.filter (·.join.isSome) :=
  List.filter_append state.tables added

theorem root?_append {root : Table} (first : state.root? = some root) (added : List Table) :
    QueryState.root? { state with tables := state.tables ++ added } = some root := by
  unfold QueryState.root? at first ⊢
  rw [List.head?_append, first]
  rfl

theorem holds_addJoin (holds : state.Holds query command) {record : RecordType} {join : Join}
    (added : addStage state (.join record join) = .ok next) :
    next.Holds (query.add (.join record join)) command := by
  obtain ⟨joined, joining, pivoting⟩ := bind_ok added
  have joinedDistinct := QueryState.addTable_distinct holds.distinct joining
  obtain ⟨-, rfl⟩ := QueryState.addTable_ok joining
  have newTable : Table.Joins ⟨record, state.nextAlias, some join⟩ (record, join) := ⟨rfl, rfl⟩
  have filters : state.filters = (query.add (.join record join)).filters := by
    rw [filters_add, holds.filters]
    exact (List.append_nil _).symm
  have limit : state.limit = (query.add (.join record join)).limit? := by
    rw [limit?_add, holds.limit]
    rfl
  cases through : join.pivot with
  | none =>
      simp only [through] at pivoting
      cases pivoting
      refine ⟨holds.command, root?_append holds.root _, joinedDistinct, filters, ?_, limit,
        holds.statements⟩
      rw [joinedTables_append, joins_add]
      exact List.rel_append holds.joined (.cons newTable .nil)
  | some pivot =>
      simp only [through] at pivoting
      have distinct := QueryState.addTable_distinct joinedDistinct pivoting
      obtain ⟨-, rfl⟩ := QueryState.addTable_ok pivoting
      refine ⟨holds.command, root?_append (root?_append holds.root _) _, distinct, filters, ?_,
        limit, holds.statements⟩
      rw [joinedTables_append, joinedTables_append, joins_add, List.append_assoc]
      exact List.rel_append holds.joined (.cons newTable .nil)

theorem holds_addStage (holds : state.Holds query command) {stage : Stage}
    (added : addStage state stage = .ok next) : next.Holds (query.add stage) command := by
  cases stage with
  | join record join => exact holds_addJoin holds added
  | filter condition =>
      cases added
      refine ⟨holds.command, holds.root, holds.distinct, ?_, ?_, ?_, holds.statements⟩
      · rw [filters_add, ← holds.filters]
        rfl
      · rw [joins_add]
        exact (List.append_nil query.joins).symm ▸ holds.joined
      · rw [limit?_add, ← holds.limit]
        rfl
  | ordering fields descending =>
      cases added
      refine ⟨holds.command, holds.root, holds.distinct, ?_, ?_, ?_, holds.statements⟩
      · rw [filters_add, ← holds.filters]
        exact (List.append_nil _).symm
      · rw [joins_add]
        exact (List.append_nil query.joins).symm ▸ holds.joined
      · rw [limit?_add, ← holds.limit]
        rfl
  | limit limit =>
      cases added
      refine ⟨holds.command, holds.root, holds.distinct, ?_, ?_, ?_, holds.statements⟩
      · rw [filters_add, ← holds.filters]
        exact (List.append_nil _).symm
      · rw [joins_add]
        exact (List.append_nil query.joins).symm ▸ holds.joined
      · rw [limit?_add]
        rfl

theorem holds_addStages {stages : List Stage} (holds : state.Holds query command)
    (added : stages.foldlM addStage state = .ok next) :
    next.Holds { query with stages := query.stages ++ stages } command := by
  induction stages generalizing state query with
  | nil =>
      cases added
      rw [List.append_nil]
      exact holds
  | cons stage stages ih =>
      rw [List.foldlM_cons] at added
      obtain ⟨middle, first, rest⟩ := bind_ok added
      have holdsAll := ih (holds_addStage holds first) rest
      unfold add at holdsAll
      rwa [List.append_assoc] at holdsAll

theorem toState_holds (built : query.toState command = .ok state) : state.Holds query command := by
  obtain ⟨start, rooted, rest⟩ := bind_ok built
  have empty : (QueryState.ofCommand command).IsDistinct := List.nodup_nil
  have distinct := QueryState.addTable_distinct empty rooted
  obtain ⟨-, rfl⟩ := QueryState.addTable_ok rooted
  have firstAlias : (QueryState.ofCommand command).nextAlias = "t0" := by
    change aliasAt 0 = "t0"
    decide
  rw [firstAlias] at distinct rest
  have started : QueryState.Holds
      { QueryState.ofCommand command with tables := [⟨query.root, "t0", none⟩] }
      ⟨query.root, []⟩ command :=
    ⟨rfl, rfl, distinct, rfl, .nil, rfl, rfl⟩
  exact holds_addStages started rest

/-! ## The same stages from a changed state -/

/-- A change to a state that neither sees its tables nor touches them. -/
def SparesTables (change : QueryState → QueryState) : Prop :=
  ∀ (state : QueryState) (tables : List Table),
    change { state with tables } = { change state with tables }

namespace SparesTables

variable {change : QueryState → QueryState}

theorem tables_eq (spares : SparesTables change) (state : QueryState) :
    (change state).tables = state.tables := by
  have rebuilt := congrArg QueryState.tables (spares state state.tables)
  exact rebuilt

theorem addTable (spares : SparesTables change) (state : QueryState) (record : RecordType)
    (join : Option Join) :
    (change state).addTable record join = (state.addTable record join).map change := by
  have sameTables := spares.tables_eq state
  have sameTable : (change state).table? record = state.table? record := by
    unfold QueryState.table? Scope.table? QueryState.scope
    rw [sameTables]
  have sameAlias : (change state).nextAlias = state.nextAlias := by
    unfold QueryState.nextAlias
    rw [sameTables]
  unfold QueryState.addTable
  rw [sameTable, sameAlias, sameTables]
  cases state.table? record with
  | some table => rfl
  | none => exact congrArg Except.ok (spares state _).symm

theorem addJoin (spares : SparesTables change) (state : QueryState) (record : RecordType)
    (join : Join) :
    addStage (change state) (.join record join) =
      (addStage state (.join record join)).map change := by
  dsimp only [addStage]
  rw [spares.addTable]
  cases state.addTable record (some join) with
  | error error => rfl
  | ok joined =>
      cases join.pivot with
      | none => rfl
      | some pivot => exact spares.addTable joined pivot.record none

end SparesTables

theorem addStages_map {change : QueryState → QueryState} {stages : List Stage}
    (each : ∀ stage ∈ stages, ∀ state,
      addStage (change state) stage = (addStage state stage).map change)
    (state : QueryState) :
    stages.foldlM addStage (change state) = (stages.foldlM addStage state).map change := by
  induction stages generalizing state with
  | nil => rfl
  | cons stage stages ih =>
      obtain ⟨first, rest⟩ := List.forall_mem_cons.mp each
      rw [List.foldlM_cons, List.foldlM_cons, first]
      cases addStage state stage with
      | error error => rfl
      | ok next => exact ih rest next

def recommand (command : Command) (state : QueryState) : QueryState :=
  { state with command }

theorem sparesTables_recommand (command : Command) : SparesTables (recommand command) :=
  fun _ _ => rfl

theorem addStage_recommand (command : Command) (stage : Stage) (state : QueryState) :
    addStage (recommand command state) stage =
      (addStage state stage).map (recommand command) := by
  cases stage with
  | filter | ordering | limit => rfl
  | join record join => exact (sparesTables_recommand command).addJoin state record join

/-- The command decides nothing about the tables and what else the stages leave. -/
theorem toState_recommand (query : Query) (first second : Command) :
    query.toState second = (query.toState first).map (recommand second) := by
  unfold toState
  have start : QueryState.ofCommand second = recommand second (QueryState.ofCommand first) := rfl
  rw [start, (sparesTables_recommand second).addTable]
  cases (QueryState.ofCommand first).addTable query.root none with
  | error error => rfl
  | ok rooted => exact addStages_map (fun stage _ => addStage_recommand second stage) rooted

end Query

end RecordMapper
