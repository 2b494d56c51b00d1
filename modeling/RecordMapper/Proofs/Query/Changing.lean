import RecordMapper.Proofs.Query.Selecting

set_option autoImplicit false

/-!
How updates, deletes and inserts are written. They have one table and name its columns without a
qualifier.
-/

namespace RecordMapper

/-- A state with one table whose filters name no other. The filters are searched before the
statement is rendered. -/
inductive QueryState.Single (state : QueryState) (root : Table) (calls after : Calls) : Prop where
  | searched {found : List (List RecordType)} :
      state.tables = [root] →
      (state.filters.mapM Expr.referencedTypes).run calls = (found, after) →
      (∀ records ∈ found, ∀ record ∈ records, record = root.record) →
      Single state root calls after

theorem QueryState.Single.tables_eq {state : QueryState} {root : Table} {calls after : Calls}
    (single : state.Single root calls after) : state.tables = [root] := by
  obtain ⟨tables, -, -⟩ := single
  exact tables

/-- Columns set to an instance's values, numbered from the first free number. -/
def Instance.assignments (values : Instance) : Nat → List Column → List Sql.Assignment
  | _, [] => []
  | bound, column :: columns =>
      ⟨column.name, ⟨bound + 1, values.valueOrNull column.name⟩⟩ ::
        values.assignments (bound + 1) columns

inductive QueryState.Changes (state : QueryState) (before : Progress) :
    Command → Sql.Sentence → Progress → Prop where
  | update {root : Table} {calls : Calls} {columns : List Column} {conditions : List Sql.Phrase}
      {after : Progress} :
      state.Single root before.calls calls →
      state.columnFilter.columns root.record = .ok columns →
      state.scope.WritesAll state.filters ⟨calls, before.bound + columns.length⟩ conditions after →
      Changes state before .update
        (.update root.record.table (state.values.assignments before.bound columns) conditions) after
  | delete {root : Table} {calls : Calls} {conditions : List Sql.Phrase} {after : Progress} :
      state.Single root before.calls calls →
      state.scope.WritesAll state.filters ⟨calls, before.bound⟩ conditions after →
      Changes state before .delete (.delete root.record.table conditions) after
  | insert {root : Table} {calls : Calls} {columns : List Column} :
      state.Single root before.calls calls → state.filters = [] →
      state.columnFilter.columns root.record = .ok columns →
      Changes state before .insert
        (.insert root.record.table (state.values.assignments before.bound columns))
        ⟨calls, before.bound + columns.length⟩

namespace Generation

variable {dialect : Dialect} {state : QueryState} {text : String}
  {draft after : Draft (List Binding)}

theorem checkRootOnly_ok {root : RecordType} {filters : List Expr}
    (succeeded : Action.runOn (checkRootOnly root filters) draft = (.ok (), after)) :
    after.buffer = draft.buffer ∧ ∃ found,
      (filters.mapM Expr.referencedTypes).run draft.calls = (found, after.calls) ∧
      ∀ records ∈ found, ∀ record ∈ records, record = root := by
  induction filters generalizing draft with
  | nil =>
      obtain ⟨rfl, -⟩ := Action.pure_ok succeeded
      exact ⟨rfl, [], rfl, by simp⟩
  | cons filter rest ih =>
      unfold checkRootOnly at succeeded
      obtain ⟨referenced, middle, counted, checking⟩ := Action.bind_ok succeeded
      obtain ⟨found, sameBuffer⟩ := Rendering.counting_ok counted
      split at checking
      · exact (Action.throw_ok checking).elim
      · rename_i onlyRoot
        obtain ⟨restBuffer, others, othersFound, othersRoot⟩ := ih checking
        refine ⟨restBuffer.trans sameBuffer, referenced :: others, ?_, ?_⟩
        · rw [List.mapM_cons, StateT.run_bind, found]
          change StateT.run (rest.mapM Expr.referencedTypes >>= _) _ = _
          rw [StateT.run_bind, othersFound]
          rfl
        · exact List.forall_mem_cons.mpr ⟨by simpa using onlyRoot, othersRoot⟩

theorem singleTable_ok {command : String} {record : RecordType}
    (succeeded : (singleTable command state).runOn draft = (.ok record, after)) :
    ∃ root, record = root.record ∧ state.Single root draft.calls after.calls ∧
      after.buffer = draft.buffer := by
  unfold singleTable at succeeded
  obtain ⟨root, _, looked, checking⟩ := Action.bind_ok succeeded
  obtain ⟨rfl, found⟩ := Action.ofOutcome_ok looked
  have first := rootTable_ok found
  split at checking
  · exact (Action.throw_ok checking).elim
  · rename_i single
    obtain ⟨_, _, checked, finished⟩ := Action.bind_ok checking
    obtain ⟨sameBuffer, others, searched, onlyRoot⟩ := checkRootOnly_ok checked
    obtain ⟨rfl, rfl⟩ := Action.pure_ok finished
    have tables : state.tables = [root] := by
      cases written : state.tables with
      | nil => simp [QueryState.root?, written] at first
      | cons table rest =>
          have none : rest = [] := by simpa [written] using single
          simpa [QueryState.root?, written, none] using first
    exact ⟨root, rfl, .searched tables searched onlyRoot, sameBuffer⟩

theorem assign_ok {Result : Type} {step : Column → Rendering (List Binding) Result}
    {values : Instance} {columns : List Column} {results : List Result}
    (image : Sql.Assignment → Result)
    (each : ∀ column before result after, (step column).runOn before = (.ok result, after) →
      result = image
        ⟨column.name, ⟨before.buffer.length + 1, values.valueOrNull column.name⟩⟩ ∧
      after = ⟨before.buffer ++ [⟨dialect.placeholder (before.buffer.length + 1),
        values.valueOrNull column.name⟩], before.calls⟩)
    (succeeded : Action.runOn (columns.mapM step) draft = (.ok results, after)) :
    after.calls = draft.calls ∧
      results = (values.assignments draft.buffer.length columns).map image ∧
      after.buffer = draft.buffer ++ Sql.bindings dialect
        ((values.assignments draft.buffer.length columns).map (·.parameter)) := by
  have threaded := Action.mapM_ok succeeded
  clear succeeded
  induction threaded with
  | nil => simp [Instance.assignments]
  | @cons column columns result results before middle after taken _ ih =>
      obtain ⟨rfl, rfl⟩ := each column before result middle taken
      obtain ⟨sameCalls, rfl, bound⟩ := ih
      refine ⟨sameCalls, ?_, ?_⟩
      · simp [Instance.assignments]
      · simp [Instance.assignments, bound, Sql.bindings, Sql.Parameter.binding]

theorem assignments_length (values : Instance) (bound : Nat) (columns : List Column) :
    (values.assignments bound columns).length = columns.length := by
  induction columns generalizing bound with
  | nil => rfl
  | cons column columns ih => simp [Instance.assignments, ih]

theorem assignment_ok {values : Instance} {column : Column}
    (succeeded :
      (assignment dialect.delegate values column).runOn draft = (.ok text, after)) :
    text = Sql.Assignment.text dialect
        ⟨column.name, ⟨draft.buffer.length + 1, values.valueOrNull column.name⟩⟩ ∧
      after = ⟨draft.buffer ++ [⟨dialect.placeholder (draft.buffer.length + 1),
        values.valueOrNull column.name⟩], draft.calls⟩ := by
  unfold assignment at succeeded
  obtain ⟨_, _, named, binding⟩ := Action.bind_ok succeeded
  obtain ⟨rfl, rfl⟩ := Rendering.quote_ok named
  obtain ⟨_, _, bound, finished⟩ := Action.bind_ok binding
  obtain ⟨rfl, rfl⟩ := Rendering.bind_ok bound
  obtain ⟨rfl, rfl⟩ := Action.pure_ok finished
  exact ⟨rfl, rfl⟩

theorem insertion_ok {values : Instance} {column : Column} {written : String × String}
    (succeeded :
      (insertion dialect.delegate values column).runOn draft = (.ok written, after)) :
    written = (dialect.quoteIdentifier column.name,
        dialect.placeholder (draft.buffer.length + 1)) ∧
      after = ⟨draft.buffer ++ [⟨dialect.placeholder (draft.buffer.length + 1),
        values.valueOrNull column.name⟩], draft.calls⟩ := by
  unfold insertion at succeeded
  obtain ⟨_, _, named, binding⟩ := Action.bind_ok succeeded
  obtain ⟨rfl, rfl⟩ := Rendering.quote_ok named
  obtain ⟨_, _, bound, finished⟩ := Action.bind_ok binding
  obtain ⟨rfl, rfl⟩ := Rendering.bind_ok bound
  obtain ⟨rfl, rfl⟩ := Action.pure_ok finished
  exact ⟨rfl, rfl⟩

theorem updateStatement_ok
    (succeeded : (updateStatement dialect.delegate state).runOn draft = (.ok text, after)) :
    ∃ sentence, state.Changes draft.progress .update sentence after.progress ∧
      text = sentence.text dialect ∧
      after.buffer = draft.buffer ++ Sql.bindings dialect sentence.parameters := by
  unfold updateStatement at succeeded
  obtain ⟨_, _, checked, choosing⟩ := Action.bind_ok succeeded
  obtain ⟨root, rfl, single, sameBuffer⟩ := singleTable_ok checked
  obtain ⟨columns, start, chosen, assigning⟩ := Action.bind_ok choosing
  obtain ⟨rfl, isChosen⟩ := Action.ofOutcome_ok chosen
  split at assigning
  · exact (Action.throw_ok assigning).elim
  · obtain ⟨_, _, assignments, naming⟩ := Action.bind_ok assigning
    obtain ⟨sameCalls, rfl, assignedBound⟩ :=
      assign_ok (Sql.Assignment.text dialect) (fun _ _ _ _ => assignment_ok) assignments
    obtain ⟨_, assigned, named, filtering⟩ := Action.bind_ok naming
    obtain ⟨rfl, rfl⟩ := Rendering.quote_ok named
    obtain ⟨_, _, conditioned, finished⟩ := Action.bind_ok filtering
    obtain ⟨conditions, writes, rfl, bound⟩ := whereClause_ok conditioned
    obtain ⟨rfl, rfl⟩ := Action.pure_ok finished
    have started : assigned.progress =
        ⟨start.calls, draft.progress.bound + columns.length⟩ := by
      simp [Draft.progress, sameCalls, assignedBound, sameBuffer, Sql.bindings, assignments_length]
    have written := QueryState.Changes.update single isChosen (started ▸ writes)
    refine ⟨_, written, ?_, ?_⟩
    · change _ = Sql.setText dialect root.record.table _ ++ Sql.conditionText dialect conditions
      simp [Sql.setText_eq, Draft.progress, sameBuffer]
    · simp [Sql.Sentence.parameters, Draft.progress, bound, assignedBound, sameBuffer]

theorem deleteStatement_ok
    (succeeded : (deleteStatement dialect.delegate state).runOn draft = (.ok text, after)) :
    ∃ sentence, state.Changes draft.progress .delete sentence after.progress ∧
      text = sentence.text dialect ∧
      after.buffer = draft.buffer ++ Sql.bindings dialect sentence.parameters := by
  unfold deleteStatement at succeeded
  obtain ⟨_, _, checked, naming⟩ := Action.bind_ok succeeded
  obtain ⟨root, rfl, single, sameBuffer⟩ := singleTable_ok checked
  obtain ⟨_, start, named, filtering⟩ := Action.bind_ok naming
  obtain ⟨rfl, rfl⟩ := Rendering.quote_ok named
  obtain ⟨_, _, conditioned, finished⟩ := Action.bind_ok filtering
  obtain ⟨conditions, writes, rfl, bound⟩ := whereClause_ok conditioned
  obtain ⟨rfl, rfl⟩ := Action.pure_ok finished
  have started : start.progress = ⟨start.calls, draft.progress.bound⟩ := by
    simp [Draft.progress, sameBuffer]
  have written := QueryState.Changes.delete single (started ▸ writes)
  refine ⟨_, written, ?_, ?_⟩
  · change _ = Sql.deleteText dialect root.record.table ++ Sql.conditionText dialect conditions
    simp [Sql.deleteText_eq]
  · simp [Sql.Sentence.parameters, bound, sameBuffer]

theorem insertStatement_ok
    (succeeded : (insertStatement dialect.delegate state).runOn draft = (.ok text, after)) :
    ∃ sentence, state.Changes draft.progress .insert sentence after.progress ∧
      text = sentence.text dialect ∧
      after.buffer = draft.buffer ++ Sql.bindings dialect sentence.parameters := by
  unfold insertStatement at succeeded
  obtain ⟨_, _, checked, choosing⟩ := Action.bind_ok succeeded
  obtain ⟨root, rfl, single, sameBuffer⟩ := singleTable_ok checked
  split at choosing
  · exact (Action.throw_ok choosing).elim
  · rename_i unfiltered
    have noFilters : state.filters = [] := by simpa using unfiltered
    obtain ⟨columns, start, chosen, inserting⟩ := Action.bind_ok choosing
    obtain ⟨rfl, isChosen⟩ := Action.ofOutcome_ok chosen
    split at inserting
    · exact (Action.throw_ok inserting).elim
    · obtain ⟨_, _, insertions, naming⟩ := Action.bind_ok inserting
      obtain ⟨sameCalls, rfl, bound⟩ := assign_ok
        (fun assignment => (dialect.quoteIdentifier assignment.column,
          dialect.placeholder assignment.parameter.index))
        (fun _ _ _ _ => insertion_ok) insertions
      obtain ⟨_, inserted, named, finished⟩ := Action.bind_ok naming
      obtain ⟨rfl, rfl⟩ := Rendering.quote_ok named
      obtain ⟨rfl, rfl⟩ := Action.pure_ok finished
      have ended : after.progress = ⟨start.calls, draft.progress.bound + columns.length⟩ := by
        simp [Draft.progress, sameCalls, bound, sameBuffer, Sql.bindings, assignments_length]
      have written : state.Changes draft.progress .insert _ _ := .insert single noFilters isChosen
      refine ⟨_, ended ▸ written, ?_, ?_⟩
      · simp [Sql.Sentence.text_insert, Sql.insertText_eq, Draft.progress, sameBuffer,
          Function.comp_def]
      · simp [Sql.Sentence.parameters, Draft.progress, bound, sameBuffer]

end Generation

end RecordMapper
