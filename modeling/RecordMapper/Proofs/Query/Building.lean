import Mathlib.Data.List.Nodup
import RecordMapper.Proofs.Query.Generating

set_option autoImplicit false

/-!
Everything that can be done to the state of a query, one step after another. No step takes a table
away, and a generation, even one that fails, takes only the orderings that no table has followed.
So an ordering that a table has followed stays for ever.
-/

namespace RecordMapper

inductive BuildStep where
  | addTable (record : RecordType) (join : Option Join)
  | addFilter (filter : Expr)
  | addOrdering (fields : List FieldRef) (descending : Bool)
  | setLimit (limit : Limit)
  | setInstance (values : Instance) (columnFilter : ColumnFilter)

namespace BuildStep

/-- A refused table leaves the state as it is. -/
def apply (state : QueryState) : BuildStep → QueryState
  | .addTable record join =>
      match state.addTable record join with
      | .ok next => next
      | .error _ => state
  | .addFilter filter => state.addFilter filter
  | .addOrdering fields descending => state.addOrdering fields descending
  | .setLimit limit => state.setLimit limit
  | .setInstance values columnFilter => state.setInstance values columnFilter

def run (steps : List BuildStep) (state : QueryState) : QueryState :=
  steps.foldl apply state

def declares : BuildStep → List SortKey
  | .addOrdering fields descending => fields.map (⟨·, descending⟩)
  | _ => []

def declared (steps : List BuildStep) : List SortKey :=
  steps.flatMap declares

end BuildStep

def QueryState.built (command : Command) (steps : List BuildStep) : QueryState :=
  BuildStep.run steps (.ofCommand command)

inductive Operation : Type 1 where
  | build (step : BuildStep)
  | setCommand (command : Command)
  | drainOrderings
  | takeLimit
  | pushStatement (statement : Statement)
  | generate {Buffer : Type} (delegate : Delegate Buffer) (draft : Draft Buffer)

namespace Operation

/-- A generation that fails keeps what it has changed until then. -/
def apply (state : QueryState) : Operation → QueryState
  | .build step => step.apply state
  | .setCommand command => { state with command }
  | .drainOrderings => state.drainOrderings.2
  | .takeLimit => state.takeLimit.2
  | .pushStatement statement => state.pushStatement statement
  | .generate delegate draft => ((Generation.generate delegate).runOn ⟨state, draft⟩).2.query

def run (operations : List Operation) (state : QueryState) : QueryState :=
  operations.foldl apply state

end Operation

/-! ## What a generation keeps -/

/-- The orderings and tables of a state after some orderings have been taken: all tables are there,
and every ordering that a table has followed. -/
structure QueryState.Drains (before after : QueryState) : Prop where
  tables : after.tables = before.tables
  sorts : after.sorts ⊆ before.sorts
  kept : ∀ sort ∈ before.sorts, before.isUsable sort = false → sort ∈ after.sorts

namespace QueryState.Drains

variable {first second third : QueryState}

theorem refl (state : QueryState) : state.Drains state :=
  ⟨rfl, fun _ member => member, fun _ member _ => member⟩

theorem trans (drains : first.Drains second) (others : second.Drains third) :
    first.Drains third where
  tables := others.tables.trans drains.tables
  sorts := fun _ member => drains.sorts (others.sorts member)
  kept := by
    intro sort member followed
    have stillFollowed : second.isUsable sort = false := by
      rw [← followed, isUsable, isUsable, drains.tables]
    exact others.kept sort (drains.kept sort member followed) stillFollowed

theorem drainOrderings (state : QueryState) : state.Drains state.drainOrderings.2 where
  tables := rfl
  sorts := List.filter_subset_self _
  kept := fun sort member followed => List.mem_filter.mpr ⟨member, by simp [followed]⟩

theorem takeLimit (state : QueryState) : state.Drains state.takeLimit.2 :=
  ⟨rfl, fun _ member => member, fun _ member _ => member⟩

theorem pushStatement (state : QueryState) (statement : Statement) :
    state.Drains (state.pushStatement statement) :=
  ⟨rfl, fun _ member => member, fun _ member _ => member⟩

end QueryState.Drains

namespace Generation

variable {Buffer Result : Type} {start : QueryState}

abbrev KeepsDrained (start : QueryState) (action : Generating Buffer Result) : Prop :=
  Action.Keeps (fun workspace => start.Drains workspace.query) action

theorem keeps_query : KeepsDrained start (Generating.query : Generating Buffer QueryState) :=
  fun _ drains => drains

theorem keeps_update {change : QueryState → Result × QueryState}
    (each : ∀ state : QueryState, state.Drains (change state).2) :
    KeepsDrained start (Generating.update change : Generating Buffer Result) :=
  fun workspace drains => drains.trans (each workspace.query)

theorem keeps_render (rendering : QueryState → Rendering Buffer Result) :
    KeepsDrained start (Generating.render rendering) :=
  fun _ drains => drains

theorem keeps_emit (delegate : Delegate Buffer) (sql : String) :
    KeepsDrained start (Generating.emit delegate sql) :=
  .bind (keeps_render _) fun _ => keeps_update fun state => .pushStatement state _

theorem keeps_generateOne (delegate : Delegate Buffer)
    (statement : Delegate Buffer → QueryState → Rendering Buffer String) :
    KeepsDrained start (generateOne delegate statement) :=
  .bind (keeps_render _) fun _ => keeps_emit delegate _

theorem keeps_generateSelect (delegate : Delegate Buffer) :
    KeepsDrained start (generateSelect delegate) := by
  unfold generateSelect
  refine .bind (keeps_update .drainOrderings) fun keys => ?_
  refine .bind (keeps_update .takeLimit) fun limit => ?_
  refine .bind keeps_query fun state => ?_
  refine .bind (.ofOutcome _) fun _ => ?_
  refine .bind (keeps_render _) fun sql => ?_
  split
  · exact keeps_emit delegate _
  · refine .bind (keeps_emit delegate sql) fun _ => ?_
    exact .forM (fun table => .bind (keeps_render _) fun _ => keeps_emit delegate _) _

theorem keeps_generateCommand (delegate : Delegate Buffer) (command : Command) :
    KeepsDrained start (generateCommand delegate command) := by
  cases command with
  | unset => exact .pure _
  | select | count => exact keeps_generateSelect delegate
  | update | delete | insert => exact keeps_generateOne delegate _

theorem keeps_generate (delegate : Delegate Buffer) :
    KeepsDrained start (generate delegate) := by
  unfold generate
  refine .bind keeps_query fun state => ?_
  split
  · exact .throw _
  split
  · exact .throw _
  refine .bind (keeps_render _) fun _ => ?_
  refine .bind (keeps_generateCommand delegate _) fun _ => ?_
  refine .bind keeps_query fun after => ?_
  split
  · exact .throw _
  · exact .bind (keeps_update .takeLimit) fun _ => .pure _

end Generation

/-! ## What every step keeps -/

namespace QueryState

/-- No ordering is ahead of the tables. -/
def IsBounded (state : QueryState) : Prop :=
  ∀ sort ∈ state.sorts, sort.tableCount ≤ state.tables.length

/-- A table has followed an ordering that no statement has used. -/
def IsStale (state : QueryState) : Prop :=
  ∃ sort ∈ state.sorts, sort.tableCount < state.tables.length

variable {before after : QueryState}

theorem IsBounded.drains (bounded : before.IsBounded) (drains : before.Drains after) :
    after.IsBounded := by
  intro sort member
  rw [drains.tables]
  exact bounded sort (drains.sorts member)

theorem IsStale.drains (stale : before.IsStale) (drains : before.Drains after) :
    after.IsStale := by
  obtain ⟨sort, member, followed⟩ := stale
  have unusable : before.isUsable sort = false := by
    simp only [isUsable, beq_eq_false_iff_ne]
    omega
  exact ⟨sort, drains.kept sort member unusable, by rw [drains.tables]; exact followed⟩

theorem addTable_ok {record : RecordType} {join : Option Join}
    (added : before.addTable record join = .ok after) :
    before.table? record = none ∧
      after = { before with tables := before.tables ++ [⟨record, before.nextAlias, join⟩] } := by
  unfold addTable at added
  split at added
  · cases added
  · rename_i absent
    cases added
    exact ⟨absent, rfl⟩

theorem IsBounded.stale_of_addTable {record : RecordType} {join : Option Join}
    (bounded : before.IsBounded) (pending : before.sorts ≠ [])
    (added : before.addTable record join = .ok after) : after.IsStale := by
  obtain ⟨-, rfl⟩ := addTable_ok added
  obtain ⟨sort, member⟩ := List.exists_mem_of_ne_nil _ pending
  have followed := bounded sort member
  refine ⟨sort, member, ?_⟩
  simp only [List.length_append, List.length_singleton]
  omega

end QueryState

namespace BuildStep

variable {state : QueryState}

theorem apply_grows (state : QueryState) (step : BuildStep) :
    ∃ tables sorts, (step.apply state).tables = state.tables ++ tables ∧
      (step.apply state).sorts = state.sorts ++ sorts ∧
      sorts.map (·.key) = step.declares ∧
      ∀ sort ∈ sorts, sort.tableCount = state.tables.length := by
  cases step with
  | addTable record join =>
      cases added : state.addTable record join with
      | error error => exact ⟨[], [], by simp [apply, added, declares]⟩
      | ok next =>
          obtain ⟨-, rfl⟩ := QueryState.addTable_ok added
          exact ⟨[⟨record, state.nextAlias, join⟩], [], by simp [apply, added, declares]⟩
  | addOrdering fields descending =>
      refine ⟨[], fields.map fun field => ⟨⟨field, descending⟩, state.tables.length⟩, ?_⟩
      simp [apply, QueryState.addOrdering, declares]
  | addFilter | setLimit | setInstance =>
      exact ⟨[], [], by simp [apply, QueryState.addFilter, QueryState.setLimit,
        QueryState.setInstance, declares]⟩

theorem apply_bounded (bounded : state.IsBounded) (step : BuildStep) :
    (step.apply state).IsBounded := by
  obtain ⟨tables, sorts, sameTables, sameSorts, -, counts⟩ := step.apply_grows state
  intro sort member
  rw [sameSorts] at member
  rw [sameTables, List.length_append]
  rcases List.mem_append.mp member with old | new
  · have followed := bounded sort old
    omega
  · have counted := counts sort new
    omega

theorem apply_stale (stale : state.IsStale) (step : BuildStep) :
    (step.apply state).IsStale := by
  obtain ⟨tables, sorts, sameTables, sameSorts, -, -⟩ := step.apply_grows state
  obtain ⟨sort, member, followed⟩ := stale
  refine ⟨sort, sameSorts ▸ List.mem_append_left sorts member, ?_⟩
  rw [sameTables, List.length_append]
  omega

theorem run_append (first second : List BuildStep) (state : QueryState) :
    run (first ++ second) state = run second (run first state) :=
  List.foldl_append

theorem run_bounded (bounded : state.IsBounded) (steps : List BuildStep) :
    (run steps state).IsBounded := by
  induction steps generalizing state with
  | nil => exact bounded
  | cons step steps ih => exact ih (step.apply_bounded bounded)

theorem run_stale (stale : state.IsStale) (steps : List BuildStep) :
    (run steps state).IsStale := by
  induction steps generalizing state with
  | nil => exact stale
  | cons step steps ih => exact ih (step.apply_stale stale)

theorem run_keys (steps : List BuildStep) (state : QueryState) :
    (run steps state).sorts.map (·.key) =
      state.sorts.map (·.key) ++ declared steps := by
  induction steps generalizing state with
  | nil => simp [run, declared]
  | cons step steps ih =>
      obtain ⟨tables, sorts, sameTables, sameSorts, keys, -⟩ := step.apply_grows state
      change (run steps (step.apply state)).sorts.map (·.key) = _
      rw [ih, sameSorts]
      simp [keys, declared]

end BuildStep

namespace Operation

variable {state : QueryState}

/-- Every step but a builder's only takes orderings that no table has followed. -/
theorem apply_drains (operation : Operation) (state : QueryState) :
    (∃ step, operation = .build step) ∨ state.Drains (operation.apply state) := by
  cases operation with
  | build step => exact .inl ⟨step, rfl⟩
  | setCommand command =>
      exact .inr ⟨rfl, fun _ member => member, fun _ member _ => member⟩
  | drainOrderings => exact .inr (.drainOrderings state)
  | takeLimit => exact .inr (.takeLimit state)
  | pushStatement statement => exact .inr (.pushStatement state statement)
  | generate delegate draft =>
      exact .inr (Generation.keeps_generate delegate ⟨state, draft⟩ (.refl state))

theorem run_bounded (bounded : state.IsBounded) (operations : List Operation) :
    (run operations state).IsBounded := by
  induction operations generalizing state with
  | nil => exact bounded
  | cons operation operations ih =>
      refine ih ?_
      rcases operation.apply_drains state with ⟨step, rfl⟩ | drains
      · exact step.apply_bounded bounded
      · exact bounded.drains drains

theorem run_stale (stale : state.IsStale) (operations : List Operation) :
    (run operations state).IsStale := by
  induction operations generalizing state with
  | nil => exact stale
  | cons operation operations ih =>
      refine ih ?_
      rcases operation.apply_drains state with ⟨step, rfl⟩ | drains
      · exact step.apply_stale stale
      · exact stale.drains drains

end Operation

namespace QueryState

theorem ofCommand_bounded (command : Command) : (ofCommand command).IsBounded := by
  intro sort member
  cases member

theorem built_bounded (command : Command) (steps : List BuildStep) :
    (built command steps).IsBounded :=
  BuildStep.run_bounded (ofCommand_bounded command) steps

theorem built_keys (command : Command) (steps : List BuildStep) :
    (built command steps).sorts.map (·.key) = BuildStep.declared steps :=
  BuildStep.run_keys steps _

end QueryState

namespace Generation

theorem SortsUsed.not_stale {state : QueryState} (used : SortsUsed state) : ¬state.IsStale := by
  rintro ⟨sort, member, followed⟩
  cases used with
  | selected _ usable _ =>
      have same := usable sort member
      simp only [QueryState.isUsable, beq_iff_eq] at same
      omega
  | absent _ _ none =>
      rw [none] at member
      cases member

end Generation

/-! ## Tables of a state that is built -/

namespace QueryState

def IsDistinct (state : QueryState) : Prop :=
  (state.tables.map (·.record)).Nodup

variable {state : QueryState}

theorem IsDistinct.table?_eq (distinct : state.IsDistinct) {table : Table}
    (member : table ∈ state.tables) : state.table? table.record = some table := by
  cases found : state.table? table.record with
  | none =>
      have absent := List.find?_eq_none.mp found table member
      simp at absent
  | some other =>
      have same : other.record = table.record := by
        simpa using List.find?_some found
      have isMember : other ∈ state.tables := List.mem_of_find?_eq_some found
      rw [List.inj_on_of_nodup_map distinct isMember member same]

theorem notMem_of_table? {record : RecordType} (absent : state.table? record = none) :
    record ∉ state.tables.map (·.record) := by
  intro member
  obtain ⟨table, isTable, rfl⟩ := List.mem_map.mp member
  have other := List.find?_eq_none.mp absent table isTable
  simp at other

theorem addTable_distinct {next : QueryState} {record : RecordType} {join : Option Join}
    (distinct : state.IsDistinct) (added : state.addTable record join = .ok next) :
    next.IsDistinct := by
  obtain ⟨absent, rfl⟩ := addTable_ok added
  unfold IsDistinct
  rw [List.map_append, List.nodup_append]
  refine ⟨distinct, by simp, ?_⟩
  rintro other member _ isNew rfl
  obtain rfl : other = record := by simpa using isNew
  exact notMem_of_table? absent member

end QueryState

namespace BuildStep

variable {state : QueryState}

theorem apply_distinct (distinct : state.IsDistinct) (step : BuildStep) :
    (step.apply state).IsDistinct := by
  cases step with
  | addTable record join =>
      cases added : state.addTable record join with
      | error error => simpa [apply, added] using distinct
      | ok next => simpa [apply, added] using QueryState.addTable_distinct distinct added
  | addFilter | addOrdering | setLimit | setInstance => exact distinct

theorem run_distinct (distinct : state.IsDistinct) (steps : List BuildStep) :
    (run steps state).IsDistinct := by
  induction steps generalizing state with
  | nil => exact distinct
  | cons step steps ih => exact ih (step.apply_distinct distinct)

theorem apply_command (step : BuildStep) : (step.apply state).command = state.command := by
  cases step with
  | addTable record join =>
      cases added : state.addTable record join with
      | error error => simp [apply, added]
      | ok next =>
          obtain ⟨-, rfl⟩ := QueryState.addTable_ok added
          simp [apply, added]
  | addFilter | addOrdering | setLimit | setInstance => rfl

theorem run_command (steps : List BuildStep) : (run steps state).command = state.command := by
  induction steps generalizing state with
  | nil => rfl
  | cons step steps ih =>
      change (run steps (step.apply state)).command = _
      rw [ih, step.apply_command]

end BuildStep

namespace QueryState

theorem built_distinct (command : Command) (steps : List BuildStep) :
    (built command steps).IsDistinct := by
  have start : (ofCommand command).IsDistinct := List.nodup_nil
  exact BuildStep.run_distinct start steps

theorem built_command (command : Command) (steps : List BuildStep) :
    (built command steps).command = command :=
  BuildStep.run_command steps

end QueryState

end RecordMapper
