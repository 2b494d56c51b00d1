import RecordMapper.Proofs.Query.Producing

set_option autoImplicit false

/-!
When the producer of a deferred filter is called. Each statement searches the filters before it
renders them, so that its producer is called twice for a statement, and once where there is nothing
to search for. What is searched and what is rendered are then two different productions.
-/

namespace RecordMapper

/-! ## Filters of a state -/

namespace QueryState

/-- The state whose producer gives at every call what it gives at one. -/
def atCall (state : QueryState) (producer : ProducerId) (call : Nat) : QueryState :=
  { state with filters := state.filters.map (·.atCall producer call) }

@[simp] theorem atCall_tables (state : QueryState) (producer : ProducerId) (call : Nat) :
    (state.atCall producer call).tables = state.tables := rfl

/-- How often a select searches the filters for tables to join into one statement. A root alone
needs no search. -/
def joinSearches (state : QueryState) : Nat :=
  if 2 ≤ state.tables.length then 1 else 0

/-- The condition of the state has the deferred expression once, as do its filters. -/
theorem condition_once {state : QueryState} {producer : ProducerId} {produce : Nat → Expr}
    (once : Expr.OnceAmong producer produce state.filters) :
    ∃ condition, state.condition? = some condition ∧ Expr.Once producer produce condition ∧
      ∀ call, (state.atCall producer call).condition? = some (condition.atCall producer call) :=
  once.fold?

end QueryState

namespace Expr.OnceAmong

variable {Buffer Result : Type} {producer : ProducerId} {produce : Nat → Expr}

theorem mapM {step : Expr → Rendering Buffer Result} {filters : List Expr}
    (once : OnceAmong producer produce filters)
    (takes : ∀ filter, Once producer produce filter →
      Rendering.Takes producer 1 (step filter) fun call => step (filter.atCall producer call))
    (spares : ∀ filter : Expr, filter.Avoids producer → Rendering.Spares producer (step filter)) :
    Rendering.Takes producer 1 (filters.mapM step)
      fun call => (filters.map (·.atCall producer call)).mapM step := by
  induction once with
  | head once avoid =>
      simp only [List.map_cons, Avoids.map_atCall avoid, List.mapM_cons]
      have others := Rendering.Takes.mapM fun filter member => spares filter (avoid filter member)
      exact .sparing (takes _ once) fun _ => .spared others fun _ => .pure _
  | tail avoids _ ih =>
      simp only [List.map_cons, avoids.atCall_eq, List.mapM_cons]
      exact .spared (spares _ avoids) fun _ => .sparing ih fun _ => .pure _

end Expr.OnceAmong

namespace Generation

variable {Buffer : Type} {delegate : Delegate Buffer} {state : QueryState} {producer : ProducerId}
  {produce : Nat → Expr}

theorem whereClause_takes (once : Expr.OnceAmong producer produce state.filters) :
    Rendering.Takes producer 1 (whereClause delegate state)
      fun call => whereClause delegate (state.atCall producer call) := by
  unfold whereClause QueryState.atCall
  cases filters : state.filters with
  | nil =>
      rw [filters] at once
      cases once
  | cons first rest =>
      rw [filters] at once
      cases rest with
      | nil =>
          cases once with
          | head once => exact .sparing once.render fun _ => .pure _
          | tail _ none => cases none
      | cons second others =>
          refine .sparing ?_ fun _ => .pure _
          exact once.mapM (fun _ once => .sparing once.render fun _ => .pure _)
            (fun _ avoids => .spared avoids.render fun _ => .pure _)

end Generation

namespace JoinClause

variable {Buffer : Type} {delegate : Delegate Buffer} {scope : Scope} {state : QueryState}
  {producer : ProducerId} {produce : Nat → Expr}

theorem spares_tableReference (table : Table) :
    Rendering.Spares producer (tableReference delegate table) := by
  unfold tableReference
  exact .spared (.quote _ _) fun _ => .spared (.quote _ _) fun _ => .pure _

theorem spares_on (record : RecordType) (left right : FieldRef) :
    Rendering.Spares producer (on delegate scope record left right) := by
  unfold on
  refine .spared (.ofOutcome _) fun table => .spared (spares_tableReference table) fun _ => ?_
  exact .spared (Expr.spares_renderField left) fun _ =>
    .spared (Expr.spares_renderField right) fun _ => .pure _

theorem spares_fromRoot (record : RecordType) :
    Rendering.Spares producer (fromRoot delegate scope record) := by
  unfold fromRoot
  refine .spared (.ofOutcome _) fun join => ?_
  split
  · exact .spared (spares_on _ _ _) fun _ => .pure _
  · exact .spared (spares_on _ _ _) fun _ => .spared (spares_on _ _ _) fun _ => .pure _

theorem spares_joinedHead (table : Table) :
    Rendering.Spares producer (joinedHead delegate scope table) := by
  unfold joinedHead
  refine .spared (.ofOutcome _) fun join => ?_
  split
  · exact .throw _ _
  · refine .spared (.quote _ _) fun _ => .spared (spares_tableReference table) fun _ => ?_
    split
    · exact .spared (spares_on _ _ _) fun _ => .pure _
    · refine .spared (Expr.spares_renderField _) fun _ => .spared (spares_on _ _ _) fun _ => ?_
      exact .spared (spares_on _ _ _) fun _ => .spared (.quote _ _) fun _ => .pure _

theorem forced_takes (once : Expr.OnceAmong producer produce state.filters) (current : RecordType) :
    Rendering.Takes producer state.joinSearches
      (forced state current : Rendering Buffer (List RecordType))
      fun call => forced (state.atCall producer call) current := by
  obtain ⟨condition, isCondition, onceCondition, isFixed⟩ := QueryState.condition_once once
  unfold forced QueryState.joinSearches
  simp only [isCondition, isFixed, QueryState.atCall_tables]
  match state.tables with
  | [] | [_] => exact .pure _
  | _ :: _ :: _ =>
      exact .sparing (.counting (onceCondition.walk Expr.referencedTypes_walks))
        fun _ => .ofOutcome _

theorem forcedClauses_takes (once : Expr.OnceAmong producer produce state.filters)
    (current : RecordType) :
    Rendering.Takes producer state.joinSearches (forcedClauses delegate state current)
      fun call => forcedClauses delegate (state.atCall producer call) current := by
  unfold forcedClauses
  refine .sparing (forced_takes once current) fun records => ?_
  exact .spared (.mapM fun record _ => spares_fromRoot record) fun _ => .pure _

end JoinClause

namespace Generation

variable {Buffer : Type} {delegate : Delegate Buffer} {state : QueryState} {producer : ProducerId}
  {produce : Nat → Expr}

theorem spares_orderClause (keys : List SortKey) (record : RecordType) :
    Rendering.Spares producer (orderClause delegate state keys record) := by
  unfold orderClause
  refine .spared (.mapM fun key _ => ?_) fun _ => .pure _
  exact .spared (Expr.spares_renderField _) fun _ => .pure _

theorem spares_limitClause (limit : Option Limit) :
    Rendering.Spares producer (limitClause delegate limit) := by
  unfold limitClause
  split
  · exact .pure _
  · exact .spared (.limitClause _ _ _) fun _ => .pure _

theorem spares_checkRootOnly (root : RecordType) {filters : List Expr}
    (avoid : ∀ filter ∈ filters, filter.Avoids producer) :
    Rendering.Spares producer (checkRootOnly root filters : Rendering Buffer Unit) := by
  induction filters with
  | nil => exact .pure _
  | cons filter filters ih =>
      obtain ⟨avoids, others⟩ := List.forall_mem_cons.mp avoid
      unfold checkRootOnly
      refine .spared (.counting (avoids.walk Expr.referencedTypes_walks)) fun referenced => ?_
      split
      · exact .throw _ _
      · exact ih others

theorem checkRootOnly_takes (root : RecordType) {filters : List Expr}
    (once : Expr.OnceAmong producer produce filters) :
    Rendering.Takes producer 1 (checkRootOnly root filters : Rendering Buffer Unit)
      fun call => checkRootOnly root (filters.map (·.atCall producer call)) := by
  induction once with
  | head once avoid =>
      simp only [List.map_cons, Expr.Avoids.map_atCall avoid]
      unfold checkRootOnly
      refine .sparing (.counting (once.walk Expr.referencedTypes_walks)) fun referenced => ?_
      split
      · exact .throw _ _
      · exact spares_checkRootOnly root avoid
  | tail avoids _ ih =>
      simp only [List.map_cons, avoids.atCall_eq]
      unfold checkRootOnly
      refine .spared (.counting (avoids.walk Expr.referencedTypes_walks)) fun referenced => ?_
      split
      · exact .throw _ _
      · exact ih

theorem singleTable_takes (once : Expr.OnceAmong producer produce state.filters)
    (command : String) :
    Rendering.Takes producer 1 (singleTable command state : Rendering Buffer RecordType)
      fun call => singleTable command (state.atCall producer call) := by
  have sameRoot (call : Nat) : rootTable (state.atCall producer call) = rootTable state := rfl
  have sameTables (call : Nat) := state.atCall_tables producer call
  unfold singleTable
  simp only [sameRoot, sameTables]
  refine .spared (.ofOutcome _) fun root => ?_
  split
  · exact .throw _ _
  · exact .sparing (checkRootOnly_takes root.record once) fun _ => .pure _

end Generation

/-! ## Statements -/

theorem Rendering.calls_eq {Buffer Result : Type} {rendering : Rendering Buffer Result}
    {before after : Draft Buffer} {result : Result}
    (ran : rendering.runOn before = (.ok result, after))
    (spares : ∀ producer, Rendering.Spares producer rendering) : after.calls = before.calls :=
  congrArg Calls.mk (funext fun producer => (spares producer before).2 result after ran)

namespace Generation

variable {Buffer : Type}

/-- What a statement searches its filters for: tables to join, or any table but the root. -/
inductive Searches (delegate : Delegate Buffer) (state : QueryState) (before : Draft Buffer) :
    String → Draft Buffer → Prop where
  | joins {current : RecordType} {text : String} {after : Draft Buffer} :
      (JoinClause.forcedClauses delegate state current).runOn before = (.ok text, after) →
      Searches delegate state before text after
  | rootOnly {command : String} {root : RecordType} {after : Draft Buffer} :
      (singleTable command state).runOn before = (.ok root, after) →
      Searches delegate state before "" after

/-- How a statement comes about: its filters are searched when the producer has been called some
number of times, and its condition is rendered when it has been called a later number of times.
Nothing else in it calls a producer. -/
inductive Staged (delegate : Delegate Buffer) (state : QueryState) (producer : ProducerId)
    (call later : Nat) (before : Calls) (sql : String) (after : Calls) : Prop where
  | parts {front joins condition back : String} {start searched ready rendered : Draft Buffer} :
      start.calls = before → before.count producer = call →
      Searches delegate (state.atCall producer call) start joins searched →
      ready.calls = searched.calls → searched.calls.count producer = later →
      (whereClause delegate (state.atCall producer later)).runOn ready = (.ok condition, rendered) →
      rendered.calls = after → sql = front ++ joins ++ condition ++ back →
      Staged delegate state producer call later before sql after

/-- A statement that searches its filters a number of times and then renders them once. -/
structure Paced (delegate : Delegate Buffer) (state : QueryState) (producer : ProducerId)
    (searches : Nat) (before : Calls) (sql : String) (after : Calls) : Prop where
  staged : Staged delegate state producer (before.count producer)
    (before.count producer + searches) before sql after
  called : after.count producer = before.count producer + (searches + 1)

variable {delegate : Delegate Buffer} {state : QueryState} {producer : ProducerId}
  {produce : Nat → Expr} {searches : Nat} {start searched ready rendered : Draft Buffer}
  {joins condition : String}

theorem Paced.of_runs (once : Expr.OnceAmong producer produce state.filters)
    (search : Searches delegate (state.atCall producer (start.calls.count producer)) start joins
      searched)
    (counted : searched.calls.count producer = start.calls.count producer + searches)
    (sameCalls : ready.calls = searched.calls)
    (ran : (whereClause delegate state).runOn ready = (.ok condition, rendered))
    {sql : String} (front back : String) (written : sql = front ++ joins ++ condition ++ back) :
    Paced delegate state producer searches start.calls sql rendered.calls := by
  have takes : Rendering.Takes producer 1 (whereClause delegate state) _ := whereClause_takes once
  obtain ⟨same, renders⟩ := takes ready
  have later : ready.calls.count producer = start.calls.count producer + searches := by
    rw [sameCalls, counted]
  rw [ran, later] at same
  refine ⟨.parts rfl rfl search sameCalls counted same.symm rfl written, ?_⟩
  rw [renders condition rendered ran, later, Nat.add_assoc]

theorem Paced.of_joins (once : Expr.OnceAmong producer produce state.filters)
    {current : RecordType}
    (search : (JoinClause.forcedClauses delegate state current).runOn start = (.ok joins, searched))
    (sameCalls : ready.calls = searched.calls)
    (ran : (whereClause delegate state).runOn ready = (.ok condition, rendered))
    {sql : String} (front back : String) (written : sql = front ++ joins ++ condition ++ back) :
    Paced delegate state producer state.joinSearches start.calls sql rendered.calls := by
  have takes : Rendering.Takes producer state.joinSearches
      (JoinClause.forcedClauses delegate state current) _ :=
    JoinClause.forcedClauses_takes once current
  obtain ⟨same, counted⟩ := takes start
  rw [search] at same
  exact .of_runs once (.joins same.symm) (counted joins searched search) sameCalls ran front back
    written

theorem Paced.of_check (once : Expr.OnceAmong producer produce state.filters)
    {command : String} {root : RecordType}
    (search : (singleTable command state).runOn start = (.ok root, searched))
    (sameCalls : ready.calls = searched.calls)
    (ran : (whereClause delegate state).runOn ready = (.ok condition, rendered))
    {sql : String} (front : String) (written : sql = front ++ condition) :
    Paced delegate state producer 1 start.calls sql rendered.calls := by
  obtain ⟨same, counted⟩ := singleTable_takes once command start
  rw [search] at same
  refine .of_runs once (.rootOnly same.symm) (counted root searched search) sameCalls ran front ""
    ?_
  rw [written, String.append_empty, String.append_empty]

/-- A text around a statement searches and renders no filters. -/
theorem Paced.wrap {sql : String} {before after : Calls} (opening closing : String)
    (paced : Paced delegate state producer searches before sql after) :
    Paced delegate state producer searches before (opening ++ sql ++ closing) after := by
  obtain ⟨staged, called⟩ := paced
  cases staged with
  | @parts front joins condition back _ _ _ _ started call search same later ran ended written =>
      have wrapped : opening ++ sql ++ closing = (opening ++ front) ++ joins ++ condition
          ++ (back ++ closing) := by
        rw [written]
        simp only [String.append_assoc]
      exact ⟨.parts started call search same later ran ended wrapped, called⟩

variable {before after : Draft Buffer} {sql : String}

theorem rootSelect_paced (once : Expr.OnceAmong producer produce state.filters)
    {keys : List SortKey} {limit : Option Limit}
    (ran : (rootSelect delegate keys limit state).runOn before = (.ok sql, after)) :
    Paced delegate state producer state.joinSearches before.calls sql after.calls := by
  unfold rootSelect at ran
  obtain ⟨root, opened, looked, naming⟩ := Action.bind_ok ran
  obtain ⟨sameDraft, -⟩ := Action.ofOutcome_ok looked
  rw [sameDraft] at naming
  obtain ⟨quotedAlias, _, aliased, sourcing⟩ := Action.bind_ok naming
  obtain ⟨source, start, referred, joining⟩ := Action.bind_ok sourcing
  obtain ⟨joins, searched, forced, filtering⟩ := Action.bind_ok joining
  obtain ⟨condition, rendered, conditioned, ordering⟩ := Action.bind_ok filtering
  have closing : ∃ back, sql = "SELECT DISTINCT " ++ quotedAlias ++ ".* FROM " ++ source ++ joins
      ++ condition ++ back ∧ after.calls = rendered.calls := by
    have limited {order : String} {ordered : Draft Buffer}
        (limiting : Action.runOn (do
          let window ← limitClause delegate limit
          pure ("SELECT DISTINCT " ++ quotedAlias ++ ".* FROM " ++ source ++ joins ++ condition
            ++ order ++ window)) ordered = (.ok sql, after)) :
        ∃ back, sql = "SELECT DISTINCT " ++ quotedAlias ++ ".* FROM " ++ source ++ joins
          ++ condition ++ back ∧ after.calls = ordered.calls := by
      obtain ⟨window, limited, windowed, finished⟩ := Action.bind_ok limiting
      obtain ⟨rfl, rfl⟩ := Action.pure_ok finished
      exact ⟨order ++ window, String.append_assoc,
        Rendering.calls_eq windowed fun _ => spares_limitClause _⟩
    split at ordering
    · obtain ⟨order, ordered, sorted, limiting⟩ := Action.bind_ok ordering
      obtain ⟨back, written, sameCalls⟩ := limited limiting
      exact ⟨back, written,
        sameCalls.trans (Rendering.calls_eq sorted fun _ => spares_orderClause keys root.record)⟩
    · obtain ⟨order, ordered, unsorted, limiting⟩ := Action.bind_ok ordering
      obtain ⟨rfl, -⟩ := Action.pure_ok unsorted
      exact limited limiting
  obtain ⟨back, written, sameCalls⟩ := closing
  have started : start.calls = before.calls :=
    (Rendering.calls_eq referred fun _ => JoinClause.spares_tableReference root).trans
      (Rendering.calls_eq aliased fun _ => .quote _ _)
  rw [← started, sameCalls]
  exact .of_joins once forced rfl conditioned _ back written

theorem joinedSelect_paced (once : Expr.OnceAmong producer produce state.filters)
    {keys : List SortKey} {table : Table}
    (ran : (joinedSelect delegate keys table state).runOn before = (.ok sql, after)) :
    Paced delegate state producer state.joinSearches before.calls sql after.calls := by
  unfold joinedSelect at ran
  obtain ⟨head, start, headed, joining⟩ := Action.bind_ok ran
  obtain ⟨joins, searched, forced, filtering⟩ := Action.bind_ok joining
  obtain ⟨condition, rendered, conditioned, ordering⟩ := Action.bind_ok filtering
  obtain ⟨order, ordered, sorted, finished⟩ := Action.bind_ok ordering
  obtain ⟨rfl, rfl⟩ := Action.pure_ok finished
  have started : start.calls = before.calls :=
    Rendering.calls_eq headed fun _ => JoinClause.spares_joinedHead table
  have ended : after.calls = rendered.calls :=
    Rendering.calls_eq sorted fun _ => spares_orderClause keys table.record
  rw [← started, ended]
  exact .of_joins once forced rfl conditioned head order rfl

theorem countSelect_paced (once : Expr.OnceAmong producer produce state.filters)
    {keys : List SortKey} {limit : Option Limit}
    (ran : (countSelect delegate keys limit state).runOn before = (.ok sql, after)) :
    Paced delegate state producer state.joinSearches before.calls sql after.calls := by
  unfold countSelect at ran
  obtain ⟨inner, selected, selecting, finished⟩ := Action.bind_ok ran
  obtain ⟨rfl, rfl⟩ := Action.pure_ok finished
  exact (rootSelect_paced once selecting).wrap "SELECT COUNT(*) AS count FROM (" ") AS s1"

theorem updateStatement_paced (once : Expr.OnceAmong producer produce state.filters)
    (ran : (updateStatement delegate state).runOn before = (.ok sql, after)) :
    Paced delegate state producer 1 before.calls sql after.calls := by
  unfold updateStatement at ran
  obtain ⟨record, searched, checked, choosing⟩ := Action.bind_ok ran
  obtain ⟨columns, opened, chosen, assigning⟩ := Action.bind_ok choosing
  obtain ⟨sameDraft, -⟩ := Action.ofOutcome_ok chosen
  rw [sameDraft] at assigning
  split at assigning
  · exact (Action.throw_ok assigning).elim
  · obtain ⟨assignments, assigned, bound, naming⟩ := Action.bind_ok assigning
    obtain ⟨table, named, quoted, filtering⟩ := Action.bind_ok naming
    obtain ⟨condition, rendered, conditioned, finished⟩ := Action.bind_ok filtering
    obtain ⟨rfl, rfl⟩ := Action.pure_ok finished
    have spares (producer : ProducerId) :
        Rendering.Spares producer (columns.mapM (assignment delegate state.values)) :=
      .mapM fun column _ =>
        .spared (.quote _ _) fun _ => .spared (.bindValue _ _) fun _ => .pure _
    have ready : named.calls = searched.calls :=
      (Rendering.calls_eq quoted fun _ => .quote _ _).trans (Rendering.calls_eq bound spares)
    exact .of_check once checked ready conditioned _ rfl

theorem deleteStatement_paced (once : Expr.OnceAmong producer produce state.filters)
    (ran : (deleteStatement delegate state).runOn before = (.ok sql, after)) :
    Paced delegate state producer 1 before.calls sql after.calls := by
  unfold deleteStatement at ran
  obtain ⟨record, searched, checked, naming⟩ := Action.bind_ok ran
  obtain ⟨table, named, quoted, filtering⟩ := Action.bind_ok naming
  obtain ⟨condition, rendered, conditioned, finished⟩ := Action.bind_ok filtering
  obtain ⟨rfl, rfl⟩ := Action.pure_ok finished
  have ready : named.calls = searched.calls := Rendering.calls_eq quoted fun _ => .quote _ _
  exact .of_check once checked ready conditioned _ rfl

/-- No insert is rendered with a filter. -/
theorem insertStatement_unfiltered
    (ran : (insertStatement delegate state).runOn before = (.ok sql, after)) :
    state.filters = [] := by
  unfold insertStatement at ran
  obtain ⟨record, searched, checked, choosing⟩ := Action.bind_ok ran
  split at choosing
  · exact (Action.throw_ok choosing).elim
  · rename_i unfiltered
    simpa using unfiltered

end Generation

end RecordMapper
