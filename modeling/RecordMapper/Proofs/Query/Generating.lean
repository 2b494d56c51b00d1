import RecordMapper.Proofs.Action
import RecordMapper.Query.Generation

set_option autoImplicit false

/-!
What a successful generation does for any delegate. It renders the statements of the command one
after another, takes the values that each has bound, and leaves no ordering and no limit behind.
-/

namespace RecordMapper

theorem Rendering.takeBindings_ok {Buffer : Type} {delegate : Delegate Buffer}
    {bindings : List Binding} {draft after : Draft Buffer}
    (succeeded : (takeBindings delegate).runOn draft = (.ok bindings, after)) :
    after.calls = draft.calls ∧ delegate.takeBindings draft.buffer = (bindings, after.buffer) := by
  cases succeeded
  exact ⟨rfl, rfl⟩

namespace Generating

variable {Buffer Result : Type} {before after : Workspace Buffer}

theorem query_ok {state : QueryState}
    (succeeded : (query : Generating Buffer QueryState).runOn before = (.ok state, after)) :
    after = before ∧ state = before.query := by
  cases succeeded
  exact ⟨rfl, rfl⟩

theorem update_ok {change : QueryState → Result × QueryState} {result : Result}
    (succeeded : (update change : Generating Buffer Result).runOn before = (.ok result, after)) :
    after.draft = before.draft ∧ change before.query = (result, after.query) := by
  cases succeeded
  exact ⟨rfl, rfl⟩

theorem render_ok {rendering : QueryState → Rendering Buffer Result} {result : Result}
    (succeeded : (render rendering).runOn before = (.ok result, after)) :
    after.query = before.query ∧
      (rendering before.query).runOn before.draft = (.ok result, after.draft) := by
  obtain ⟨outcome, sameAfter⟩ := Prod.mk.inj succeeded
  subst sameAfter
  exact ⟨rfl, Prod.ext outcome rfl⟩

theorem emit_ok {delegate : Delegate Buffer} {sql : String}
    (succeeded : (emit delegate sql).runOn before = (.ok (), after)) :
    ∃ bindings, after.query = before.query.pushStatement ⟨sql, bindings⟩ ∧
      after.draft.calls = before.draft.calls ∧
      delegate.takeBindings before.draft.buffer = (bindings, after.draft.buffer) := by
  unfold emit at succeeded
  obtain ⟨bindings, middle, taken, pushing⟩ := Action.bind_ok succeeded
  obtain ⟨sameQuery, draftTaken⟩ := render_ok taken
  obtain ⟨sameCalls, split⟩ := Rendering.takeBindings_ok draftTaken
  obtain ⟨sameDraft, pushed⟩ := update_ok pushing
  obtain ⟨-, pushed⟩ := Prod.mk.inj pushed
  refine ⟨bindings, ?_, ?_, ?_⟩
  · rw [← pushed, sameQuery]
  · rw [sameDraft, sameCalls]
  · rw [sameDraft, split]

end Generating

namespace Generation

variable {Buffer : Type} {delegate : Delegate Buffer}

/-- A rendering whose text becomes a statement, with the values bound for it. -/
inductive Emits (delegate : Delegate Buffer) (rendering : Rendering Buffer String)
    (before : Draft Buffer) (statement : Statement) (after : Draft Buffer) : Prop where
  | taken {rendered : Draft Buffer} :
      rendering.runOn before = (.ok statement.sql, rendered) →
      delegate.takeBindings rendered.buffer = (statement.bindings, after.buffer) →
      after.calls = rendered.calls → Emits delegate rendering before statement after

def countText (sql : String) : String :=
  "SELECT COUNT(*) AS count FROM (" ++ sql ++ ") AS s1"

def countSelect (delegate : Delegate Buffer) (keys : List SortKey) (limit : Option Limit)
    (state : QueryState) : Rendering Buffer String := do
  let sql ← rootSelect delegate keys limit state
  pure (countText sql)

def renderings (delegate : Delegate Buffer) (state : QueryState) :
    List (Rendering Buffer String) :=
  let keys := state.sorts.map (·.key)
  match state.command with
  | .unset => []
  | .select =>
      rootSelect delegate keys state.limit state ::
        state.joinedTables.map (joinedSelect delegate keys · state)
  | .count => [countSelect delegate keys state.limit state]
  | .update => [updateStatement delegate state]
  | .delete => [deleteStatement delegate state]
  | .insert => [insertStatement delegate state]

/-- A query with its orderings and its limit used, and more statements. -/
def generated (state : QueryState) (statements : List Statement) : QueryState :=
  { state with sorts := [], limit := none, statements := state.statements ++ statements }

/-- Whether a command can use the orderings of a state. -/
inductive SortsUsed (state : QueryState) : Prop where
  | selected :
      state.command = .select ∨ state.command = .count →
      (∀ sort ∈ state.sorts, state.isUsable sort) →
      checkSortable state (state.sorts.map (·.key)) = .ok () → SortsUsed state
  | absent :
      state.command ≠ .select → state.command ≠ .count → state.sorts = [] → SortsUsed state

variable {before after : Workspace Buffer}

theorem emission_ok {rendering : QueryState → Rendering Buffer String}
    (succeeded : Action.runOn (do
      let sql ← Generating.render rendering
      Generating.emit delegate sql) before = (.ok (), after)) :
    ∃ statement, Emits delegate (rendering before.query) before.draft statement after.draft ∧
      after.query = before.query.pushStatement statement := by
  obtain ⟨sql, middle, rendered, emitting⟩ := Action.bind_ok succeeded
  obtain ⟨sameQuery, draftRendered⟩ := Generating.render_ok rendered
  obtain ⟨bindings, pushed, sameCalls, taken⟩ := Generating.emit_ok emitting
  exact ⟨⟨sql, bindings⟩, .taken draftRendered taken sameCalls, sameQuery ▸ pushed⟩

theorem joinedSelects_ok {keys : List SortKey} {tables : List Table}
    (succeeded : Action.runOn (tables.forM fun table => do
      let sql ← Generating.render (joinedSelect delegate keys table)
      Generating.emit delegate sql) before = (.ok (), after)) :
    ∃ statements, Threaded (Emits delegate)
        (tables.map (joinedSelect delegate keys · before.query)) before.draft statements
        after.draft ∧
      after.query =
        { before.query with statements := before.query.statements ++ statements } := by
  induction tables generalizing before with
  | nil =>
      obtain ⟨rfl, -⟩ := Action.pure_ok succeeded
      exact ⟨[], .nil, by simp⟩
  | cons table tables ih =>
      obtain ⟨_, middle, emitted, emitting⟩ := Action.bind_ok succeeded
      obtain ⟨statement, emits, pushed⟩ := emission_ok emitted
      obtain ⟨statements, others, ended⟩ := ih emitting
      -- No rendering reads the statements that are there already.
      have unread : (tables.map (joinedSelect delegate keys · middle.query)) =
          tables.map (joinedSelect delegate keys · before.query) := by
        rw [pushed]
        rfl
      refine ⟨statement :: statements, .cons emits (unread ▸ others), ?_⟩
      rw [ended, pushed]
      simp [QueryState.pushStatement]

theorem drainOrderings_usable {state drained : QueryState} {keys : List SortKey}
    (taken : state.drainOrderings = (keys, drained)) (none : drained.sorts = []) :
    (∀ sort ∈ state.sorts, state.isUsable sort) ∧ keys = state.sorts.map (·.key) ∧
      drained = { state with sorts := [] } := by
  obtain ⟨rfl, rfl⟩ := Prod.mk.inj taken
  have usable : ∀ sort ∈ state.sorts, state.isUsable sort := by
    simpa using none
  refine ⟨usable, by rw [List.filter_eq_self.mpr usable], ?_⟩
  simpa using usable

def selectRenderings (delegate : Delegate Buffer) (keys : List SortKey) (limit : Option Limit)
    (state : QueryState) : List (Rendering Buffer String) :=
  if state.command = .count then [countSelect delegate keys limit state]
  else rootSelect delegate keys limit state ::
    state.joinedTables.map (joinedSelect delegate keys · state)

theorem selects_ok {keys : List SortKey} {limit : Option Limit}
    (succeeded : Action.runOn (do
      let sql ← Generating.render (rootSelect delegate keys limit)
      if before.query.command = .count then Generating.emit delegate (countText sql)
      else do
        Generating.emit delegate sql
        before.query.joinedTables.forM fun table => do
          let joinedSql ← Generating.render (joinedSelect delegate keys table)
          Generating.emit delegate joinedSql) before = (.ok (), after)) :
    ∃ statements, Threaded (Emits delegate)
        (selectRenderings delegate keys limit before.query) before.draft statements after.draft ∧
      after.query =
        { before.query with statements := before.query.statements ++ statements } := by
  obtain ⟨sql, middle, rendered, emitting⟩ := Action.bind_ok succeeded
  obtain ⟨sameQuery, draftRendered⟩ := Generating.render_ok rendered
  split at emitting
  · rename_i counts
    obtain ⟨bindings, pushed, sameCalls, taken⟩ := Generating.emit_ok emitting
    have emits : Emits delegate (countSelect delegate keys limit before.query) before.draft
        ⟨countText sql, bindings⟩ after.draft := by
      refine .taken ?_ taken sameCalls
      unfold countSelect
      rw [Action.runOn_bind, draftRendered]
      rfl
    refine ⟨[⟨countText sql, bindings⟩], ?_, sameQuery ▸ pushed⟩
    rw [selectRenderings, if_pos counts]
    exact .cons emits .nil
  · rename_i selects
    obtain ⟨_, start, emitted, joining⟩ := Action.bind_ok emitting
    obtain ⟨bindings, pushed, sameCalls, taken⟩ := Generating.emit_ok emitted
    obtain ⟨statements, others, ended⟩ := joinedSelects_ok joining
    have unread : before.query.joinedTables.map (joinedSelect delegate keys · start.query) =
        before.query.joinedTables.map (joinedSelect delegate keys · before.query) := by
      rw [pushed, sameQuery]
      rfl
    refine ⟨⟨sql, bindings⟩ :: statements, ?_, ?_⟩
    · rw [selectRenderings, if_neg selects]
      exact .cons (.taken draftRendered taken sameCalls) (unread ▸ others)
    · rw [ended, pushed, sameQuery]
      simp [QueryState.pushStatement]

/-- No rendering reads the orderings and the limit of the query. -/
theorem selectRenderings_drained (keys : List SortKey) (limit : Option Limit)
    (state : QueryState) :
    selectRenderings delegate keys limit { state with sorts := [], limit := none } =
      selectRenderings delegate keys limit state := rfl

theorem renderings_select {state : QueryState}
    (selects : state.command = .select ∨ state.command = .count) :
    renderings delegate state =
      selectRenderings delegate (state.sorts.map (·.key)) state.limit state := by
  unfold renderings selectRenderings
  rcases selects with selects | counts
  · simp [selects]
  · simp [counts]

theorem generateSelect_ok
    (selects : before.query.command = .select ∨ before.query.command = .count)
    (succeeded : (generateSelect delegate).runOn before = (.ok (), after))
    (none : after.query.sorts = []) :
    SortsUsed before.query ∧ ∃ statements,
      Threaded (Emits delegate) (renderings delegate before.query) before.draft statements
        after.draft ∧
      after.query = { before.query with
        sorts := [], limit := Option.none,
        statements := before.query.statements ++ statements } := by
  unfold generateSelect at succeeded
  obtain ⟨keys, first, drained, limiting⟩ := Action.bind_ok succeeded
  obtain ⟨firstDraft, taken⟩ := Generating.update_ok drained
  obtain ⟨limit, second, limited, querying⟩ := Action.bind_ok limiting
  obtain ⟨secondDraft, limitTaken⟩ := Generating.update_ok limited
  obtain ⟨rfl, secondQuery⟩ := Prod.mk.inj limitTaken
  obtain ⟨state, third, queried, checking⟩ := Action.bind_ok querying
  obtain ⟨rfl, rfl⟩ := Generating.query_ok queried
  obtain ⟨_, start, checked, rendering⟩ := Action.bind_ok checking
  obtain ⟨rfl, sortable⟩ := Action.ofOutcome_ok checked
  obtain ⟨statements, emits, ended⟩ := selects_ok rendering
  have noneLeft : first.query.sorts = [] := by
    rw [ended, ← secondQuery] at none
    exact none
  obtain ⟨usable, rfl, firstQuery⟩ := drainOrderings_usable taken noneLeft
  have startQuery : start.query = { before.query with sorts := [], limit := Option.none } := by
    rw [← secondQuery, firstQuery]
  have sameDraft : start.draft = before.draft := secondDraft.trans firstDraft
  refine ⟨.selected selects usable ?_, statements, ?_, ?_⟩
  · rw [startQuery] at sortable
    exact sortable
  · rw [startQuery, firstQuery, selectRenderings_drained, sameDraft] at emits
    rw [renderings_select selects]
    exact emits
  · rw [ended, startQuery]

theorem generateOne_ok
    {statement : Delegate Buffer → QueryState → Rendering Buffer String}
    (succeeded : (generateOne delegate statement).runOn before = (.ok (), after)) :
    ∃ statements, Threaded (Emits delegate) [statement delegate before.query] before.draft
        statements after.draft ∧
      after.query =
        { before.query with statements := before.query.statements ++ statements } := by
  obtain ⟨emitted, emits, pushed⟩ := emission_ok succeeded
  exact ⟨[emitted], .cons emits .nil, pushed⟩

/-- What a command leaves: its statements, every ordering used. -/
structure Commanded (delegate : Delegate Buffer) (before after : Workspace Buffer)
    (statements : List Statement) : Prop where
  sorts : SortsUsed before.query
  emitted : Threaded (Emits delegate) (renderings delegate before.query) before.draft statements
    after.draft
  query : generated after.query [] = generated before.query statements

theorem generateCommand_ok (command : before.query.command ≠ .unset)
    (succeeded : (generateCommand delegate before.query.command).runOn before = (.ok (), after))
    (none : after.query.sorts = []) :
    ∃ statements, Commanded delegate before after statements := by
  have selects (selecting : before.query.command = .select ∨ before.query.command = .count)
      (ran : (generateSelect delegate).runOn before = (.ok (), after)) :
      ∃ statements, Commanded delegate before after statements := by
    obtain ⟨used, statements, emits, ended⟩ := generateSelect_ok selecting ran none
    exact ⟨statements, used, emits, by rw [ended]; simp [generated]⟩
  have changes {statement : Delegate Buffer → QueryState → Rendering Buffer String}
      (one : renderings delegate before.query = [statement delegate before.query])
      (notSelect : before.query.command ≠ .select) (notCount : before.query.command ≠ .count)
      (ran : (generateOne delegate statement).runOn before = (.ok (), after)) :
      ∃ statements, Commanded delegate before after statements := by
    obtain ⟨statements, emits, ended⟩ := generateOne_ok ran
    rw [ended] at none
    exact ⟨statements, .absent notSelect notCount none, one ▸ emits,
      by rw [ended]; simp [generated]⟩
  cases isCommand : before.query.command with
  | unset => exact absurd isCommand command
  | select =>
      rw [isCommand] at succeeded
      exact selects (.inl isCommand) succeeded
  | count =>
      rw [isCommand] at succeeded
      exact selects (.inr isCommand) succeeded
  | update | delete | insert =>
      rw [isCommand] at succeeded
      exact changes (by simp [renderings, isCommand]) (by simp [isCommand])
        (by simp [isCommand]) succeeded

/-- A generation that succeeds. Values that were in the buffer are discarded first. -/
structure Generated (delegate : Delegate Buffer) (before after : Workspace Buffer)
    (statements : List Statement) : Prop where
  command : before.query.command ≠ .unset
  tables : before.query.tables ≠ []
  sorts : SortsUsed before.query
  emitted : Threaded (Emits delegate) (renderings delegate before.query)
    ⟨(delegate.takeBindings before.draft.buffer).2, before.draft.calls⟩ statements after.draft
  query : after.query = generated before.query statements

theorem generate_ok (succeeded : (generate delegate).runOn before = (.ok (), after)) :
    ∃ statements, Generated delegate before after statements := by
  unfold generate at succeeded
  obtain ⟨state, opened, queried, checking⟩ := Action.bind_ok succeeded
  obtain ⟨rfl, rfl⟩ := Generating.query_ok queried
  split at checking
  · exact (Action.throw_ok checking).elim
  rename_i command
  split at checking
  · exact (Action.throw_ok checking).elim
  rename_i tables
  obtain ⟨_, start, discarded, commanding⟩ := Action.bind_ok checking
  obtain ⟨sameQuery, draftTaken⟩ := Generating.render_ok discarded
  obtain ⟨sameCalls, taken⟩ := Rendering.takeBindings_ok draftTaken
  obtain ⟨_, ended, commanded, closing⟩ := Action.bind_ok commanding
  obtain ⟨last, middle, lastQueried, checkingSorts⟩ := Action.bind_ok closing
  obtain ⟨rfl, rfl⟩ := Generating.query_ok lastQueried
  split at checkingSorts
  · exact (Action.throw_ok checkingSorts).elim
  rename_i unsorted
  obtain ⟨_, _, limited, finished⟩ := Action.bind_ok checkingSorts
  obtain ⟨rfl, -⟩ := Action.pure_ok finished
  obtain ⟨sameDraft, limitTaken⟩ := Generating.update_ok limited
  have noneLeft : middle.query.sorts = [] := by simpa using unsorted
  rw [← sameQuery] at commanded
  obtain ⟨statements, ran⟩ := generateCommand_ok (sameQuery ▸ command) commanded noneLeft
  have started : start.draft = ⟨(delegate.takeBindings opened.draft.buffer).2,
      opened.draft.calls⟩ := by
    rw [taken, ← sameCalls]
  obtain ⟨-, limitDropped⟩ := Prod.mk.inj limitTaken
  refine ⟨statements, command, by simpa using tables, sameQuery ▸ ran.sorts, ?_, ?_⟩
  · rw [← sameQuery, sameDraft, ← started]
    exact ran.emitted
  · rw [← sameQuery, ← ran.query, ← limitDropped]
    simp [generated, noneLeft]

theorem generate_of_isOk {Buffer : Type} {delegate : Delegate Buffer}
    {workspace : Workspace Buffer}
    (succeeded : ((generate delegate).runOn workspace).1.isOk = true) :
    (generate delegate).runOn workspace = (.ok (), ((generate delegate).runOn workspace).2) := by
  rcases outcome : (generate delegate).runOn workspace with ⟨error | result, after⟩
  · rw [outcome] at succeeded
    cases succeeded
  · rfl

/-- A generation once the buffer is emptied. -/
def generateEmptied (delegate : Delegate Buffer) : Generating Buffer Unit := do
  let state ← Generating.query
  generateCommand delegate state.command
  let after ← Generating.query
  if !after.sorts.isEmpty then throw (.generation .orderingsNotConsumed)
  else do
    let _ ← Generating.update QueryState.takeLimit
    pure ()

theorem generate_eq (delegate : Delegate Buffer) (workspace : Workspace Buffer) :
    (generate delegate).runOn workspace =
      if workspace.query.command = .unset then (.error (.generation .commandUnset), workspace)
      else if workspace.query.tables.isEmpty then (.error (.generation .noTables), workspace)
      else (generateEmptied delegate).runOn
        ⟨workspace.query,
          ⟨(delegate.takeBindings workspace.draft.buffer).2, workspace.draft.calls⟩⟩ := by
  unfold generate
  rw [Action.runOn_bind_of_ok (rfl : Generating.query.runOn workspace = (.ok _, workspace))]
  split
  · rfl
  split
  · rfl
  · rfl

end Generation

end RecordMapper
