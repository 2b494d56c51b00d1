import RecordMapper.Proofs.Query.Building
import RecordMapper.Proofs.Query.Sample

set_option autoImplicit false

/-!
What a generation that fails leaves of the query. Tables and filters are untouched, but nothing is
put back: statements that were finished before the failure stay, and a select or a count has taken
the limit and the orderings that no table has followed before it renders anything.
-/

namespace RecordMapper

namespace Generation

variable {Buffer : Type} {delegate : Delegate Buffer}

/-! ## Statements up to a failure -/

/-- Renderings whose texts become statements, one after another, up to the first that fails. -/
inductive Emission (delegate : Delegate Buffer) :
    List (Rendering Buffer String) → Draft Buffer → List Statement → Except Error Unit → Prop where
  | ended {draft : Draft Buffer} : Emission delegate [] draft [] (.ok ())
  | stopped {rendering : Rendering Buffer String} {renderings : List (Rendering Buffer String)}
      {before after : Draft Buffer} {error : Error} :
      rendering.runOn before = (.error error, after) →
      Emission delegate (rendering :: renderings) before [] (.error error)
  | emitted {rendering : Rendering Buffer String} {renderings : List (Rendering Buffer String)}
      {before after : Draft Buffer} {statement : Statement} {statements : List Statement}
      {outcome : Except Error Unit} :
      Emits delegate rendering before statement after →
      Emission delegate renderings after statements outcome →
      Emission delegate (rendering :: renderings) before (statement :: statements) outcome

/-- A run adds the statements of renderings to the query, up to the first that fails, and changes
nothing else of it. -/
def Appends (delegate : Delegate Buffer) (renderings : List (Rendering Buffer String))
    (before : Workspace Buffer) (ran : Except Error Unit × Workspace Buffer) : Prop :=
  ∃ statements, Emission delegate renderings before.draft statements ran.1 ∧
    ran.2.query = { before.query with statements := before.query.statements ++ statements }

theorem runOn_render (rendering : QueryState → Rendering Buffer String)
    (before : Workspace Buffer) :
    (Generating.render rendering).runOn before =
      (((rendering before.query).runOn before.draft).1,
        ⟨before.query, ((rendering before.query).runOn before.draft).2⟩) := rfl

theorem emission_eq (delegate : Delegate Buffer) (sql : String) (query : QueryState)
    (draft : Draft Buffer) :
    (Generating.emit delegate sql).runOn ⟨query, draft⟩ =
      (.ok (), ⟨query.pushStatement ⟨sql, (delegate.takeBindings draft.buffer).1⟩,
        ⟨(delegate.takeBindings draft.buffer).2, draft.calls⟩⟩) := rfl

theorem emits_of_rendered {rendering : Rendering Buffer String} {before rendered : Draft Buffer}
    {sql : String} (ran : rendering.runOn before = (.ok sql, rendered)) :
    Emits delegate rendering before ⟨sql, (delegate.takeBindings rendered.buffer).1⟩
      ⟨(delegate.takeBindings rendered.buffer).2, rendered.calls⟩ :=
  .taken ran rfl rfl

theorem emission_cases (delegate : Delegate Buffer)
    (rendering : QueryState → Rendering Buffer String) (before : Workspace Buffer) :
    let ran := Action.runOn (do
      let sql ← Generating.render rendering
      Generating.emit delegate sql) before
    (∃ error after, ran = (.error error, ⟨before.query, after⟩) ∧
        (rendering before.query).runOn before.draft = (.error error, after)) ∨
      ∃ statement after, ran = (.ok (), ⟨before.query.pushStatement statement, after⟩) ∧
        Emits delegate (rendering before.query) before.draft statement after := by
  dsimp only
  rw [Action.runOn_bind, runOn_render]
  rcases rendered : (rendering before.query).runOn before.draft with ⟨error | sql, draft⟩
  · exact .inl ⟨error, draft, rfl, rfl⟩
  · exact .inr ⟨_, _, emission_eq delegate sql before.query draft,
      emits_of_rendered rendered⟩

theorem forM_appends (delegate : Delegate Buffer) (keys : List SortKey) (tables : List Table)
    (before : Workspace Buffer) :
    Appends delegate (tables.map (joinedSelect delegate keys · before.query)) before
      (Action.runOn (tables.forM fun table => do
        let sql ← Generating.render (joinedSelect delegate keys table)
        Generating.emit delegate sql) before) := by
  induction tables generalizing before with
  | nil => exact ⟨[], .ended, by rw [List.append_nil]; rfl⟩
  | cons table tables ih =>
      have unrolled : Action.runOn ((table :: tables).forM fun table => do
            let sql ← Generating.render (joinedSelect delegate keys table)
            Generating.emit delegate sql) before =
          Action.runOn ((do
              let sql ← Generating.render (joinedSelect delegate keys table)
              Generating.emit delegate sql) >>= fun _ => tables.forM fun table => do
            let sql ← Generating.render (joinedSelect delegate keys table)
            Generating.emit delegate sql) before := rfl
      rw [unrolled, Action.runOn_bind, List.map_cons]
      rcases emission_cases delegate (joinedSelect delegate keys table) before with
        ⟨error, after, ran, fails⟩ | ⟨statement, after, ran, emits⟩
      · rw [ran]
        exact ⟨[], .stopped fails, by simp⟩
      · rw [ran]
        obtain ⟨statements, others, sameQuery⟩ :=
          ih ⟨before.query.pushStatement statement, after⟩
        refine ⟨statement :: statements, .emitted emits others, ?_⟩
        rw [sameQuery]
        simp [QueryState.pushStatement]

theorem select_appends (delegate : Delegate Buffer) (keys : List SortKey) (limit : Option Limit)
    (before : Workspace Buffer) :
    Appends delegate (selectRenderings delegate keys limit before.query) before
      (Action.runOn (do
        let sql ← Generating.render (rootSelect delegate keys limit)
        if before.query.command = .count then Generating.emit delegate (countText sql)
        else do
          Generating.emit delegate sql
          before.query.joinedTables.forM fun table => do
            let joinedSql ← Generating.render (joinedSelect delegate keys table)
            Generating.emit delegate joinedSql) before) := by
  unfold selectRenderings
  rw [Action.runOn_bind, runOn_render]
  rcases rendered : (rootSelect delegate keys limit before.query).runOn before.draft with
    ⟨error | sql, draft⟩
  · by_cases counts : before.query.command = .count
    · rw [if_pos counts]
      have counted : (countSelect delegate keys limit before.query).runOn before.draft =
          (.error error, draft) := by
        unfold countSelect
        rw [Action.runOn_bind, rendered]
      exact ⟨[], .stopped counted, by simp⟩
    · rw [if_neg counts]
      exact ⟨[], .stopped rendered, by simp⟩
  · by_cases counts : before.query.command = .count
    · simp only [if_pos counts]
      have counted : (countSelect delegate keys limit before.query).runOn before.draft =
          (.ok (countText sql), draft) := by
        unfold countSelect
        rw [Action.runOn_bind, rendered]
        rfl
      exact ⟨[_], .emitted (emits_of_rendered counted) .ended, rfl⟩
    · simp only [if_neg counts]
      rw [Action.runOn_bind, emission_eq]
      obtain ⟨statements, others, sameQuery⟩ := forM_appends delegate keys
        before.query.joinedTables
        ⟨before.query.pushStatement ⟨sql, (delegate.takeBindings draft.buffer).1⟩,
          ⟨(delegate.takeBindings draft.buffer).2, draft.calls⟩⟩
      refine ⟨_ :: statements, .emitted (emits_of_rendered rendered) others, ?_⟩
      rw [sameQuery]
      simp [QueryState.pushStatement]

end Generation

/-! ## What a command takes -/

namespace QueryState

/-- Whether the command selects rows, so that orderings and a limit mean something to it. -/
def Selects (state : QueryState) : Prop :=
  state.command = .select ∨ state.command = .count

instance (state : QueryState) : Decidable state.Selects :=
  inferInstanceAs (Decidable (_ ∨ _))

/-- A query without its limit and without the orderings that no table has followed. -/
def drained (state : QueryState) : QueryState :=
  { state with sorts := state.sorts.filter fun sort => !state.isUsable sort, limit := none }

/-- The query as a command renders it: a select or a count takes from it first. -/
def consumed (state : QueryState) : QueryState :=
  if state.Selects then state.drained else state

/-- A query without the orderings that a table has followed. -/
def usable (state : QueryState) : QueryState :=
  { state with sorts := state.sorts.filter state.isUsable }

end QueryState

namespace Generation

variable {Buffer : Type} {delegate : Delegate Buffer}

theorem generateSelect_cases (delegate : Delegate Buffer) (before : Workspace Buffer) :
    let state := before.query
    let ran := (generateSelect delegate).runOn before
    (∃ error, checkSortable state (state.usable.sorts.map (·.key)) = .error error ∧
        ran = (.error error, ⟨state.drained, before.draft⟩)) ∨
      Appends delegate
        (selectRenderings delegate (state.usable.sorts.map (·.key)) state.limit state)
        ⟨state.drained, before.draft⟩ ran := by
  intro state ran
  have taken : ran = Action.runOn (do
      Action.ofOutcome (checkSortable state (state.usable.sorts.map (·.key)))
      let sql ← Generating.render
        (rootSelect delegate (state.usable.sorts.map (·.key)) state.limit)
      if state.drained.command = .count then Generating.emit delegate (countText sql)
      else do
        Generating.emit delegate sql
        state.drained.joinedTables.forM fun table => do
          let joinedSql ← Generating.render
            (joinedSelect delegate (state.usable.sorts.map (·.key)) table)
          Generating.emit delegate joinedSql) ⟨state.drained, before.draft⟩ := rfl
  rw [taken, Action.runOn_bind]
  cases sortable : checkSortable state (state.usable.sorts.map (·.key)) with
  | error error => exact .inl ⟨error, rfl, rfl⟩
  | ok =>
      right
      exact select_appends delegate _ _ ⟨state.drained, before.draft⟩

theorem generateOne_appends (statement : Delegate Buffer → QueryState → Rendering Buffer String)
    (before : Workspace Buffer) :
    Appends delegate [statement delegate before.query] before
      ((generateOne delegate statement).runOn before) := by
  rcases emission_cases delegate (statement delegate) before with
    ⟨error, after, ran, fails⟩ | ⟨emitted, after, ran, emits⟩
  · refine ⟨[], ?_, ?_⟩
    · unfold generateOne
      rw [ran]
      exact .stopped fails
    · unfold generateOne
      rw [ran, List.append_nil]
  · refine ⟨[emitted], ?_, ?_⟩
    · unfold generateOne
      rw [ran]
      exact .emitted emits .ended
    · unfold generateOne
      rw [ran]
      rfl

theorem generateCommand_select {state : QueryState} (selects : state.Selects) :
    generateCommand delegate state.command = generateSelect delegate := by
  rcases selects with command | command <;> rw [command] <;> rfl

/-- No command that writes reads the orderings. -/
theorem renderings_change {state : QueryState} (changes : ¬state.Selects)
    (sorts : List PendingSort) :
    renderings delegate { state with sorts } = renderings delegate state := by
  obtain ⟨tables, command, filters, old, limit, values, columnFilter, statements⟩ := state
  cases command with
  | select => exact absurd (.inl rfl) changes
  | count => exact absurd (.inr rfl) changes
  | unset | update | delete | insert => rfl

theorem generateCommand_change (delegate : Delegate Buffer) {state : QueryState}
    (command : state.command ≠ .unset)
    (changes : ¬state.Selects) :
    ∃ statement : Delegate Buffer → QueryState → Rendering Buffer String,
      generateCommand delegate state.command = generateOne delegate statement ∧
        renderings delegate state.usable = [statement delegate state] := by
  rw [QueryState.usable, renderings_change changes, renderings]
  cases isCommand : state.command with
  | unset => exact absurd isCommand command
  | select => exact absurd (.inl isCommand) changes
  | count => exact absurd (.inr isCommand) changes
  | update => exact ⟨updateStatement, rfl, rfl⟩
  | delete => exact ⟨deleteStatement, rfl, rfl⟩
  | insert => exact ⟨insertStatement, rfl, rfl⟩

def Unsortable (state : QueryState) (error : Error) : Prop :=
  state.Selects ∧ checkSortable state (state.usable.sorts.map (·.key)) = .error error

/-- A command refuses its orderings, or it adds its statements up to the first that fails. -/
theorem generateCommand_cases (delegate : Delegate Buffer) (before : Workspace Buffer)
    (command : before.query.command ≠ .unset) :
    let state := before.query
    let ran := (generateCommand delegate state.command).runOn before
    (∃ error, Unsortable state error ∧
        ran = (.error error, ⟨state.consumed, before.draft⟩)) ∨
      Appends delegate (renderings delegate state.usable) ⟨state.consumed, before.draft⟩ ran := by
  intro state ran
  by_cases selects : state.Selects
  · have same : ran = (generateSelect delegate).runOn before := by
      rw [← generateCommand_select selects]
    have usable : renderings delegate state.usable = selectRenderings delegate
        (state.usable.sorts.map (·.key)) state.usable.limit state.usable :=
      renderings_select selects
    rw [same, QueryState.consumed, if_pos selects, usable]
    rcases generateSelect_cases delegate before with
      ⟨error, unsortable, refused⟩ | appends
    · exact .inl ⟨error, ⟨selects, unsortable⟩, refused⟩
    · exact .inr appends
  · obtain ⟨statement, isStatement, one⟩ :=
      generateCommand_change delegate command selects
    have same : ran = (generateOne delegate statement).runOn before := by rw [← isStatement]
    rw [same, QueryState.consumed, if_neg selects, one]
    exact .inr (generateOne_appends statement before)

/-! ## A generation that fails -/

/-- How a generation fails, and with which statements finished. -/
inductive Fails (delegate : Delegate Buffer) (state : QueryState) (draft : Draft Buffer) :
    Error → List Statement → Prop where
  | unset : state.command = .unset → Fails delegate state draft (.generation .commandUnset) []
  | tableless : state.tables = [] → Fails delegate state draft (.generation .noTables) []
  | unsortable {error : Error} : Unsortable state error → Fails delegate state draft error []
  | stopped {error : Error} {statements : List Statement} :
      Emission delegate (renderings delegate state.usable)
        ⟨(delegate.takeBindings draft.buffer).2, draft.calls⟩ statements (.error error) →
      Fails delegate state draft error statements
  /-- All statements are finished, but an ordering is left that none of them has used. -/
  | unused {statements : List Statement} :
      Emission delegate (renderings delegate state.usable)
        ⟨(delegate.takeBindings draft.buffer).2, draft.calls⟩ statements (.ok ()) →
      state.consumed.sorts ≠ [] →
      Fails delegate state draft (.generation .orderingsNotConsumed) statements

/-- A query as a failed generation leaves it. -/
def abandoned (state : QueryState) (statements : List Statement) : QueryState :=
  let left := if state.tables = [] then state else state.consumed
  { left with statements := state.statements ++ statements }

theorem abandoned_eq {state : QueryState} (some : state.tables ≠ []) (statements : List Statement) :
    abandoned state statements =
      { state.consumed with statements := state.consumed.statements ++ statements } := by
  have same : state.consumed.statements = state.statements := by
    unfold QueryState.consumed
    split <;> rfl
  rw [abandoned, if_neg some, same]

theorem generateEmptied_fails {state : QueryState} {draft : Draft Buffer} {error : Error}
    {after : Workspace Buffer} (command : state.command ≠ .unset) (some : state.tables ≠ [])
    (failed : (generateEmptied delegate).runOn
      ⟨state, ⟨(delegate.takeBindings draft.buffer).2, draft.calls⟩⟩ = (.error error, after)) :
    ∃ statements, Fails delegate state draft error statements ∧
      after.query = abandoned state statements := by
  unfold generateEmptied at failed
  rw [Action.runOn_bind_of_ok (rfl : Generating.query.runOn _ = (.ok state, _)),
    Action.runOn_bind] at failed
  rcases generateCommand_cases delegate
      ⟨state, ⟨(delegate.takeBindings draft.buffer).2, draft.calls⟩⟩ command with
    ⟨refusal, unsortable, ran⟩ | ⟨statements, emission, sameQuery⟩
  · rw [ran] at failed
    cases failed
    exact ⟨[], .unsortable unsortable, by rw [abandoned_eq some, List.append_nil]⟩
  rcases ran : (generateCommand delegate state.command).runOn
      ⟨state, ⟨(delegate.takeBindings draft.buffer).2, draft.calls⟩⟩ with ⟨stop | _, middle⟩
  · rw [ran] at failed emission sameQuery
    cases failed
    exact ⟨statements, .stopped emission, by rw [abandoned_eq some]; exact sameQuery⟩
  · rw [ran] at failed emission sameQuery
    dsimp only at failed
    rw [Action.runOn_bind_of_ok (rfl : Generating.query.runOn _ = (.ok middle.query, _))] at failed
    split at failed
    · rename_i pending
      cases failed
      have unused : state.consumed.sorts ≠ [] := by
        rw [sameQuery] at pending
        simpa using pending
      exact ⟨statements, .unused emission unused, by rw [abandoned_eq some]; exact sameQuery⟩
    · cases failed

theorem generate_fails {state : QueryState} {draft : Draft Buffer} {error : Error}
    {after : Workspace Buffer}
    (failed : (generate delegate).runOn ⟨state, draft⟩ = (.error error, after)) :
    ∃ statements, Fails delegate state draft error statements ∧
      after.query = abandoned state statements := by
  rw [generate_eq] at failed
  split at failed
  · rename_i unset
    cases failed
    refine ⟨[], .unset unset, ?_⟩
    have changes : ¬state.Selects := by
      simp only at unset
      simp [QueryState.Selects, unset]
    simp [abandoned, QueryState.consumed, changes]
  rename_i command
  split at failed
  · rename_i tableless
    cases failed
    have none : state.tables = [] := by simpa using tableless
    refine ⟨[], .tableless none, ?_⟩
    rw [abandoned, if_pos none, List.append_nil]
  · rename_i tables
    exact generateEmptied_fails command (by simpa using tables) failed

theorem abandoned_kept (state : QueryState) (statements : List Statement) :
    (abandoned state statements).command = state.command ∧
      (abandoned state statements).tables = state.tables ∧
      (abandoned state statements).filters = state.filters ∧
      (abandoned state statements).values = state.values ∧
      (abandoned state statements).columnFilter = state.columnFilter := by
  unfold abandoned QueryState.consumed
  split
  · exact ⟨rfl, rfl, rfl, rfl, rfl⟩
  split <;> exact ⟨rfl, rfl, rfl, rfl, rfl⟩

theorem abandoned_sorts (state : QueryState) (statements : List Statement) :
    if state.Selects ∧ state.tables ≠ [] then
      (abandoned state statements).sorts =
          state.sorts.filter (fun sort => sort.tableCount ≠ state.tables.length) ∧
        (abandoned state statements).limit = none
    else
      (abandoned state statements).sorts = state.sorts ∧
        (abandoned state statements).limit = state.limit := by
  unfold abandoned QueryState.consumed
  by_cases tableless : state.tables = []
  · simp [tableless]
  by_cases selects : state.Selects
  · simp only [selects, tableless, ne_eq, not_false_eq_true, and_self, if_true, if_false]
    refine ⟨List.filter_congr fun sort _ => ?_, rfl⟩
    rw [Bool.eq_iff_iff]
    simp [QueryState.isUsable]
  · simp [tableless, selects]

/-- A generation that fails leaves the tables and the filters alone. A select or a count has then
taken the limit and the orderings declared since the last table; another command has taken neither,
and fails again while an ordering is pending. The statements finished before the failure stay. -/
theorem generate_failed {state : QueryState} {draft : Draft Buffer} {error : Error}
    {after : Workspace Buffer}
    (failed : (generate delegate).runOn ⟨state, draft⟩ = (.error error, after)) :
    (after.query.command = state.command ∧ after.query.tables = state.tables ∧
      after.query.filters = state.filters ∧ after.query.values = state.values ∧
      after.query.columnFilter = state.columnFilter) ∧
    (if state.Selects ∧ state.tables ≠ [] then
        after.query.sorts =
            state.sorts.filter (fun sort => sort.tableCount ≠ state.tables.length) ∧
          after.query.limit = none
      else after.query.sorts = state.sorts ∧ after.query.limit = state.limit) ∧
    (∃ statements, after.query.statements = state.statements ++ statements ∧
      Fails delegate state draft error statements) ∧
    (¬state.Selects → state.sorts ≠ [] → ∀ later : Draft Buffer,
      ((generate delegate).runOn ⟨after.query, later⟩).1 ≠ .ok ()) := by
  obtain ⟨statements, fails, sameQuery⟩ := generate_fails failed
  have kept := abandoned_kept state statements
  have sorts := abandoned_sorts state statements
  rw [← sameQuery] at kept sorts
  refine ⟨kept, sorts, ⟨statements, by rw [sameQuery]; rfl, fails⟩, ?_⟩
  intro changes pending later succeeded
  have ran : (generate delegate).runOn ⟨after.query, later⟩ =
      (.ok (), ((generate delegate).runOn ⟨after.query, later⟩).2) := Prod.ext succeeded rfl
  obtain ⟨_, made⟩ := generate_ok ran
  rw [if_neg fun both => changes both.1] at sorts
  cases made.sorts with
  | selected selects _ _ =>
      rw [kept.1] at selects
      exact changes selects
  | absent _ _ none => exact pending (sorts.1.symm.trans none)

/-- A join by a column that its record does not have. -/
def misjoined : List BuildStep :=
  [.addTable Sample.author none, .addOrdering [⟨Sample.author, "name"⟩] false,
    .addTable Sample.book (some { Sample.books with rootMatch := ⟨Sample.book, "writer"⟩ }),
    .addOrdering [⟨Sample.book, "title"⟩] true, .setLimit ⟨1, 0⟩]

theorem generate_failed_sample :
    ∃ error after statements,
      (generate Dialect.sqlite.delegate).runOn ⟨QueryState.built .select misjoined, ⟨[], .zero⟩⟩ =
        (.error error, after) ∧
      after.query.sorts = [⟨⟨⟨Sample.author, "name"⟩, false⟩, 1⟩] ∧ after.query.limit = none ∧
      after.query.statements = statements ∧ statements.length = 1 ∧
      Fails Dialect.sqlite.delegate (QueryState.built .select misjoined) ⟨[], .zero⟩ error
        statements := by
  have ran : (generate Dialect.sqlite.delegate).runOn
      ⟨QueryState.built .select misjoined, ⟨[], .zero⟩⟩ =
        (.error (.generation (.unresolvedField "Book" "writer")), _) :=
    Prod.ext (by decide +kernel) rfl
  obtain ⟨-, sorts, ⟨statements, emitted, fails⟩, -⟩ := generate_failed ran
  rw [if_pos (by decide)] at sorts
  refine ⟨_, _, statements, ran, sorts.1.trans (by decide), sorts.2, emitted, ?_, fails⟩
  rw [← List.nil_append statements]
  exact congrArg List.length emitted.symm |>.trans (by decide +kernel)

/-- An ordering by a column that the joined record does not have, and a limit. -/
def missorted : List BuildStep :=
  [.addTable Sample.author none, .addTable Sample.book (some Sample.books),
    .addOrdering [⟨Sample.book, "subtitle"⟩] false, .setLimit ⟨1, 0⟩]

/-- The first generation fails behind the root's statement, and has taken the ordering and the
limit; the second one succeeds without them, behind the statement that was left. -/
theorem generate_forgets :
    let state := QueryState.built .select missorted
    let first := (generate Dialect.sqlite.delegate).runOn ⟨state, ⟨[], .zero⟩⟩
    let second := (generate Dialect.sqlite.delegate).runOn first.2
    first.1 = .error (.generation (.unresolvedField "Book" "subtitle")) ∧
      first.2.query.sorts ≠ state.sorts ∧ first.2.query.limit ≠ state.limit ∧
      first.2.query.statements ≠ state.statements ∧
      second.1 = .ok () ∧ second.2.query.statements =
        [⟨"SELECT DISTINCT \"t0\".* FROM \"author\" AS \"t0\" LIMIT 1", []⟩,
          ⟨"SELECT DISTINCT \"t0\".* FROM \"author\" AS \"t0\"", []⟩,
          ⟨"SELECT DISTINCT \"t1\".* FROM \"book\" AS \"t1\" JOIN \"author\" AS \"t0\" " ++
            "ON \"t0\".\"id\" = \"t1\".\"author_id\"", []⟩] := by
  decide +kernel

end Generation

end RecordMapper
