import RecordMapper.Proofs.Query.Generating
import RecordMapper.Proofs.Query.Likeness
import RecordMapper.Proofs.Query.Sample

set_option autoImplicit false

/-!
Statements of states that differ in their values. The values of filters and of the instance reach
the bindings and nothing else: not the text, not the number of statements and no error.
-/

namespace RecordMapper

namespace Likeness

variable {alike : Likeness} {state other : QueryState}

/-! ## Statements -/

theorem States.rootTable_eq (states : alike.States state other) :
    Generation.rootTable state = Generation.rootTable other := by
  obtain ⟨-, -⟩ := states
  rfl

theorem States.command_eq (states : alike.States state other) : state.command = other.command := by
  obtain ⟨-, -⟩ := states
  rfl

theorem rootSelect (states : alike.States state other) (keys : List SortKey)
    (limit : Option Limit) :
    Action.Agrees alike.Drafts alike.texts
      (Generation.rootSelect alike.first.delegate keys limit state)
      (Generation.rootSelect alike.second.delegate keys limit other) := by
  unfold Generation.rootSelect
  rw [states.rootTable_eq, states.command_eq]
  refine .bindEq (.ofOutcome (.refl _)) fun root => ?_
  refine .bind (alike.quote _) fun aliasName otherAlias isAlias => ?_
  refine .bind (alike.tableReference _) fun source otherSource isSource => ?_
  refine .bind (forcedClauses states _) fun joins otherJoins areJoins => ?_
  refine .bind (whereClause states) fun condition otherCondition isCondition => ?_
  have ending {order otherOrder : String} (isOrder : alike.texts order otherOrder) :
      Action.Agrees alike.Drafts alike.texts
        (do
          let window ← Generation.limitClause alike.first.delegate limit
          pure ("SELECT DISTINCT " ++ aliasName ++ ".* FROM " ++ source ++ joins ++ condition
            ++ order ++ window))
        (do
          let window ← Generation.limitClause alike.second.delegate limit
          pure ("SELECT DISTINCT " ++ otherAlias ++ ".* FROM " ++ otherSource ++ otherJoins
            ++ otherCondition ++ otherOrder ++ window)) := by
    refine .bind (alike.limitClause _) fun window otherWindow isWindow => .pure ?_
    apply_rules [alike.append, alike.fixed]
  dsimp only
  split
  · exact .bind (orderClause states _ _) fun order otherOrder isOrder => ending isOrder
  · exact .bindEq (.pure rfl) fun order => ending (alike.fixed order)

theorem joinedSelect (states : alike.States state other) (keys : List SortKey) (table : Table) :
    Action.Agrees alike.Drafts alike.texts
      (Generation.joinedSelect alike.first.delegate keys table state)
      (Generation.joinedSelect alike.second.delegate keys table other) := by
  have head : Action.Agrees alike.Drafts alike.texts
      (JoinClause.joinedHead alike.first.delegate state.scope table)
      (JoinClause.joinedHead alike.second.delegate other.scope table) := by
    obtain ⟨-, -⟩ := states
    exact alike.joinedHead _ _
  unfold Generation.joinedSelect
  refine .bind head fun text otherText isHead => ?_
  refine .bind (forcedClauses states _) fun joins otherJoins areJoins => ?_
  refine .bind (whereClause states) fun condition otherCondition isCondition => ?_
  refine .bind (orderClause states _ _) fun order otherOrder isOrder => .pure ?_
  apply_rules [alike.append, alike.fixed]

theorem checkRootOnly (root : RecordType) {filters others : List Expr}
    (exprs : List.Forall₂ (Expr.Alike alike.values) filters others) :
    Action.Agrees alike.Drafts Eq
      (Generation.checkRootOnly root filters : Rendering (List Binding) Unit)
      (Generation.checkRootOnly root others) := by
  induction exprs with
  | nil => exact .pure rfl
  | cons first _ ih =>
      unfold Generation.checkRootOnly
      rw [first.referencedTypes_eq]
      refine .bindEq (counting _) fun referenced => ?_
      split
      · exact .throw _
      · exact ih

theorem singleTable (states : alike.States state other) (command : String) :
    Action.Agrees alike.Drafts Eq
      (Generation.singleTable command state : Rendering (List Binding) RecordType)
      (Generation.singleTable command other) := by
  unfold Generation.singleTable
  rw [states.rootTable_eq]
  obtain ⟨filters, -⟩ := states
  refine .bindEq (.ofOutcome (.refl _)) fun root => ?_
  dsimp only
  split
  · exact .throw _
  · exact .bindEq (checkRootOnly _ filters) fun _ => .pure rfl

theorem assignment {values otherValues : Instance} {column : Column}
    (bound : alike.values (values.valueOrNull column.name) (otherValues.valueOrNull column.name)) :
    Action.Agrees alike.Drafts alike.texts
      (Generation.assignment alike.first.delegate values column)
      (Generation.assignment alike.second.delegate otherValues column) := by
  unfold Generation.assignment
  refine .bind (alike.quote _) fun name otherName isName => ?_
  refine .bind (bind bound) fun placeholder otherPlaceholder isPlaceholder => .pure ?_
  apply_rules [alike.append, alike.fixed]

theorem insertion {values otherValues : Instance} {column : Column}
    (bound : alike.values (values.valueOrNull column.name) (otherValues.valueOrNull column.name)) :
    Action.Agrees alike.Drafts
      (fun written other => alike.texts written.1 other.1 ∧ alike.texts written.2 other.2)
      (Generation.insertion alike.first.delegate values column)
      (Generation.insertion alike.second.delegate otherValues column) := by
  unfold Generation.insertion
  refine .bind (alike.quote _) fun name otherName isName => ?_
  exact .bind (bind bound) fun placeholder otherPlaceholder isPlaceholder =>
    .pure ⟨isName, isPlaceholder⟩

theorem updateStatement (states : alike.States state other) :
    Action.Agrees alike.Drafts alike.texts
      (Generation.updateStatement alike.first.delegate state)
      (Generation.updateStatement alike.second.delegate other) := by
  have conditioned := whereClause states
  have single := singleTable states "update"
  obtain ⟨-, bound⟩ := states
  unfold Generation.updateStatement
  refine .bindEq single fun record => .bindEq (.ofOutcome (.refl _)) fun columns => ?_
  split
  · exact .throw _
  · refine .bind (.mapMSame fun column _ => assignment (bound column.name))
      fun assignments otherAssignments areAssignments => ?_
    refine .bind (alike.quote _) fun table otherTable isTable => ?_
    refine .bind conditioned fun condition otherCondition isCondition => .pure ?_
    apply_rules [alike.append, alike.fixed, alike.intercalate]

theorem deleteStatement (states : alike.States state other) :
    Action.Agrees alike.Drafts alike.texts
      (Generation.deleteStatement alike.first.delegate state)
      (Generation.deleteStatement alike.second.delegate other) := by
  unfold Generation.deleteStatement
  refine .bindEq (singleTable states _) fun record => ?_
  refine .bind (alike.quote _) fun table otherTable isTable => ?_
  refine .bind (whereClause states) fun condition otherCondition isCondition => .pure ?_
  apply_rules [alike.append, alike.fixed]

theorem insertStatement (states : alike.States state other) :
    Action.Agrees alike.Drafts alike.texts
      (Generation.insertStatement alike.first.delegate state)
      (Generation.insertStatement alike.second.delegate other) := by
  have single := singleTable states "insert"
  obtain @⟨otherFilters, _, _, filters, bound⟩ := states
  have sameEmpty : state.filters.isEmpty = otherFilters.isEmpty := by
    generalize state.filters = written at filters
    cases filters <;> rfl
  unfold Generation.insertStatement
  refine .bindEq single fun record => ?_
  rw [sameEmpty]
  split
  · exact .throw _
  · refine .bindEq (.ofOutcome (.refl _)) fun columns => ?_
    split
    · exact .throw _
    · refine .bind (.mapMSame fun column _ => insertion (bound column.name))
        fun insertions otherInsertions areInsertions => ?_
      refine .bind (alike.quote _) fun table otherTable isTable => .pure ?_
      have names : List.Forall₂ alike.texts (insertions.map (·.1)) (otherInsertions.map (·.1)) := by
        rw [List.forall₂_map_left_iff, List.forall₂_map_right_iff]
        exact areInsertions.imp fun _ _ written => written.1
      have placeholders :
          List.Forall₂ alike.texts (insertions.map (·.2)) (otherInsertions.map (·.2)) := by
        rw [List.forall₂_map_left_iff, List.forall₂_map_right_iff]
        exact areInsertions.imp fun _ _ written => written.2
      apply_rules [alike.append, alike.fixed, alike.intercalate]

/-! ## Generation -/

def Statements (alike : Likeness) (statement other : Statement) : Prop :=
  alike.texts statement.sql other.sql ∧
    List.Forall₂ alike.Bindings statement.bindings other.bindings

def Emitted (alike : Likeness) (start first second : List Statement) : Prop :=
  ∃ statements others, first = start ++ statements ∧ second = start ++ others ∧
    List.Forall₂ alike.Statements statements others

structure Workspaces (alike : Likeness) (start : List Statement)
    (workspace other : Workspace (List Binding)) : Prop where
  query : alike.States workspace.query other.query
  draft : alike.Drafts workspace.draft other.draft
  statements : alike.Emitted start workspace.query.statements other.query.statements

variable {start : List Statement} {Result Other : Type}

theorem generating_render {matched : Result → Other → Prop}
    {rendering : QueryState → Rendering (List Binding) Result}
    {otherRendering : QueryState → Rendering (List Binding) Other}
    (agrees : ∀ state other, alike.States state other →
      Action.Agrees alike.Drafts matched (rendering state) (otherRendering other)) :
    Action.Agrees (alike.Workspaces start) matched (Generating.render rendering)
      (Generating.render otherRendering) := by
  intro before otherBefore related
  obtain ⟨agreed, drafts⟩ := agrees _ _ related.query _ _ related.draft
  exact ⟨agreed, related.query, drafts, related.statements⟩

theorem drainOrderings :
    Action.Agrees (alike.Workspaces start) Eq (Generating.update QueryState.drainOrderings)
      (Generating.update QueryState.drainOrderings) := by
  rintro ⟨state, draft⟩ ⟨_, otherDraft⟩ ⟨⟨filters, bound⟩, drafts, statements⟩
  exact ⟨.ok rfl, .differ filters bound, drafts, statements⟩

theorem takeLimit :
    Action.Agrees (alike.Workspaces start) Eq (Generating.update QueryState.takeLimit)
      (Generating.update QueryState.takeLimit) := by
  rintro ⟨state, draft⟩ ⟨_, otherDraft⟩ ⟨⟨filters, bound⟩, drafts, statements⟩
  exact ⟨.ok rfl, .differ filters bound, drafts, statements⟩

theorem query :
    Action.Agrees (alike.Workspaces start) alike.States (Generating.query)
      (Generating.query) :=
  fun _ _ related => ⟨.ok related.query, related⟩

theorem emit {sql otherSql : String} (texts : alike.texts sql otherSql) :
    Action.Agrees (alike.Workspaces start) Eq (Generating.emit alike.first.delegate sql)
      (Generating.emit alike.second.delegate otherSql) := by
  have taken (state other : QueryState) (_ : alike.States state other) :
      Action.Agrees alike.Drafts (List.Forall₂ alike.Bindings)
        (Rendering.takeBindings alike.first.delegate)
        (Rendering.takeBindings alike.second.delegate) :=
    fun _ _ drafts => ⟨.ok drafts.buffer, drafts.calls, .nil⟩
  unfold Generating.emit
  refine .bind (generating_render taken) fun bindings otherBindings areBindings => ?_
  rintro ⟨state, draft⟩ ⟨_, otherDraft⟩
    ⟨⟨filters, bound⟩, drafts, statements, others, same, otherSame, emitted⟩
  refine ⟨.ok rfl, .differ filters bound, drafts, statements ++ [⟨sql, bindings⟩],
    others ++ [⟨otherSql, otherBindings⟩], ?_, ?_,
    List.rel_append emitted (.cons ⟨texts, areBindings⟩ .nil)⟩
  · rw [← List.append_assoc, ← same]
    rfl
  · rw [← List.append_assoc, ← otherSame]
    rfl

theorem emission {rendering otherRendering : QueryState → Rendering (List Binding) String}
    (agrees : ∀ state other, alike.States state other →
      Action.Agrees alike.Drafts alike.texts (rendering state) (otherRendering other)) :
    Action.Agrees (alike.Workspaces start) Eq
      (do
        let sql ← Generating.render rendering
        Generating.emit alike.first.delegate sql)
      (do
        let sql ← Generating.render otherRendering
        Generating.emit alike.second.delegate sql) :=
  .bind (generating_render agrees) fun _ _ texts => emit texts

theorem generateSelect :
    Action.Agrees (alike.Workspaces start) Eq (Generation.generateSelect alike.first.delegate)
      (Generation.generateSelect alike.second.delegate) := by
  unfold Generation.generateSelect
  refine .bindEq drainOrderings fun keys => .bindEq takeLimit fun limit => ?_
  refine .bind query fun state other states => ?_
  have sortable : Generation.checkSortable state keys = Generation.checkSortable other keys := by
    obtain ⟨-, -⟩ := states
    rfl
  have sameJoined : state.joinedTables = other.joinedTables := by
    obtain ⟨-, -⟩ := states
    rfl
  rw [sortable, states.command_eq, sameJoined]
  refine .bindEq (.ofOutcome (.refl _)) fun _ => ?_
  refine .bind (generating_render fun _ _ states => rootSelect states keys limit)
    fun sql otherSql texts => ?_
  split
  · refine emit ?_
    apply_rules [alike.append, alike.fixed]
  · exact .bindEq (emit texts) fun _ =>
      .forM fun table _ => emission fun _ _ states => joinedSelect states keys table

theorem generateCommand (command : Command) :
    Action.Agrees (alike.Workspaces start) Eq
      (Generation.generateCommand alike.first.delegate command)
      (Generation.generateCommand alike.second.delegate command) := by
  cases command with
  | unset => exact .pure rfl
  | select => exact generateSelect
  | count => exact generateSelect
  | update => exact emission fun _ _ states => updateStatement states
  | delete => exact emission fun _ _ states => deleteStatement states
  | insert => exact emission fun _ _ states => insertStatement states

theorem generateEmptied :
    Action.Agrees (alike.Workspaces start) Eq (Generation.generateEmptied alike.first.delegate)
      (Generation.generateEmptied alike.second.delegate) := by
  unfold Generation.generateEmptied
  refine .bind query fun state other states => ?_
  rw [states.command_eq]
  refine .bindEq (generateCommand _) fun _ => .bind query fun after otherAfter states => ?_
  have sameSorts : after.sorts = otherAfter.sorts := by
    obtain ⟨-, -⟩ := states
    rfl
  rw [sameSorts]
  split
  · exact .throw _
  · exact .bindEq takeLimit fun _ => .pure rfl

/-- What was in the buffers makes no difference, since generation discards it. -/
theorem generate (states : alike.States state other)
    (statements : state.statements = other.statements) (buffer otherBuffer : List Binding)
    (calls : Calls) :
    let run := (Generation.generate alike.first.delegate).runOn ⟨state, ⟨buffer, calls⟩⟩
    let otherRun :=
      (Generation.generate alike.second.delegate).runOn ⟨other, ⟨otherBuffer, calls⟩⟩
    Agreed Eq run.1 otherRun.1 ∧
      alike.Emitted state.statements run.2.query.statements otherRun.2.query.statements := by
  have none : alike.Emitted state.statements state.statements other.statements :=
    ⟨[], [], by simp, by simp [statements], .nil⟩
  have sameTables : state.tables = other.tables := by
    obtain ⟨-, -⟩ := states
    rfl
  dsimp only
  rw [Generation.generate_eq, Generation.generate_eq, states.command_eq, sameTables]
  split
  · exact ⟨.error _, none⟩
  split
  · exact ⟨.error _, none⟩
  · have emptied : alike.Workspaces state.statements ⟨state, ⟨[], calls⟩⟩ ⟨other, ⟨[], calls⟩⟩ :=
      ⟨states, ⟨rfl, .nil⟩, none⟩
    obtain ⟨agreed, after⟩ := generateEmptied _ _ emptied
    exact ⟨agreed, after.statements⟩

/-- One dialect, with any two values in place of each other. Texts are the same. -/
def revalued (dialect : Dialect) : Likeness where
  first := dialect
  second := dialect
  values _ _ := True
  texts := Eq
  fixed _ := rfl
  append first rest := by rw [first, rest]
  quoted _ := rfl
  placeholder _ := rfl
  limit _ _ := rfl

theorem placeholders_eq {dialect : Dialect} {bindings others : List Binding}
    (areBindings : List.Forall₂ (revalued dialect).Bindings bindings others) :
    bindings.map (·.placeholder) = others.map (·.placeholder) := by
  rw [← List.forall₂_eq_eq_eq, List.forall₂_map_left_iff, List.forall₂_map_right_iff]
  refine areBindings.imp ?_
  rintro binding other ⟨index, isPlaceholder, isOther, -⟩
  exact isPlaceholder.trans isOther.symm

end Likeness

/-! ## One dialect -/

/-- An expression with other values in place of its literals, where those are not NULL. -/
abbrev Expr.Revalued : Expr → Expr → Prop :=
  Expr.Alike fun _ _ => True

/-- Statements that differ only in the values bound to their placeholders. -/
structure Statement.Revalued (statement other : Statement) : Prop where
  sql : statement.sql = other.sql
  placeholders : statement.bindings.map (·.placeholder) = other.bindings.map (·.placeholder)

theorem Likeness.Emitted.revalued {dialect : Dialect} {start statements others : List Statement}
    (emitted : (Likeness.revalued dialect).Emitted start statements others) :
    List.Forall₂ Statement.Revalued statements others := by
  obtain ⟨added, otherAdded, rfl, rfl, each⟩ := emitted
  refine List.rel_append (List.forall₂_same.mpr fun _ _ => ⟨rfl, rfl⟩) (each.imp ?_)
  rintro statement other ⟨sql, bindings⟩
  exact ⟨sql, placeholders_eq bindings⟩

namespace Generation

theorem generate_revalued (dialect : Dialect) (state : QueryState) {filters : List Expr}
    (revalued : List.Forall₂ Expr.Revalued state.filters filters) (values : Instance)
    (buffer otherBuffer : List Binding) (calls : Calls) :
    let run := (generate dialect.delegate).runOn ⟨state, ⟨buffer, calls⟩⟩
    let other := (generate dialect.delegate).runOn
      ⟨{ state with filters, values }, ⟨otherBuffer, calls⟩⟩
    run.1 = other.1 ∧
      List.Forall₂ Statement.Revalued run.2.query.statements other.2.query.statements := by
  have states : (Likeness.revalued dialect).States state { state with filters, values } :=
    .differ revalued fun _ => trivial
  obtain ⟨agreed, emitted⟩ := Likeness.generate states rfl buffer otherBuffer calls
  exact ⟨agreed.eq, emitted.revalued⟩

/-- A title and a filter with quotes in their values. -/
theorem generate_revalued_sample :
    let filters :=
      [.binary .and (.binary .ne (.field ⟨Sample.book, "title"⟩) (.literal (.text "'; --")))
        (.binary .eq (.field ⟨Sample.book, "author_id"⟩) (.literal .null))]
    let values := [("title", .text "\" = \"")]
    let run := (generate Dialect.postgres.delegate).runOn ⟨Sample.retitled, ⟨[], .zero⟩⟩
    let other := (generate Dialect.postgres.delegate).runOn
      ⟨{ Sample.retitled with filters, values }, ⟨[], .zero⟩⟩
    List.Forall₂ Expr.Revalued Sample.retitled.filters filters ∧
      run.1 = other.1 ∧
      List.Forall₂ Statement.Revalued run.2.query.statements other.2.query.statements := by
  have revalued :
      List.Forall₂ Expr.Revalued Sample.retitled.filters
        [.binary .and (.binary .ne (.field ⟨Sample.book, "title"⟩) (.literal (.text "'; --")))
          (.binary .eq (.field ⟨Sample.book, "author_id"⟩) (.literal .null))] :=
    .cons (.binary (.binary (.field _) (.literal rfl rfl trivial)) (.binary (.field _) .null)) .nil
  exact ⟨revalued, generate_revalued .postgres _ revalued _ _ _ _⟩

end Generation

end RecordMapper
