import RecordMapper.Proofs.Query.Sample
import RecordMapper.Proofs.Query.Scoping
import RecordMapper.Proofs.Sql.Bare

set_option autoImplicit false

/-!
Every alias that a generated statement uses is introduced in it, once and over the table of its
record type. For a query whose joins are typed, the tokens of each select and count show it, and
those of each statement that writes show no alias at all.
-/

namespace RecordMapper

/-! ## Selects -/

/-- The tokens of a select on a table: which aliases it introduces, that each qualified name means
one of them, and that the condition of a join uses those introduced by then. -/
structure WellScoped (tables : List Table) (first : Table) (tokens : List Sql.Token) : Prop where
  first : (Sql.introductions tokens).head? = some first.source
  introduced : ∀ source ∈ Sql.introductions tokens, ∃ table ∈ tables, source = table.source
  distinct : ((Sql.introductions tokens).map (·.aliasName)).Nodup
  references : ∀ reference ∈ Sql.references tokens, ∃ table ∈ tables, table.Refers reference ∧
    (Sql.introductions tokens).filter (·.aliasName = reference.qualifier) = [table.source]
  conditions : ∀ before after, tokens = before ++ .word "ON" :: after →
    ∀ reference ∈ Sql.references (Sql.onCondition after),
      reference.qualifier ∈ (Sql.introductions before).map (·.aliasName)

theorem filter_alias {sources : List Sql.Source} (distinct : (sources.map (·.aliasName)).Nodup)
    {source : Sql.Source} (member : source ∈ sources) :
    sources.filter (·.aliasName = source.aliasName) = [source] := by
  induction sources with
  | nil => cases member
  | cons other sources ih =>
      rw [List.map_cons, List.nodup_cons] at distinct
      obtain ⟨fresh, distinct⟩ := distinct
      rcases List.mem_cons.mp member with rfl | inOthers
      · have absent : sources.filter (·.aliasName = source.aliasName) = [] := by
          rw [List.filter_eq_nil_iff]
          intro later isLater same
          exact fresh (of_decide_eq_true same ▸ List.mem_map_of_mem isLater)
        simp [absent]
      · have different : other.aliasName ≠ source.aliasName :=
          fun same => fresh (same ▸ List.mem_map_of_mem inOthers)
        simp [different, ih distinct inOthers]

namespace Sql.Select.Uses

variable {dialect : Dialect} {select : Sql.Select} {first : Table} {used tables : List Table}

theorem sources (uses : select.Uses first used) : select.sources = used.map (·.source) := by
  rw [uses.links.sources, Sql.Select.sources, uses.source]
  rfl

theorem aliases_nodup (uses : select.Uses first used) (members : used ⊆ tables)
    (aliases : (tables.map (·.aliasName)).Nodup) : (used.map (·.aliasName)).Nodup := by
  refine uses.nodup.map_on fun table isTable other isOther same => ?_
  exact List.inj_on_of_nodup_map aliases (members isTable) (members isOther) same

theorem wellScoped (uses : select.Uses first used) (members : used ⊆ tables)
    (aliases : (tables.map (·.aliasName)).Nodup) {front rest : List Sql.Token}
    (frontIntroductions : ∀ rest, Sql.introductions (front ++ rest) = Sql.introductions rest)
    (frontReferences : ∀ rest, Sql.references (front ++ rest) = Sql.references rest)
    (frontOnless : .word "ON" ∉ front) (noIntroductions : Sql.introductions rest = [])
    (noReferences : Sql.references rest = []) (onless : .word "ON" ∉ rest)
    (ends : Sql.EndsComparison rest) :
    WellScoped tables first (front ++ (select.read dialect ++ rest)) := by
  have introductions : Sql.introductions (front ++ (select.read dialect ++ rest)) =
      used.map (·.source) := by
    rw [frontIntroductions, Sql.introductions_select, noIntroductions, uses.sources,
      List.append_nil]
  have references : Sql.references (front ++ (select.read dialect ++ rest)) =
      select.references := by
    rw [frontReferences, Sql.references_select select ends, noReferences, List.append_nil]
  have distinct : ((used.map (·.source)).map (·.aliasName)).Nodup := by
    rw [List.map_map]
    exact uses.aliases_nodup members aliases
  refine ⟨?_, ?_, introductions ▸ distinct, ?_, ?_⟩
  · rw [introductions, ← uses.sources, Sql.Select.sources, uses.source]
    rfl
  · rw [introductions]
    intro source member
    obtain ⟨table, isTable, rfl⟩ := List.mem_map.mp member
    exact ⟨table, members isTable, rfl⟩
  · rw [references, introductions]
    intro reference member
    obtain ⟨table, isTable, refers⟩ := uses.references reference member
    refine ⟨table, members isTable, refers, ?_⟩
    rw [refers.1]
    exact filter_alias distinct (List.mem_map_of_mem isTable)
  · intro before after split reference member
    -- An ON stands in the select, after one of its joins, and not around it.
    obtain ⟨between, rfl, inside⟩ := Sql.split_after frontOnless split
    obtain ⟨earlier, link, others, links, sources, condition⟩ :=
      Sql.on_select onless ends inside
    rw [condition] at member
    obtain ⟨table, -, refers, introduced⟩ := uses.links.split links member
    rw [frontIntroductions, sources, refers.1, uses.source]
    exact List.mem_map_of_mem introduced

theorem wellScoped_rows (uses : select.Uses first used) (members : used ⊆ tables)
    (aliases : (tables.map (·.aliasName)).Nodup) :
    WellScoped tables first ((Sql.Sentence.rows select).read dialect) := by
  have bare : WellScoped tables first ([] ++ (select.read dialect ++ [])) :=
    uses.wellScoped members aliases (fun _ => rfl) (fun _ => rfl) (by simp) rfl rfl (by simp)
      (by simp [Sql.EndsComparison])
  simpa [Sql.Sentence.read] using bare

theorem wellScoped_count (uses : select.Uses first used) (members : used ⊆ tables)
    (aliases : (tables.map (·.aliasName)).Nodup) :
    WellScoped tables first ((Sql.Sentence.count select).read dialect) := by
  refine uses.wellScoped members aliases (fun rest => ?_) (fun _ => rfl) (by decide) rfl rfl
    (by decide) (by simp [Sql.EndsComparison, Sql.Token.isComparison])
  exact Sql.introductions_skip (.mark '(') rest rfl

end Sql.Select.Uses

/-! ## Statements that write -/

/-- The tokens of a statement on a root alone: no alias, and no name but the root's table, its
columns and the column names that the filters give as they are. -/
structure Unqualified (root : RecordType) (filters : List Expr) (tokens : List Sql.Token) :
    Prop where
  references : Sql.references tokens = []
  introductions : Sql.introductions tokens = []
  names : ∀ name, .name name ∈ tokens → name = root.table ∨
    name ∈ root.columns.map (·.name) ∨ ∃ filter ∈ filters, filter.NamesColumn name
  mentions : ∀ filter ∈ filters, ∀ record, filter.Mentions record → record = root

theorem ColumnFilter.columns_subset {filter : ColumnFilter} {record : RecordType}
    {columns : List Column} (chosen : filter.columns record = .ok columns) :
    columns ⊆ record.columns := by
  unfold ColumnFilter.columns at chosen
  split at chosen
  · cases chosen
  · cases chosen
    exact List.filter_subset_self _

theorem Instance.assignments_columns (values : Instance) (bound : Nat) (columns : List Column) :
    (values.assignments bound columns).map (·.column) = columns.map (·.name) := by
  induction columns generalizing bound with
  | nil => rfl
  | cons column columns ih => simp [assignments, ih]

namespace QueryState

variable {state : QueryState} {root : Table}

theorem mem_searchAll {filters : List Expr} (steady : ∀ filter ∈ filters, filter.Steady)
    {filter : Expr} (isFilter : filter ∈ filters) {record : RecordType}
    (mentions : filter.Mentions record) (calls : Calls) :
    ∃ records ∈ ((filters.mapM Expr.referencedTypes).run calls).1, record ∈ records := by
  induction filters generalizing calls with
  | nil => cases isFilter
  | cons first rest ih =>
      obtain ⟨firstSteady, restSteady⟩ := List.forall_mem_cons.mp steady
      have found : (((first :: rest).mapM Expr.referencedTypes).run calls).1 =
          (first.referencedTypes.run calls).1 ::
            ((rest.mapM Expr.referencedTypes).run (first.referencedTypes.run calls).2).1 := by
        rw [List.mapM_cons]
        rfl
      rw [found]
      rcases List.mem_cons.mp isFilter with rfl | isOther
      · exact ⟨_, List.mem_cons_self, firstSteady.mem_referencedTypes mentions calls⟩
      · obtain ⟨records, isFound, isRecord⟩ := ih restSteady isOther _
        exact ⟨records, List.mem_cons_of_mem _ isFound, isRecord⟩

theorem Single.mentions {calls after : Calls} (single : state.Single root calls after)
    (steady : ∀ filter ∈ state.filters, filter.Steady) :
    ∀ filter ∈ state.filters, ∀ record, filter.Mentions record → record = root.record := by
  intro filter isFilter record mentions
  obtain ⟨-, searched, onlyRoot⟩ := single
  obtain ⟨records, isFound, isRecord⟩ := mem_searchAll steady isFilter mentions calls
  rw [searched] at isFound
  exact onlyRoot records isFound record isRecord

def Knows (state : QueryState) (root : Table) (name : String) : Prop :=
  name = root.record.table ∨ name ∈ root.record.columns.map (·.name) ∨
    ∃ filter ∈ state.filters, filter.NamesColumn name

theorem Single.conditions {calls after : Calls} (single : state.Single root calls after)
    (steady : ∀ filter ∈ state.filters, filter.Steady) (bare : state.scope.qualified = false)
    {before last : Progress} {phrases : List Sql.Phrase}
    (writes : state.scope.WritesAll state.filters before phrases last) :
    ∀ name ∈ phrases.flatMap (·.columns), name.IsBare (state.Knows root) := by
  intro name member
  obtain ⟨filter, isFilter, written⟩ := writes.columns member
  rcases written with ⟨column, named, rfl⟩ | ⟨reference, mentions, found⟩
  · exact ⟨rfl, .inr (.inr ⟨filter, isFilter, named⟩)⟩
  · refine ⟨Scope.columnName?_bare bare found, .inr (.inl ?_)⟩
    rw [← single.mentions steady filter isFilter reference.record mentions]
    exact FieldRef.column?_mem (Scope.columnName?_column found)

theorem assignments_known {bound : Nat} {columns : List Column}
    (chosen : state.columnFilter.columns root.record = .ok columns) :
    ∀ assignment ∈ state.values.assignments bound columns,
      state.Knows root assignment.column := by
  intro assignment member
  have isColumn : assignment.column ∈ columns.map (·.name) :=
    state.values.assignments_columns bound columns ▸ List.mem_map_of_mem member
  exact .inr (.inl (List.map_subset _ (ColumnFilter.columns_subset chosen) isColumn))

/-- A statement that writes is on the root alone, which is the only table. -/
theorem Changes.unqualified (dialect : Dialect) {before after : Progress} {command : Command}
    {sentence : Sql.Sentence} (changes : state.Changes before command sentence after)
    (steady : ∀ filter ∈ state.filters, filter.Steady) (bare : state.scope.qualified = false) :
    ∃ root, state.tables = [root] ∧
      Unqualified root.record state.filters (sentence.read dialect) := by
  have single {root : Table} {calls last : Calls} (single : state.Single root calls last)
      (knows : sentence.Knows (state.Knows root)) :
      ∃ root, state.tables = [root] ∧
        Unqualified root.record state.filters (sentence.read dialect) := by
    have tokens := Sql.sentence_bare dialect knows
    exact ⟨root, single.tables_eq, Sql.references_bare tokens, Sql.introductions_bare tokens,
      fun name member => tokens _ member, single.mentions steady⟩
  cases changes with
  | update isSingle chosen writes =>
      exact single isSingle (.update (.inl rfl) (assignments_known chosen)
        (isSingle.conditions steady bare writes))
  | delete isSingle writes =>
      exact single isSingle (.delete (.inl rfl) (isSingle.conditions steady bare writes))
  | insert isSingle unfiltered chosen =>
      exact single isSingle (.insert (.inl rfl) (assignments_known chosen))

end QueryState

/-! ## Generated statements -/

namespace Query

/-- The states that a query hands over to be generated. A write has an instance set. -/
inductive Prepares (query : Query) (command : Command) : QueryState → Prop where
  | plain {state : QueryState} :
      query.toState command = .ok state → Prepares query command state
  | written {state : QueryState} (values : Instance) (columnFilter : ColumnFilter) :
      query.toState command = .ok state →
      Prepares query command (state.setInstance values columnFilter)

theorem addStage_command {state next : QueryState} {stage : Stage}
    (added : addStage state stage = .ok next) : next.command = state.command := by
  cases stage with
  | join record join =>
      obtain ⟨joined, joining, pivoting⟩ := bind_ok added
      obtain ⟨-, rfl⟩ := QueryState.addTable_ok joining
      cases through : join.pivot with
      | none =>
          simp only [through] at pivoting
          cases pivoting
          rfl
      | some pivot =>
          simp only [through] at pivoting
          obtain ⟨-, rfl⟩ := QueryState.addTable_ok pivoting
          rfl
  | filter | ordering | limit =>
      cases added
      rfl

theorem addStages_command {state next : QueryState} {stages : List Stage}
    (added : stages.foldlM addStage state = .ok next) : next.command = state.command := by
  induction stages generalizing state with
  | nil =>
      cases added
      rfl
  | cons stage stages ih =>
      rw [List.foldlM_cons] at added
      obtain ⟨middle, first, rest⟩ := bind_ok added
      rw [ih rest, addStage_command first]

theorem toState_command {query : Query} {command : Command} {state : QueryState}
    (built : query.toState command = .ok state) : state.command = command := by
  obtain ⟨start, rooted, rest⟩ := bind_ok built
  obtain ⟨-, rfl⟩ := QueryState.addTable_ok rooted
  exact addStages_command rest

theorem Prepares.attached {query : Query} {command : Command} {state : QueryState}
    (prepares : query.Prepares command state) (typed : query.IsTyped) :
    state.IsAttached query.root ∧ state.command = command := by
  cases prepares with
  | plain built => exact ⟨toState_attached typed built, toState_command built⟩
  | written values columnFilter built =>
      have sameCommand := toState_command built
      exact ⟨{ toState_attached typed built with }, sameCommand⟩

end Query

namespace QueryState

variable {state : QueryState} {dialect : Dialect}

def Scopes (state : QueryState) (dialect : Dialect) (table : Table) (statement : Statement) :
    Prop :=
  match state.command with
  | .select | .count => WellScoped state.tables table (Sql.tokens dialect statement.sql)
  | _ => state.tables = [table] ∧
      Unqualified table.record state.filters (Sql.tokens dialect statement.sql)

def statementTables (state : QueryState) : List Table :=
  match state.command with
  | .select => state.root?.toList ++ state.joinedTables
  | _ => state.root?.toList

theorem Scopes.of_select {table : Table} {sentence : Sql.Sentence}
    (qualified : state.scope.qualified = true)
    (scopes : WellScoped state.tables table (sentence.read dialect)) :
    state.Scopes dialect table (sentence.statement dialect) := by
  have tokens : Sql.tokens dialect (sentence.statement dialect).sql = sentence.read dialect :=
    (sentence.spells dialect).tokens_eq
  unfold Scopes
  rw [tokens]
  cases command : state.command <;> simp_all [scope]

theorem Scopes.of_change {table : Table} {sentence : Sql.Sentence}
    (bare : state.scope.qualified = false) (tables : state.tables = [table])
    (scopes : Unqualified table.record state.filters (sentence.read dialect)) :
    state.Scopes dialect table (sentence.statement dialect) := by
  have tokens : Sql.tokens dialect (sentence.statement dialect).sql = sentence.read dialect :=
    (sentence.spells dialect).tokens_eq
  unfold Scopes
  rw [tokens]
  cases command : state.command <;> simp_all [scope]

theorem IsAttached.joined_scopes {root : Table} (attached : state.IsAttached root.record)
    (dialect : Dialect) (qualified : state.scope.qualified = true) {tables : List Table}
    (members : tables ⊆ state.tables) {keys : List SortKey} {calls after : Calls}
    {selects : List Sql.Select}
    (selected : Threaded (fun table before select after => ∃ bound,
      state.SelectsJoined keys root table ⟨before, 0⟩ select ⟨after, bound⟩)
      tables calls selects after) :
    List.Forall₂ (state.Scopes dialect) tables
      ((selects.map Sql.Sentence.rows).map (·.statement dialect)) := by
  induction selected with
  | nil => exact .nil
  | cons taken _ ih =>
      obtain ⟨member, others⟩ := List.cons_subset.mp members
      obtain ⟨bound, selects⟩ := taken
      obtain ⟨used, usedMembers, uses⟩ := attached.selectsJoined qualified member selects
      exact .cons (.of_select qualified (uses.wellScoped_rows usedMembers attached.aliases_nodup))
        (ih others)

theorem IsAttached.root_scopes {root : RecordType} {first : Table} (attached : state.IsAttached root)
    (qualified : state.scope.qualified = true) {keys : List SortKey} {limit : Option Limit}
    {before after : Progress} {select : Sql.Select}
    (selects : state.SelectsRoot keys limit first before select after) :
    first.record = root ∧
      state.Scopes dialect first ((Sql.Sentence.rows select).statement dialect) ∧
      state.Scopes dialect first ((Sql.Sentence.count select).statement dialect) := by
  obtain ⟨-, rfl, -⟩ := attached.root_mem selects.first
  obtain ⟨used, members, uses⟩ := attached.selectsRoot qualified selects
  exact ⟨rfl, .of_select qualified (uses.wellScoped_rows members attached.aliases_nodup),
    .of_select qualified (uses.wellScoped_count members attached.aliases_nodup)⟩

theorem IsAttached.sentences_scope {root : RecordType} (attached : state.IsAttached root)
    {calls after : Calls} {sentences : List Sql.Sentence}
    (written : state.Sentences calls sentences after) :
    List.Forall₂ (state.Scopes dialect) state.statementTables
      (sentences.map (·.statement dialect)) := by
  cases written with
  | select command selects joined =>
      have qualified : state.scope.qualified = true := by simp [scope, command]
      obtain ⟨rfl, rows, -⟩ := attached.root_scopes qualified selects
      have others := attached.joined_scopes dialect qualified (List.filter_subset_self _) joined
      rw [statementTables, command, selects.first]
      exact .cons rows others
  | count command selects =>
      have qualified : state.scope.qualified = true := by simp [scope, command]
      obtain ⟨-, -, count⟩ := attached.root_scopes qualified selects
      rw [statementTables, command, selects.first]
      exact .cons count .nil
  | change changes =>
      have bare : state.scope.qualified = false ∧ state.statementTables = state.root?.toList := by
        cases command : state.command with
        | unset | select | count =>
            rw [command] at changes
            cases changes
        | update | delete | insert => simp [scope, statementTables, command]
      obtain ⟨table, tables, unqualified⟩ :=
        changes.unqualified dialect attached.steady bare.1
      rw [bare.2, root?, tables]
      exact .cons (.of_change bare.1 tables unqualified) .nil

end QueryState

namespace Generation

/-- In every statement of a typed query, an alias that qualifies a name is introduced once, over
the table of its record type; a join compares what is introduced by then; and a statement that
writes has no alias. -/
theorem generate_wellScoped {dialect : Dialect} {query : Query} (typed : query.IsTyped)
    {command : Command} {before after : Workspace (List Binding)}
    (prepares : query.Prepares command before.query)
    (succeeded : (generate dialect.delegate).runOn before = (.ok (), after)) :
    before.query.command = command ∧
      before.query.root?.map (·.record) = some query.root ∧
      (before.query.tables.map (·.aliasName)).Nodup ∧
      ∃ emitted, after.query.statements = before.query.statements ++ emitted ∧
        List.Forall₂ (before.query.Scopes dialect) before.query.statementTables emitted := by
  obtain ⟨attached, sameCommand⟩ := prepares.attached typed
  obtain ⟨root, first, sameRecord, -⟩ := attached.first
  obtain ⟨sentences, written, -, sameQuery, -⟩ := generate_sentences succeeded
  refine ⟨sameCommand, ?_, attached.aliases_nodup, sentences.map (·.statement dialect), ?_, ?_⟩
  · rw [first, ← sameRecord]
    rfl
  · rw [sameQuery]
    rfl
  · exact attached.sentences_scope written

theorem sample_isTyped : Sample.query.IsTyped := by
  constructor
  · intro stage member
    simp only [Sample.query, List.mem_cons, List.not_mem_nil, or_false] at member
    rcases member with rfl | rfl | rfl | rfl | rfl | rfl
    · exact ⟨rfl, rfl, by simp [Sample.books], by simp [Sample.books]⟩
    · exact ⟨rfl, rfl, by simp [Sample.genres], by simp [Sample.genres]⟩
    all_goals trivial
  · intro stage member
    simp only [Sample.query, List.mem_cons, List.not_mem_nil, or_false] at member
    rcases member with rfl | rfl | rfl | rfl | rfl | rfl
    · trivial
    · trivial
    · refine .deferred (fun call => .binary (.field _) (.literal _)) ?_
      intro first second record mentions
      cases mentions with
      | left field => exact .left field
      | right literal => cases literal
    all_goals trivial

theorem generate_wellScoped_sample :
    Sample.query.IsTyped ∧ Sample.query.Prepares .select (Sample.state .select) ∧
      ∃ after, (generate Dialect.sqlite.delegate).runOn ⟨Sample.state .select, ⟨[], .zero⟩⟩ =
          (.ok (), after) ∧
        ((Sample.state .select).tables.map (·.aliasName)).Nodup ∧
        ∃ emitted, after.query.statements = emitted ∧ emitted.length = 3 ∧
          List.Forall₂ ((Sample.state .select).Scopes .sqlite)
            (Sample.state .select).statementTables emitted := by
  have prepares : Sample.query.Prepares .select (Sample.state .select) := .plain rfl
  have ran : (generate Dialect.sqlite.delegate).runOn ⟨Sample.state .select, ⟨[], .zero⟩⟩ = _ :=
    generate_of_isOk (by decide +kernel)
  obtain ⟨-, -, distinct, emitted, added, scopes⟩ :=
    generate_wellScoped sample_isTyped prepares ran
  exact ⟨sample_isTyped, prepares, _, ran, distinct, emitted, added, scopes.length_eq.symm, scopes⟩

end Generation

end RecordMapper
