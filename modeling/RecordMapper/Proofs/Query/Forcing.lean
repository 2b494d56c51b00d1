import RecordMapper.Proofs.Query.Feeding
import RecordMapper.Proofs.Query.Registering
import RecordMapper.Proofs.Sql.JoinLine

set_option autoImplicit false

/-!
Which tables the filters force on a statement, and the joins that it has for them. A record type
that a filter mentions must have a table, and unless it is the root's or the statement's own, the
table must have come with a join. A statement has the joins of these tables and no others.
-/

namespace RecordMapper

/-- A table that a statement on `current` has to join. -/
def QueryState.Forces (state : QueryState) (root current : RecordType) (table : Table) : Prop :=
  table.record ≠ root ∧ table.record ≠ current ∧ state.Mentions table.record

/-- What a resolver of joins has to answer. An unknown record type comes first, then a table that no
join has brought in; otherwise the forced record types are given, in the order of their tables. -/
structure QueryState.Resolves (state : QueryState) (root current : RecordType)
    (outcome : Except Error (List RecordType)) : Prop where
  unknown : (∃ name, outcome = .error (.generation (.unknownType name))) ↔
    ∃ record, state.Mentions record ∧ state.table? record = none
  unjoined : (∃ name, outcome = .error (.generation (.joinWithoutClause name))) ↔
    (∀ record, state.Mentions record → state.table? record ≠ none) ∧
      ∃ table ∈ state.tables, state.Forces root current table ∧ table.join = none
  forced : (∀ record, state.Mentions record → state.table? record ≠ none) →
    (∀ table ∈ state.tables, state.Forces root current table → table.join ≠ none) →
    ∃ records, outcome = .ok records ∧ records.Sublist (state.tables.map (·.record)) ∧
      records.Nodup ∧
      ∀ record, record ∈ records ↔
        ∃ table ∈ state.tables, table.record = record ∧ state.Forces root current table

namespace JoinClause

variable {Buffer : Type} {scope : Scope} {state : QueryState} {root : Table}
  {current : RecordType} {referenced : List RecordType} {tables : List Table}

/-! ## The two checks -/

theorem checkReferenced_cases (scope : Scope) (referenced : List RecordType) :
    (checkReferenced scope referenced = .ok () ∧
        ∀ record ∈ referenced, scope.table? record ≠ none) ∨
      ∃ record ∈ referenced, scope.table? record = none ∧
        checkReferenced scope referenced = .error (.generation (.unknownType record.name)) := by
  induction referenced with
  | nil => exact .inl ⟨rfl, by simp⟩
  | cons record rest ih =>
      unfold checkReferenced Scope.lookup
      cases found : scope.table? record with
      | none => exact .inr ⟨record, List.mem_cons_self, found, rfl⟩
      | some table =>
          rcases ih with ⟨passed, known⟩ | ⟨other, isOther, unknown, failed⟩
          · exact .inl ⟨passed, List.forall_mem_cons.mpr ⟨by simp [found], known⟩⟩
          · exact .inr ⟨other, List.mem_cons_of_mem _ isOther, unknown, failed⟩

theorem lookupJoin_eq {table : Table} (found : scope.table? table.record = some table) :
    scope.lookupJoin table.record =
      table.join.elim (.error (.generation (.joinWithoutClause table.record.name))) .ok := by
  have looked : scope.lookup table.record = .ok table := by rw [Scope.lookup, found]
  unfold Scope.lookupJoin
  rw [looked]
  dsimp only
  cases attached : table.join with
  | none => simp
  | some join => simp

theorem selectForced_cases (found : ∀ table ∈ tables, scope.table? table.record = some table)
    (root current : RecordType) (referenced : List RecordType) :
    (selectForced scope root current referenced tables =
          .ok ((tables.filter (isForced root current referenced)).map (·.record)) ∧
        ∀ table ∈ tables, isForced root current referenced table = true → table.join ≠ none) ∨
      ∃ table ∈ tables, isForced root current referenced table = true ∧ table.join = none ∧
        selectForced scope root current referenced tables =
          .error (.generation (.joinWithoutClause table.record.name)) := by
  induction tables with
  | nil => exact .inl ⟨rfl, by simp⟩
  | cons table rest ih =>
      obtain ⟨here, others⟩ := List.forall_mem_cons.mp found
      rw [selectForced_cons]
      split
      · rename_i forced
        rw [lookupJoin_eq here]
        cases attached : table.join with
        | none => exact .inr ⟨table, List.mem_cons_self, forced, attached, rfl⟩
        | some join =>
            rcases ih others with ⟨selected, joined⟩ | ⟨other, isOther, isForced, alone, failed⟩
            · refine .inl ⟨?_, List.forall_mem_cons.mpr ⟨fun _ => by simp [attached], joined⟩⟩
              rw [selected, List.filter_cons_of_pos forced]
              rfl
            · refine .inr ⟨other, List.mem_cons_of_mem _ isOther, isForced, alone, ?_⟩
              rw [failed]
              rfl
      · rename_i unforced
        rcases ih others with ⟨selected, joined⟩ | ⟨other, isOther, forced, alone, failed⟩
        · refine .inl ⟨?_, List.forall_mem_cons.mpr ⟨by simp [unforced], joined⟩⟩
          rw [selected, List.filter_cons_of_neg unforced]
        · exact .inr ⟨other, List.mem_cons_of_mem _ isOther, forced, alone, failed⟩

/-! ## The resolver -/

theorem isForced_iff (named : ∀ record, record ∈ referenced ↔ state.Mentions record)
    (root current : RecordType) (table : Table) :
    isForced root current referenced table = true ↔ state.Forces root current table := by
  simp only [isForced, decide_eq_true_eq, named]
  rfl

/-- An unknown record type comes first, then a table that no join has brought in. -/
theorem resolve_cases (distinct : state.IsDistinct)
    (named : ∀ record, record ∈ referenced ↔ state.Mentions record) (root current : RecordType) :
    (∃ record, state.Mentions record ∧ state.table? record = none ∧
        resolve state root current referenced =
          .error (.generation (.unknownType record.name))) ∨
      (∀ record, state.Mentions record → state.table? record ≠ none) ∧
        ((∃ table ∈ state.tables, state.Forces root current table ∧ table.join = none ∧
            resolve state root current referenced =
              .error (.generation (.joinWithoutClause table.record.name))) ∨
          (∀ table ∈ state.tables, state.Forces root current table → table.join ≠ none) ∧
            resolve state root current referenced =
              .ok ((state.tables.filter (isForced root current referenced)).map (·.record))) := by
  unfold resolve
  rcases checkReferenced_cases state.scope referenced with
    ⟨passed, known⟩ | ⟨record, isNamed, unknown, failed⟩
  · refine .inr ⟨fun record mentions => known record ((named record).mpr mentions), ?_⟩
    rw [passed]
    have found : ∀ table ∈ state.tables, state.scope.table? table.record = some table :=
      fun table member => distinct.table?_eq member
    rcases selectForced_cases found root current referenced with
      ⟨selected, joined⟩ | ⟨table, isTable, forced, alone, refused⟩
    · exact .inr ⟨fun table member forces =>
        joined table member ((isForced_iff named root current table).mpr forces), selected⟩
    · exact .inl ⟨table, isTable, (isForced_iff named root current table).mp forced, alone, refused⟩
  · refine .inl ⟨record, (named record).mp isNamed, unknown, ?_⟩
    rw [failed]
    rfl

end JoinClause

/-! ## The joins of a statement -/

namespace QueryState

variable {state : QueryState} {root : Table} {current : RecordType} {dialect : Dialect}

/-- A statement that has joins of its own and then, for each record type that is forced on it, those
that reach it from the root. -/
def JoinsForced (state : QueryState) (dialect : Dialect) (current : RecordType)
    (own : List Sql.Link) (statement : Statement) : Prop :=
  ∃ (calls : Calls) (forced : List RecordType) (groups : List (List Sql.Link)),
    ((JoinClause.forced state current).runOn (⟨[], calls⟩ : Draft (List Binding))).1 = .ok forced ∧
    List.Forall₂ state.scope.Reaches forced groups ∧
    Sql.joins (Sql.tokens dialect statement.sql) = own ++ groups.flatten

theorem IsDistinct.reached_joined (distinct : state.IsDistinct) {tables : List Table}
    (members : tables ⊆ state.tables) {groups : List (List Sql.Link)}
    (reaches : List.Forall₂ (fun table links => state.scope.Reaches table.record links)
      tables groups) :
    ∀ table ∈ tables, table.join.isSome := by
  induction reaches with
  | nil => simp
  | cons reached _ ih =>
      obtain ⟨member, others⟩ := List.cons_subset.mp members
      refine List.forall_mem_cons.mpr ⟨?_, ih others⟩
      have found := distinct.table?_eq member
      cases reached with
      | direct registered joined | pivot registered joined =>
          obtain rfl := Option.some.inj (found.symm.trans registered)
          rw [joined]
          rfl

/-- The joins of a select are those that the resolver asks for. -/
theorem Joins.resolved (distinct : state.IsDistinct) (first : state.root? = some root)
    {calls after : Calls} {links : List Sql.Link}
    (joins : state.Joins root current calls links after) :
    ∃ forced groups,
      ((JoinClause.forced state current).runOn (⟨[], calls⟩ : Draft (List Binding))).1 =
        .ok forced ∧
      List.Forall₂ state.scope.Reaches forced groups ∧ links = groups.flatten := by
  cases joins with
  | @forced referenced groups _ searched known reaches =>
      have joined := distinct.reached_joined (List.filter_subset_self _) reaches
      have resolved : JoinClause.resolve state root.record current referenced =
          .ok ((state.tables.filter (JoinClause.isForced root.record current referenced)).map
            (·.record)) := by
        unfold JoinClause.resolve
        rcases JoinClause.checkReferenced_cases state.scope referenced with
          ⟨passed, -⟩ | ⟨record, isNamed, unknown, -⟩
        · rcases JoinClause.selectForced_cases (fun table member => distinct.table?_eq member)
              root.record current referenced with
            ⟨selected, -⟩ | ⟨table, isTable, isForced, alone, -⟩
          · rw [passed]
            exact selected
          · have isJoined := joined table (List.mem_filter.mpr ⟨isTable, isForced⟩)
            simp [alone] at isJoined
        · have isKnown := known record isNamed
          rw [show state.table? record = none from unknown] at isKnown
          cases isKnown
      refine ⟨_, groups, ?_, List.forall₂_map_left_iff.mpr reaches, rfl⟩
      rw [JoinClause.forced_run first, searched, resolved]

theorem SelectsRoot.joinsForced (distinct : state.IsDistinct) {keys : List SortKey}
    {limit : Option Limit} {before after : Progress} {select : Sql.Select}
    (selects : state.SelectsRoot keys limit root before select after) {statement : Statement}
    (shows : Sql.joins (Sql.tokens dialect statement.sql) = select.links) :
    state.JoinsForced dialect root.record [] statement := by
  obtain ⟨calls, joins, -⟩ := selects.body
  obtain ⟨forced, groups, resolved, reaches, links⟩ := joins.resolved distinct selects.first
  exact ⟨_, forced, groups, resolved, reaches, shows.trans links⟩

theorem SelectsJoined.joinsForced (distinct : state.IsDistinct) {keys : List SortKey}
    {table : Table} {before after : Progress} {select : Sql.Select}
    (selects : state.SelectsJoined keys root table before select after) :
    ∃ key own, state.scope.Returns root table key own ∧
      state.JoinsForced dialect table.record own ((Sql.Sentence.rows select).statement dialect) := by
  obtain ⟨own, forcedLinks, calls, returns, joins, links, -⟩ := selects.body
  obtain ⟨forced, groups, resolved, reaches, rfl⟩ := joins.resolved distinct selects.first
  exact ⟨_, own, returns, _, forced, groups, resolved, reaches,
    (Sql.joins_rows select).trans links⟩

end QueryState

namespace Generation

variable {dialect : Dialect} {state : QueryState}

theorem forced_resolves {Buffer : Type} {root : Table} (distinct : state.IsDistinct)
    (first : state.root? = some root) (steady : ∀ filter ∈ state.filters, filter.Steady)
    (several : 2 ≤ state.tables.length) (current : RecordType) (draft : Draft Buffer) :
    state.Resolves root.record current ((JoinClause.forced state current).runOn draft).1 := by
  have named (record : RecordType) :
      record ∈ (state.search.run draft.calls).1 ↔ state.Mentions record :=
    QueryState.mem_search_iff steady several draft.calls
  have resolved := congrArg Prod.fst (JoinClause.forced_run first current draft)
  generalize ((JoinClause.forced state current).runOn draft).1 = outcome at resolved
  rcases JoinClause.resolve_cases distinct named root.record current with
    ⟨record, mentions, unknown, failed⟩ | ⟨known, ⟨table, isTable, forces, alone, failed⟩ |
      ⟨joined, passed⟩⟩
  · rw [failed] at resolved
    refine ⟨⟨fun _ => ⟨record, mentions, unknown⟩, fun _ => ⟨_, resolved⟩⟩, ⟨?_, ?_⟩, ?_⟩
    · rintro ⟨name, same⟩
      cases resolved.symm.trans same
    · rintro ⟨known, -⟩
      exact absurd unknown (known record mentions)
    · intro known
      exact absurd unknown (known record mentions)
  · rw [failed] at resolved
    refine ⟨⟨?_, ?_⟩, ⟨fun _ => ⟨known, table, isTable, forces, alone⟩, fun _ => ⟨_, resolved⟩⟩, ?_⟩
    · rintro ⟨name, same⟩
      cases resolved.symm.trans same
    · rintro ⟨record, mentions, unknown⟩
      exact absurd unknown (known record mentions)
    · intro _ joined
      exact absurd alone (joined table isTable forces)
  · rw [passed] at resolved
    refine ⟨⟨?_, ?_⟩, ⟨?_, ?_⟩, fun _ _ => ⟨_, resolved, ?_, ?_, ?_⟩⟩
    · rintro ⟨name, same⟩
      cases resolved.symm.trans same
    · rintro ⟨record, mentions, unknown⟩
      exact absurd unknown (known record mentions)
    · rintro ⟨name, same⟩
      cases resolved.symm.trans same
    · rintro ⟨-, table, isTable, forces, alone⟩
      exact absurd alone (joined table isTable forces)
    · exact List.filter_sublist.map _
    · exact distinct.sublist (List.filter_sublist.map _)
    · intro record
      simp only [List.mem_map, List.mem_filter, JoinClause.isForced_iff named]
      constructor
      · rintro ⟨table, ⟨isTable, forces⟩, same⟩
        exact ⟨table, isTable, same, forces⟩
      · rintro ⟨table, isTable, same, forces⟩
        exact ⟨table, ⟨isTable, forces⟩, same⟩

/-- A select or a count of a builder's state has the root's statement and, in a select, one for each
joined table. -/
theorem generate_joins {query : Query} {command : Command} {draft : Draft (List Binding)}
    {after : Workspace (List Binding)} (built : query.toState command = .ok state)
    (selects : command = .select ∨ command = .count)
    (succeeded : (generate dialect.delegate).runOn ⟨state, draft⟩ = (.ok (), after)) :
    ∃ root statement joined, state.root? = some root ∧
      after.query.statements = statement :: joined ∧
      state.JoinsForced dialect root.record [] statement ∧
      List.Forall₂ (fun table statement => ∃ key own, state.scope.Returns root table key own ∧
          state.JoinsForced dialect table.record own statement)
        (if command = .select then state.joinedTables else []) joined := by
  have holds := Query.toState_holds built
  obtain ⟨sentences, written, -, sameQuery, -⟩ := generate_sentences succeeded
  rw [sameQuery, holds.statements_generated]
  have isCommand : state.command = command := holds.command
  generalize after.draft.calls = last at written
  cases written with
  | @select root select middle others _ isSelect rootSelects joinedSelects =>
      obtain rfl : command = .select := isCommand.symm.trans isSelect
      refine ⟨root, _, _, rootSelects.first, List.map_cons, ?_, ?_⟩
      · exact rootSelects.joinsForced holds.distinct (Sql.joins_rows select)
      · rw [if_pos rfl, List.forall₂_map_right_iff, List.forall₂_map_right_iff]
        refine joinedSelects.forall₂ fun table before other after taken => ?_
        obtain ⟨bound, selectsJoined⟩ := taken
        exact selectsJoined.joinsForced holds.distinct
  | @count root select after isCount rootSelects =>
      obtain rfl : command = .count := isCommand.symm.trans isCount
      refine ⟨root, _, [], rootSelects.first, List.map_cons, ?_, .nil⟩
      exact rootSelects.joinsForced holds.distinct (Sql.joins_count select)
  | @change sentence after changes =>
      rw [show (QueryState.command _) = command from isCommand] at changes
      rcases selects with rfl | rfl <;> cases changes

/-- The resolver forces exactly the joins that the filters need, and the statements of a select or a
count have exactly these besides their own. Pure producers are steady. -/
theorem generate_forces :
    (∀ {Buffer : Type} (operations : List Operation) (current : RecordType) (draft : Draft Buffer),
      let state := Operation.run operations {}
      (∀ filter ∈ state.filters, filter.Steady) → 2 ≤ state.tables.length →
      ∃ root, state.root? = some root ∧
        state.Resolves root.record current ((JoinClause.forced state current).runOn draft).1) ∧
    ∀ (dialect : Dialect) (query : Query) (command : Command) (state : QueryState)
      (draft : Draft (List Binding)) (after : Workspace (List Binding)),
      query.toState command = .ok state → command = .select ∨ command = .count →
      (generate dialect.delegate).runOn ⟨state, draft⟩ = (.ok (), after) →
      ∃ root statement joined, state.root? = some root ∧
        after.query.statements = statement :: joined ∧
        state.JoinsForced dialect root.record [] statement ∧
        List.Forall₂ (fun table statement => ∃ key own, state.scope.Returns root table key own ∧
            state.JoinsForced dialect table.record own statement)
          (if command = .select then state.joinedTables else []) joined := by
  constructor
  · intro Buffer operations current draft state steady several
    have distinct : state.IsDistinct := Operation.run_distinct operations
    have nonempty : state.tables ≠ [] := by
      intro empty
      simp [empty] at several
    obtain ⟨root, first⟩ := Option.ne_none_iff_exists'.mp (mt List.head?_eq_none_iff.mp nonempty)
    exact ⟨root, first, forced_resolves distinct first steady several current draft⟩
  · intro dialect query command state draft after built selects succeeded
    exact generate_joins built selects succeeded

/-- Authors and genres, which a filter on the genres names. -/
def novelSteps : List Operation :=
  [.build (.addTable Sample.author none), .build (.addFilter Sample.novels),
    .build (.addTable Sample.genre (some Sample.genres))]

theorem generate_forces_sample :
    let state := Operation.run novelSteps {}
    (∀ filter ∈ state.filters, filter.Steady) ∧ 2 ≤ state.tables.length ∧
      (∃ root, state.root? = some root ∧ state.Resolves root.record Sample.author
        ((JoinClause.forced state Sample.author).runOn (⟨[], .zero⟩ : Draft (List Binding))).1) ∧
      Sample.query.toState .select = .ok (Sample.state .select) ∧
      ∃ after, (generate Dialect.sqlite.delegate).runOn ⟨Sample.state .select, ⟨[], .zero⟩⟩ =
          (.ok (), after) ∧
        ∃ root statement joined, after.query.statements = statement :: joined ∧
          joined.length = 2 ∧ (Sample.state .select).JoinsForced .sqlite root [] statement := by
  intro state
  have steady : ∀ filter ∈ state.filters, filter.Steady :=
    fun filter member => (Query.novels_pure filter member).steady
  have several : 2 ≤ state.tables.length := by decide
  refine ⟨steady, several, generate_forces.1 novelSteps _ _ steady several, rfl, ?_⟩
  have ran : (generate Dialect.sqlite.delegate).runOn ⟨Sample.state .select, ⟨[], .zero⟩⟩ = _ :=
    generate_of_isOk (by decide +kernel)
  obtain ⟨root, statement, joined, -, emitted, forced, others⟩ :=
    generate_forces.2 .sqlite Sample.query .select _ _ _ rfl (.inl rfl) ran
  exact ⟨_, ran, root.record, statement, joined, emitted, others.length_eq.symm, forced⟩

end Generation

end RecordMapper
