import RecordMapper.Proofs.Query.Iterating
import RecordMapper.Proofs.Query.Purity
import RecordMapper.Proofs.Query.Sample
import RecordMapper.Proofs.Query.Sentences
import RecordMapper.Proofs.Sql.Evaluation

set_option autoImplicit false

/-!
A count beside the select of the same query. Both commands render the root's select; a count leaves
the order out and wraps what is left, so that it counts the rows which the select steps through.
-/

namespace RecordMapper

namespace Generation

variable {Buffer : Type} {delegate : Delegate Buffer} {state : QueryState}

/-! ## The root's select without its order -/

/-- The root's select up to its conditions. -/
def rootFront (delegate : Delegate Buffer) (state : QueryState) (root : Table) :
    Rendering Buffer String := do
  let quotedAlias ← Rendering.quote delegate root.aliasName
  let source ← JoinClause.tableReference delegate root
  let joins ← JoinClause.forcedClauses delegate state root.record
  let condition ← whereClause delegate state
  pure ("SELECT DISTINCT " ++ quotedAlias ++ ".* FROM " ++ source ++ joins ++ condition)

variable {keys : List SortKey} {limit : Option Limit}

theorem rootSelect_select (isSelect : state.command = .select) :
    rootSelect delegate keys limit state =
      (do
        let root ← Action.ofOutcome (rootTable state)
        let front ← rootFront delegate state root
        let order ← orderClause delegate state keys root.record
        let window ← limitClause delegate limit
        pure (front ++ order ++ window)) := by
  unfold rootSelect rootFront
  simp only [isSelect, if_true, bind_assoc, pure_bind]

theorem rootSelect_count (isCount : state.command = .count) :
    rootSelect delegate keys limit state =
      (do
        let root ← Action.ofOutcome (rootTable state)
        let front ← rootFront delegate state root
        let window ← limitClause delegate limit
        pure (front ++ window)) := by
  unfold rootSelect rootFront
  simp only [isCount, reduceCtorEq, if_false, bind_assoc, pure_bind, String.append_empty]

end Generation

/-! ## Renderings that calls do not change -/

namespace JoinClause

variable {Buffer : Type} {delegate : Delegate Buffer} {scope : Scope} {state : QueryState}

theorem insensitive_tableReference (table : Table) :
    Rendering.Insensitive (tableReference delegate table) := by
  unfold tableReference
  exact .bind (.quote _ _) fun _ => .bind (.quote _ _) fun _ => .pure _

theorem insensitive_on (record : RecordType) (left right : FieldRef) :
    Rendering.Insensitive (on delegate scope record left right) := by
  unfold on
  refine .bind (.ofOutcome _) fun table => .bind (insensitive_tableReference table) fun _ => ?_
  exact .bind (Expr.insensitive_renderField left) fun _ =>
    .bind (Expr.insensitive_renderField right) fun _ => .pure _

theorem insensitive_fromRoot (record : RecordType) :
    Rendering.Insensitive (fromRoot delegate scope record) := by
  unfold fromRoot
  refine .bind (.ofOutcome _) fun join => ?_
  split
  · exact .bind (insensitive_on _ _ _) fun _ => .pure _
  · exact .bind (insensitive_on _ _ _) fun _ => .bind (insensitive_on _ _ _) fun _ => .pure _

theorem insensitive_forced (pure : ∀ filter ∈ state.filters, filter.Pure) (current : RecordType) :
    Rendering.Insensitive (forced state current : Rendering Buffer (List RecordType)) := by
  unfold forced
  split
  · rename_i condition _ folded
    have conditionPure : condition.Pure := Expr.Pure.fold? folded pure
    exact .bind (.counting conditionPure.referencedTypes_eq) fun _ => .ofOutcome _
  · exact .pure _

theorem insensitive_forcedClauses (pure : ∀ filter ∈ state.filters, filter.Pure)
    (current : RecordType) :
    Rendering.Insensitive (forcedClauses delegate state current) := by
  unfold forcedClauses
  refine .bind (insensitive_forced pure current) fun records => ?_
  exact .bind (.mapM fun record _ => insensitive_fromRoot record) fun _ => .pure _

end JoinClause

namespace Generation

variable {Buffer : Type} {delegate : Delegate Buffer} {state : QueryState}

theorem insensitive_whereClause (pure : ∀ filter ∈ state.filters, filter.Pure) :
    Rendering.Insensitive (whereClause delegate state) := by
  unfold whereClause
  split
  · exact .pure _
  · rename_i filter only
    have filterPure : filter.Pure := pure filter (by rw [only]; exact List.mem_singleton.mpr rfl)
    exact .bind filterPure.insensitive_render fun _ => .pure _
  · refine .bind (.mapM fun filter member => ?_) fun _ => .pure _
    exact .bind (pure filter member).insensitive_render fun _ => .pure _

theorem insensitive_rootFront (pure : ∀ filter ∈ state.filters, filter.Pure) (root : Table) :
    Rendering.Insensitive (rootFront delegate state root) := by
  unfold rootFront
  refine .bind (.quote _ _) fun _ => .bind (JoinClause.insensitive_tableReference root) fun _ => ?_
  refine .bind (JoinClause.insensitive_forcedClauses pure root.record) fun _ => ?_
  exact .bind (insensitive_whereClause pure) fun _ => .pure _

theorem insensitive_limitClause (limit : Option Limit) :
    Rendering.Insensitive (limitClause delegate limit) := by
  unfold limitClause
  split
  · exact .pure _
  · exact .bind (.limitClause _ _ _) fun _ => .pure _

/-- A count qualifies names as a select does. -/
theorem rootFront_recommand (isSelect : state.command = .select) (root : Table) :
    rootFront delegate (Query.recommand .count state) root = rootFront delegate state root := by
  have sameScope : (Query.recommand .count state).scope = state.scope := by
    unfold QueryState.scope Query.recommand
    rw [isSelect]
    rfl
  unfold rootFront JoinClause.forcedClauses JoinClause.forced whereClause
  rw [sameScope]
  rfl

/-! ## The statement of a count -/

variable {dialect : Dialect} {keys : List SortKey} {limit : Option Limit}

theorem rootFront_ok {root : Table} {text : String} {draft after : Draft (List Binding)}
    (first : state.root? = some root)
    (succeeded : (rootFront dialect.delegate state root).runOn draft = (.ok text, after)) :
    ∃ links conditions calls, state.Joins root root.record draft.calls links calls ∧
      state.scope.WritesAll state.filters ⟨calls, draft.buffer.length⟩ conditions after.progress ∧
      text = Sql.Head.text dialect ⟨root.source, none⟩ ++ Sql.linksText dialect links
        ++ Sql.conditionText dialect conditions := by
  unfold rootFront at succeeded
  obtain ⟨_, _, aliased, sourcing⟩ := Action.bind_ok succeeded
  obtain ⟨rfl, rfl⟩ := Rendering.quote_ok aliased
  obtain ⟨_, start, referred, joining⟩ := Action.bind_ok sourcing
  obtain ⟨rfl, rfl⟩ := JoinClause.tableReference_ok referred
  obtain ⟨_, joined, forced, filtering⟩ := Action.bind_ok joining
  obtain ⟨links, joins, sameBuffer, rfl⟩ := JoinClause.forcedClauses_ok first forced
  obtain ⟨_, _, conditioned, finished⟩ := Action.bind_ok filtering
  obtain ⟨conditions, writes, rfl, -⟩ := whereClause_ok conditioned
  obtain ⟨rfl, rfl⟩ := Action.pure_ok finished
  have started : joined.progress = ⟨joined.calls, start.buffer.length⟩ := by
    unfold Draft.progress
    rw [sameBuffer]
  refine ⟨links, conditions, joined.calls, joins, started ▸ writes, ?_⟩
  rw [Sql.Head.text_direct]
  rfl

/-- Where the root's select is rendered, a count renders it without its order, whatever calls were
made before. -/
theorem rootSelect_counts (isSelect : state.command = .select)
    (pure : ∀ filter ∈ state.filters, filter.Pure) {text : String}
    {before after : Draft (List Binding)}
    (succeeded :
      (rootSelect dialect.delegate keys limit state).runOn before = (.ok text, after)) :
    ∃ root select, state.SelectsRoot keys limit root before.progress select after.progress ∧
      text = select.text dialect ∧
      ∀ calls, ∃ calls',
        (rootSelect dialect.delegate keys limit (Query.recommand .count state)).runOn
            ⟨before.buffer, calls⟩ =
          (.ok (Sql.Select.text dialect { select with order := [] }), ⟨after.buffer, calls'⟩) := by
  rw [rootSelect_select isSelect] at succeeded
  obtain ⟨root, start, looked, fronting⟩ := Action.bind_ok succeeded
  obtain ⟨rfl, found⟩ := Action.ofOutcome_ok looked
  have first := rootTable_ok found
  obtain ⟨front, middle, fronted, ordering⟩ := Action.bind_ok fronting
  obtain ⟨order, _, ordered, limiting⟩ := Action.bind_ok ordering
  obtain ⟨rfl, terms, orders, rfl⟩ := orderClause_ok ordered
  obtain ⟨window, _, limited, finished⟩ := Action.bind_ok limiting
  obtain ⟨rfl, rfl⟩ := Action.pure_ok finished
  -- The count's run: the same front, no order and the same limit, from calls of its own.
  have counts (calls : Calls) : ∃ calls',
      (rootSelect dialect.delegate keys limit (Query.recommand .count state)).runOn
        ⟨start.buffer, calls⟩ = (.ok (front ++ window), ⟨after.buffer, calls'⟩) := by
    obtain ⟨frontCalls, frontAgain⟩ := (insensitive_rootFront pure root).rerun fronted calls
    obtain ⟨lastCalls, windowAgain⟩ := (insensitive_limitClause limit).rerun limited frontCalls
    have reached : (Action.ofOutcome (rootTable (Query.recommand .count state))).runOn
        (⟨start.buffer, calls⟩ : Draft (List Binding)) = (.ok root, ⟨start.buffer, calls⟩) :=
      Prod.ext found rfl
    refine ⟨lastCalls, ?_⟩
    rw [rootSelect_count rfl, Action.runOn_bind_of_ok reached, rootFront_recommand isSelect,
      Action.runOn_bind_of_ok frontAgain, Action.runOn_bind_of_ok windowAgain]
    rfl
  obtain ⟨rfl, rfl⟩ := limitClause_ok limited
  obtain ⟨links, conditions, joinedCalls, joins, writes, rfl⟩ := rootFront_ok first fronted
  refine ⟨root, ⟨⟨root.source, none⟩, links, conditions, terms, limit⟩,
    ⟨first, rfl, ⟨joinedCalls, joins, writes⟩, ?_, rfl⟩, rfl, fun calls => ?_⟩
  · rw [if_pos isSelect]
    exact orders
  · obtain ⟨lastCalls, counted⟩ := counts calls
    refine ⟨lastCalls, counted.trans ?_⟩
    unfold Sql.Select.text
    rw [show Sql.orderText dialect [] = "" from rfl, String.append_empty]

theorem drainOrderings_all (usable : ∀ sort ∈ state.sorts, state.isUsable sort) :
    state.drainOrderings = (state.keys, { state with sorts := [] }) := by
  unfold QueryState.drainOrderings QueryState.keys
  rw [List.filter_eq_self.mpr usable]
  have none : state.sorts.filter (fun sort => !state.isUsable sort) = [] := by
    rw [List.filter_eq_nil_iff]
    intro sort member
    simp [usable sort member]
  rw [none]

/-- Counting emits the root's select as a query of its own. -/
theorem generate_count (draft : Draft Buffer) (isCount : state.command = .count)
    (nonempty : state.tables ≠ []) (usable : ∀ sort ∈ state.sorts, state.isUsable sort)
    (sortable : checkSortable state state.keys = .ok ()) {rendered : Draft Buffer} {text : String}
    (ran : (rootSelect delegate state.keys state.limit state).runOn
      ⟨(delegate.takeBindings draft.buffer).2, draft.calls⟩ = (.ok text, rendered)) :
    (generate delegate).runOn ⟨state, draft⟩ =
      (.ok (), ⟨generated state
          [⟨countText text, (delegate.takeBindings rendered.buffer).1⟩],
        ⟨(delegate.takeBindings rendered.buffer).2, rendered.calls⟩⟩) := by
  let drained : QueryState := { state with sorts := [] }
  let bare : QueryState := { state with sorts := [], limit := none }
  let start : Draft Buffer := ⟨(delegate.takeBindings draft.buffer).2, draft.calls⟩
  have drains : (Generating.update QueryState.drainOrderings : Generating Buffer _).runOn
      ⟨state, start⟩ = (.ok state.keys, ⟨drained, start⟩) := by
    change (fun taken : List SortKey × QueryState => ((Except.ok taken.1 : Except Error _),
      (⟨taken.2, start⟩ : Workspace Buffer))) state.drainOrderings = _
    rw [drainOrderings_all usable]
  have limits : (Generating.update QueryState.takeLimit : Generating Buffer _).runOn
      ⟨drained, start⟩ = (.ok state.limit, ⟨bare, start⟩) := rfl
  have renders : (Generating.render (rootSelect delegate state.keys state.limit)).runOn
      ⟨bare, start⟩ = (.ok text, ⟨bare, rendered⟩) := by
    change (fun ran : Except Error String × Draft Buffer => (ran.1,
      (⟨bare, ran.2⟩ : Workspace Buffer)))
        ((rootSelect delegate state.keys state.limit state).runOn start) = _
    rw [ran]
  have selects : (generateSelect delegate).runOn ⟨state, start⟩ =
      (.ok (), ⟨bare.pushStatement ⟨countText text, (delegate.takeBindings rendered.buffer).1⟩,
        ⟨(delegate.takeBindings rendered.buffer).2, rendered.calls⟩⟩) := by
    unfold generateSelect
    rw [Action.runOn_bind_of_ok drains, Action.runOn_bind_of_ok limits,
      Action.runOn_bind_of_ok (rfl : Generating.query.runOn _ = (.ok bare, ⟨bare, start⟩)),
      Action.runOn_bind_of_ok (Prod.ext sortable rfl : (Action.ofOutcome
        (checkSortable bare state.keys)).runOn _ = (.ok (), ⟨bare, start⟩)),
      Action.runOn_bind_of_ok renders, if_pos (show bare.command = .count from isCount)]
    rfl
  have set : ¬state.command = .unset := by
    rw [isCount]
    exact Command.noConfusion
  have some : ¬state.tables.isEmpty = true := by simpa using nonempty
  unfold generate
  rw [Action.runOn_bind_of_ok (rfl : Generating.query.runOn _ = (.ok state, ⟨state, draft⟩)),
    if_neg set, if_neg some,
    Action.runOn_bind_of_ok (rfl : (Generating.render fun _ =>
      Rendering.takeBindings delegate).runOn ⟨state, draft⟩ = (.ok _, ⟨state, start⟩)), isCount]
  change ((generateSelect delegate) >>= _).runOn _ = _
  rw [Action.runOn_bind_of_ok selects]
  rfl

end Generation

/-! ## Counting what a select iterates -/

/-- An engine that counts the rows of a select, and in which an order changes no number of rows. -/
structure Sql.Counts (dialect : Dialect) (answer : Statement → Except Error (List Row)) :
    Prop where
  counted : ∀ {select : Select} {bindings : List Binding} {rows : List Row},
    answer ⟨select.text dialect, bindings⟩ = .ok rows →
    ∃ row value number,
      answer ⟨"SELECT COUNT(*) AS count FROM (" ++ select.text dialect ++ ") AS s1", bindings⟩ =
        .ok [row] ∧
      row.getByName? "count" = some value ∧ value.toInt64? = some number ∧
      number.toInt = rows.length
  unordered : ∀ {select : Select} {bindings : List Binding} {rows : List Row},
    answer ⟨select.text dialect, bindings⟩ = .ok rows →
    ∃ others, answer ⟨Select.text dialect { select with order := [] }, bindings⟩ = .ok others ∧
      others.length = rows.length

theorem Sql.Dataset.answer_counts (dataset : Dataset) (dialect : Dialect) :
    Counts dialect (dataset.answer dialect) where
  counted := by
    intro select bindings rows answered
    rw [answer_select] at answered
    obtain ⟨rfl, few⟩ := countable_ok answered
    refine ⟨countRow (dataset.selected (select.read dialect) bindings).length, _, _, ?_, rfl, rfl,
      Int64.toInt_ofNat_of_lt few⟩
    refine (dataset.answer_count select bindings).trans ?_
    rw [answered]
    rfl
  unordered := by
    intro select bindings rows answered
    refine ⟨rows, ?_, rfl⟩
    rwa [answer_select, selected_unordered, ← answer_select]

namespace Query

variable {World Handle : Type} {dialect : Dialect} {connection : Connection World Handle}
  {schema : Schema} {query : Query}

theorem readCount_ok {record : RecordType} {row : Row} {value : Value} {number : Int64}
    {count : Nat} (present : row.getByName? "count" = some value)
    (isNumber : value.toInt64? = some number) (isCount : number.toInt = count) :
    readCount record [row] = .ok count := by
  have natural : ¬number < 0 := by
    rw [Int64.lt_iff_toInt_lt, isCount]
    exact Int.not_lt.mpr (Int.natCast_nonneg count)
  unfold readCount
  rw [List.head?_cons, Option.bind_some, present]
  simp only [isNumber, if_neg natural, isCount, Int.toNat_natCast]

/-- The statement of a count is the root's statement of the select, wrapped and without its order,
with the same values. -/
theorem generate_counts (pure : ∀ filter ∈ query.filters, filter.Pure) {state : QueryState}
    {before after : Session World}
    (generated : (query.generate ⟨dialect.delegate, connection, schema⟩ .select).runOn before =
      (.ok state, after)) :
    ∃ start root select progress bindings others, query.toState .select = .ok start ∧
      start.SelectsRoot start.keys query.limit? root ⟨before.calls, 0⟩ select progress ∧
      state.statements = ⟨select.text dialect, bindings⟩ :: others ∧
      ∀ session : Session World, ∃ counting last,
        (query.generate ⟨dialect.delegate, connection, schema⟩ .count).runOn session =
          (.ok counting, last) ∧
        counting.statements = [⟨"SELECT COUNT(*) AS count FROM ("
          ++ Sql.Select.text dialect { select with order := [] } ++ ") AS s1", bindings⟩] := by
  obtain ⟨start, workspace, built, ran, rfl, -⟩ := generate_ok generated
  have holds := toState_holds built
  have steady : ∀ filter ∈ start.filters, filter.Pure := holds.filters ▸ pure
  obtain ⟨statements, made⟩ := Generation.generate_ok ran
  have emitted := made.emitted
  unfold Generation.renderings at emitted
  simp only [holds.command] at emitted
  cases emitted with
  | @cons _ _ statement others _ middle _ emits rest =>
      obtain ⟨rendered, taken, -⟩ := emits
      obtain ⟨root, select, selects, isText, counts⟩ :=
        Generation.rootSelect_counts holds.command steady rendered
      refine ⟨start, root, select, _, statement.bindings, others, built, holds.limit ▸ selects, ?_,
        fun session => ?_⟩
      · rw [made.query, ← isText]
        exact holds.statements_generated _
      obtain ⟨calls, counted⟩ := counts session.calls
      have building : query.toState .count = .ok (recommand .count start) := by
        rw [toState_recommand query .select .count, built]
        rfl
      have nonempty : start.tables ≠ [] := made.tables
      cases made.sorts with
      | absent notSelect => exact absurd holds.command notSelect
      | selected _ usable sortable =>
          have isCount : (recommand .count start).command = .count := rfl
          have counting := Generation.generate_count ⟨[], session.calls⟩ isCount nonempty usable
            sortable counted
          refine ⟨_, _, generate_of_ok building counting, ?_⟩
          refine (holds.statements_generated [⟨_, _⟩]).trans ?_
          exact congrArg (fun values => [(⟨_, values⟩ : Statement)]) (congrArg Prod.fst taken)

/-- The number that a count reads is the number of rows of the root's select. -/
theorem count_of_answer [connection.Finite] {answer : Statement → Except Error (List Row)}
    {owes : Handle → World → Option (Except Error (List Row))}
    (answers : connection.Answers answer owes) (counts : Sql.Counts dialect answer)
    {session last : Session World} {counting : QueryState} {select : Sql.Select}
    {bindings : List Binding} {rows : List Row}
    (generated : (query.generate ⟨dialect.delegate, connection, schema⟩ .count).runOn session =
      (.ok counting, last))
    (single : counting.statements = [⟨"SELECT COUNT(*) AS count FROM ("
      ++ Sql.Select.text dialect { select with order := [] } ++ ") AS s1", bindings⟩])
    (answered : answer ⟨select.text dialect, bindings⟩ = .ok rows) :
    ∃ closed, (query.count ⟨dialect.delegate, connection, schema⟩).runOn session =
      (.ok rows.length, closed) := by
  obtain ⟨others, unordered, sameLength⟩ := counts.unordered answered
  obtain ⟨row, value, number, counted, present, isNumber, isCount⟩ := counts.counted unordered
  obtain ⟨world, fetched⟩ := answers.fetchAll_of_answer counted last.world
  refine ⟨{ last with world }, ?_⟩
  unfold Query.count
  rw [Action.runOn_bind_of_ok generated]
  simp only [single]
  rw [Action.runOn_bind_of_ok (Session.onWorld_of_ok fetched)]
  exact Prod.ext (readCount_ok present isNumber (sameLength ▸ isCount)) rfl

/-- Counting agrees with selecting. Where a select is generated, a count is generated as the one
statement that wraps the root's, without its order and with the same values; and where an engine
counts rows and does not let an order change their number, the count is the number of root rows,
and so of the records that the select gives. -/
theorem count_agrees (pure : ∀ filter ∈ query.filters, filter.Pure) :
    (∀ {state : QueryState} {before after : Session World},
      (query.generate ⟨dialect.delegate, connection, schema⟩ .select).runOn before =
        (.ok state, after) →
      ∃ start root select progress bindings others, query.toState .select = .ok start ∧
        start.SelectsRoot start.keys query.limit? root ⟨before.calls, 0⟩ select progress ∧
        state.statements = ⟨select.text dialect, bindings⟩ :: others ∧
        ∀ session : Session World,
          (∃ counting last,
            (query.generate ⟨dialect.delegate, connection, schema⟩ .count).runOn session =
              (.ok counting, last) ∧
            counting.statements = [⟨"SELECT COUNT(*) AS count FROM ("
              ++ Sql.Select.text dialect { select with order := [] } ++ ") AS s1", bindings⟩]) ∧
          ∀ [connection.Finite] answer owes rows, connection.Answers answer owes →
            Sql.Counts dialect answer →
            answer ⟨select.text dialect, bindings⟩ = .ok rows →
            ∃ closed, (query.count ⟨dialect.delegate, connection, schema⟩).runOn session =
              (.ok rows.length, closed)) ∧
    ∀ [connection.Finite] {records : List HydratedRecord} {before after : Session World},
      (query.all ⟨dialect.delegate, connection, schema⟩).runOn before = (.ok records, after) →
      ∀ answer owes, connection.Answers answer owes → Sql.Counts dialect answer →
        ∀ session : Session World, ∃ closed,
          (query.count ⟨dialect.delegate, connection, schema⟩).runOn session =
            (.ok records.length, closed) := by
  constructor
  · intro state before after generated
    obtain ⟨start, root, select, progress, bindings, others, built, selects, statements, counts⟩ :=
      generate_counts pure generated
    refine ⟨start, root, select, progress, bindings, others, built, selects, statements, ?_⟩
    intro session
    obtain ⟨counting, last, counted, single⟩ := counts session
    refine ⟨⟨counting, last, counted, single⟩, ?_⟩
    intro finite answer owes rows answers isCounted answered
    exact count_of_answer answers isCounted counted single answered
  · intro finite records before after succeeded answer owes answers isCounted session
    obtain ⟨state, opening, _, _, _, _, _, rows, generated, starts, answered, hydrated⟩ :=
      all_ok answers succeeded
    obtain ⟨_, _, select, _, bindings, others, -, -, statements, counts⟩ :=
      generate_counts pure generated
    obtain ⟨rfl, -⟩ := List.cons.inj (starts.statements.symm.trans statements)
    obtain ⟨counting, last, counted, single⟩ := counts session
    rw [← hydrated.length_eq]
    exact count_of_answer answers isCounted counted single answered

end Query

namespace Sample

/-- The same readers in the order of their ids, without the first. -/
def ranked : Query :=
  { levelled with stages := levelled.stages ++ [.ordering [⟨reader, "id"⟩] false, .limit ⟨1, 1⟩] }

def rankedSelect : Sql.Select :=
  { readerSelect with order := [⟨⟨some "t0", "id"⟩, false⟩], limit := some ⟨1, 1⟩ }

end Sample

namespace Query

theorem count_agrees_sample :
    (∀ filter ∈ Sample.ranked.filters, filter.Pure) ∧
    ∃ closed last,
      (Sample.ranked.all Sample.circulation).runOn ⟨[], .zero⟩ =
        (.ok [Sample.readerRecord 2 7 2 [Sample.loanRecord 7 1, Sample.loanRecord 7 2]], closed) ∧
      (Sample.ranked.count Sample.circulation).runOn ⟨[], .zero⟩ = (.ok 1, last) := by
  have steady : ∀ filter ∈ Sample.ranked.filters, filter.Pure := by
    intro filter member
    obtain rfl := List.mem_singleton.mp member
    exact .binary (.field _) (.field _)
  have answers := Replying.connection_answers (Sample.branch.answer .sqlite)
  have rendered : ((Sample.ranked.generate Sample.circulation .select).runOn
      ⟨[], .zero⟩).1.toOption.map (fun state => (state.joinedTables, state.statements)) =
        some ([⟨Sample.loan, "t1", some Sample.loans⟩],
          [⟨Sample.rankedSelect.text .sqlite, []⟩, ⟨Sample.loanSelect.text .sqlite, []⟩]) := by
    decide +kernel
  have isRecords : Cursor.answered (Sample.branch.answer .sqlite) [Sample.reader, Sample.loan]
      Sample.reader [⟨Sample.loan, "t1", some Sample.loans⟩]
      [⟨Sample.rankedSelect.text .sqlite, []⟩, ⟨Sample.loanSelect.text .sqlite, []⟩] =
        .ok [Sample.readerRecord 2 7 2 [Sample.loanRecord 7 1, Sample.loanRecord 7 2]] := by
    simp only [Cursor.answered, List.zip_cons_cons, List.zip_nil_left, Cursor.keep,
      Sql.Dataset.answer_select]
    rfl
  obtain ⟨closed, succeeded⟩ := all_of_rendered answers rendered isRecords
  obtain ⟨last, counted⟩ := (count_agrees steady).2 succeeded _ _ answers
    (Sample.branch.answer_counts .sqlite) ⟨[], .zero⟩
  exact ⟨steady, closed, last, succeeded, counted⟩

end Query

end RecordMapper
