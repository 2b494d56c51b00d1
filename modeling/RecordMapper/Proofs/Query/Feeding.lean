import RecordMapper.Proofs.Query.Opening
import RecordMapper.Proofs.Query.Purity
import RecordMapper.Proofs.Query.Sample
import RecordMapper.Proofs.Query.Sentences

set_option autoImplicit false

/-!
Which statement feeds which collection. A select writes one statement for the root and one for each
join, in the order of the joins; opening it fetches the statement of each join for the collection
of the same join.
-/

namespace RecordMapper

/-- The select of a join: it starts from the table of the join, carries the root's key where there is
a pivot, and has the conditions of the root's select but no limit. -/
structure Scope.SelectsJoin (scope : Scope) (root : Sql.Select) (joined : RecordType × Join)
    (select : Sql.Select) : Prop where
  source : ∃ table ∈ scope.tables, table.Joins joined ∧ select.head.source = table.source
  key : select.head.key =
    if joined.2.pivot.isSome then scope.columnName? joined.2.rootKey else none
  conditions : select.conditions = root.conditions
  limit : select.limit = none

namespace QueryState

variable {state : QueryState} {keys : List SortKey} {root : Table} {start : Sql.Select}
  {before middle after : Progress} {origin : Calls}

theorem SelectsJoined.key_eq (distinct : state.IsDistinct) {table : Table} {join : Join}
    (member : table ∈ state.tables) (attached : table.join = some join) {select : Sql.Select}
    (selects : state.SelectsJoined keys root table before select after) :
    select.head.key = if join.pivot.isSome then state.scope.columnName? join.rootKey else none := by
  obtain ⟨own, forced, calls, returns, -⟩ := selects.body
  generalize select.head.key = key at returns
  have registered : state.scope.table? table.record = some table := distinct.table?_eq member
  cases returns with
  | direct found joined direct =>
      rw [registered] at found
      cases found
      rw [attached] at joined
      cases joined
      rw [direct]
      rfl
  | pivot found joined through isKey =>
      rw [registered] at found
      cases found
      rw [attached] at joined
      cases joined
      rw [through]
      exact isKey.symm

theorem SelectsJoined.selectsJoin (distinct : state.IsDistinct)
    (pure : ∀ filter ∈ state.filters, filter.Pure)
    (starts : state.SelectsRoot keys state.limit root ⟨origin, 0⟩ start middle)
    {table : Table} {joined : RecordType × Join} (member : table ∈ state.tables)
    (joins : table.Joins joined) {calls : Calls} {select : Sql.Select}
    (selects : state.SelectsJoined keys root table ⟨calls, 0⟩ select after) :
    state.scope.SelectsJoin start joined select := by
  refine ⟨⟨table, member, joins, selects.source⟩, selects.key_eq distinct member joins.2, ?_,
    selects.limit⟩
  obtain ⟨_, -, rootWrites⟩ := starts.body
  obtain ⟨_, _, _, -, -, -, writes⟩ := selects.body
  exact writes.eq_of_pure pure rootWrites rfl

/-- What holds of the select of each joined table holds of the joins and their selects, in order. -/
theorem joinedSelects_forall₂ {describes : RecordType × Join → Sql.Select → Prop}
    (each : ∀ {table joined calls after select}, table ∈ state.tables → table.Joins joined →
      state.SelectsJoined keys root table ⟨calls, 0⟩ select after → describes joined select)
    {tables : List Table} (subset : tables ⊆ state.tables) {joins : List (RecordType × Join)}
    (joined : List.Forall₂ Table.Joins tables joins) {calls last : Calls}
    {selects : List Sql.Select}
    (threaded : Threaded (fun table before select after =>
      ∃ bound, state.SelectsJoined keys root table ⟨before, 0⟩ select ⟨after, bound⟩)
      tables calls selects last) :
    List.Forall₂ describes joins selects := by
  induction joined generalizing calls selects with
  | nil =>
      cases threaded
      exact .nil
  | cons first _ ih =>
      obtain ⟨member, others⟩ := List.cons_subset.mp subset
      cases threaded with
      | cons taken rest =>
          obtain ⟨bound, selects⟩ := taken
          exact .cons (each member first selects) (ih others rest)

end QueryState

namespace Query

variable {World Handle : Type} {dialect : Dialect} {connection : Connection World Handle}
  {schema : Schema} {query : Query} {state : QueryState} {before after : Session World}

/-- The selects of a query: the root's and then one for each join. -/
structure Selects (query : Query) (scope : Scope) (root : Sql.Select)
    (selects : List Sql.Select) : Prop where
  head : root.head = ⟨⟨query.root.table, "t0"⟩, none⟩
  limit : root.limit = query.limit?
  joined : List.Forall₂ (scope.SelectsJoin root) query.joins selects

/-- The selects that a state is rendered to. -/
structure Renders (query : Query) (start : QueryState) (calls : Calls) (root : Sql.Select)
    (selects : List Sql.Select) : Prop where
  holds : start.Holds query .select
  body : ∃ middle last,
    start.SelectsRoot start.keys start.limit ⟨query.root, "t0", none⟩ ⟨calls, 0⟩ root middle ∧
      Threaded (fun table before select after => ∃ bound,
        start.SelectsJoined start.keys ⟨query.root, "t0", none⟩ table ⟨before, 0⟩ select
          ⟨after, bound⟩) start.joinedTables middle.calls selects last

theorem renders_of_sentences {start : QueryState} (holds : start.Holds query .select)
    {calls last : Calls} {sentences : List Sql.Sentence}
    (written : start.Sentences calls sentences last) :
    ∃ root selects, sentences = (root :: selects).map .rows ∧
      query.Renders start calls root selects := by
  have isSelect : start.command = .select := holds.command
  cases written with
  | count isCount =>
      rw [isSelect] at isCount
      cases isCount
  | change changes =>
      rw [isSelect] at changes
      cases changes
  | @select root select middle selects _ _ starts threaded =>
      obtain rfl : root = ⟨query.root, "t0", none⟩ :=
        Option.some.inj (starts.first.symm.trans holds.root)
      exact ⟨select, selects, rfl, holds, middle, last, starts, threaded⟩

theorem Renders.selects {start : QueryState} {calls : Calls} {root : Sql.Select}
    {selects : List Sql.Select} (renders : query.Renders start calls root selects)
    (pure : ∀ filter ∈ query.filters, filter.Pure) : query.Selects start.scope root selects := by
  obtain ⟨holds, middle, last, starts, threaded⟩ := renders
  have steady : ∀ filter ∈ start.filters, filter.Pure := holds.filters ▸ pure
  refine ⟨starts.head, starts.limit.trans holds.limit, ?_⟩
  exact QueryState.joinedSelects_forall₂
    (fun member joins selects => selects.selectsJoin holds.distinct steady starts member joins)
    (List.filter_subset_self _) holds.joined threaded

/-- All selects have the conditions of the root's, so all statements have its parameters. -/
theorem Selects.statements_eq {root : Sql.Select} {selects : List Sql.Select}
    {scope : Scope} (written : query.Selects scope root selects) :
    ((root :: selects).map Sql.Sentence.rows).map (·.statement dialect) =
      (root :: selects).map fun select =>
        ⟨select.text dialect, Sql.bindings dialect (Sql.conditionParameters root.conditions)⟩ := by
  rw [List.map_map]
  refine List.map_congr_left fun select member => ?_
  have same : select.conditions = root.conditions := by
    rcases List.mem_cons.mp member with rfl | isJoined
    · rfl
    · have each := written.joined.flip.imp fun select _ selects => And.intro selects.conditions selects
      exact ((List.forall₂_and_left _ _).mp each).1 select isJoined
  rw [← same]
  rfl

theorem generate_renders (pure : ∀ filter ∈ query.filters, filter.Pure)
    (generated : (query.generate ⟨dialect.delegate, connection, schema⟩ .select).runOn before =
      (.ok state, after)) :
    ∃ start root selects bindings, query.toState .select = .ok start ∧
      query.Renders start before.calls root selects ∧
      state = Generation.generated start
        ((root :: selects).map fun select => ⟨select.text dialect, bindings⟩) := by
  obtain ⟨start, workspace, built, ran, rfl, -⟩ := generate_ok generated
  obtain ⟨sentences, written, -, sameQuery, -⟩ := Generation.generate_sentences ran
  obtain ⟨root, selects, rfl, renders⟩ := renders_of_sentences (toState_holds built) written
  refine ⟨start, root, selects,
    Sql.bindings dialect (Sql.conditionParameters root.conditions), built, renders, ?_⟩
  rw [sameQuery, (renders.selects pure).statements_eq]

/-- A select has one statement for the root and one for each join, in the order of the joins, all
with one WHERE clause and one list of bindings, and only the root's has the limit. Where its cursor
opens, the rows that the statement of a join fetches are those kept under the collection of this
join, and no other collection has any. -/
theorem select_feeds (pure : ∀ filter ∈ query.filters, filter.Pure)
    (distinct : (query.joins.map (·.2.collection)).Nodup)
    (generated : (query.generate ⟨dialect.delegate, connection, schema⟩ .select).runOn before =
      (.ok state, after)) :
    ∃ root selects bindings,
      state.statements = (root :: selects).map (fun select => ⟨select.text dialect, bindings⟩) ∧
      state.statements.length = 1 + query.joins.length ∧
      query.Selects state.scope root selects ∧
      ∀ [connection.Finite] {Result : Type} (body : Cursor Handle → Action World Result) opening
          result closed,
        (Cursor.withOpen connection query.root state body).runOn opening = (.ok result, closed) →
        ∃ cursor started opened closing fetched,
          connection.Opens ⟨root.text dialect, bindings⟩ opening cursor.root started ∧
          connection.Fetches (selects.map fun select => ⟨select.text dialect, bindings⟩)
            started fetched opened ∧
          (body cursor).runOn opened = (.ok result, closing) ∧
          List.Forall₂ (fun (joined : RecordType × Join) rows =>
            cursor.merge.joined? joined.2.collection = some
              { rootKey := joined.2.rootKey.name
                joinedKey :=
                  if joined.2.pivot.isSome then pivotKeyColumn else joined.2.rootMatch.name
                keyKind := joined.2.keyKind
                rows }) query.joins fetched ∧
          ∀ collection, collection ∉ query.joins.map (·.2.collection) →
            cursor.merge.joined? collection = none := by
  obtain ⟨start, root, selects, bindings, -, renders, rfl⟩ := generate_renders pure generated
  have selected := renders.selects pure
  have sameLength : selects.length = query.joins.length := selected.joined.length_eq.symm
  have statements : (Generation.generated start ((root :: selects).map fun select =>
      ⟨select.text dialect, bindings⟩)).statements =
        (root :: selects).map fun select => ⟨select.text dialect, bindings⟩ :=
    renders.holds.statements_generated _
  refine ⟨root, selects, bindings, statements, ?_, selected, ?_⟩
  · rw [statements, List.length_map, List.length_cons, sameLength, Nat.add_comm]
  · intro finite Result body opening result closed succeeded
    obtain ⟨first, others, cursor, started, opened, closing, starts, ran, -⟩ :=
      Cursor.withOpen_ok succeeded
    obtain ⟨rfl, rfl⟩ := List.cons.inj (starts.statements.symm.trans statements)
    have joined : List.Forall₂ Table.Joins start.joinedTables query.joins := renders.holds.joined
    have eachStatement : (selects.map fun select =>
        (⟨select.text dialect, bindings⟩ : Statement)).length = start.joinedTables.length := by
      rw [List.length_map, joined.length_eq, sameLength]
    obtain ⟨fetched, fetches, -, keeps, outside⟩ :=
      Cursor.buffer_ok joined distinct eachStatement starts.buffers
    exact ⟨cursor, started, opened, closing, fetched, starts.opens, fetches, ran, keeps, outside⟩

end Query

namespace Sample

/-- Authors of novels with their books and genres. -/
def novelists : Query where
  root := author
  stages :=
    [.limit ⟨5, 0⟩, .join book books, .filter novels, .join genre genres,
      .ordering [⟨author, "name"⟩] false, .limit ⟨2, 1⟩]

end Sample

namespace Query

theorem novels_pure : ∀ filter ∈ Sample.novelists.filters, filter.Pure := by
  intro filter member
  obtain rfl : filter = Sample.novels := List.mem_singleton.mp member
  exact .deferred (fun _ => .binary (.field _) (.literal _)) fun _ _ => rfl

theorem select_feeds_sample :
    (∀ filter ∈ Sample.novelists.filters, filter.Pure) ∧
    (Sample.novelists.joins.map (·.2.collection)).Nodup ∧
    ∃ state after, (Sample.novelists.generate (Sample.library Sample.catalogue) .select).runOn
        ⟨[], .zero⟩ = (.ok state, after) ∧
      state.statements.length = 3 ∧
      ∃ merge closed fetched, (Cursor.withOpen (Sample.library Sample.catalogue).connection
          Sample.author state fun cursor => pure cursor.merge).runOn after.world =
            (.ok merge, closed) ∧
        List.Forall₂ (fun (joined : RecordType × Join) rows =>
          merge.joined? joined.2.collection = some (joined.2.buffered rows))
          Sample.novelists.joins fetched ∧
        merge.joined? "name" = none := by
  have distinct : (Sample.novelists.joins.map (·.2.collection)).Nodup := by decide
  have isOk : (((Sample.novelists.select (Sample.library Sample.catalogue)
      fun cursor => pure cursor.merge).runOn ⟨[], .zero⟩).1).isOk = true := by decide +kernel
  obtain ⟨merge, closed, succeeded⟩ := Action.exists_ok isOk
  obtain ⟨state, after, generated, opening⟩ := Action.bind_ok succeeded
  obtain ⟨world, opened, -⟩ := Session.onWorld_ok opening
  obtain ⟨root, selects, bindings, -, three, -, feeds⟩ :=
    select_feeds novels_pure distinct generated
  obtain ⟨cursor, _, _, _, fetched, -, -, ran, keeps, outside⟩ := feeds _ _ _ _ opened
  obtain ⟨-, rfl⟩ := Action.pure_ok ran
  exact ⟨novels_pure, distinct, state, after, generated, three, cursor.merge, world, fetched,
    opened, keeps, outside "name" (by decide)⟩

end Query

end RecordMapper
