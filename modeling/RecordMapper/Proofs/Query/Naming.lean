import RecordMapper.Proofs.Query.Sample
import RecordMapper.Proofs.Query.Sentences
import RecordMapper.Proofs.Sql.Definition
import RecordMapper.Proofs.Sql.Quotation

set_option autoImplicit false

/-!
The names in statements of a dialect's delegate. A run of a generation, even one that fails, adds
only statements that sentences of its query are written as. No name reaches the text outside its
quotes, whatever it contains.
-/

namespace RecordMapper

/-- The sentences that a state can be written as, with the orderings that a statement may use. -/
inductive QueryState.Produces (state : QueryState) : Sql.Sentence → Prop where
  | root {root : Table} {before after : Progress} {select : Sql.Select} :
      state.SelectsRoot state.drainOrderings.1 state.limit root before select after →
      Produces state (.rows select)
  | count {root : Table} {before after : Progress} {select : Sql.Select} :
      state.SelectsRoot state.drainOrderings.1 state.limit root before select after →
      Produces state (.count select)
  | joined {root table : Table} {before after : Progress} {select : Sql.Select} :
      state.SelectsJoined state.drainOrderings.1 root table before select after →
      Produces state (.rows select)
  | change {before after : Progress} {sentence : Sql.Sentence} :
      state.Changes before state.command sentence after → Produces state sentence

def QueryState.Writes (state : QueryState) (dialect : Dialect) (sql : String) : Prop :=
  ∃ sentence, state.Produces sentence ∧ sql = sentence.text dialect

namespace Generation

structure Wrote (dialect : Dialect) (start : QueryState) (workspace : Workspace (List Binding)) :
    Prop where
  fields : ∃ sorts limit, workspace.query =
    { start with sorts, limit, statements := workspace.query.statements }
  statements : ∃ added, workspace.query.statements = start.statements ++ added ∧
    ∀ statement ∈ added, start.Writes dialect statement.sql

variable {dialect : Dialect} {start : QueryState}

theorem wrote_render {Result : Type} (rendering : QueryState → Rendering (List Binding) Result) :
    Action.Keeps (Wrote dialect start) (Generating.render rendering) :=
  fun _ wrote => ⟨wrote.fields, wrote.statements⟩

theorem wrote_emit {sql : String} (writes : start.Writes dialect sql) :
    Action.Keeps (Wrote dialect start) (Generating.emit dialect.delegate sql) := by
  unfold Generating.emit
  refine .bind (wrote_render _) fun bindings => ?_
  rintro ⟨state, draft⟩ ⟨⟨sorts, limit, same⟩, added, ended, each⟩
  dsimp only at same ended
  refine ⟨⟨sorts, limit, ?_⟩, added ++ [⟨sql, bindings⟩], ?_, ?_⟩
  · change state.pushStatement ⟨sql, bindings⟩ = _
    rw [same]
    rfl
  · change state.statements ++ [⟨sql, bindings⟩] = _
    rw [ended, List.append_assoc]
  · intro statement member
    rcases List.mem_append.mp member with earlier | last
    · exact each statement earlier
    · obtain rfl := List.mem_singleton.mp last
      exact writes

/-- A rendering that reads neither orderings and limit nor earlier statements. -/
theorem wrote_emission {rendering : QueryState → Rendering (List Binding) String}
    (unread : ∀ sorts limit statements,
      rendering { start with sorts, limit, statements } = rendering start)
    (render_ok : ∀ draft text after, (rendering start).runOn draft = (.ok text, after) →
      start.Writes dialect text) :
    Action.Keeps (Wrote dialect start) (do
      let sql ← Generating.render rendering
      Generating.emit dialect.delegate sql) := by
  refine .bindOk (wrote_render _) ?_
  intro before sql middle wrote rendered
  obtain ⟨sameQuery, draftRendered⟩ := Generating.render_ok rendered
  obtain ⟨sorts, limit, same⟩ := wrote.fields
  rw [same, unread] at draftRendered
  have middleWrote : Wrote dialect start middle :=
    ⟨sameQuery ▸ wrote.fields, sameQuery ▸ wrote.statements⟩
  exact wrote_emit (render_ok _ _ _ draftRendered) middle middleWrote

theorem rootSelect_writes {draft after : Draft (List Binding)} {text : String}
    (succeeded : (rootSelect dialect.delegate start.drainOrderings.1 start.limit start).runOn
      draft = (.ok text, after)) :
    start.Writes dialect text ∧ start.Writes dialect (countText text) := by
  obtain ⟨root, select, selects, rfl, -⟩ := rootSelect_ok succeeded
  exact ⟨⟨.rows select, .root selects, rfl⟩, ⟨.count select, .count selects, rfl⟩⟩

/-- A select once its orderings and its limit are taken. -/
def selecting (delegate : Delegate (List Binding)) (keys : List SortKey) (limit : Option Limit)
    (state : QueryState) : Generating (List Binding) Unit := do
  Action.ofOutcome (checkSortable state keys)
  let sql ← Generating.render (rootSelect delegate keys limit)
  if state.command = .count then Generating.emit delegate (countText sql)
  else do
    Generating.emit delegate sql
    state.joinedTables.forM fun table => do
      let joinedSql ← Generating.render (joinedSelect delegate keys table)
      Generating.emit delegate joinedSql

theorem generateSelect_eq (delegate : Delegate (List Binding)) (state : QueryState)
    (draft : Draft (List Binding)) :
    (generateSelect delegate).runOn ⟨state, draft⟩ =
      (selecting delegate state.drainOrderings.1 state.limit
          { state.drainOrderings.2 with limit := none }).runOn
        ⟨{ state.drainOrderings.2 with limit := none }, draft⟩ := by
  have drained : (Generating.update QueryState.drainOrderings).runOn
      (⟨state, draft⟩ : Workspace (List Binding)) =
        (.ok state.drainOrderings.1, ⟨state.drainOrderings.2, draft⟩) := rfl
  have limited : (Generating.update QueryState.takeLimit).runOn
      (⟨state.drainOrderings.2, draft⟩ : Workspace (List Binding)) =
        (.ok state.limit, ⟨{ state.drainOrderings.2 with limit := none }, draft⟩) := rfl
  unfold generateSelect selecting
  rw [Action.runOn_bind_of_ok drained, Action.runOn_bind_of_ok limited]
  rfl

theorem wrote_selecting (state : QueryState) :
    Action.Keeps (Wrote dialect start)
      (selecting dialect.delegate start.drainOrderings.1 start.limit state) := by
  refine .bind (.ofOutcome _) fun _ => .bindOk (wrote_render _) ?_
  intro before sql middle wrote rendered
  obtain ⟨sameQuery, draftRendered⟩ := Generating.render_ok rendered
  obtain ⟨sorts, limit, same⟩ := wrote.fields
  have middleWrote : Wrote dialect start middle :=
    ⟨sameQuery ▸ wrote.fields, sameQuery ▸ wrote.statements⟩
  have rootRendered : (rootSelect dialect.delegate start.drainOrderings.1 start.limit start).runOn
      before.draft = (.ok sql, middle.draft) := by
    rw [same] at draftRendered
    exact draftRendered
  obtain ⟨writes, counts⟩ := rootSelect_writes rootRendered
  split
  · exact wrote_emit counts middle middleWrote
  · refine Action.Keeps.bind (wrote_emit writes) (fun _ => ?_) middle middleWrote
    refine .forM (fun table => wrote_emission (fun _ _ _ => rfl) ?_) _
    intro draft text after succeeded
    obtain ⟨root, select, selects, rfl, -⟩ := joinedSelect_ok succeeded
    exact ⟨.rows select, .joined selects, rfl⟩

theorem wrote_generateOne
    {statement : Delegate (List Binding) → QueryState → Rendering (List Binding) String}
    (unread : ∀ sorts limit statements,
      statement dialect.delegate { start with sorts, limit, statements } =
        statement dialect.delegate start)
    (render_ok : ∀ draft text after,
      (statement dialect.delegate start).runOn draft = (.ok text, after) →
      ∃ sentence progress, start.Changes draft.progress start.command sentence progress ∧
        text = sentence.text dialect) :
    Action.Keeps (Wrote dialect start) (generateOne dialect.delegate statement) := by
  refine wrote_emission unread ?_
  intro draft text after succeeded
  obtain ⟨sentence, progress, changes, rfl⟩ := render_ok _ _ _ succeeded
  exact ⟨sentence, .change changes, rfl⟩

theorem wrote_generateCommand (draft : Draft (List Binding)) :
    Wrote dialect start
      ((generateCommand dialect.delegate start.command).runOn ⟨start, draft⟩).2 := by
  have begun : Wrote dialect start ⟨start, draft⟩ := ⟨⟨_, _, rfl⟩, [], by simp, by simp⟩
  have selects :
      Wrote dialect start ((generateSelect dialect.delegate).runOn ⟨start, draft⟩).2 := by
    rw [generateSelect_eq]
    exact wrote_selecting _ _ ⟨⟨_, _, rfl⟩, begun.statements⟩
  cases command : start.command with
  | unset => exact begun
  | select | count => exact selects
  | update =>
      refine wrote_generateOne (fun _ _ _ => rfl) (fun draft text after succeeded => ?_) _ begun
      obtain ⟨sentence, changes, same, -⟩ := updateStatement_ok succeeded
      exact ⟨sentence, _, command ▸ changes, same⟩
  | delete =>
      refine wrote_generateOne (fun _ _ _ => rfl) (fun draft text after succeeded => ?_) _ begun
      obtain ⟨sentence, changes, same, -⟩ := deleteStatement_ok succeeded
      exact ⟨sentence, _, command ▸ changes, same⟩
  | insert =>
      refine wrote_generateOne (fun _ _ _ => rfl) (fun draft text after succeeded => ?_) _ begun
      obtain ⟨sentence, changes, same, -⟩ := insertStatement_ok succeeded
      exact ⟨sentence, _, command ▸ changes, same⟩

theorem wrote_closing :
    Action.Keeps (Wrote dialect start) (do
      let after ← Generating.query
      if !after.sorts.isEmpty then throw (.generation .orderingsNotConsumed)
      else do
        let _ ← Generating.update QueryState.takeLimit
        pure ()) := by
  refine .bind (fun _ wrote => wrote) fun after => ?_
  split
  · exact .throw _
  · refine .bind ?_ fun _ => .pure _
    rintro ⟨state, draft⟩ ⟨⟨sorts, limit, same⟩, added⟩
    dsimp only at same added
    refine ⟨⟨sorts, none, ?_⟩, added⟩
    change { state with limit := none } = _
    rw [same]
    rfl

theorem wrote_generate (draft : Draft (List Binding)) :
    Wrote dialect start ((generate dialect.delegate).runOn ⟨start, draft⟩).2 := by
  have begun : Wrote dialect start ⟨start, draft⟩ := ⟨⟨_, _, rfl⟩, [], by simp, by simp⟩
  rw [generate_eq]
  split
  · exact begun
  split
  · exact begun
  · have queried : Generating.query.runOn (⟨start, ⟨[], draft.calls⟩⟩ : Workspace (List Binding)) =
        (.ok start, ⟨start, ⟨[], draft.calls⟩⟩) := rfl
    have commanded : Wrote dialect start
        ((generateCommand dialect.delegate start.command).runOn ⟨start, ⟨[], draft.calls⟩⟩).2 :=
      wrote_generateCommand _
    change Wrote dialect start
      ((generateEmptied dialect.delegate).runOn ⟨start, ⟨[], draft.calls⟩⟩).2
    unfold generateEmptied
    rw [Action.runOn_bind_of_ok queried, Action.runOn_bind]
    rcases ran : (generateCommand dialect.delegate start.command).runOn
      (⟨start, ⟨[], draft.calls⟩⟩ : Workspace (List Binding)) with ⟨error | _, middle⟩
    · rw [ran] at commanded
      exact commanded
    · rw [ran] at commanded
      exact wrote_closing middle commanded

end Generation

/-! ## Statements of a delegate -/

namespace Dialect

open Generation

/-- No name escapes its quotes. One is read back from its quotes as it was, up to any text that
begins with no quote. In the statements for queries, tables and indexes the quoted names are those
of the query, the tables and the index, in their order, and all else is fixed. -/
theorem delegate_quotes (dialect : Dialect) :
    (∀ (name : String) (rest : List Char), rest.head? ≠ some dialect.quoteMark →
      Text.Quoted.read dialect.quoteMark ((dialect.quoteIdentifier name).toList ++ rest) =
        some (name.toList, rest)) ∧
    (∀ (state : QueryState) (draft : Draft (List Binding)), ∃ statements,
      ((generate dialect.delegate).runOn ⟨state, draft⟩).2.query.statements =
        state.statements ++ statements ∧
      ∀ statement ∈ statements, ∃ sentence, state.Produces sentence ∧
        statement.sql = sentence.text dialect ∧
        Sql.Carries dialect (Sql.tokens dialect statement.sql) sentence.names) ∧
    (∀ (tables : TableStructure) (policy : CreatePolicy) (buffer : List Binding),
      ∃ statements,
        (dialect.delegate.createTable tables policy).runOn buffer = (.ok statements, buffer) ∧
        List.Forall₂ (fun sql names => Sql.Carries dialect (Sql.tokens dialect sql) names)
          statements (Sql.tableNames policy tables)) ∧
    (∀ (table : String) (columns : List String) (unique : Bool) (buffer : List Binding),
      columns ≠ [] → ∃ sql,
        (dialect.delegate.createIndex table columns unique).runOn buffer = (.ok [sql], buffer) ∧
        Sql.Carries dialect (Sql.tokens dialect sql)
          (Sql.indexName table columns :: table :: columns)) := by
  refine ⟨?_, ?_, ?_, ?_⟩
  · intro name rest apart
    refine Text.Quoted.read_quote _ name ?_
    rintro char first rfl
    exact apart first
  · intro state draft
    have wrote : Wrote dialect state
        ((generate dialect.delegate).runOn ⟨state, draft⟩).2 := wrote_generate draft
    obtain ⟨-, statements, ended, writes⟩ := wrote
    refine ⟨statements, ended, fun statement member => ?_⟩
    obtain ⟨sentence, produces, same⟩ := writes statement member
    exact ⟨sentence, produces, same, same ▸ sentence.carries⟩
  · intro tables policy buffer
    refine ⟨dialect.tableStatements policy tables, rfl, ?_⟩
    exact (Sql.names_table dialect policy tables).imp fun _ _ names => names.carries
  · intro table columns unique buffer nonempty
    refine ⟨dialect.indexStatement table columns unique, ?_,
      (Sql.names_index dialect table columns unique).carries⟩
    have some : columns.isEmpty = false := by simpa using nonempty
    change (dialect.indexStatements table columns unique, buffer) = _
    simp [Dialect.indexStatements, some]

/-- Quotes in the names of an index, of its columns and of a filter's column. -/
theorem delegate_quotes_sample :
    let name := "\"\"; DROP TABLE \""
    let state : QueryState :=
      { tables := [⟨Sample.book, "t0", none⟩], command := .delete, filters := [.column name] }
    let sql := "DELETE FROM \"book\" WHERE \"\"\"\"\"; DROP TABLE \"\"\""
    let index := "CREATE UNIQUE INDEX IF NOT EXISTS " ++
      "\"index_\"\"\"\"; DROP TABLE \"\"__\"\"\"\"; DROP TABLE \"\"\"" ++
      " ON \"\"\"\"\"; DROP TABLE \"\"\" (\"\", \"\"\"\"\"; DROP TABLE \"\"\")"
    Text.Quoted.read '"' ((postgres.quoteIdentifier name).toList ++ [' ']) =
        some (name.toList, [' ']) ∧
      ((generate postgres.delegate).runOn ⟨state, ⟨[], .zero⟩⟩).2.query.statements = [⟨sql, []⟩] ∧
      Sql.Carries postgres (Sql.tokens postgres sql) ["book", name] ∧
      (postgres.delegate.createIndex name ["", name] true).runOn [] = (.ok [index], []) ∧
      Sql.Carries postgres (Sql.tokens postgres index)
        (Sql.indexName name ["", name] :: name :: ["", name]) := by
  intro name state sql index
  obtain ⟨quoted, generated, -, indexed⟩ := delegate_quotes postgres
  obtain ⟨statements, ended, each⟩ := generated state ⟨[], .zero⟩
  have ran : ((generate postgres.delegate).runOn ⟨state, ⟨[], .zero⟩⟩).2.query.statements =
      [⟨sql, []⟩] := by
    decide +kernel
  obtain rfl : statements = [⟨sql, []⟩] := ended.symm.trans ran
  obtain ⟨sentence, -, -, carries⟩ := each _ (List.mem_singleton_self _)
  have names : sentence.names = ["book", name] := carries.names_eq.trans (by decide +kernel)
  obtain ⟨text, created, carriesIndex⟩ := indexed name ["", name] true [] (by simp)
  have written : (postgres.delegate.createIndex name ["", name] true).runOn [] =
      (.ok [index], []) := by
    decide +kernel
  obtain rfl : text = index := by
    cases created.symm.trans written
    rfl
  exact ⟨quoted _ _ (by decide), ran, names ▸ carries, written, carriesIndex⟩

end Dialect

end RecordMapper
