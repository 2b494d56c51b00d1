import RecordMapper.Proofs.Connection.Answering
import RecordMapper.Proofs.Query.Stages

set_option autoImplicit false

/-!
What happens between a query and its first record: the state of the query is rendered, the root's
statement is opened, and the rows of every joined table are kept under the collection of its join.
-/

namespace RecordMapper

/-! ## Rendering a query -/

theorem Session.onWorld_ok {World Result : Type} {action : Action World Result}
    {before after : Session World} {result : Result}
    (succeeded : (Session.onWorld action).runOn before = (.ok result, after)) :
    ∃ world, action.runOn before.world = (.ok result, world) ∧
      after = { before with world } := by
  obtain ⟨ran, same⟩ := Prod.mk.inj succeeded
  exact ⟨_, Prod.ext ran rfl, same.symm⟩

theorem Session.onWorld_of_ok {World Result : Type} {action : Action World Result}
    {before : Session World} {world : World} {result : Result}
    (ran : action.runOn before.world = (.ok result, world)) :
    (Session.onWorld action).runOn before = (.ok result, { before with world }) := by
  change (fun ran : Except Error Result × World => (ran.1, { before with world := ran.2 }))
    (action.runOn before.world) = _
  rw [ran]

theorem Database.runOn_generate {Buffer World Handle : Type}
    (database : Database Buffer World Handle) (start : QueryState) (before : Session World) :
    (database.generate start).runOn before =
      (fun ran : Except Error Unit × Workspace Buffer =>
        (ran.1.map fun _ => ran.2.query, { before with calls := ran.2.draft.calls }))
        ((Generation.generate database.delegate).runOn
          ⟨start, ⟨database.delegate.empty, before.calls⟩⟩) := rfl

theorem Database.generate_ok {Buffer World Handle : Type}
    {database : Database Buffer World Handle} {start state : QueryState}
    {before after : Session World}
    (succeeded : (database.generate start).runOn before = (.ok state, after)) :
    ∃ workspace, (Generation.generate database.delegate).runOn
        ⟨start, ⟨database.delegate.empty, before.calls⟩⟩ = (.ok (), workspace) ∧
      state = workspace.query ∧ after = { before with calls := workspace.draft.calls } := by
  rw [runOn_generate] at succeeded
  rcases ran : (Generation.generate database.delegate).runOn
    ⟨start, ⟨database.delegate.empty, before.calls⟩⟩ with ⟨error | _, workspace⟩
  · rw [ran] at succeeded
    cases succeeded
  · rw [ran] at succeeded
    cases succeeded
    exact ⟨workspace, rfl, rfl, rfl⟩

theorem Query.generate_ok {Buffer World Handle : Type} {database : Database Buffer World Handle}
    {query : Query} {command : Command} {state : QueryState} {before after : Session World}
    (succeeded : (query.generate database command).runOn before = (.ok state, after)) :
    ∃ start workspace, query.toState command = .ok start ∧
      (Generation.generate database.delegate).runOn
        ⟨start, ⟨database.delegate.empty, before.calls⟩⟩ = (.ok (), workspace) ∧
      state = workspace.query ∧ after = { before with calls := workspace.draft.calls } := by
  obtain ⟨start, _, building, generated⟩ := Action.bind_ok succeeded
  obtain ⟨rfl, built⟩ := Action.ofOutcome_ok building
  obtain ⟨workspace, ran, same, sameSession⟩ := Database.generate_ok generated
  exact ⟨start, workspace, built, ran, same, sameSession⟩

theorem Query.generate_of_ok {Buffer World Handle : Type}
    {database : Database Buffer World Handle} {query : Query} {command : Command}
    {start : QueryState} {before : Session World} {workspace : Workspace Buffer}
    (built : query.toState command = .ok start)
    (ran : (Generation.generate database.delegate).runOn
      ⟨start, ⟨database.delegate.empty, before.calls⟩⟩ = (.ok (), workspace)) :
    (query.generate database command).runOn before =
      (.ok workspace.query, { before with calls := workspace.draft.calls }) := by
  have building : (Action.ofOutcome (query.toState command)).runOn before = (.ok start, before) :=
    Prod.ext built rfl
  unfold Query.generate
  rw [Action.runOn_bind_of_ok building, Database.runOn_generate, ran]
  rfl

/-! ## Keeping joined rows -/

/-- The rows of a join as they are kept: under the key column of the joined table, which a pivot
adds to the rows. -/
def Join.buffered (join : Join) (rows : List Row) : JoinedRows where
  rootKey := join.rootKey.name
  joinedKey := if join.pivot.isSome then pivotKeyColumn else join.rootMatch.name
  keyKind := join.keyKind
  rows := rows

namespace MergeContext

variable {context : MergeContext} {collection other : String} {joined : JoinedRows}

@[simp] theorem joined?_insert_self :
    (context.insert collection joined).joined? collection = some joined := by
  simp [insert, joined?]

theorem joined?_insert_of_ne (differs : other ≠ collection) :
    (context.insert collection joined).joined? other = context.joined? other := by
  simp [insert, joined?, differs.symm]

end MergeContext

variable {World Handle Result : Type} {connection : Connection World Handle}

/-- Statements that are fetched one after another, each with its rows. -/
def Connection.Fetches (connection : Connection World Handle) [connection.Finite] :
    List Statement → World → List (List Row) → World → Prop :=
  Threaded fun statement before rows after =>
    (connection.fetchAll statement).runOn before = (.ok rows, after)

/-- The rows fetched for joins are what a context has under their collections. -/
def MergeContext.Keeps (merge : MergeContext) (joins : List (RecordType × Join))
    (fetched : List (List Row)) : Prop :=
  List.Forall₂ (fun (joined : RecordType × Join) rows =>
    merge.joined? joined.2.collection = some (joined.2.buffered rows)) joins fetched

namespace Cursor

/-- Buffering fetches each statement once, in order, for the collection of its own join. Rows that
were kept under other collections stay. -/
theorem buffer_ok [connection.Finite] {tables : List Table} {joins : List (RecordType × Join)}
    (joined : List.Forall₂ Table.Joins tables joins)
    (distinct : (joins.map (·.2.collection)).Nodup) {statements : List Statement}
    (sameLength : statements.length = tables.length) {context merge : MergeContext}
    {before after : World}
    (succeeded : (buffer connection context (tables.zip statements)).runOn before =
      (.ok merge, after)) :
    ∃ fetched, connection.Fetches statements before fetched after ∧
      merge.root = context.root ∧ merge.Keeps joins fetched ∧
      ∀ collection, collection ∉ joins.map (·.2.collection) →
        merge.joined? collection = context.joined? collection := by
  induction joined generalizing statements context before with
  | nil =>
      obtain rfl : statements = [] := List.length_eq_zero_iff.mp sameLength
      obtain ⟨rfl, rfl⟩ := Action.pure_ok succeeded
      exact ⟨[], .nil, rfl, .nil, fun _ _ => rfl⟩
  | @cons table head tables joins first others ih =>
      match statements with
      | [] => cases sameLength
      | statement :: statements =>
          obtain ⟨-, attached⟩ := first
          rw [List.zip_cons_cons, buffer] at succeeded
          simp only [attached] at succeeded
          obtain ⟨rows, middle, fetches, buffering⟩ := Action.bind_ok succeeded
          rw [List.map_cons, List.nodup_cons] at distinct
          obtain ⟨fetched, fetchesOthers, sameRoot, keeps, outside⟩ :=
            ih distinct.2 (Nat.succ.inj sameLength) buffering
          refine ⟨rows :: fetched, .cons fetches fetchesOthers, sameRoot, .cons ?_ keeps, ?_⟩
          · rw [outside _ distinct.1]
            exact MergeContext.joined?_insert_self
          · intro collection absent
            rw [List.map_cons, List.mem_cons, not_or] at absent
            rw [outside _ absent.2]
            exact MergeContext.joined?_insert_of_ne absent.1

/-- A cursor as it is when its body begins. -/
structure Started (connection : Connection World Handle) [connection.Finite] (record : RecordType)
    (state : QueryState) (root : Statement) (joined : List Statement) (before : World)
    (cursor : Cursor Handle) (started opened : World) : Prop where
  statements : state.statements = root :: joined
  opens : connection.Opens root before cursor.root started
  buffers : (buffer connection { root := record } (state.joinedTables.zip joined)).runOn started =
    (.ok cursor.merge, opened)
  fresh : cursor.done = false

theorem withOpen_ok [connection.Finite] {record : RecordType} {state : QueryState}
    {body : Cursor Handle → Action World Result} {before after : World} {result : Result}
    (succeeded :
      (withOpen connection record state body).runOn before = (.ok result, after)) :
    ∃ root joined cursor started opened closing,
      Started connection record state root joined before cursor started opened ∧
      (body cursor).runOn opened = (.ok result, closing) ∧
      after = connection.release cursor.root closing := by
  unfold withOpen at succeeded
  split at succeeded
  · exact (Action.throw_ok succeeded).elim
  · rename_i root joined statements
    obtain ⟨handle, started, closing, opens, running, rfl⟩ := Connection.withStatement_ok succeeded
    obtain ⟨merge, opened, buffers, ran⟩ := Action.bind_ok running
    exact ⟨root, joined, { root := handle, merge }, started, opened, closing,
      ⟨statements, opens, buffers, rfl⟩, ran, rfl⟩

end Cursor

end RecordMapper
