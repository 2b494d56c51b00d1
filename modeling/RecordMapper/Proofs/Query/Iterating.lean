import RecordMapper.Proofs.Query.Opening

set_option autoImplicit false

/-!
Reading a select from an engine that answers statements. The root's rows stay owed while the
statements of the joins are fetched, so a select that is read to its end gives one record for each
row of the root's answer.
-/

namespace RecordMapper

variable {World Handle : Type} {connection : Connection World Handle}
  {answer : Statement → Except Error (List Row)}
  {owes : Handle → World → Option (Except Error (List Row))}

theorem Connection.Fetches.answers [connection.Finite]
    (answers : connection.Answers answer owes)
    {statements : List Statement} {fetched : List (List Row)} {before after : World}
    (fetches : connection.Fetches statements before fetched after) :
    List.Forall₂ (fun statement rows => answer statement = .ok rows) statements fetched := by
  induction fetches with
  | nil => exact .nil
  | cons taken _ ih => exact .cons (answers.fetchAll_ok taken).1 ih

namespace Cursor

theorem buffer_keeps [connection.Finite] (answers : connection.Answers answer owes)
    {pairs : List (Table × Statement)} {context merge : MergeContext} {before after : World}
    (succeeded : (buffer connection context pairs).runOn before = (.ok merge, after))
    {other : Handle} (isOpen : (owes other before).isSome) :
    owes other after = owes other before := by
  induction pairs generalizing context before with
  | nil =>
      obtain ⟨rfl, -⟩ := Action.pure_ok succeeded
      rfl
  | cons pair pairs ih =>
      obtain ⟨table, statement⟩ := pair
      unfold buffer at succeeded
      split at succeeded
      · exact ih succeeded isOpen
      · obtain ⟨rows, middle, fetches, buffering⟩ := Action.bind_ok succeeded
        have kept := (answers.fetchAll_ok fetches).2 other isOpen
        rw [ih buffering (by rw [kept]; exact isOpen), kept]

variable {record : RecordType} {state : QueryState} {root : Statement} {joined : List Statement}
  {before started opened closing : World} {cursor : Cursor Handle} {schema : Schema}

theorem all_ok [connection.Finite] (answers : connection.Answers answer owes)
    (starts : Started connection record state root joined before cursor started opened)
    {records : List HydratedRecord}
    (succeeded : (cursor.all connection schema).runOn opened = (.ok records, closing)) :
    ∃ rows, answer root = .ok rows ∧
      List.Forall₂ (fun row record =>
        cursor.merge.root.hydrate schema cursor.merge.relatedRows row = .ok record)
        rows records := by
  obtain ⟨isOwed, -⟩ := answers.opened starts.opens
  have stillOwed : owes cursor.root opened = some (answer root) := by
    rw [buffer_keeps answers starts.buffers (by rw [isOwed]; rfl), isOwed]
  unfold all at succeeded
  rw [starts.fresh] at succeeded
  obtain ⟨rows, isAnswer, reads, -⟩ := answers.readToEnd_ok stillOwed succeeded
  exact ⟨rows, isAnswer, mapM_ok_iff.mp reads⟩

end Cursor

/-! ## Records as a function of the answers -/

namespace Cursor

/-- What a merge context becomes where an engine answers the statements of joined tables. -/
def keep (answer : Statement → Except Error (List Row)) (context : MergeContext) :
    List (Table × Statement) → Except Error MergeContext
  | [] => .ok context
  | (table, statement) :: rest =>
      match table.join with
      | none => keep answer context rest
      | some join => do
          let rows ← answer statement
          keep answer (context.insert join.collection (join.buffered rows)) rest

theorem buffer_iff [connection.Finite] (answers : connection.Answers answer owes)
    {pairs : List (Table × Statement)} {context merge : MergeContext} {before : World} :
    (∃ after, (buffer connection context pairs).runOn before = (.ok merge, after)) ↔
      keep answer context pairs = .ok merge := by
  induction pairs generalizing context before with
  | nil =>
      constructor
      · rintro ⟨after, succeeded⟩
        obtain ⟨-, rfl⟩ := Action.pure_ok succeeded
        rfl
      · rintro kept
        cases kept
        exact ⟨before, rfl⟩
  | cons pair pairs ih =>
      obtain ⟨table, statement⟩ := pair
      cases attached : table.join with
      | none =>
          simp only [buffer, keep, attached]
          exact ih
      | some join =>
          simp only [buffer, keep, attached]
          constructor
          · rintro ⟨after, succeeded⟩
            obtain ⟨rows, middle, fetches, buffering⟩ := Action.bind_ok succeeded
            rw [(answers.fetchAll_ok fetches).1]
            exact ih.mp ⟨after, buffering⟩
          · intro kept
            obtain ⟨rows, answered, rest⟩ := bind_ok kept
            obtain ⟨middle, fetches⟩ := answers.fetchAll_of_answer answered before
            obtain ⟨after, buffering⟩ := ih.mpr rest
            exact ⟨after, (Action.runOn_bind_of_ok fetches _).trans buffering⟩

/-- The records of a select where an engine answers its statements: the root's and then one for each
joined table. -/
def answered (answer : Statement → Except Error (List Row)) (schema : Schema)
    (record : RecordType) (tables : List Table) :
    List Statement → Except Error (List HydratedRecord)
  | [] => .error (.custom "select produced no statements")
  | root :: joined => do
      let merge ← keep answer { root := record } (tables.zip joined)
      let rows ← answer root
      rows.mapM (merge.root.hydrate schema merge.relatedRows)

end Cursor

namespace Query

variable {Buffer : Type} {database : Database Buffer World Handle}
  [database.connection.Finite] {query : Query} {records : List HydratedRecord}
  {before after opening : Session World} {state : QueryState}

theorem all_ok (answers : database.connection.Answers answer owes)
    (succeeded : (query.all database).runOn before = (.ok records, after)) :
    ∃ state opening root joined cursor started opened rows,
      (query.generate database .select).runOn before = (.ok state, opening) ∧
      Cursor.Started database.connection query.root state root joined opening.world cursor started
        opened ∧
      answer root = .ok rows ∧
      List.Forall₂ (fun row record =>
        cursor.merge.root.hydrate database.schema cursor.merge.relatedRows row = .ok record)
        rows records := by
  obtain ⟨state, opening, generated, running⟩ := Action.bind_ok succeeded
  obtain ⟨world, opened, -⟩ := Session.onWorld_ok running
  obtain ⟨root, joined, cursor, started, last, closing, starts, ran, -⟩ :=
    Cursor.withOpen_ok opened
  obtain ⟨rows, answered, hydrated⟩ := Cursor.all_ok answers starts ran
  exact ⟨state, opening, root, joined, cursor, started, last, rows, generated, starts, answered,
    hydrated⟩

/-- A select gives records exactly where the answers of its statements make them. -/
theorem all_iff (answers : database.connection.Answers answer owes)
    (generated : (query.generate database .select).runOn before = (.ok state, opening)) :
    (∃ after, (query.all database).runOn before = (.ok records, after)) ↔
      Cursor.answered answer database.schema query.root state.joinedTables state.statements =
        .ok records := by
  constructor
  · rintro ⟨after, succeeded⟩
    obtain ⟨same, _, root, joined, cursor, started, opened, rows, again, starts, answered,
      hydrated⟩ := all_ok answers succeeded
    rw [generated] at again
    cases again
    have kept := (Cursor.buffer_iff answers).mp ⟨opened, starts.buffers⟩
    rw [starts.statements, Cursor.answered, kept]
    change (do let rows ← answer root; rows.mapM _) = _
    rw [answered]
    exact mapM_ok_iff.mpr hydrated
  · intro isRecords
    cases statements : state.statements with
    | nil =>
      rw [statements] at isRecords
      cases isRecords
    | cons root joined =>
      rw [statements] at isRecords
      obtain ⟨merge, kept, reading⟩ := bind_ok isRecords
      obtain ⟨rows, answered, hydrated⟩ := bind_ok reading
      obtain ⟨handle, started, opens⟩ := answers.opens opening.world answered
      obtain ⟨opened, buffers⟩ : ∃ opened, (Cursor.buffer database.connection
          { root := query.root } (state.joinedTables.zip joined)).runOn started =
            (.ok merge, opened) := (Cursor.buffer_iff answers).mpr kept
      have isOwed : owes handle opened = some (.ok rows) := by
        have owed := (answers.opened opens).1
        rw [Cursor.buffer_keeps answers buffers (by rw [owed]; rfl), owed, answered]
      obtain ⟨closing, reads, -⟩ :=
        answers.readToEnd_eq isOwed (merge.root.hydrate database.schema merge.relatedRows)
      rw [hydrated] at reads
      let body : Action World (List HydratedRecord) := do
        let merge ← Cursor.buffer database.connection { root := query.root }
          (state.joinedTables.zip joined)
        Cursor.all database.connection database.schema { root := handle, merge }
      have ran : body.runOn started = (.ok records, closing) :=
        (Action.runOn_bind_of_ok buffers _).trans reads
      have opened : (Cursor.withOpen database.connection query.root state fun cursor =>
          cursor.all database.connection database.schema).runOn opening.world =
            (.ok records, database.connection.release handle closing) := by
        unfold Cursor.withOpen
        simp only [statements]
        exact (Connection.withStatement_eq opens _).trans (by rw [ran])
      exact ⟨_, (Action.runOn_bind_of_ok generated _).trans (Session.onWorld_of_ok opened)⟩

/-- A select whose statements are known gives the records that their answers make. -/
theorem all_of_rendered (answers : database.connection.Answers answer owes)
    {tables : List Table} {statements : List Statement}
    (rendered : ((query.generate database .select).runOn before).1.toOption.map
      (fun state => (state.joinedTables, state.statements)) = some (tables, statements))
    (isRecords : Cursor.answered answer database.schema query.root tables statements =
      .ok records) :
    ∃ after, (query.all database).runOn before = (.ok records, after) := by
  rcases ran : (query.generate database .select).runOn before with ⟨error | state, opening⟩
  · rw [ran] at rendered
    cases rendered
  · rw [ran] at rendered
    obtain ⟨sameTables, sameStatements⟩ := Prod.mk.inj (Option.some.inj rendered)
    refine (all_iff answers ran).mpr ?_
    rw [sameTables, sameStatements]
    exact isRecords

end Query

end RecordMapper
