import RecordMapper.Proofs.Query.Departing
import RecordMapper.Proofs.Query.Feeding
import RecordMapper.Proofs.Query.Iterating

set_option autoImplicit false

/-!
Which related rows a root record carries. The statement of a join gives the rows of its table that
WHERE admits with some root row, and merging tells them apart by their keys alone; so a record
carries the rows that are admitted with any root row of its own key.
-/

namespace RecordMapper

/-! ## Collections of a record -/

/-- A collection field of a record that was read has the items of its related rows. -/
theorem RecordType.hydrate_collection {schema : Schema} {source : RelatedRows}
    {record : RecordType} {row : Row} {values : HydratedRecord} {field : Field} {item : String}
    (hydrated : record.hydrate schema source row = .ok values) (member : field ∈ record.fields)
    (isCollection : field.kind = .collection item) :
    ∃ outcome, source record field.name row = .ok outcome ∧
      ∀ rows, outcome = some rows → ∃ related items, schema.find? item = some related ∧
        rows.mapM related.readRelated = .ok items ∧ (field.name, .related items) ∈ values := by
  have fields := mapM_ok_iff.mp hydrated
  obtain ⟨value, isValue, isRead⟩ : ∃ value ∈ values,
      record.readField schema source row field = .ok value := by
    obtain ⟨index, inside, rfl⟩ := List.getElem_of_mem member
    have valueInside : index < values.length := fields.length_eq ▸ inside
    exact ⟨values[index], List.getElem_mem valueInside, fields.get inside valueInside⟩
  unfold readField at isRead
  rw [isCollection] at isRead
  dsimp only at isRead
  cases outcome : source record field.name row with
  | error error =>
      rw [outcome] at isRead
      cases isRead
  | ok found =>
      refine ⟨found, rfl, ?_⟩
      rintro rows rfl
      rw [outcome] at isRead
      obtain ⟨read, filled, rfl⟩ := map_ok isRead
      unfold readCollection at filled
      cases declared : schema.find? item with
      | none =>
          rw [declared] at filled
          cases filled
      | some related =>
          rw [declared] at filled
          obtain ⟨items, isItems, rfl⟩ := map_ok filled
          exact ⟨related, items, rfl, isItems, isValue⟩

/-- A query whose joins are between fields of their record types and fill collections of the root
that are declared with the record types of the joins. -/
structure Query.IsDeclared (query : Query) (schema : Schema) : Prop where
  joins : ∀ joined ∈ query.joins, joined.2.IsOn query.root joined.1
  collections : ∀ joined ∈ query.joins, ∃ field item,
    query.root.field? joined.2.collection = some field ∧ field.kind = .collection item ∧
      schema.find? item = some joined.1

/-- Plain joins on keys that are integers or texts. -/
structure Query.IsKeyed (query : Query) (dataset : Sql.Dataset) : Prop where
  kinds : ∀ joined ∈ query.joins, joined.2.pivot = none →
    joined.2.keyKind ∈ [.int, .uint, .text]
  roots : ∀ joined ∈ query.joins, joined.2.pivot = none →
    joined.2.keyKind.TakesAll joined.2.rootKey.name (dataset.rows query.root.table)
  tables : ∀ joined ∈ query.joins, joined.2.pivot = none →
    joined.2.keyKind.TakesAll joined.2.rootMatch.name (dataset.rows joined.1.table)

namespace Query

variable {query : Query} {schema : Schema}

theorem IsDeclared.isTyped (declared : query.IsDeclared schema)
    (pure : ∀ filter ∈ query.filters, filter.Pure) : query.IsTyped where
  joins := by
    intro stage member
    cases stage with
    | join record clause =>
        exact declared.joins (record, clause) (List.mem_filterMap.mpr ⟨_, member, rfl⟩)
    | filter | ordering | limit => trivial
  filters := by
    intro stage member
    cases stage with
    | filter condition =>
        exact (pure condition (List.mem_filterMap.mpr ⟨_, member, rfl⟩)).steady
    | join | ordering | limit => trivial

/-- A record type is joined once, so a collection is filled once. -/
theorem IsDeclared.collections_nodup (declared : query.IsDeclared schema) {state : QueryState}
    (holds : state.Holds query .select) : (query.joins.map (·.2.collection)).Nodup := by
  let declaredType (collection : String) : Option RecordType :=
    (query.root.field? collection).bind fun field =>
      match field.kind with
      | .collection item => schema.find? item
      | .column _ => none
  have records : query.joins.map (fun joined => some joined.1) =
      (query.joins.map (·.2.collection)).map declaredType := by
    rw [List.map_map]
    refine List.map_congr_left fun joined member => ?_
    obtain ⟨field, item, isField, isCollection, isType⟩ := declared.collections joined member
    simp only [Function.comp_apply, declaredType, isField, Option.bind_some, isCollection, isType]
  have joinedRecords : state.joinedTables.map (·.record) = query.joins.map (·.1) := by
    rw [← List.forall₂_eq_eq_eq, List.forall₂_map_left_iff, List.forall₂_map_right_iff]
    exact holds.joined.imp fun _ _ joins => joins.1
  have distinct : (query.joins.map (·.1)).Nodup := by
    rw [← joinedRecords]
    exact (List.filter_sublist.map _).nodup holds.distinct
  have nodup : (query.joins.map fun joined => some joined.1).Nodup := by
    have mapped := distinct.map fun _ _ => Option.some.inj
    rwa [List.map_map] at mapped
  rw [records] at nodup
  exact nodup.of_map

/-- A record has the items of the rows that merging chose for it from those kept for a join. -/
theorem IsDeclared.related (declared : query.IsDeclared schema) {joined : RecordType × Join}
    (member : joined ∈ query.joins) {merge : MergeContext} (sameRoot : merge.root = query.root)
    {buffered : JoinedRows} (kept : merge.joined? joined.2.collection = some buffered)
    {root : Row} {record : HydratedRecord}
    (hydrated : merge.root.hydrate schema merge.relatedRows root = .ok record) :
    ∃ rows items, buffered.relatedTo query.root joined.2.collection root = .ok rows ∧
      rows.mapM joined.1.readRelated = .ok items ∧
      (joined.2.collection, .related items) ∈ record := by
  obtain ⟨field, item, isField, isCollection, isType⟩ := declared.collections joined member
  have isMember : field ∈ merge.root.fields := by
    rw [sameRoot]
    exact List.mem_of_find?_eq_some isField
  have named : field.name = joined.2.collection := by simpa using List.find?_some isField
  obtain ⟨outcome, source, filled⟩ :=
    RecordType.hydrate_collection hydrated isMember isCollection
  rw [named] at source filled
  rw [MergeContext.relatedRows_joined kept, sameRoot] at source
  obtain ⟨rows, related, rfl⟩ := map_ok source
  obtain ⟨type, items, found, isItems, inRecord⟩ := filled rows rfl
  obtain rfl := Option.some.inj (isType.symm.trans found)
  exact ⟨rows, items, related, isItems, inRecord⟩

end Query

/-! ## A branch with two readers -/

namespace Sample

theorem levelled_pure : ∀ filter ∈ levelled.filters, filter.Pure := by
  intro filter member
  obtain rfl := List.mem_singleton.mp member
  exact .binary (.field _) (.field _)

theorem levelled_isDeclared : levelled.IsDeclared [reader, loan] where
  joins := by
    intro joined member
    obtain rfl : joined = (loan, loans) := List.mem_singleton.mp member
    exact ⟨rfl, rfl, by simp [loans], by simp [loans]⟩
  collections := by
    intro joined member
    obtain rfl : joined = (loan, loans) := List.mem_singleton.mp member
    exact ⟨{ name := "loans", kind := .collection "Loan" }, "Loan", by decide, rfl,
      by decide⟩

theorem levelled_isKeyed : levelled.IsKeyed branch where
  kinds := by
    intro joined member _
    obtain rfl : joined = (loan, loans) := List.mem_singleton.mp member
    decide
  roots := by
    intro joined member _ row isRow
    obtain rfl : joined = (loan, loans) := List.mem_singleton.mp member
    have isReader : row = readerRow 1 7 1 ∨ row = readerRow 2 7 2 := by
      simpa [branch, levelled, reader] using isRow
    rcases isReader with rfl | rfl
    · exact ⟨.bigInt 7, by decide, .int rfl⟩
    · exact ⟨.bigInt 7, by decide, .int rfl⟩
  tables := by
    intro joined member _ row isRow
    obtain rfl : joined = (loan, loans) := List.mem_singleton.mp member
    have isLoan : row = loanRow 7 1 ∨ row = loanRow 7 2 := by
      simpa [branch, loan] using isRow
    rcases isLoan with rfl | rfl
    · exact ⟨.bigInt 7, by decide, .int rfl⟩
    · exact ⟨.bigInt 7, by decide, .int rfl⟩

theorem levelled_rendered :
    ((levelled.generate circulation .select).runOn ⟨[], .zero⟩).1.toOption.map
      (fun state => (state.joinedTables, state.statements)) =
        some ([⟨loan, "t1", some loans⟩],
          [⟨readerSelect.text .sqlite, []⟩, ⟨loanSelect.text .sqlite, []⟩]) := by
  decide +kernel

/-- Both readers have both loans. -/
theorem levelled_all : ∃ closed, (levelled.all circulation).runOn ⟨[], .zero⟩ =
    (.ok [readerRecord 1 7 1 [loanRecord 7 1, loanRecord 7 2],
      readerRecord 2 7 2 [loanRecord 7 1, loanRecord 7 2]], closed) := by
  refine Query.all_of_rendered (Replying.connection_answers (branch.answer .sqlite))
    levelled_rendered ?_
  simp only [Cursor.answered, List.zip_cons_cons, List.zip_nil_left, Cursor.keep,
    Sql.Dataset.answer_select]
  rfl

theorem levelled_apart :
    ¬branch.Accompanies .sqlite [] loanSelect (readerRow 1 7 1) (loanRow 7 2) := by
  rintro ⟨others, gives, admits⟩
  cases gives
  have holds := admits.filtered (sameLevel.read .sqlite) List.mem_cons_self
  exact absurd holds (by decide)

end Sample

/-! ## The rows that a record carries -/

theorem forall₂_through {First Second Third : Type} {left : First → Third → Prop}
    {right : Second → Third → Prop} {between : First → Second → Prop} {firsts : List First}
    {seconds : List Second} {thirds : List Third} (lefts : List.Forall₂ left firsts thirds)
    (rights : List.Forall₂ right seconds thirds)
    (betweens : List.Forall₂ between firsts seconds) :
    List.Forall₂ (fun first second =>
      between first second ∧ ∃ third, left first third ∧ right second third) firsts seconds := by
  induction betweens generalizing thirds with
  | nil => exact .nil
  | cons holds _ ih =>
      cases lefts with
      | cons leftHolds lefts =>
          cases rights with
          | cons rightHolds rights =>
              exact .cons ⟨holds, _, leftHolds, rightHolds⟩ (ih lefts rights)

namespace Query

variable {World Handle : Type} {dialect : Dialect} {connection : Connection World Handle}
  {schema : Schema} {query : Query} {dataset : Sql.Dataset} {bindings : List Binding}
  {answer : Statement → Except Error (List Row)}
  {owes : Handle → World → Option (Except Error (List Row))}

/-- Whether two rows of the root have the same key for a join. -/
def SameKey (dataset : Sql.Dataset) (join : Join) (first second : Row) : Prop :=
  dataset.compare (first.valueOf join.rootKey.name) (second.valueOf join.rootKey.name) = some .eq

/-- The rows that a root record carries for a join: each once, those of its key that accompany some
root row of the same key. -/
structure Carries (query : Query) (dataset : Sql.Dataset) (dialect : Dialect)
    (bindings : List Binding) (joined : RecordType × Join) (select : Sql.Select) (root : Row)
    (rows : List Row) : Prop where
  nodup : rows.Nodup
  members : ∀ row, row ∈ rows ↔ row ∈ dataset.rows joined.1.table ∧
    dataset.compare (root.valueOf joined.2.rootKey.name) (row.valueOf joined.2.rootMatch.name) =
      some .eq ∧
    ∃ other ∈ dataset.rows query.root.table, SameKey dataset joined.2 other root ∧
      dataset.Accompanies dialect bindings select other row
  unique : (∀ first ∈ dataset.rows query.root.table, ∀ second ∈ dataset.rows query.root.table,
      SameKey dataset joined.2 first second → first = second) →
    ∀ row, row ∈ rows ↔ row ∈ dataset.rows joined.1.table ∧
      dataset.compare (root.valueOf joined.2.rootKey.name)
        (row.valueOf joined.2.rootMatch.name) = some .eq ∧
      dataset.Accompanies dialect bindings select root row

theorem carries_of_relatedTo (usual : dataset.compare.Usual) (keyed : query.IsKeyed dataset)
    {joined : RecordType × Join} (member : joined ∈ query.joins)
    (plain : joined.2.pivot = none) {select : Sql.Select} (departs : query.Departs joined select)
    {fetched rows : List Row} {root : Row} (isRoot : root ∈ dataset.rows query.root.table)
    (evaluates : dataset.Evaluates (select.read dialect) bindings fetched) {field : String}
    (related : (joined.2.buffered fetched).relatedTo query.root field root = .ok rows) :
    query.Carries dataset dialect bindings joined select root rows := by
  obtain ⟨nodup, members⟩ := Sql.Dataset.mem_joined departs evaluates
  have exact : joined.2.keyKind ∈ KeyKind.exact := by
    have isKind := keyed.kinds joined member plain
    simp only [List.mem_cons, List.not_mem_nil, or_false] at isKind
    rcases isKind with isKind | isKind | isKind <;> rw [isKind] <;> decide
  have joinedKey : (joined.2.buffered fetched).joinedKey = joined.2.rootMatch.name := by
    unfold Join.buffered
    rw [plain]
    rfl
  have rootsTaken := keyed.roots joined member plain
  have rowsTaken := keyed.tables joined member plain
  obtain ⟨value, present, taken⟩ := rootsTaken root isRoot
  have fetchedTaken : joined.2.keyKind.TakesAll (joined.2.buffered fetched).joinedKey fetched := by
    intro row isFetched
    rw [joinedKey]
    exact rowsTaken row ((members row).mp isFetched).1
  have chosen := JoinedRows.mem_of_relatedTo usual exact present taken fetchedTaken related
  rw [joinedKey, ← Row.valueOf_of_present present] at chosen
  have mem_rows (row : Row) : row ∈ rows ↔ row ∈ fetched ∧
      dataset.compare (root.valueOf joined.2.rootKey.name)
        (row.valueOf joined.2.rootMatch.name) = some .eq := by
    rw [chosen, List.mem_filter, beq_iff_eq]
    rfl
  -- The key of a fetched row is that of the root rows that it accompanies.
  have sameKey {row other : Row} (isRow : row ∈ dataset.rows joined.1.table)
      (isOther : other ∈ dataset.rows query.root.table)
      (equal : dataset.compare (root.valueOf joined.2.rootKey.name)
        (row.valueOf joined.2.rootMatch.name) = some .eq)
      (accompanies : dataset.Accompanies dialect bindings select other row) :
      SameKey dataset joined.2 other root := by
    obtain ⟨otherValue, otherPresent, otherTaken⟩ := rootsTaken other isOther
    obtain ⟨rowValue, rowPresent, rowTaken⟩ := rowsTaken row isRow
    have accompanied := Sql.Dataset.accompanies_compare departs accompanies
    unfold SameKey
    rw [Row.valueOf_of_present present, Row.valueOf_of_present rowPresent] at equal
    rw [Row.valueOf_of_present otherPresent, Row.valueOf_of_present rowPresent] at accompanied
    rw [Row.valueOf_of_present otherPresent, Row.valueOf_of_present present]
    exact (KeyKind.compare_congr usual taken otherTaken rowTaken equal).mpr accompanied
  refine ⟨chosen ▸ nodup.filter _, ?_, ?_⟩
  · intro row
    rw [mem_rows, members]
    constructor
    · rintro ⟨⟨isRow, other, isOther, accompanies⟩, equal⟩
      exact ⟨isRow, equal, other, isOther, sameKey isRow isOther equal accompanies, accompanies⟩
    · rintro ⟨isRow, equal, other, isOther, -, accompanies⟩
      exact ⟨⟨isRow, other, isOther, accompanies⟩, equal⟩
  · intro unique row
    rw [mem_rows, members]
    constructor
    · rintro ⟨⟨isRow, other, isOther, accompanies⟩, equal⟩
      obtain rfl := unique other isOther root isRoot (sameKey isRow isOther equal accompanies)
      exact ⟨isRow, equal, accompanies⟩
    · rintro ⟨isRow, equal, accompanies⟩
      exact ⟨⟨isRow, root, isRoot, accompanies⟩, equal⟩

theorem root_mem {first : Sql.Select} {scope : Scope} {selects : List Sql.Select}
    (selected : query.Selects scope first selects) {roots : List Row}
    (evaluates : dataset.Evaluates (first.read dialect) bindings roots) :
    ∀ root ∈ roots, root ∈ dataset.rows query.root.table := by
  intro root member
  have direct : first.head.key = none := by rw [selected.head]
  have isRow := ((Sql.Dataset.mem_outputs direct).mp (evaluates.subset member)).1
  rwa [selected.head] at isRow

theorem Renders.departs {start : QueryState} {calls : Calls} {root : Sql.Select}
    {selects : List Sql.Select} (renders : query.Renders start calls root selects)
    (attached : start.IsAttached query.root) :
    List.Forall₂ (fun (joined : RecordType × Join) select =>
      joined.2.pivot = none → query.Departs joined select) query.joins selects := by
  obtain ⟨holds, middle, last, -, threaded⟩ := renders
  exact QueryState.joinedSelects_forall₂
    (fun member joins selects plain => selects.departs holds attached member joins plain)
    (List.filter_subset_self _) holds.joined threaded

/-- A select of plain joins on integers or texts reads a record from each root row, and gives it,
for each join, the rows of the join's table that have its key and that WHERE admits with some root
row of this key. Where keys are not repeated among the root rows, that is the root row of the record
itself. -/
theorem all_carries [connection.Finite] (answers : connection.Answers answer owes)
    (evaluates : ∀ {select : Sql.Select} {bindings : List Binding} {rows : List Row},
      answer ⟨select.text dialect, bindings⟩ = .ok rows →
        dataset.Evaluates (Sql.tokens dialect (select.text dialect)) bindings rows)
    (usual : dataset.compare.Usual) (pure : ∀ filter ∈ query.filters, filter.Pure)
    (declared : query.IsDeclared schema) (keyed : query.IsKeyed dataset)
    {records : List HydratedRecord} {before after : Session World}
    (succeeded : (query.all ⟨dialect.delegate, connection, schema⟩).runOn before =
      (.ok records, after)) :
    ∃ state opening first selects bindings roots related,
      (query.generate ⟨dialect.delegate, connection, schema⟩ .select).runOn before =
        (.ok state, opening) ∧
      state.statements =
        (first :: selects).map (fun select => ⟨select.text dialect, bindings⟩) ∧
      query.Selects state.scope first selects ∧
      answer ⟨first.text dialect, bindings⟩ = .ok roots ∧
      List.Forall₂ (fun root record => root ∈ dataset.rows query.root.table ∧
        query.root.hydrate schema related root = .ok record ∧
        List.Forall₂ (fun (joined : RecordType × Join) select => joined.2.pivot = none →
          ∃ rows items, (joined.2.collection, .related items) ∈ record ∧
            rows.mapM joined.1.readRelated = .ok items ∧
            query.Carries dataset dialect bindings joined select root rows)
          query.joins selects) roots records := by
  obtain ⟨state, opening, _, _, cursor, started, opened, roots, generated, starts, answered,
    hydrated⟩ := all_ok answers succeeded
  obtain ⟨start, first, selects, bindings, built, renders, rfl⟩ := generate_renders pure generated
  have holds := renders.holds
  have attached := toState_attached (declared.isTyped pure) built
  have selected := renders.selects pure
  have statements : (Generation.generated start ((first :: selects).map fun select =>
      ⟨select.text dialect, bindings⟩)).statements =
        (first :: selects).map fun select => ⟨select.text dialect, bindings⟩ :=
    holds.statements_generated _
  obtain ⟨rfl, rfl⟩ := List.cons.inj (starts.statements.symm.trans statements)
  have read {select : Sql.Select} {rows : List Row}
      (isAnswer : answer ⟨select.text dialect, bindings⟩ = .ok rows) :
      dataset.Evaluates (select.read dialect) bindings rows := by
    have evaluated := evaluates isAnswer
    rwa [(select.spells dialect).tokens_eq] at evaluated
  -- What was fetched for each join is the answer to its statement, kept under its collection.
  have sameLength : (selects.map fun select =>
      (⟨select.text dialect, bindings⟩ : Statement)).length = start.joinedTables.length := by
    rw [List.length_map, ← selected.joined.length_eq, holds.joined.length_eq]
  obtain ⟨fetched, fetches, sameRoot, keeps, -⟩ := Cursor.buffer_ok holds.joined
    (declared.collections_nodup holds) sameLength starts.buffers
  have joins := forall₂_through keeps
    (List.forall₂_map_left_iff.mp (fetches.answers answers)) (renders.departs attached)
  refine ⟨_, opening, first, selects, bindings, roots, cursor.merge.relatedRows, generated,
    statements, selected, answered, ?_⟩
  refine ((List.forall₂_and_left _ _).mpr ⟨root_mem selected (read answered), hydrated⟩).imp ?_
  rintro root record ⟨isRoot, isRecord⟩
  have ofRoot : query.root.hydrate schema cursor.merge.relatedRows root = .ok record := by
    rwa [sameRoot] at isRecord
  refine ⟨isRoot, ofRoot, ?_⟩
  refine ((List.forall₂_and_left _ _).mpr ⟨fun joined member => member, joins⟩).imp ?_
  rintro joined select ⟨member, leaves, rows, kept, isAnswer⟩ plain
  obtain ⟨chosen, items, related, isItems, inRecord⟩ :=
    declared.related member sameRoot kept isRecord
  exact ⟨chosen, items, inRecord, isItems,
    carries_of_relatedTo usual keyed member plain (leaves plain) isRoot (read isAnswer) related⟩

theorem all_carries_sample :
    (∀ filter ∈ Sample.levelled.filters, filter.Pure) ∧
    Sample.levelled.IsDeclared [Sample.reader, Sample.loan] ∧
    Sample.levelled.IsKeyed Sample.branch ∧ Sample.branch.compare.Usual ∧
    ∃ records closed, (Sample.levelled.all Sample.circulation).runOn ⟨[], .zero⟩ =
        (.ok records, closed) ∧
      ∃ roots related select bindings, List.Forall₂ (fun root record =>
        Sample.reader.hydrate [Sample.reader, Sample.loan] related root = .ok record ∧
        ∃ rows items, ("loans", .related items) ∈ record ∧
          rows.mapM Sample.loan.readRelated = .ok items ∧
          Sample.levelled.Carries Sample.branch .sqlite bindings (Sample.loan, Sample.loans) select
            root rows) roots records := by
  obtain ⟨closed, succeeded⟩ := Sample.levelled_all
  obtain ⟨_, _, _, selects, bindings, roots, related, -, -, selected, -, carried⟩ :=
    all_carries (Replying.connection_answers (Sample.branch.answer .sqlite))
      Sql.Dataset.answer_evaluates Sql.Comparison.plain_usual Sample.levelled_pure
      Sample.levelled_isDeclared Sample.levelled_isKeyed succeeded
  obtain ⟨select, rest, -, none, rfl⟩ := List.forall₂_cons_left_iff.mp selected.joined
  cases none
  refine ⟨Sample.levelled_pure, Sample.levelled_isDeclared, Sample.levelled_isKeyed,
    Sql.Comparison.plain_usual, _, closed, succeeded, roots, related, select, bindings,
    carried.imp ?_⟩
  rintro root record ⟨-, isRecord, joins⟩
  cases joins with
  | cons loans _ => exact ⟨isRecord, loans rfl⟩

/-- A record carries more than the rows that WHERE admits with its own root row where another root
row has the same key: the first reader has the loan of the second one's level. -/
theorem levelled_overfull :
    (∀ filter ∈ Sample.levelled.filters, filter.Pure) ∧
    Sample.levelled.IsDeclared [Sample.reader, Sample.loan] ∧
    Sample.levelled.IsKeyed Sample.branch ∧ Sample.branch.compare.Usual ∧
    ((Sample.levelled.generate Sample.circulation .select).runOn ⟨[], .zero⟩).1.toOption.map
      (fun state => (state.joinedTables, state.statements)) =
        some ([⟨Sample.loan, "t1", some Sample.loans⟩],
          [⟨Sample.readerSelect.text .sqlite, []⟩, ⟨Sample.loanSelect.text .sqlite, []⟩]) ∧
    (∃ closed, (Sample.levelled.all Sample.circulation).runOn ⟨[], .zero⟩ =
      (.ok [Sample.readerRecord 1 7 1 [Sample.loanRecord 7 1, Sample.loanRecord 7 2],
        Sample.readerRecord 2 7 2 [Sample.loanRecord 7 1, Sample.loanRecord 7 2]], closed)) ∧
    ¬∃ rows : List Row, rows.Nodup ∧
      (∀ row, row ∈ rows ↔ row ∈ Sample.branch.rows "loan" ∧ Sample.branch.Accompanies .sqlite []
        Sample.loanSelect (Sample.readerRow 1 7 1) row) ∧
      rows.mapM Sample.loan.readRelated = .ok [Sample.loanRecord 7 1, Sample.loanRecord 7 2] := by
  refine ⟨Sample.levelled_pure, Sample.levelled_isDeclared, Sample.levelled_isKeyed,
    Sql.Comparison.plain_usual, Sample.levelled_rendered, Sample.levelled_all, ?_⟩
  rintro ⟨rows, nodup, members, read⟩
  have alone : ∀ row ∈ rows, row = Sample.loanRow 7 1 := by
    intro row member
    obtain ⟨isLoan, accompanies⟩ := (members row).mp member
    have isOne : row = Sample.loanRow 7 1 ∨ row = Sample.loanRow 7 2 := by
      simpa [Sample.branch] using isLoan
    rcases isOne with rfl | rfl
    · rfl
    · exact absurd accompanies Sample.levelled_apart
  have few : rows.length ≤ 1 := by
    rw [List.eq_replicate_of_mem alone] at nodup
    exact List.nodup_replicate.mp nodup
  have two : rows.length = 2 := (mapM_ok_iff.mp read).length_eq
  omega

end Query

end RecordMapper
