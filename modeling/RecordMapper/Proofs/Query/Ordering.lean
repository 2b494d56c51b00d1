import Mathlib.Data.List.Perm.Basic
import RecordMapper.Proofs.Query.Building
import RecordMapper.Proofs.Query.Sample
import RecordMapper.Proofs.Query.Sentences
import RecordMapper.Proofs.Sql.OrderTerm

set_option autoImplicit false

/-!
Where declared orderings go. A generation that succeeds renders each of them once, in the statement
that selects the rows of its record; one that a table has followed fails every generation.
-/

namespace RecordMapper

/-- How a key is written in the statement of its table. -/
def SortKey.IsTerm (table : Table) (key : SortKey) (term : List Sql.Token) : Prop :=
  ∃ column, key.field.column? = some column ∧
    term = [.name table.aliasName, .mark '.', .name column]
      ++ if key.descending then [.word "DESC"] else []

/-- The tables that have a statement of their own in a select. -/
def QueryState.selected (state : QueryState) (root : Table) : List Table :=
  root :: state.joinedTables

namespace Generation

variable {dialect : Dialect} {state : QueryState}

theorem orders_terms (selects : state.command = .select) (distinct : state.IsDistinct)
    {table : Table} (member : table ∈ state.tables) {keys : List SortKey}
    {terms : List Sql.OrderTerm}
    (orders : state.scope.Orders (keys.filter (·.isOn table.record)) terms) :
    List.Forall₂ (SortKey.IsTerm table) (keys.filter (·.isOn table.record))
      (terms.map (·.read)) := by
  rw [List.forall₂_map_right_iff]
  have onTable : ∀ key ∈ keys.filter (·.isOn table.record), key.field.record = table.record := by
    intro key isKey
    simpa [SortKey.isOn] using (List.mem_filter.mp isKey).2
  generalize keys.filter (·.isOn table.record) = chosen at orders onTable
  induction orders with
  | nil => exact .nil
  | @cons key term chosen terms first others ih =>
      obtain ⟨found, sameDirection⟩ := first
      refine .cons ?_ (ih fun other isOther => onTable other (List.mem_cons_of_mem _ isOther))
      have isOn := onTable key List.mem_cons_self
      have qualified : state.scope.qualified = true := by simp [QueryState.scope, selects]
      obtain ⟨registered, column, reached, isColumn, sameColumn⟩ :=
        Scope.columnName?_qualified qualified found
      have same : state.table? table.record = some registered := by rw [← isOn]; exact reached
      obtain rfl := Option.some.inj ((distinct.table?_eq member).symm.trans same)
      refine ⟨column, isColumn, ?_⟩
      rw [Sql.OrderTerm.read, sameColumn, sameDirection]
      rfl

theorem sentence_terms (select : Sql.Select) :
    Sql.orderTerms (Sql.tokens dialect ((Sql.Sentence.rows select).statement dialect).sql) =
      select.order.map (·.read) := by
  have read : Sql.tokens dialect ((Sql.Sentence.rows select).statement dialect).sql =
      select.read dialect := (select.spells dialect).tokens_eq
  rw [read, Sql.orderTerms_select]

/-! ## Every ordering once -/

theorem joined_terms (selects : state.command = .select) (distinct : state.IsDistinct)
    {keys : List SortKey} {root : Table} {tables : List Table} (known : tables ⊆ state.tables)
    {calls after : Calls} {joined : List Sql.Select}
    (written : Threaded (fun table before select after =>
      ∃ bound, state.SelectsJoined keys root table ⟨before, 0⟩ select ⟨after, bound⟩)
      tables calls joined after) :
    List.Forall₂ (fun table (statement : Statement) =>
        List.Forall₂ (SortKey.IsTerm table) (keys.filter (·.isOn table.record))
          (Sql.orderTerms (Sql.tokens dialect statement.sql)))
      tables ((joined.map Sql.Sentence.rows).map (·.statement dialect)) := by
  induction written with
  | nil => exact .nil
  | cons taken _ ih =>
      obtain ⟨bound, select⟩ := taken
      obtain ⟨isTable, others⟩ := List.cons_subset.mp known
      refine .cons ?_ (ih others)
      rw [sentence_terms]
      exact orders_terms selects distinct isTable select.order

theorem perm_flatMap_filter {keys : List SortKey} {tables : List Table}
    (distinct : (tables.map (·.record)).Nodup)
    (covered : ∀ key ∈ keys, key.field.record ∈ tables.map (·.record)) :
    (tables.flatMap fun table => keys.filter (·.isOn table.record)).Perm keys := by
  induction tables generalizing keys with
  | nil =>
      cases keys with
      | nil => exact .refl _
      | cons key keys => exact absurd (covered key List.mem_cons_self) (by simp)
  | cons table tables ih =>
      rw [List.map_cons, List.nodup_cons] at distinct
      obtain ⟨absent, others⟩ := distinct
      -- The other tables see only the keys that are not on this one.
      have unseen : (tables.flatMap fun other => keys.filter (·.isOn other.record)) =
          tables.flatMap fun other =>
            (keys.filter fun key => !key.isOn table.record).filter (·.isOn other.record) := by
        refine List.flatMap_congr fun other isTable => ?_
        rw [List.filter_filter]
        refine List.filter_congr fun key _ => ?_
        have different : other.record ≠ table.record := by
          intro same
          exact absent (same ▸ List.mem_map_of_mem isTable)
        by_cases onOther : key.field.record = other.record
        · simp [SortKey.isOn, onOther, different]
        · simp [SortKey.isOn, onOther]
      have elsewhere : ∀ key ∈ keys.filter fun key => !key.isOn table.record,
          key.field.record ∈ tables.map (·.record) := by
        intro key filtered
        obtain ⟨isKey, notHere⟩ := List.mem_filter.mp filtered
        have within := covered key isKey
        rw [List.map_cons, List.mem_cons] at within
        exact within.resolve_left (by simpa [SortKey.isOn] using notHere)
      rw [List.flatMap_cons, unseen]
      exact ((ih others elsewhere).append_left _).trans (List.filter_append_perm _ keys)

theorem selected_distinct (distinct : state.IsDistinct) {root : Table}
    (first : state.root? = some root) (plain : root.join = none) :
    ((state.selected root).map (·.record)).Nodup := by
  obtain ⟨rest, tables⟩ := List.head?_eq_some_iff.mp first
  have fewer : (state.selected root).Sublist state.tables := by
    rw [QueryState.selected, QueryState.joinedTables, tables,
      List.filter_cons_of_neg (by simp [plain])]
    exact List.filter_sublist.cons_cons root
  exact distinct.sublist (fewer.map _)

theorem selected_covers {keys : List SortKey} {root : Table} (first : state.root? = some root)
    (sortable : checkSortable state keys = .ok ()) :
    ∀ key ∈ keys, key.field.record ∈ (state.selected root).map (·.record) := by
  intro key isKey
  unfold checkSortable at sortable
  split at sortable
  · cases sortable
  · rename_i none
    have isSortable : isSortable state key := by
      simpa using List.find?_eq_none.mp none key isKey
    unfold Generation.isSortable at isSortable
    split at isSortable
    · cases isSortable
    · rename_i table found
      rw [QueryState.selected, List.map_cons, List.mem_cons]
      rcases Bool.or_eq_true_iff.mp isSortable with joined | isRoot
      · right
        have sameRecord : table.record = key.field.record := by
          simpa using List.find?_some found
        have isTable : table ∈ state.tables := List.mem_of_find?_eq_some found
        exact List.mem_map.mpr ⟨table, List.mem_filter.mpr ⟨isTable, joined⟩, sameRecord⟩
      · left
        rw [first] at isRoot
        exact Eq.symm (by simpa using isRoot)

/-- The statements of a select show all keys: each once, with its table. -/
theorem select_terms {calls after : Calls} {sentences : List Sql.Sentence}
    (selects : state.command = .select) (distinct : state.IsDistinct)
    (plain : ∀ root ∈ state.root?, root.join = none) (used : SortsUsed state)
    (written : state.Sentences calls sentences after) :
    ∃ root, state.root? = some root ∧
      List.Forall₂ (fun table (statement : Statement) =>
          List.Forall₂ (SortKey.IsTerm table) (state.keys.filter (·.isOn table.record))
            (Sql.orderTerms (Sql.tokens dialect statement.sql)))
        (state.selected root) (sentences.map (·.statement dialect)) ∧
      ((state.selected root).flatMap fun table =>
        state.keys.filter (·.isOn table.record)).Perm state.keys := by
  cases written with
  | @select root select middle joined after command rootSelect joinedSelects =>
      have first := rootSelect.first
      have isTable : root ∈ state.tables := List.mem_of_mem_head? first
      have rootOrder := rootSelect.order
      rw [if_pos selects] at rootOrder
      refine ⟨root, first, .cons ?_ ?_, ?_⟩
      · rw [sentence_terms]
        exact orders_terms selects distinct isTable rootOrder
      · exact joined_terms selects distinct (List.filter_subset_self _) joinedSelects
      · cases used with
        | selected _ _ sortable =>
            exact perm_flatMap_filter (selected_distinct distinct first (plain root first))
              (selected_covers first sortable)
        | absent notSelect _ _ => exact absurd selects notSelect
  | count command _ =>
      rw [selects] at command
      cases command
  | change changes =>
      rw [selects] at changes
      cases changes

theorem SortsUsed.keys_eq_nil {state : QueryState} (used : SortsUsed state)
    (changes : state.command = .update ∨ state.command = .delete ∨ state.command = .insert) :
    state.keys = [] := by
  cases used with
  | selected selects _ _ =>
      rcases changes with command | command | command <;> simp [command] at selects
  | absent _ _ none => simp [QueryState.keys, none]

theorem built_stale {command : Command} {earlier later : List BuildStep} {record : RecordType}
    {join : Option Join} {next : QueryState}
    (added : (QueryState.built command earlier).addTable record join = .ok next)
    (declared : BuildStep.declared earlier ≠ []) :
    (QueryState.built command (earlier ++ .addTable record join :: later)).IsStale := by
  have pending : (QueryState.built command earlier).sorts ≠ [] := by
    intro none
    have keys := QueryState.built_keys command earlier
    rw [none] at keys
    exact declared keys.symm
  have stale := (QueryState.built_bounded command earlier).stale_of_addTable pending added
  have applied : BuildStep.apply (QueryState.built command earlier) (.addTable record join) =
      next := by
    simp [BuildStep.apply, added]
  rw [QueryState.built, BuildStep.run_append]
  change (BuildStep.run later
    (BuildStep.apply (QueryState.built command earlier) (.addTable record join))).IsStale
  rw [applied]
  exact BuildStep.run_stale stale later

/-- A generation that succeeds loses no ordering: none was declared before a table was added, a
command that writes has none, and a select shows each one once, in the statement of its table. A
pending ordering that a table follows fails every generation, whatever is done in between. -/
theorem generate_orderings (command : Command) (steps : List BuildStep) :
    (∀ (Buffer : Type) (delegate : Delegate Buffer) (draft : Draft Buffer) after,
      (generate delegate).runOn ⟨QueryState.built command steps, draft⟩ = (.ok (), after) →
      (∀ earlier record join next later, steps = earlier ++ .addTable record join :: later →
        (QueryState.built command earlier).addTable record join = .ok next →
        BuildStep.declared earlier = []) ∧
      (command = .update ∨ command = .delete ∨ command = .insert →
        BuildStep.declared steps = [])) ∧
    (command = .select → (∀ root ∈ (QueryState.built command steps).root?, root.join = none) →
      ∀ (dialect : Dialect) draft after,
        (generate dialect.delegate).runOn ⟨QueryState.built command steps, draft⟩ =
          (.ok (), after) →
        ∃ root emitted,
          (QueryState.built command steps).root? = some root ∧
          after.query.statements = (QueryState.built command steps).statements ++ emitted ∧
          List.Forall₂ (fun table (statement : Statement) =>
              List.Forall₂ (SortKey.IsTerm table)
                ((BuildStep.declared steps).filter (·.isOn table.record))
                (Sql.orderTerms (Sql.tokens dialect statement.sql)))
            ((QueryState.built command steps).selected root) emitted ∧
          (((QueryState.built command steps).selected root).flatMap fun table =>
            (BuildStep.declared steps).filter (·.isOn table.record)).Perm
              (BuildStep.declared steps)) ∧
    (∀ (operations : List Operation) (record : RecordType) (join : Option Join)
      (next : QueryState),
      (Operation.run operations (.ofCommand command)).sorts ≠ [] →
      (Operation.run operations (.ofCommand command)).addTable record join = .ok next →
      ∀ (later : List Operation) (Buffer : Type) (delegate : Delegate Buffer)
        (draft : Draft Buffer),
        ((generate delegate).runOn ⟨Operation.run later next, draft⟩).1 ≠ .ok ()) := by
  have keys : (QueryState.built command steps).keys = BuildStep.declared steps :=
    QueryState.built_keys command steps
  have sameCommand := QueryState.built_command command steps
  refine ⟨?_, ?_, ?_⟩
  · intro Buffer delegate draft after succeeded
    obtain ⟨statements, made⟩ := generate_ok succeeded
    refine ⟨?_, fun changes => ?_⟩
    · rintro earlier record join next later rfl added
      by_contra declared
      exact made.sorts.not_stale (built_stale added declared)
    · rw [← keys]
      exact made.sorts.keys_eq_nil (by rw [sameCommand]; exact changes)
  · rintro rfl plain dialect draft after succeeded
    obtain ⟨sentences, written, used, sameQuery, -⟩ := generate_sentences succeeded
    obtain ⟨root, first, terms, once⟩ := select_terms sameCommand
      (QueryState.built_distinct .select steps) plain used written
    rw [keys] at terms once
    exact ⟨root, _, first, by rw [sameQuery]; rfl, terms, once⟩
  · intro operations record join next pending added later Buffer delegate draft succeeded
    have bounded := Operation.run_bounded (QueryState.ofCommand_bounded command) operations
    have stale := bounded.stale_of_addTable pending added
    have ran : (generate delegate).runOn ⟨Operation.run later next, draft⟩ =
        (.ok (), ((generate delegate).runOn ⟨Operation.run later next, draft⟩).2) :=
      Prod.ext succeeded rfl
    obtain ⟨statements, made⟩ := generate_ok ran
    exact made.sorts.not_stale (Operation.run_stale stale later)

def sampleSteps : List BuildStep :=
  [.addTable Sample.author none, .addTable Sample.book (some Sample.books),
    .addOrdering [⟨Sample.book, "title"⟩] true, .addOrdering [⟨Sample.author, "name"⟩] false]

theorem generate_orderings_sample :
    (∃ after, (generate Dialect.mysql.delegate).runOn
        ⟨QueryState.built .select sampleSteps, ⟨[], .zero⟩⟩ = (.ok (), after) ∧
      ∃ root emitted, (QueryState.built .select sampleSteps).root? = some root ∧
        after.query.statements = emitted ∧
        List.Forall₂ (fun table (statement : Statement) =>
            List.Forall₂ (SortKey.IsTerm table)
              ((BuildStep.declared sampleSteps).filter (·.isOn table.record))
              (Sql.orderTerms (Sql.tokens .mysql statement.sql)))
          ((QueryState.built .select sampleSteps).selected root) emitted) ∧
    ∃ next, (Operation.run [.build (.addTable Sample.author none),
          .build (.addOrdering [⟨Sample.author, "name"⟩] false)] (.ofCommand .select)).addTable
        Sample.book (some Sample.books) = .ok next ∧
      ∀ draft, ((generate Dialect.mysql.delegate).runOn
        ⟨Operation.run [.setCommand .count, .takeLimit] next, draft⟩).1 ≠ .ok () := by
  have ran : (generate Dialect.mysql.delegate).runOn
      ⟨QueryState.built .select sampleSteps, ⟨[], .zero⟩⟩ = _ :=
    generate_of_isOk (by decide)
  obtain ⟨-, selects, stale⟩ := generate_orderings .select sampleSteps
  have plain : ∀ root ∈ (QueryState.built .select sampleSteps).root?, root.join = none := by
    rintro root ⟨⟩
    rfl
  obtain ⟨root, emitted, first, added, terms, -⟩ := selects rfl plain .mysql _ _ ran
  have pending : (Operation.run [.build (.addTable Sample.author none),
      .build (.addOrdering [⟨Sample.author, "name"⟩] false)] (.ofCommand .select)).sorts ≠ [] :=
    List.cons_ne_nil _ _
  exact ⟨⟨_, ran, root, emitted, first, added, terms⟩, _, rfl,
    stale _ Sample.book (some Sample.books) _ pending rfl [.setCommand .count, .takeLimit] _ _⟩

end Generation

end RecordMapper
