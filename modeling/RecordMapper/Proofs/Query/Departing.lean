import RecordMapper.Proofs.Query.Attaching
import RecordMapper.Proofs.Query.Keying
import RecordMapper.Proofs.Query.Stages
import RecordMapper.Proofs.Sql.Evaluation

set_option autoImplicit false

/-!
What the statement of a plain join gives: the rows of the join's table that the conditions of the
joins and of WHERE admit together with some row of the root.
-/

namespace RecordMapper

namespace Query

/-- A select that goes from the table of a plain join to the root, on equal keys, and then to the
tables that the filters name. -/
structure Departs (query : Query) (joined : RecordType × Join) (select : Sql.Select) : Prop where
  source : select.head.source.table = joined.1.table
  apart : select.head.source.aliasName ≠ "t0"
  direct : select.head.key = none
  links : ∃ forced, select.links =
    ⟨⟨query.root.table, "t0"⟩, ⟨some "t0", joined.2.rootKey.name⟩,
      ⟨some select.head.source.aliasName, joined.2.rootMatch.name⟩⟩ :: forced
  unlimited : select.limit = none

end Query

theorem FieldRef.column?_name {reference : FieldRef} {column : String}
    (found : reference.column? = some column) : column = reference.name := by
  obtain ⟨declared, isDeclared, rfl⟩ := Option.map_eq_some_iff.mp found
  obtain ⟨field, isField, isColumn⟩ := Option.bind_eq_some_iff.mp isDeclared
  have named : field.name = reference.name := by simpa using List.find?_some isField
  unfold Field.column? at isColumn
  split at isColumn
  · cases isColumn
    exact named
  · cases isColumn

theorem Scope.columnName?_of_table {scope : Scope} (qualified : scope.qualified = true)
    {reference : FieldRef} {name : Sql.ColumnName} {table : Table}
    (isTable : scope.table? reference.record = some table)
    (found : scope.columnName? reference = some name) :
    name = ⟨some table.aliasName, reference.name⟩ := by
  obtain ⟨other, column, isOther, isColumn, rfl⟩ := columnName?_qualified qualified found
  obtain rfl := Option.some.inj (isTable.symm.trans isOther)
  rw [FieldRef.column?_name isColumn]

theorem QueryState.SelectsJoined.departs {state : QueryState} {query : Query}
    (holds : state.Holds query .select) (attached : state.IsAttached query.root)
    {keys : List SortKey} {before after : Progress} {table : Table} {joined : RecordType × Join}
    {select : Sql.Select} (member : table ∈ state.tables) (joins : table.Joins joined)
    (plain : joined.2.pivot = none)
    (selects : state.SelectsJoined keys ⟨query.root, "t0", none⟩ table before select after) :
    query.Departs joined select := by
  obtain ⟨sameRecord, isJoined⟩ := joins
  have qualified : state.scope.qualified = true := by
    unfold QueryState.scope
    rw [holds.command]
    rfl
  have isRoot : (⟨query.root, "t0", none⟩ : Table) ∈ state.tables :=
    (attached.root_mem holds.root).1
  have rootFound : state.scope.table? query.root = some ⟨query.root, "t0", none⟩ :=
    holds.distinct.table?_eq isRoot
  have tableFound : state.scope.table? table.record = some table := holds.distinct.table?_eq member
  have isOn := attached.joins table member joined.2 isJoined
  have matched : joined.2.rootMatch.record = table.record := by
    rw [isOn.rootMatch, Join.matched, plain]
  have apart : table.aliasName ≠ "t0" := by
    intro same
    have equal := List.inj_on_of_nodup_map attached.aliases_nodup member isRoot same
    rw [equal] at isJoined
    cases isJoined
  obtain ⟨own, forced, calls, returns, -, links, -⟩ := selects.body
  generalize isKey : select.head.key = key at returns
  cases returns with
  | direct found registeredJoin direct linksOn =>
      obtain rfl := Option.some.inj (tableFound.symm.trans found)
      obtain rfl := Option.some.inj (isJoined.symm.trans registeredJoin)
      cases linksOn with
      | on target left right =>
          obtain rfl := Option.some.inj (rootFound.symm.trans target)
          have leftName := Scope.columnName?_of_table qualified (isOn.rootKey ▸ rootFound) left
          have rightName := Scope.columnName?_of_table qualified (matched ▸ tableFound) right
          refine ⟨?_, ?_, isKey, ⟨forced, ?_⟩, selects.limit⟩
          · rw [selects.source, ← sameRecord]
            rfl
          · rw [selects.source]
            exact apart
          · rw [links, leftName, rightName, selects.source]
            rfl
  | pivot found registeredJoin through =>
      obtain rfl := Option.some.inj (tableFound.symm.trans found)
      obtain rfl := Option.some.inj (isJoined.symm.trans registeredJoin)
      rw [plain] at through
      cases through

namespace Sql.Dataset

variable {dataset : Dataset} {dialect : Dialect} {bindings : List Binding} {query : Query}
  {joined : RecordType × Join} {select : Select} {rows : List Row}

/-- Whether a row of a join's table accompanies a root row: with some rows of the tables that the
select goes on to, both meet the conditions of the joins and of WHERE. -/
def Accompanies (dataset : Dataset) (dialect : Dialect) (bindings : List Binding)
    (select : Select) (root row : Row) : Prop :=
  ∃ others, List.Forall₂ dataset.Gives (select.links.tail.map (·.source)) others ∧
    dataset.Admits dialect bindings select.links select.conditions
      ((select.head.source.aliasName, row) :: ("t0", root) :: others)

theorem accompanies_compare (departs : query.Departs joined select) {root row : Row}
    (accompanies : dataset.Accompanies dialect bindings select root row) :
    dataset.compare (root.valueOf joined.2.rootKey.name) (row.valueOf joined.2.rootMatch.name) =
      some .eq := by
  obtain ⟨others, -, admits⟩ := accompanies
  obtain ⟨forced, links⟩ := departs.links
  have equal := admits.joined _ (links ▸ List.mem_cons_self)
  have rootRow : Environment.row? ((select.head.source.aliasName, row) :: ("t0", root) :: others)
      "t0" = some root := by
    simp [Environment.row?, departs.apart]
  have ownRow : Environment.row? ((select.head.source.aliasName, row) :: ("t0", root) :: others)
      select.head.source.aliasName = some row := by
    simp [Environment.row?]
  simp only [Environment.value, rootRow, ownRow, Option.bind_some] at equal
  exact equal

/-- The statement of a plain join gives the rows of its table that accompany some root row. -/
theorem mem_joined (departs : query.Departs joined select)
    (evaluates : dataset.Evaluates (select.read dialect) bindings rows) :
    rows.Nodup ∧ ∀ row, row ∈ rows ↔ row ∈ dataset.rows joined.1.table ∧
      ∃ root ∈ dataset.rows query.root.table,
        dataset.Accompanies dialect bindings select root row := by
  obtain ⟨nodup, members⟩ := evaluates.unlimited departs.unlimited
  refine ⟨nodup, fun row => ?_⟩
  obtain ⟨forced, links⟩ := departs.links
  rw [members, mem_outputs departs.direct, departs.source]
  refine and_congr_right fun _ => ?_
  constructor
  · rintro ⟨others, gives, admits⟩
    rw [links, List.map_cons, List.forall₂_cons_left_iff] at gives
    obtain ⟨⟨aliasName, root⟩, rest, ⟨isAlias, isRow⟩, restGives, rfl⟩ := gives
    cases isAlias
    refine ⟨root, isRow, rest, ?_, admits⟩
    rw [links]
    exact restGives
  · rintro ⟨root, isRow, others, gives, admits⟩
    refine ⟨("t0", root) :: others, ?_, admits⟩
    rw [links] at gives
    rw [links]
    exact .cons ⟨rfl, isRow⟩ gives

end Sql.Dataset

end RecordMapper
