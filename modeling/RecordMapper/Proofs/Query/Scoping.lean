import RecordMapper.Proofs.Query.Attaching
import RecordMapper.Proofs.Query.Sentences
import RecordMapper.Proofs.Sql.Alias

set_option autoImplicit false

/-!
Which tables the names of a statement mean. A select introduces the tables of a chain of joins, one
after another; what the joins compare and what the filters and the order name are columns of tables
in that chain. So an alias is introduced before it is used, and once. Statements that write have
one table and no alias.
-/

namespace RecordMapper

/-! ## Chains of joins -/

/-- A column of the table, under the table's alias. -/
def Table.Names (table : Table) (name : Sql.ColumnName) : Prop :=
  name.qualifier = some table.aliasName ∧ name.column ∈ table.record.columns.map (·.name)

/-- A qualified name that means the table: its alias, and a declared column unless it is a star. -/
def Table.Refers (table : Table) (reference : Sql.Reference) : Prop :=
  reference.qualifier = table.aliasName ∧
    ∀ column ∈ reference.column, column ∈ table.record.columns.map (·.name)

theorem Table.Names.refers {table : Table} {name : Sql.ColumnName} (names : table.Names name)
    {reference : Sql.Reference} (member : reference ∈ name.references) :
    table.Refers reference := by
  obtain ⟨isAlias, isColumn⟩ := names
  rw [Sql.ColumnName.references, isAlias] at member
  obtain rfl := List.mem_singleton.mp member
  exact ⟨rfl, by simpa using isColumn⟩

/-- Joins that bring in one table after another. Each compares columns of tables that are there by
then. -/
inductive Connects : List Table → List Sql.Link → List Table → Prop where
  | nil {tables : List Table} : Connects tables [] tables
  | cons {known all : List Table} {table left right : Table} {link : Sql.Link}
      {links : List Sql.Link} :
      link.source = table.source → left ∈ known ++ [table] → left.Names link.left →
      right ∈ known ++ [table] → right.Names link.right →
      Connects (known ++ [table]) links all → Connects known (link :: links) all

namespace Connects

variable {first second third : List Table} {links others : List Sql.Link}

theorem append (connects : Connects first links second) (rest : Connects second others third) :
    Connects first (links ++ others) third := by
  induction connects with
  | nil => exact rest
  | cons source left leftNames right rightNames _ ih =>
      exact .cons source left leftNames right rightNames (ih rest)

theorem sources (connects : Connects first links second) :
    second.map (·.source) = first.map (·.source) ++ links.map (·.source) := by
  induction connects with
  | nil => simp
  | cons source _ _ _ _ _ ih => simp [ih, source]

theorem subset (connects : Connects first links second) : first ⊆ second := by
  induction connects with
  | nil => exact List.Subset.refl _
  | cons _ _ _ _ _ _ ih => exact fun table member => ih (List.mem_append_left _ member)

/-- What a join compares are columns of tables that it or a join before it brings in. -/
theorem split (connects : Connects first links second) {before : List Sql.Link} {link : Sql.Link}
    {after : List Sql.Link} (isSplit : links = before ++ link :: after)
    {reference : Sql.Reference} (member : reference ∈ link.references) :
    ∃ table ∈ second, table.Refers reference ∧
      table.source ∈ first.map (·.source) ++ (before ++ [link]).map (·.source) := by
  induction connects generalizing before with
  | nil => simp at isSplit
  | @cons known all table left right current links source isLeft leftNames isRight rightNames rest
      ih =>
      cases before with
      | nil =>
          obtain ⟨rfl, rfl⟩ := List.cons.inj isSplit
          have introduced : (known ++ [table]).map (·.source) =
              known.map (·.source) ++ ([] ++ [current] : List Sql.Link).map (·.source) := by
            simp [source]
          rw [← introduced]
          rcases List.mem_append.mp member with inLeft | inRight
          · exact ⟨left, rest.subset isLeft, leftNames.refers inLeft, List.mem_map_of_mem isLeft⟩
          · exact ⟨right, rest.subset isRight, rightNames.refers inRight,
              List.mem_map_of_mem isRight⟩
      | cons other before =>
          obtain ⟨rfl, isRest⟩ := List.cons.inj isSplit
          obtain ⟨found, isFound, refers, introduced⟩ := ih isRest
          refine ⟨found, isFound, refers, ?_⟩
          simpa [source] using introduced

theorem refers (connects : Connects first links second) {reference : Sql.Reference}
    (member : reference ∈ links.flatMap (·.references)) :
    ∃ table ∈ second, table.Refers reference := by
  obtain ⟨link, isLink, inLink⟩ := List.mem_flatMap.mp member
  obtain ⟨before, after, isSplit⟩ := List.append_of_mem isLink
  obtain ⟨table, isTable, refers, -⟩ := connects.split isSplit inLink
  exact ⟨table, isTable, refers⟩

end Connects

/-! ## Joins of a query's state -/

theorem FieldRef.column?_mem {reference : FieldRef} {column : String}
    (found : reference.column? = some column) :
    column ∈ reference.record.columns.map (·.name) := by
  obtain ⟨declared, isDeclared, rfl⟩ := Option.map_eq_some_iff.mp found
  obtain ⟨field, isField, isColumn⟩ := Option.bind_eq_some_iff.mp isDeclared
  have member := List.mem_of_find?_eq_some isField
  exact List.mem_map_of_mem (List.mem_filterMap.mpr ⟨field, member, isColumn⟩)

namespace Scope

variable {scope : Scope}

theorem table?_record {record : RecordType} {table : Table}
    (found : scope.table? record = some table) : table ∈ scope.tables ∧ table.record = record :=
  ⟨List.mem_of_find?_eq_some found, by simpa using List.find?_some found⟩

theorem columnName?_names {reference : FieldRef} {name : Sql.ColumnName}
    (qualified : scope.qualified = true) (found : scope.columnName? reference = some name) :
    ∃ table, scope.table? reference.record = some table ∧ table.Names name := by
  obtain ⟨table, column, isTable, isColumn, rfl⟩ := columnName?_qualified qualified found
  refine ⟨table, isTable, rfl, ?_⟩
  rw [(table?_record isTable).2]
  exact FieldRef.column?_mem isColumn

end Scope

namespace QueryState

variable {state : QueryState} {root : Table}

def through (state : QueryState) (table : Table) : List Table :=
  (table.pivot?.bind state.table?).toList

/-- The tables that a join with the root brings in. -/
def path (state : QueryState) (table : Table) : List Table :=
  state.through table ++ [table]

theorem through_direct {table : Table} {join : Join} (attached : table.join = some join)
    (direct : join.pivot = none) : state.through table = [] := by
  simp [through, Table.pivot?, attached, direct]

theorem through_pivot {table other : Table} {join : Join} {pivot : Pivot}
    (attached : table.join = some join) (pivoted : join.pivot = some pivot)
    (found : state.table? pivot.record = some other) : state.through table = [other] := by
  simp [through, Table.pivot?_eq attached pivoted, found]

theorem mem_through {table other : Table} (member : other ∈ state.through table) :
    other ∈ state.tables ∧ table.pivot? = some other.record := by
  rw [through, Option.mem_toList, Option.bind_eq_some_iff] at member
  obtain ⟨record, pivoted, found⟩ := member
  obtain ⟨isTable, rfl⟩ := Scope.table?_record found
  exact ⟨isTable, pivoted⟩

theorem IsAttached.pivot (attached : state.IsAttached root.record) {table : Table} {join : Join}
    {pivot : Pivot} (member : table ∈ state.tables) (joined : table.join = some join)
    (pivoted : join.pivot = some pivot) :
    ∃ other, state.table? pivot.record = some other ∧ state.through table = [other] := by
  obtain ⟨-, other, isOther, same, -⟩ :=
    attached.pivots table member pivot.record (Table.pivot?_eq joined pivoted)
  have found : state.table? pivot.record = some other :=
    same ▸ attached.distinct.table?_eq isOther
  exact ⟨other, found, through_pivot joined pivoted found⟩

end QueryState

theorem Scope.Links.connects {scope : Scope} {record : RecordType} {left right : FieldRef}
    {link : Sql.Link} (links : scope.Links record left right link)
    (qualified : scope.qualified = true) {known : List Table} {table leftTable rightTable : Table}
    (isTable : scope.table? record = some table)
    (isLeft : scope.table? left.record = some leftTable) (leftKnown : leftTable ∈ known ++ [table])
    (isRight : scope.table? right.record = some rightTable)
    (rightKnown : rightTable ∈ known ++ [table]) :
    Connects known [link] (known ++ [table]) := by
  obtain ⟨found, leftFound, rightFound⟩ := links
  obtain ⟨left', leftIs, leftNames⟩ := columnName?_names qualified leftFound
  obtain ⟨right', rightIs, rightNames⟩ := columnName?_names qualified rightFound
  obtain rfl := Option.some.inj (isTable.symm.trans found)
  obtain rfl := Option.some.inj (isLeft.symm.trans leftIs)
  obtain rfl := Option.some.inj (isRight.symm.trans rightIs)
  exact .cons rfl leftKnown leftNames rightKnown rightNames .nil

namespace QueryState

variable {state : QueryState} {root : Table}

theorem IsAttached.reaches (attached : state.IsAttached root.record)
    (qualified : state.scope.qualified = true) (first : state.root? = some root) {table : Table}
    (member : table ∈ state.tables) {links : List Sql.Link}
    (reaches : state.scope.Reaches table.record links) :
    table.join.isSome ∧
      ∀ known, root ∈ known → Connects known links (known ++ state.path table) := by
  have rootFound : state.table? root.record = some root :=
    attached.distinct.table?_eq (attached.root_mem first).1
  have tableFound : state.table? table.record = some table := attached.distinct.table?_eq member
  cases reaches with
  | @direct registered join link found joined direct links =>
      obtain rfl := Option.some.inj (tableFound.symm.trans found)
      have isOn := attached.joins table member join joined
      refine ⟨by simp [joined], fun known rootKnown => ?_⟩
      have isRight : state.table? join.rootMatch.record = some table := by
        rw [isOn.rootMatch, Join.matched, direct]
        exact tableFound
      rw [path, through_direct joined direct]
      exact links.connects qualified tableFound (isOn.rootKey ▸ rootFound)
        (List.mem_append_left _ rootKnown) isRight (by simp)
  | @pivot registered join pivot pivotLink link found joined pivoted pivotLinks links =>
      obtain rfl := Option.some.inj (tableFound.symm.trans found)
      have isOn := attached.joins table member join joined
      obtain ⟨other, otherFound, isThrough⟩ := attached.pivot member joined pivoted
      refine ⟨by simp [joined], fun known rootKnown => ?_⟩
      have isRight : state.table? join.rootMatch.record = some other := by
        rw [isOn.rootMatch, Join.matched, pivoted]
        exact otherFound
      have toPivot := pivotLinks.connects qualified otherFound (isOn.rootKey ▸ rootFound)
        (List.mem_append_left _ rootKnown) isRight (by simp)
      have fromPivot : Connects (known ++ [other]) [link] (known ++ [other] ++ [table]) :=
        links.connects qualified tableFound ((isOn.joinedKey pivot pivoted).symm ▸ tableFound)
          (by simp) ((isOn.joinedMatch pivot pivoted).symm ▸ otherFound) (by simp)
      rw [path, isThrough, ← List.append_assoc]
      exact toPivot.append fromPivot

theorem IsAttached.returns (attached : state.IsAttached root.record)
    (qualified : state.scope.qualified = true) (first : state.root? = some root) {table : Table}
    (member : table ∈ state.tables) {key : Option Sql.ColumnName} {links : List Sql.Link}
    (returns : state.scope.Returns root table key links) :
    table.join.isSome ∧ Connects [table] links ([table] ++ state.through table ++ [root]) ∧
      ∀ name ∈ key, root.Names name := by
  have rootFound : state.table? root.record = some root :=
    attached.distinct.table?_eq (attached.root_mem first).1
  have tableFound : state.table? table.record = some table := attached.distinct.table?_eq member
  cases returns with
  | @direct registered join link found joined direct links =>
      obtain rfl := Option.some.inj (tableFound.symm.trans found)
      have isOn := attached.joins table member join joined
      have isRight : state.table? join.rootMatch.record = some table := by
        rw [isOn.rootMatch, Join.matched, direct]
        exact tableFound
      refine ⟨by simp [joined], ?_, by simp⟩
      rw [through_direct joined direct]
      exact links.connects qualified rootFound (isOn.rootKey ▸ rootFound) (by simp) isRight
        (by simp)
  | @pivot registered join pivot key pivotLink link found joined pivoted keyFound pivotLinks links =>
      obtain rfl := Option.some.inj (tableFound.symm.trans found)
      have isOn := attached.joins table member join joined
      obtain ⟨other, otherFound, isThrough⟩ := attached.pivot member joined pivoted
      have isRight : state.table? join.rootMatch.record = some other := by
        rw [isOn.rootMatch, Join.matched, pivoted]
        exact otherFound
      have toPivot : Connects [table] [pivotLink] ([table] ++ [other]) :=
        pivotLinks.connects qualified otherFound
          ((isOn.joinedKey pivot pivoted).symm ▸ tableFound) (by simp)
          ((isOn.joinedMatch pivot pivoted).symm ▸ otherFound) (by simp)
      have toRoot : Connects ([table] ++ [other]) [link] ([table] ++ [other] ++ [root]) :=
        links.connects qualified rootFound (isOn.rootKey ▸ rootFound) (by simp) isRight (by simp)
      refine ⟨by simp [joined], ?_, ?_⟩
      · rw [isThrough]
        exact toPivot.append toRoot
      · rintro name ⟨⟩
        obtain ⟨named, isNamed, names⟩ := Scope.columnName?_names qualified keyFound
        rw [isOn.rootKey] at isNamed
        obtain rfl := Option.some.inj (rootFound.symm.trans isNamed)
        exact names

theorem IsAttached.reachesAll (attached : state.IsAttached root.record)
    (qualified : state.scope.qualified = true) (first : state.root? = some root)
    {tables : List Table} (members : tables ⊆ state.tables) {groups : List (List Sql.Link)}
    (reaches : List.Forall₂ (fun table links => state.scope.Reaches table.record links)
      tables groups) :
    (∀ table ∈ tables, table.join.isSome) ∧ ∀ known, root ∈ known →
      Connects known groups.flatten (known ++ tables.flatMap state.path) := by
  induction reaches with
  | nil => exact ⟨by simp, fun known _ => by simpa using Connects.nil⟩
  | cons reached _ ih =>
      obtain ⟨member, others⟩ := List.cons_subset.mp members
      obtain ⟨joined, connects⟩ := attached.reaches qualified first member reached
      obtain ⟨othersJoined, othersConnect⟩ := ih others
      refine ⟨List.forall_mem_cons.mpr ⟨joined, othersJoined⟩, fun known rootKnown => ?_⟩
      rw [List.flatten_cons, List.flatMap_cons, ← List.append_assoc]
      exact (connects known rootKnown).append
        (othersConnect _ (List.mem_append_left _ rootKnown))

/-- Different tables have different paths, and none comes back to the root. -/
theorem IsAttached.paths_nodup (attached : state.IsAttached root.record)
    (first : state.root? = some root) {tables : List Table} (members : tables ⊆ state.tables)
    (joined : ∀ table ∈ tables, table.join.isSome) (nodup : tables.Nodup) :
    (root :: tables.flatMap state.path).Nodup := by
  obtain ⟨isRoot, -, unjoined⟩ := attached.root_mem first
  have pivot {table other : Table} (member : table ∈ tables) (inside : other ∈ state.through table) :
      table.pivot? = some other.record ∧ other.join = none ∧ other ≠ root := by
    obtain ⟨isOther, pivoted⟩ := mem_through inside
    obtain ⟨notRoot, found, isFound, same, alone⟩ :=
      attached.pivots table (members member) other.record pivoted
    obtain rfl := List.inj_on_of_nodup_map attached.distinct isFound isOther same
    exact ⟨pivoted, alone, fun sameRoot => notRoot (sameRoot ▸ rfl)⟩
  -- A pivot has no join of its own, so no table is a pivot on one path and the end of another.
  have notJoined {table other : Table} (member : table ∈ tables) (alone : other.join = none) :
      other ≠ table := by
    rintro rfl
    have isJoined := joined _ member
    simp [alone] at isJoined
  rw [List.nodup_cons, List.nodup_flatMap]
  refine ⟨?_, ?_, ?_⟩
  · rw [List.mem_flatMap]
    rintro ⟨table, member, inPath⟩
    rcases List.mem_append.mp inPath with inside | last
    · exact (pivot member inside).2.2 rfl
    · exact notJoined member unjoined (List.mem_singleton.mp last)
  · intro table member
    rw [path, List.nodup_append]
    refine ⟨?_, List.nodup_singleton _, ?_⟩
    · rw [through]
      cases table.pivot?.bind state.table? <;> simp
    · rintro other inside _ last rfl
      obtain rfl := List.mem_singleton.mp last
      exact notJoined member (pivot member inside).2.1 rfl
  · refine nodup.imp_of_mem fun {table second} member isSecond different => ?_
    intro other inPath inSecond
    rcases List.mem_append.mp inPath with inside | last <;>
      rcases List.mem_append.mp inSecond with insideSecond | lastSecond
    · exact different (attached.apart table (members member) second (members isSecond) other.record
        (pivot member inside).1 (pivot isSecond insideSecond).1)
    · exact notJoined isSecond (pivot member inside).2.1 (List.mem_singleton.mp lastSecond)
    · exact notJoined member (pivot isSecond insideSecond).2.1 (List.mem_singleton.mp last)
    · exact different ((List.mem_singleton.mp last).symm.trans (List.mem_singleton.mp lastSecond))

theorem two_le_length {Item : Type} {items : List Item} {first second : Item}
    (isFirst : first ∈ items) (isSecond : second ∈ items) (different : first ≠ second) :
    2 ≤ items.length := by
  match items with
  | [] => cases isFirst
  | [item] =>
      have same := (List.mem_singleton.mp isFirst).trans (List.mem_singleton.mp isSecond).symm
      exact absurd same different
  | _ :: _ :: others => simp

/-- The tables that the filters force on a statement are among those that they mention, and with
the root and the statement's own table they are all of them. -/
theorem IsAttached.joins_forced (attached : state.IsAttached root.record)
    (qualified : state.scope.qualified = true) (first : state.root? = some root)
    {current : Table} {calls after : Calls} {links : List Sql.Link}
    (joins : state.Joins root current.record calls links after) :
    ∃ forced ⊆ state.tables, forced.Nodup ∧ current ∉ forced ∧
      (∀ table ∈ forced, table.join.isSome) ∧
      (∀ known, root ∈ known → Connects known links (known ++ forced.flatMap state.path)) ∧
      ∀ table ∈ state.tables, (∃ filter ∈ state.filters, filter.Mentions table.record) →
        table = root ∨ table.record = current.record ∨ table ∈ forced := by
  obtain ⟨searched, known, reaches⟩ := joins
  rename_i referenced groups
  have members : state.tables.filter (JoinClause.isForced root.record current.record referenced) ⊆
      state.tables := List.filter_subset_self _
  obtain ⟨joined, connects⟩ := attached.reachesAll qualified first members reaches
  refine ⟨_, members, (attached.distinct.of_map _).filter _, ?_, joined, connects, ?_⟩
  · simp [JoinClause.isForced]
  · rintro table member ⟨filter, isFilter, mentions⟩
    by_cases isRoot : table.record = root.record
    · exact .inl (List.inj_on_of_nodup_map attached.distinct member
        (attached.root_mem first).1 isRoot)
    by_cases isCurrent : table.record = current.record
    · exact .inr (.inl isCurrent)
    refine .inr (.inr (List.mem_filter.mpr ⟨member, ?_⟩))
    have notRoot : table ≠ root := fun same => isRoot (same ▸ rfl)
    have several := two_le_length member (attached.root_mem first).1 notRoot
    have found := (mem_search_iff attached.steady several calls).mpr ⟨filter, isFilter, mentions⟩
    rw [searched] at found
    simp [JoinClause.isForced, isRoot, isCurrent, found]

end QueryState

/-! ## Selects -/

/-- A select over a chain of tables: each is there once, and every qualified name means one. -/
structure Sql.Select.Uses (select : Sql.Select) (first : Table) (used : List Table) : Prop where
  source : select.head.source = first.source
  links : Connects [first] select.links used
  nodup : used.Nodup
  references : ∀ reference ∈ select.references, ∃ table ∈ used, table.Refers reference

theorem Connects.uses {select : Sql.Select} {first : Table} {used : List Table}
    (connects : Connects [first] select.links used) (source : select.head.source = first.source)
    (nodup : used.Nodup) (key : ∀ name ∈ select.head.key, ∃ table ∈ used, table.Names name)
    (conditions : ∀ reference ∈ select.conditions.flatMap (·.references),
      ∃ table ∈ used, table.Refers reference)
    (order : ∀ reference ∈ select.order.flatMap (·.references),
      ∃ table ∈ used, table.Refers reference) : select.Uses first used := by
  refine ⟨source, connects, nodup, fun reference member => ?_⟩
  simp only [Sql.Select.references, Sql.Head.references, List.mem_append, List.mem_cons] at member
  rcases member with (((rfl | inKey) | inLinks) | inConditions) | inOrder
  · refine ⟨first, connects.subset (List.mem_singleton_self first), ?_, by simp⟩
    rw [source]
    rfl
  · obtain ⟨name, isKey, inName⟩ := List.mem_flatMap.mp inKey
    obtain ⟨table, isTable, names⟩ := key name (Option.mem_toList.mp isKey)
    exact ⟨table, isTable, names.refers inName⟩
  · exact connects.refers inLinks
  · exact conditions reference inConditions
  · exact order reference inOrder

namespace QueryState

variable {state : QueryState} {root : Table}

theorem conditions_refer (qualified : state.scope.qualified = true) {before after : Progress}
    {phrases : List Sql.Phrase} (writes : state.scope.WritesAll state.filters before phrases after)
    {used : List Table} (covers : ∀ table ∈ state.tables,
      (∃ filter ∈ state.filters, filter.Mentions table.record) → table ∈ used)
    {reference : Sql.Reference} (member : reference ∈ phrases.flatMap (·.references)) :
    ∃ table ∈ used, table.Refers reference := by
  obtain ⟨phrase, isPhrase, inPhrase⟩ := List.mem_flatMap.mp member
  obtain ⟨name, isName, inName⟩ := List.mem_flatMap.mp inPhrase
  obtain ⟨filter, isFilter, written⟩ :=
    writes.columns (List.mem_flatMap.mpr ⟨phrase, isPhrase, isName⟩)
  rcases written with ⟨column, -, rfl⟩ | ⟨field, mentions, found⟩
  · cases inName
  · obtain ⟨table, isTable, names⟩ := Scope.columnName?_names qualified found
    obtain ⟨isMember, sameRecord⟩ := Scope.table?_record isTable
    exact ⟨table, covers table isMember ⟨filter, isFilter, sameRecord ▸ mentions⟩,
      names.refers inName⟩

theorem order_refers (qualified : state.scope.qualified = true) {keys : List SortKey}
    {terms : List Sql.OrderTerm} (orders : state.scope.Orders keys terms) {table : Table}
    (isTable : state.table? table.record = some table)
    (on : ∀ key ∈ keys, key.isOn table.record) {reference : Sql.Reference}
    (member : reference ∈ terms.flatMap (·.references)) : table.Refers reference := by
  induction orders with
  | nil => cases member
  | @cons key term keys terms same _ ih =>
      obtain ⟨isOn, others⟩ := List.forall_mem_cons.mp on
      rw [List.flatMap_cons, List.mem_append] at member
      rcases member with inTerm | inOthers
      · obtain ⟨named, isNamed, names⟩ := Scope.columnName?_names qualified same.1
        have sameRecord : key.field.record = table.record := by simpa [SortKey.isOn] using isOn
        rw [sameRecord] at isNamed
        obtain rfl := Option.some.inj (isTable.symm.trans isNamed)
        exact names.refers inTerm
      · exact ih others inOthers

theorem paths_subset {tables : List Table} (members : tables ⊆ state.tables) :
    tables.flatMap state.path ⊆ state.tables := by
  intro other member
  obtain ⟨table, isTable, inPath⟩ := List.mem_flatMap.mp member
  rcases List.mem_append.mp inPath with inside | last
  · exact (mem_through inside).1
  · obtain rfl := List.mem_singleton.mp last
    exact members isTable

theorem IsAttached.selectsRoot (attached : state.IsAttached root.record)
    (qualified : state.scope.qualified = true) {keys : List SortKey} {limit : Option Limit}
    {before after : Progress} {select : Sql.Select}
    (selects : state.SelectsRoot keys limit root before select after) :
    ∃ used ⊆ state.tables, select.Uses root used := by
  have first := selects.first
  have isRoot := (attached.root_mem first).1
  have rootFound : state.table? root.record = some root := attached.distinct.table?_eq isRoot
  obtain ⟨calls, joins, writes⟩ := selects.body
  obtain ⟨forced, members, nodup, -, joined, connects, covers⟩ :=
    attached.joins_forced qualified first joins
  have inPaths {table : Table} (isForced : table ∈ forced) : table ∈ forced.flatMap state.path :=
    List.mem_flatMap.mpr ⟨table, isForced, by simp [path]⟩
  refine ⟨root :: forced.flatMap state.path, ?_,
    (connects [root] (by simp)).uses ?_ (attached.paths_nodup first members joined nodup) ?_ ?_ ?_⟩
  · exact List.cons_subset.mpr ⟨isRoot, paths_subset members⟩
  · rw [selects.head]
  · simp [selects.head]
  · refine fun reference => conditions_refer qualified writes fun table isTable mentioned => ?_
    rcases covers table isTable mentioned with rfl | same | isForced
    · exact List.mem_cons_self
    · rw [List.inj_on_of_nodup_map attached.distinct isTable isRoot same]
      exact List.mem_cons_self
    · exact List.mem_cons_of_mem _ (inPaths isForced)
  · intro reference inOrder
    refine ⟨root, List.mem_cons_self, order_refers qualified selects.order rootFound ?_ inOrder⟩
    split
    · exact fun key member => (List.mem_filter.mp member).2
    · simp

theorem IsAttached.selectsJoined (attached : state.IsAttached root.record)
    (qualified : state.scope.qualified = true) {keys : List SortKey} {table : Table}
    (member : table ∈ state.tables) {before after : Progress} {select : Sql.Select}
    (selects : state.SelectsJoined keys root table before select after) :
    ∃ used ⊆ state.tables, select.Uses table used := by
  have first := selects.first
  have isRoot := (attached.root_mem first).1
  have tableFound : state.table? table.record = some table := attached.distinct.table?_eq member
  obtain ⟨own, forcedLinks, calls, returns, joins, links, writes⟩ := selects.body
  obtain ⟨forced, members, nodup, notForced, joined, connects, covers⟩ :=
    attached.joins_forced qualified first joins
  obtain ⟨isJoined, back, key⟩ := attached.returns qualified first member returns
  have inPaths {table : Table} (isForced : table ∈ forced) : table ∈ forced.flatMap state.path :=
    List.mem_flatMap.mpr ⟨table, isForced, by simp [path]⟩
  have chain := back.append (connects _ (by simp))
  rw [← links] at chain
  have reordered : ([table] ++ state.through table ++ [root] ++ forced.flatMap state.path).Perm
      (root :: (table :: forced).flatMap state.path) := by
    simp only [path, List.flatMap_cons, List.append_assoc, List.singleton_append]
    have rootFirst : List.Perm (table :: (state.through table ++ root :: forced.flatMap state.path))
        (root :: table :: (state.through table ++ forced.flatMap state.path)) :=
      (List.perm_middle.cons table).trans (.swap root table _)
    exact rootFirst.trans (List.perm_middle.symm.cons root)
  have allMembers : table :: forced ⊆ state.tables := List.cons_subset.mpr ⟨member, members⟩
  refine ⟨[table] ++ state.through table ++ [root] ++ forced.flatMap state.path, ?_,
    chain.uses selects.source ?_ ?_ ?_ ?_⟩
  · exact List.Subset.trans reordered.subset
      (List.cons_subset.mpr ⟨isRoot, paths_subset allMembers⟩)
  · exact reordered.nodup_iff.mpr (attached.paths_nodup first allMembers
      (List.forall_mem_cons.mpr ⟨isJoined, joined⟩) (List.nodup_cons.mpr ⟨notForced, nodup⟩))
  · exact fun name isKey => ⟨root, by simp, key name isKey⟩
  · refine fun reference => conditions_refer qualified writes fun other isOther mentioned => ?_
    rcases covers other isOther mentioned with rfl | same | isForced
    · simp
    · rw [List.inj_on_of_nodup_map attached.distinct isOther member same]
      simp
    · exact List.mem_append_right _ (inPaths isForced)
  · intro reference inOrder
    exact ⟨table, by simp, order_refers qualified selects.order tableFound
      (fun key isKey => (List.mem_filter.mp isKey).2) inOrder⟩

end QueryState

end RecordMapper
