import RecordMapper.Proofs.Query.Building
import RecordMapper.Proofs.Query.Mention
import RecordMapper.Query.Builder

set_option autoImplicit false

/-!
How the stages of a query attach its tables to the root. The fields of a join belong to the tables
that it joins, every table has an alias of its own, and every join with a pivot has the pivot's
table to itself. Each stage keeps all of this, so it holds of every state that a query builds.
-/

namespace RecordMapper

/-! ## Joins between fields of their tables -/

/-- The record type whose field matches the root's key. -/
def Join.matched (join : Join) (record : RecordType) : RecordType :=
  match join.pivot with
  | none => record
  | some pivot => pivot.record

/-- A join with a root, each of its fields being of the record type it stands for. -/
structure Join.IsOn (join : Join) (root record : RecordType) : Prop where
  rootKey : join.rootKey.record = root
  rootMatch : join.rootMatch.record = join.matched record
  joinedKey : ∀ pivot ∈ join.pivot, pivot.joinedKey.record = record
  joinedMatch : ∀ pivot ∈ join.pivot, pivot.joinedMatch.record = pivot.record

def Stage.IsOn (root : RecordType) : Stage → Prop
  | join record clause => clause.IsOn root record
  | filter _ => True
  | ordering _ _ => True
  | limit _ => True

def Stage.IsSteady : Stage → Prop
  | .filter condition => condition.Steady
  | .join _ _ | .ordering _ _ | .limit _ => True

/-- A query whose joins are between fields of their record types and whose producers give
expressions of the same record types at each call. -/
structure Query.IsTyped (query : Query) : Prop where
  joins : ∀ stage ∈ query.stages, stage.IsOn query.root
  filters : ∀ stage ∈ query.stages, stage.IsSteady

/-! ## Tables of a query's state -/

def Table.pivot? (table : Table) : Option RecordType :=
  table.join.bind fun join => join.pivot.map (·.record)

theorem Table.pivot?_eq {table : Table} {join : Join} {pivot : Pivot}
    (attached : table.join = some join) (through : join.pivot = some pivot) :
    table.pivot? = some pivot.record := by
  simp [pivot?, attached, through]

def aliasAt (position : Nat) : String :=
  s!"t{position}"

theorem aliasAt_injective : Function.Injective aliasAt := by
  intro first second same
  have texts : ("t" ++ first.repr).toList = ("t" ++ second.repr).toList :=
    congrArg String.toList same
  have digits : Nat.toDigits 10 first = Nat.toDigits 10 second := by
    simpa only [String.toList_append, List.append_cancel_left_eq, Nat.toList_repr] using texts
  rw [← Nat.ofDigitChars_ten_toDigits (n := first), digits, Nat.ofDigitChars_ten_toDigits]

namespace QueryState

/-- What the stages of a query keep of the tables and filters. -/
structure IsAttached (state : QueryState) (root : RecordType) : Prop where
  first : ∃ table, state.root? = some table ∧ table.record = root ∧ table.join = none
  distinct : state.IsDistinct
  aliases : state.tables.map (·.aliasName) = (List.range state.tables.length).map aliasAt
  joins : ∀ table ∈ state.tables, ∀ join ∈ table.join, join.IsOn root table.record
  pivots : ∀ table ∈ state.tables, ∀ record ∈ table.pivot?, record ≠ root ∧
    ∃ pivot ∈ state.tables, pivot.record = record ∧ pivot.join = none
  apart : ∀ first ∈ state.tables, ∀ second ∈ state.tables,
    ∀ record, first.pivot? = some record → second.pivot? = some record → first = second
  steady : ∀ filter ∈ state.filters, filter.Steady

variable {state next : QueryState} {root : RecordType}

theorem IsAttached.root_mem (attached : state.IsAttached root) {table : Table}
    (first : state.root? = some table) :
    table ∈ state.tables ∧ table.record = root ∧ table.join = none := by
  obtain ⟨found, isFirst, sameRecord, unjoined⟩ := attached.first
  obtain rfl : found = table := Option.some.inj (isFirst.symm.trans first)
  exact ⟨List.mem_of_mem_head? first, sameRecord, unjoined⟩

theorem IsAttached.aliases_nodup (attached : state.IsAttached root) :
    (state.tables.map (·.aliasName)).Nodup := by
  rw [attached.aliases]
  exact List.nodup_range.map aliasAt_injective

/-! ## What each stage keeps -/

theorem addTable_aliases {record : RecordType} {join : Option Join}
    (aliases : state.tables.map (·.aliasName) = (List.range state.tables.length).map aliasAt)
    (added : state.addTable record join = .ok next) :
    next.tables.map (·.aliasName) = (List.range next.tables.length).map aliasAt := by
  obtain ⟨-, rfl⟩ := addTable_ok added
  simp [List.range_succ, aliases, nextAlias, aliasAt]

/-- Tables that a stage adds: joined with the root, and with their pivots among them. -/
structure Attaches (state : QueryState) (root : RecordType) (added : List Table) : Prop where
  joins : ∀ table ∈ added, ∀ join ∈ table.join, join.IsOn root table.record
  pivots : ∀ table ∈ added, ∀ record ∈ table.pivot?, record ∉ state.tables.map (·.record) ∧
    ∃ pivot ∈ added, pivot.record = record ∧ pivot.join = none
  apart : ∀ first ∈ added, ∀ second ∈ added,
    ∀ record, first.pivot? = some record → second.pivot? = some record → first = second

theorem IsAttached.extend (attached : state.IsAttached root) {added : List Table}
    (attaches : state.Attaches root added) (tables : next.tables = state.tables ++ added)
    (filters : next.filters = state.filters) (distinct : next.IsDistinct)
    (aliases : next.tables.map (·.aliasName) = (List.range next.tables.length).map aliasAt) :
    next.IsAttached root := by
  obtain ⟨table, first, isRoot⟩ := attached.first
  have rootMember : root ∈ state.tables.map (·.record) :=
    List.mem_map.mpr ⟨table, List.mem_of_mem_head? first, isRoot.1⟩
  have stillFirst : next.root? = some table := by
    rw [root?, tables, List.head?_append, show state.tables.head? = some table from first]
    rfl
  have oldPivot : ∀ table ∈ state.tables, ∀ record ∈ table.pivot?,
      record ∈ state.tables.map (·.record) := by
    intro table member record through
    obtain ⟨-, pivot, isPivot, rfl, -⟩ := attached.pivots table member record through
    exact List.mem_map_of_mem isPivot
  refine ⟨⟨table, stillFirst, isRoot⟩, distinct, aliases, ?_, ?_, ?_, filters ▸ attached.steady⟩
  · intro table member join joined
    rcases List.mem_append.mp (tables ▸ member) with old | new
    · exact attached.joins table old join joined
    · exact attaches.joins table new join joined
  · intro table member record through
    rcases List.mem_append.mp (tables ▸ member) with old | new
    · obtain ⟨notRoot, pivot, isPivot, same⟩ := attached.pivots table old record through
      exact ⟨notRoot, pivot, tables ▸ List.mem_append_left _ isPivot, same⟩
    · obtain ⟨absent, pivot, isPivot, same⟩ := attaches.pivots table new record through
      refine ⟨?_, pivot, tables ▸ List.mem_append_right _ isPivot, same⟩
      rintro rfl
      exact absent rootMember
  · intro first isFirst second isSecond record firstPivot secondPivot
    rcases List.mem_append.mp (tables ▸ isFirst) with oldFirst | newFirst <;>
      rcases List.mem_append.mp (tables ▸ isSecond) with oldSecond | newSecond
    · exact attached.apart first oldFirst second oldSecond record firstPivot secondPivot
    · exact absurd (oldPivot first oldFirst record firstPivot)
        (attaches.pivots second newSecond record secondPivot).1
    · exact absurd (oldPivot second oldSecond record secondPivot)
        (attaches.pivots first newFirst record firstPivot).1
    · exact attaches.apart first newFirst second newSecond record firstPivot secondPivot

end QueryState

namespace Query

variable {state next : QueryState} {root : RecordType}

theorem addJoin_attached (attached : state.IsAttached root) {record : RecordType} {join : Join}
    (isOn : join.IsOn root record) (added : addStage state (.join record join) = .ok next) :
    next.IsAttached root := by
  obtain ⟨joined, joining, pivoting⟩ := bind_ok added
  have joinedAliases := QueryState.addTable_aliases attached.aliases joining
  have joinedDistinct := QueryState.addTable_distinct attached.distinct joining
  cases through : join.pivot with
  | none =>
      simp only [through] at pivoting
      cases pivoting
      obtain ⟨-, rfl⟩ := QueryState.addTable_ok joining
      have attaches : state.Attaches root [⟨record, state.nextAlias, some join⟩] := by
        constructor <;> simp [Table.pivot?, through, isOn]
      exact attached.extend attaches rfl rfl joinedDistinct joinedAliases
  | some pivot =>
      simp only [through] at pivoting
      have aliases := QueryState.addTable_aliases joinedAliases pivoting
      have distinct := QueryState.addTable_distinct joinedDistinct pivoting
      obtain ⟨absent, rfl⟩ := QueryState.addTable_ok pivoting
      have fresh := QueryState.notMem_of_table? absent
      obtain ⟨-, rfl⟩ := QueryState.addTable_ok joining
      refine attached.extend ?_ (List.append_assoc _ _ _) rfl distinct aliases
      have absent : pivot.record ∉ state.tables.map (·.record) := by
        intro member
        exact fresh (List.map_append ▸ List.mem_append_left _ member)
      refine ⟨by simp [isOn], ?_, by simp [Table.pivot?]⟩
      simpa [Table.pivot?, through] using absent

theorem addStage_attached (attached : state.IsAttached root) {stage : Stage}
    (isOn : stage.IsOn root) (steady : stage.IsSteady) (added : addStage state stage = .ok next) :
    next.IsAttached root := by
  cases stage with
  | join record join => exact addJoin_attached attached isOn added
  | filter condition =>
      cases added
      refine { attached with steady := ?_ }
      exact List.forall_mem_append.mpr ⟨attached.steady, List.forall_mem_singleton.mpr steady⟩
  | ordering fields descending | limit limit =>
      cases added
      exact { attached with }

theorem addStages_attached (attached : state.IsAttached root) {stages : List Stage}
    (joins : ∀ stage ∈ stages, stage.IsOn root) (filters : ∀ stage ∈ stages, stage.IsSteady)
    (added : stages.foldlM addStage state = .ok next) : next.IsAttached root := by
  induction stages generalizing state with
  | nil =>
      cases added
      exact attached
  | cons stage stages ih =>
      obtain ⟨isOn, othersOn⟩ := List.forall_mem_cons.mp joins
      obtain ⟨steady, othersSteady⟩ := List.forall_mem_cons.mp filters
      rw [List.foldlM_cons] at added
      obtain ⟨middle, first, rest⟩ := bind_ok added
      exact ih (addStage_attached attached isOn steady first) othersOn othersSteady rest

theorem toState_attached {query : Query} (typed : query.IsTyped) {command : Command}
    (built : query.toState command = .ok state) : state.IsAttached query.root := by
  obtain ⟨start, rooted, rest⟩ := bind_ok built
  refine addStages_attached ?_ typed.joins typed.filters rest
  obtain ⟨-, rfl⟩ := QueryState.addTable_ok rooted
  refine ⟨⟨_, rfl, rfl, rfl⟩, List.nodup_singleton _, rfl, ?_, ?_, ?_, ?_⟩
  all_goals simp [QueryState.ofCommand, Table.pivot?]

end Query

end RecordMapper
