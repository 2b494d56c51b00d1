import RecordMapper.Proofs.Query.Sample
import RecordMapper.Proofs.Query.Stages

set_option autoImplicit false

/-!
Which order of stages counts. Joins and orderings decide the tables, their aliases and which
orderings are usable; filters and limits stand beside them and have no part in that. So a query
comes to the state of its joins and orderings alone, with its filters in their order and its last
limit, however the stages are interleaved.
-/

namespace RecordMapper

namespace Stage

/-- Adds tables, or orderings that depend on how many tables there are. -/
def isPlaced : Stage → Bool
  | .join _ _ | .ordering _ _ => true
  | .filter _ | .limit _ => false

end Stage

namespace QueryState

/-- More filters, and a limit that takes the place of an earlier one. -/
def restrict (filters : List Expr) (limit : Option Limit) (state : QueryState) : QueryState :=
  { state with filters := state.filters ++ filters, limit := limit.or state.limit }

variable {filters others : List Expr} {limit later : Option Limit}

@[simp] theorem restrict_nil (state : QueryState) : state.restrict [] none = state := by
  simp [restrict]

@[simp] theorem restrict_restrict (state : QueryState) :
    (state.restrict filters limit).restrict others later =
      state.restrict (filters ++ others) (later.or limit) := by
  simp [restrict, Option.or_assoc]

theorem addFilter_eq (state : QueryState) (filter : Expr) :
    state.addFilter filter = state.restrict [filter] none := rfl

theorem setLimit_eq (state : QueryState) (bound : Limit) :
    state.setLimit bound = state.restrict [] (some bound) := by
  simp [setLimit, restrict]

end QueryState

namespace Query

open QueryState (restrict)

variable {filters : List Expr} {limit : Option Limit}

/-- The stages whose order counts. -/
def placed (query : Query) : List Stage :=
  query.stages.filter Stage.isPlaced

theorem sparesTables_restrict : SparesTables (restrict filters limit) :=
  fun _ _ => rfl

theorem addStage_restrict {stage : Stage} (isPlaced : stage.isPlaced = true)
    (state : QueryState) :
    addStage (state.restrict filters limit) stage =
      (addStage state stage).map (restrict filters limit) := by
  cases stage with
  | filter | limit => cases isPlaced
  | ordering => rfl
  | join record join => exact sparesTables_restrict.addJoin state record join

theorem addStages_restrict {stages : List Stage}
    (placed : ∀ stage ∈ stages, stage.isPlaced = true) (state : QueryState) :
    stages.foldlM addStage (state.restrict filters limit) =
      (stages.foldlM addStage state).map (restrict filters limit) :=
  addStages_map (fun stage among => addStage_restrict (placed stage among)) state

theorem mem_filter_isPlaced (stages : List Stage) :
    ∀ stage ∈ stages.filter Stage.isPlaced, stage.isPlaced = true :=
  fun _ among => (List.mem_filter.mp among).2

theorem map_restrict_restrict (outcome : Except Error QueryState) (filters others : List Expr)
    (limit later : Option Limit) :
    (outcome.map (restrict filters limit)).map (restrict others later) =
      outcome.map (restrict (filters ++ others) (later.or limit)) := by
  cases outcome with
  | error error => rfl
  | ok state => exact congrArg Except.ok (QueryState.restrict_restrict state)

/-- The other stages have the same effect after those whose order counts, all at once. -/
theorem addStages_eq (stages : List Stage) (state : QueryState) :
    stages.foldlM addStage state =
      ((stages.filter Stage.isPlaced).foldlM addStage state).map
        (restrict (stages.filterMap Stage.filter?) (stages.filterMap Stage.limit?).getLast?) := by
  induction stages generalizing state with
  | nil => exact congrArg Except.ok (QueryState.restrict_nil state).symm
  | cons stage stages ih =>
      rw [List.foldlM_cons]
      have among := mem_filter_isPlaced stages
      cases stage with
      | join | ordering =>
          rw [List.filter_cons_of_pos rfl, List.foldlM_cons]
          cases addStage state _ with
          | error error => rfl
          | ok next => exact ih next
      | filter condition =>
          change stages.foldlM addStage (state.addFilter condition) = _
          rw [ih, QueryState.addFilter_eq, addStages_restrict among, map_restrict_restrict,
            Option.or_none]
          rfl
      | limit bound =>
          change stages.foldlM addStage (state.setLimit bound) = _
          rw [ih, QueryState.setLimit_eq, addStages_restrict among, map_restrict_restrict,
            List.nil_append, Option.or_some, ← List.getLast?_cons]
          rfl

theorem toState_eq (query : Query) (command : Command) :
    query.toState command =
      (Query.toState ⟨query.root, query.placed⟩ command).map
        (restrict query.filters query.limit?) := by
  unfold toState
  cases (QueryState.ofCommand command).addTable query.root none with
  | error error => rfl
  | ok rooted => exact addStages_eq query.stages rooted

theorem toState_congr {query other : Query} (root : query.root = other.root)
    (placed : query.placed = other.placed) (filters : query.filters = other.filters)
    (limit : query.limit? = other.limit?) (command : Command) :
    query.toState command = other.toState command := by
  rw [toState_eq query, toState_eq other, root, placed, filters, limit]

/-- Between the joins and orderings, filters and limits may stand anywhere. -/
theorem toSql_rearranged {Buffer World Handle : Type} {query other : Query}
    (root : query.root = other.root) (placed : query.placed = other.placed)
    (filters : query.filters = other.filters) (limit : query.limit? = other.limit?)
    (database : Database Buffer World Handle) (command : Command) :
    query.toSql database command = other.toSql database command := by
  unfold toSql generate
  rw [toState_congr root placed filters limit]

def isNamed : Expr :=
  .binary .ne (.field ⟨Sample.author, "name"⟩) (.literal .null)

def isEmma : Expr :=
  .binary .eq (.field ⟨Sample.book, "title"⟩) (.literal (.text "Emma"))

/-- Filters and limits on either side of a join and of an ordering. -/
def scattered : Query where
  root := Sample.author
  stages :=
    [.limit ⟨5, 0⟩, .filter isEmma, .join Sample.book Sample.books, .limit ⟨7, 0⟩,
      .filter isNamed, .ordering [⟨Sample.author, "name"⟩] false, .limit ⟨2, 1⟩]

def gathered : Query where
  root := Sample.author
  stages :=
    [.join Sample.book Sample.books, .ordering [⟨Sample.author, "name"⟩] false, .filter isEmma,
      .filter isNamed, .limit ⟨2, 1⟩]

theorem toSql_rearranged_sample :
    let library := Sample.library Sample.catalogue
    let conditions := " WHERE (\"t1\".\"title\" = ?1) AND (\"t0\".\"name\" IS NOT NULL)"
    let bindings : List Binding := [⟨"?1", .text "Emma"⟩]
    (∀ command, scattered.toSql library command = gathered.toSql library command) ∧
      ((gathered.toSql library .select).runOn ⟨[], .zero⟩).1.toOption = some
        [⟨"SELECT DISTINCT \"t0\".* FROM \"author\" AS \"t0\"" ++
            " JOIN \"book\" AS \"t1\" ON \"t0\".\"id\" = \"t1\".\"author_id\"" ++ conditions ++
            " ORDER BY \"t0\".\"name\" LIMIT 2 OFFSET 1", bindings⟩,
          ⟨"SELECT DISTINCT \"t1\".* FROM \"book\" AS \"t1\"" ++
            " JOIN \"author\" AS \"t0\" ON \"t0\".\"id\" = \"t1\".\"author_id\"" ++ conditions,
            bindings⟩] := by
  intro library conditions bindings
  have same (command : Command) :
      scattered.toSql library command = gathered.toSql library command :=
    toSql_rearranged rfl rfl rfl rfl library command
  refine ⟨same, ?_⟩
  rw [← same]
  decide +kernel

end Query

end RecordMapper
