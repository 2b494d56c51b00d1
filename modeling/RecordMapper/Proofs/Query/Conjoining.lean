import RecordMapper.Proofs.Query.Purity
import RecordMapper.Proofs.Query.Sample
import RecordMapper.Proofs.Query.Selecting

set_option autoImplicit false

/-!
Several filters of one statement. Each is written in parentheses, so none takes an operand of
another: the condition is read as the conjunction of what the filters are read as on their own.
-/

namespace RecordMapper

namespace Expr

variable {dialect : Dialect} {scope : Scope}

/-- A pure expression that is rendered once is rendered after any other values and calls. -/
theorem Pure.rerender {expr : Expr} (pure : expr.Pure) {before after : Draft (List Binding)}
    {text : String} (rendered : (expr.render dialect.delegate scope).runOn before = (.ok text, after))
    (draft : Draft (List Binding)) :
    ∃ text' after', (expr.render dialect.delegate scope).runOn draft = (.ok text', after') := by
  induction pure generalizing before after text draft with
  | field reference =>
      obtain ⟨rfl, name, found, rfl⟩ := renderField_ok rendered
      have reached : (scope.columnName? reference).isSome := by simp [found]
      obtain ⟨text, again⟩ := renderField_total reached draft
      exact ⟨text, draft, again⟩
  | column name => exact ⟨_, _, rfl⟩
  | literal value =>
      unfold render
      split
      · exact ⟨_, _, rfl⟩
      · exact ⟨_, _, rfl⟩
  | binary _ _ leftIH rightIH =>
      unfold render at rendered ⊢
      obtain ⟨leftText, middle, leftRendered, comparing⟩ := Action.bind_ok rendered
      obtain ⟨text', middle', again⟩ := leftIH leftRendered draft
      rw [Action.runOn_bind_of_ok again]
      split at comparing
      · exact ⟨_, _, rfl⟩
      · obtain ⟨rightText, last, rightRendered, -⟩ := Action.bind_ok comparing
        obtain ⟨text'', after', again⟩ := rightIH rightRendered middle'
        rw [Action.runOn_bind_of_ok again]
        exact ⟨_, _, rfl⟩
  | not _ ih =>
      unfold render at rendered ⊢
      obtain ⟨operandText, middle, operandRendered, -⟩ := Action.bind_ok rendered
      obtain ⟨text', after', again⟩ := ih operandRendered draft
      rw [Action.runOn_bind_of_ok again]
      exact ⟨_, _, rfl⟩
  | @deferred producer produce _ constant ih =>
      have produced : ((produce (before.calls.count producer)).render dialect.delegate scope).runOn
          ⟨before.buffer, before.calls.add producer⟩ = (.ok text, after) := rendered
      rw [constant _ (draft.calls.count producer)] at produced
      exact ih _ produced ⟨draft.buffer, draft.calls.add producer⟩

/-- Rendered after no other values, the expression has a reading. -/
def ReadAs (dialect : Dialect) (scope : Scope) (expr : Expr) (reading : Sql.Reading) : Prop :=
  ∃ calls text after,
    (expr.render dialect.delegate scope).runOn ⟨[], calls⟩ = (.ok text, after) ∧
      Sql.Parses dialect .disjunction (Sql.tokens dialect text) reading

theorem ReadAs.of_reads {expr : Expr} (phrase : Sql.Phrase) (calls : Calls)
    {after : Draft (List Binding)} {reading : Sql.Reading}
    (rendered : (expr.render dialect.delegate scope).runOn ⟨[], calls⟩ =
      (.ok (phrase.text dialect), after))
    (reads : Sql.Reads dialect .disjunction (phrase.read dialect) reading) :
    expr.ReadAs dialect scope reading := by
  refine ⟨calls, _, after, rendered, ?_⟩
  rw [(phrase.spells dialect).tokens_eq]
  exact reads.parses

/-- What a filter is written as among others has the filter's own reading but for the numbers of
placeholders. -/
theorem ReadAs.parses {expr : Expr} {reading : Sql.Reading} (readAs : expr.ReadAs dialect scope reading)
    (pure : expr.Pure) {before after : Progress} {phrase : Sql.Phrase}
    (writes : Writes scope expr before phrase after) :
    ∃ other, Sql.Parses dialect .disjunction (phrase.read dialect) other ∧
      reading.Shifts dialect before.bound other := by
  obtain ⟨calls, text, last, rendered, parses⟩ := readAs
  obtain ⟨own, ownWrites, rfl, -⟩ := render_ok rendered
  have more : before.bound = 0 + before.bound := (Nat.zero_add _).symm
  obtain ⟨rfl, -⟩ := pure.writes_shift ownWrites writes more
  rw [(own.spells dialect).tokens_eq] at parses
  exact parses.shift own.shift_read

end Expr

theorem Scope.WritesAll.parses {dialect : Dialect} {scope : Scope} {filters : List Expr}
    {readings : List Sql.Reading} {before after : Progress} {phrases : List Sql.Phrase}
    (writes : scope.WritesAll filters before phrases after)
    (pure : ∀ filter ∈ filters, filter.Pure)
    (read : List.Forall₂ (Expr.ReadAs dialect scope) filters readings) :
    ∃ others, List.Forall₂ (Sql.Parses dialect .disjunction)
        (phrases.map (·.read dialect)) others ∧
      List.Forall₂ (fun reading other => ∃ offset, reading.Shifts dialect offset other)
        readings others := by
  induction writes generalizing readings with
  | nil =>
      cases read
      exact ⟨[], .nil, .nil⟩
  | cons written _ ih =>
      obtain ⟨firstPure, othersPure⟩ := List.forall_mem_cons.mp pure
      cases read with
      | cons first rest =>
          obtain ⟨other, parses, shifted⟩ := first.parses firstPure written
          obtain ⟨others, allParse, allShifted⟩ := ih othersPure rest
          exact ⟨other :: others, .cons parses allParse, .cons ⟨_, shifted⟩ allShifted⟩

theorem QueryState.addFilters (state : QueryState) (filters : List Expr) :
    filters.foldl QueryState.addFilter state =
      { state with filters := state.filters ++ filters } := by
  induction filters generalizing state with
  | nil => rw [List.foldl_nil, List.append_nil]
  | cons filter filters ih =>
      rw [List.foldl_cons, ih, QueryState.addFilter, List.append_assoc]
      rfl

namespace Generation

variable {dialect : Dialect} {state : QueryState} {filters : List Expr}
  {readings : List Sql.Reading}

theorem whereClause_total
    (renders : ∀ filter ∈ state.filters, ∀ draft, ∃ text after,
      (filter.render dialect.delegate state.scope).runOn draft = (.ok text, after))
    (draft : Draft (List Binding)) :
    ∃ text after, (whereClause dialect.delegate state).runOn draft = (.ok text, after) := by
  unfold whereClause
  split
  · exact ⟨_, _, rfl⟩
  · rename_i filter filters
    obtain ⟨text, after, rendered⟩ := renders filter (by simp [filters]) draft
    rw [Action.runOn_bind_of_ok rendered]
    exact ⟨_, _, rfl⟩
  · have parts : ∀ filter ∈ state.filters, ∀ before, ∃ part after,
        Action.runOn (do
          let text ← filter.render dialect.delegate state.scope
          pure ("(" ++ text ++ ")")) before = (.ok part, after) := by
      intro filter member before
      obtain ⟨text, after, rendered⟩ := renders filter member before
      rw [Action.runOn_bind_of_ok rendered]
      exact ⟨_, _, rfl⟩
    obtain ⟨texts, after, rendered⟩ := Action.mapM_total parts draft
    rw [Action.runOn_bind_of_ok rendered]
    exact ⟨_, _, rfl⟩

/-- Several filters, each of which is read as something on its own, are read as the conjunction of
just these readings in the order in which the filters were added. -/
theorem whereClause_conjoins (unfiltered : state.filters = []) (several : 2 ≤ filters.length)
    (pure : ∀ filter ∈ filters, filter.Pure)
    (read : List.Forall₂ (Expr.ReadAs dialect state.scope) filters readings)
    (draft : Draft (List Binding)) :
    ∃ text after condition first rest,
      (whereClause dialect.delegate (filters.foldl QueryState.addFilter state)).runOn draft =
        (.ok text, after) ∧
      Sql.tokens dialect text = .word "WHERE" :: condition ∧
      List.Forall₂ (fun reading other => ∃ offset, reading.Shifts dialect offset other)
        readings (first :: rest) ∧
      ∀ reading, Sql.Parses dialect .disjunction condition reading ↔
        reading = rest.foldl (.binary .and) first := by
  let filtered : QueryState := { state with filters := filters }
  have added : filters.foldl QueryState.addFilter state = filtered := by
    rw [QueryState.addFilters, unfiltered, List.nil_append]
  rw [added]
  have renders : ∀ filter ∈ filtered.filters, ∀ draft, ∃ text after,
      (filter.render dialect.delegate filtered.scope).runOn draft = (.ok text, after) := by
    intro filter member
    have readable := (List.forall₂_and_left _ _).mp
      (read.imp fun _ reading readAs => ⟨(⟨reading, readAs⟩ : ∃ reading, _), readAs⟩)
    obtain ⟨_, calls, text, after, rendered, -⟩ := readable.1 filter member
    exact (pure filter member).rerender rendered
  obtain ⟨text, after, rendered⟩ := whereClause_total renders draft
  obtain ⟨phrases, writes, rfl, -⟩ := whereClause_ok rendered
  obtain ⟨others, parse, shifted⟩ := writes.parses pure read
  have sameLength : phrases.length = filters.length := writes.length_eq
  rw [← sameLength] at several
  match phrases, others, parse with
  | firstPhrase :: secondPhrase :: phrases, first :: rest, .cons firstParses restParse =>
      have conjoined := Sql.Parses.groups firstParses restParse
      rw [List.map_cons, List.map_map] at conjoined
      refine ⟨_, after, _, first, rest, rendered,
        (Sql.follows_condition dialect _).spells.tokens_eq, shifted, fun reading => ?_⟩
      constructor
      · intro parses
        exact parses.unique conjoined
      · rintro rfl
        exact conjoined
  | [_], _, _ => simp at several
  | [], _, _ => simp at several

end Generation

namespace Sample

/-- Books, before any filter. -/
def shelved : QueryState where
  tables := [⟨book, "t0", none⟩]
  command := .delete

/-- Filters on books, one of them on columns that are named like parts of a condition. -/
def suspect : List Expr :=
  [.binary .or (.column ") OR (") (.binary .eq (.column "NOT") (.literal (.text "Emma"))), untitled,
    .not (.binary .lt (.column "id") (.literal (.bool true)))]

end Sample

namespace Generation

theorem whereClause_conjoins_sample :
    Sample.shelved.filters = [] ∧ 2 ≤ Sample.suspect.length ∧
      (∀ filter ∈ Sample.suspect, filter.Pure) ∧
      ∃ readings,
        List.Forall₂ (Expr.ReadAs .sqlite Sample.shelved.scope) Sample.suspect readings ∧
          ∃ text after condition first rest,
            (whereClause Dialect.sqlite.delegate
              (Sample.suspect.foldl QueryState.addFilter Sample.shelved)).runOn ⟨[], .zero⟩ =
                (.ok text, after) ∧
            Sql.tokens .sqlite text = .word "WHERE" :: condition ∧
            List.Forall₂ (fun reading other => ∃ offset, reading.Shifts .sqlite offset other)
              readings (first :: rest) ∧
            ∀ reading, Sql.Parses .sqlite .disjunction condition reading ↔
              reading = rest.foldl (.binary .and) first := by
  have several : 2 ≤ Sample.suspect.length := by decide
  have pure : ∀ filter ∈ Sample.suspect, filter.Pure := by
    simp only [Sample.suspect, List.forall_mem_cons]
    refine ⟨?_, ?_, ?_, by simp⟩
    · exact .binary (.column _) (.binary (.column _) (.literal _))
    · exact .binary (.field _) (.deferred (fun _ => .literal _) fun _ _ => rfl)
    · exact .not (.binary (.column _) (.literal _))
  let named (name : String) : Sql.Phrase := .column ⟨none, name⟩
  have name (name : String) : Sql.Reads .sqlite .atom ((named name).read .sqlite)
      (.leaf (Dialect.sqlite.quoteIdentifier name)) := .name ⟨none, name⟩
  -- On its own, each filter binds its value as the first.
  have value : Sql.Reads .sqlite .atom [.word "?1"] (.leaf "?1") := .placeholder 1
  have nothing : Sql.Reads .sqlite .atom [.word "NULL"] (.leaf "NULL") := .null
  have isOr : Sql.operatorLevel .or = .disjunction := rfl
  have isEq : Sql.operatorLevel .eq = .comparison := rfl
  have isLt : Sql.operatorLevel .lt = .relation := rfl
  have equals := Sql.Reads.binary isEq ((name "NOT").looser (by decide)) (value.looser (by decide))
  have either := Sql.Reads.binary isOr ((name ") OR (").looser (by decide))
    (equals.looser (by decide))
  have untitled := Sql.Reads.binary isEq ((name "title").looser (by decide))
    (nothing.looser (by decide))
  have less := Sql.Reads.binary isLt ((name "id").looser (by decide)) value
  have negated := Sql.Reads.not (less.looser (by decide))
  let first : Sql.Phrase :=
    .binary .or (named ") OR (") (.binary .eq (named "NOT") (.parameter 1 (.text "Emma")))
  let second : Sql.Phrase := .binary .eq (named "title") .null
  let third : Sql.Phrase := .not (.binary .lt (named "id") (.parameter 1 (.bool true)))
  have read : List.Forall₂ (Expr.ReadAs .sqlite Sample.shelved.scope) Sample.suspect _ :=
    .cons (.of_reads first .zero rfl either)
      (.cons (.of_reads second .zero rfl (untitled.looser (by decide)))
        (.cons (.of_reads third .zero rfl (negated.looser (by decide))) .nil))
  exact ⟨rfl, several, pure, _, read, whereClause_conjoins rfl several pure read _⟩

end Generation

end RecordMapper
