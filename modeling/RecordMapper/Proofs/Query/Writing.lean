import RecordMapper.Proofs.Action
import RecordMapper.Proofs.Sql.Phrase

set_option autoImplicit false

/-!
How the renderer of expressions writes. The relation `Writes` says which phrase an expression is
written as, with the calls of producers and the numbers of parameters that this takes; every
successful rendering for a dialect follows it.
-/

namespace RecordMapper

/-! ## Columns -/

/-- The qualifier of a record type's columns: none where names are bare. -/
def Scope.qualifier? (scope : Scope) (record : RecordType) : Option (Option String) :=
  if scope.qualified then (scope.table? record).map (some ·.aliasName) else some none

/-- What a field reference is written as, if it names a column that the scope can reach. -/
def Scope.columnName? (scope : Scope) (reference : FieldRef) : Option Sql.ColumnName :=
  match reference.column?, scope.qualifier? reference.record with
  | some column, some qualifier => some ⟨qualifier, column⟩
  | _, _ => none

theorem Scope.columnName?_qualified {scope : Scope} {reference : FieldRef}
    {name : Sql.ColumnName} (qualified : scope.qualified = true)
    (found : scope.columnName? reference = some name) :
    ∃ table column, scope.table? reference.record = some table ∧
      reference.column? = some column ∧ name = ⟨some table.aliasName, column⟩ := by
  unfold Scope.columnName? at found
  split at found
  · rename_i column qualifier isColumn isQualifier
    cases found
    rw [Scope.qualifier?, if_pos qualified] at isQualifier
    obtain ⟨table, isTable, rfl⟩ := Option.map_eq_some_iff.mp isQualifier
    exact ⟨table, column, isTable, isColumn, rfl⟩
  · cases found

theorem Scope.columnName?_bare {scope : Scope} {reference : FieldRef} {name : Sql.ColumnName}
    (bare : scope.qualified = false) (found : scope.columnName? reference = some name) :
    name.qualifier = none := by
  unfold Scope.columnName? at found
  split at found
  · rename_i column qualifier isColumn isQualifier
    cases found
    rw [Scope.qualifier?, if_neg (by simp [bare])] at isQualifier
    cases isQualifier
    rfl
  · cases found

theorem Scope.columnName?_column {scope : Scope} {reference : FieldRef} {name : Sql.ColumnName}
    (found : scope.columnName? reference = some name) :
    reference.column? = some name.column := by
  unfold Scope.columnName? at found
  split at found
  · cases found
    assumption
  · cases found

theorem Scope.lookup_ok {scope : Scope} {record : RecordType} {table : Table}
    (found : scope.lookup record = .ok table) : scope.table? record = some table := by
  unfold Scope.lookup at found
  split at found
  · cases found
    assumption
  · cases found

namespace Rendering

variable {dialect : Dialect} {Result : Type}

theorem quote_ok {name text : String} {draft after : Draft (List Binding)}
    (succeeded : (quote dialect.delegate name).runOn draft = (.ok text, after)) :
    after = draft ∧ text = dialect.quoteIdentifier name := by
  cases succeeded
  exact ⟨rfl, rfl⟩

theorem bind_ok {value : Value} {text : String} {draft after : Draft (List Binding)}
    (succeeded : (bind dialect.delegate value).runOn draft = (.ok text, after)) :
    text = dialect.placeholder (draft.buffer.length + 1) ∧
      after = ⟨draft.buffer ++ [⟨text, value⟩], draft.calls⟩ := by
  cases succeeded
  exact ⟨rfl, rfl⟩

theorem counting_ok {Buffer : Type} {count : StateM Calls Result} {result : Result}
    {draft after : Draft Buffer}
    (succeeded : (counting count).runOn draft = (.ok result, after)) :
    count.run draft.calls = (result, after.calls) ∧ after.buffer = draft.buffer := by
  cases succeeded
  exact ⟨rfl, rfl⟩

end Rendering

namespace Expr

variable {dialect : Dialect} {scope : Scope}

theorem renderField_ok {reference : FieldRef} {text : String} {draft after : Draft (List Binding)}
    (succeeded : (renderField dialect.delegate scope reference).runOn draft = (.ok text, after)) :
    after = draft ∧
      ∃ name, scope.columnName? reference = some name ∧ text = name.text dialect := by
  unfold renderField at succeeded
  split at succeeded
  · exact (Action.throw_ok succeeded).elim
  · rename_i column found
    obtain ⟨quoted, _, named, qualifying⟩ := Action.bind_ok succeeded
    obtain ⟨rfl, rfl⟩ := Rendering.quote_ok named
    split at qualifying
    · rename_i qualified
      obtain ⟨table, _, looked, naming⟩ := Action.bind_ok qualifying
      obtain ⟨rfl, reached⟩ := Action.ofOutcome_ok looked
      obtain ⟨quotedAlias, _, aliased, finished⟩ := Action.bind_ok naming
      obtain ⟨rfl, rfl⟩ := Rendering.quote_ok aliased
      obtain ⟨rfl, rfl⟩ := Action.pure_ok finished
      refine ⟨rfl, ⟨some table.aliasName, column⟩, ?_, rfl⟩
      simp [Scope.columnName?, Scope.qualifier?, found, qualified, Scope.lookup_ok reached]
    · rename_i bare
      obtain ⟨rfl, rfl⟩ := Action.pure_ok qualifying
      refine ⟨rfl, ⟨none, column⟩, ?_, rfl⟩
      simp [Scope.columnName?, Scope.qualifier?, found, bare]

theorem renderField_total {reference : FieldRef}
    (reached : (scope.columnName? reference).isSome) (draft : Draft (List Binding)) :
    ∃ text, (renderField dialect.delegate scope reference).runOn draft = (.ok text, draft) := by
  obtain ⟨name, found⟩ := Option.isSome_iff_exists.mp reached
  unfold Scope.columnName? at found
  unfold renderField
  split at found
  · rename_i column qualifier isColumn isQualifier
    unfold Scope.qualifier? at isQualifier
    split at isQualifier
    · rename_i qualified
      obtain ⟨table, isTable, -⟩ := Option.map_eq_some_iff.mp isQualifier
      have looked : scope.lookup reference.record = .ok table := by
        rw [Scope.lookup, isTable]
      simp only [isColumn, if_pos qualified, looked]
      exact ⟨_, rfl⟩
    · rename_i bare
      simp only [isColumn, if_neg bare]
      exact ⟨_, rfl⟩
  · cases found

/-! ## Expressions -/

end Expr

structure Progress where
  calls : Calls
  bound : Nat

def Draft.progress (draft : Draft (List Binding)) : Progress :=
  ⟨draft.calls, draft.buffer.length⟩

/-- What an expression is written as. A deferred expression is what its producer gives at this
call; only a NULL that is no deferred one turns a comparison into a test. -/
inductive Expr.Writes (scope : Scope) : Expr → Progress → Sql.Phrase → Progress → Prop where
  | field {reference : FieldRef} {name : Sql.ColumnName} {progress : Progress} :
      scope.columnName? reference = some name →
      Writes scope (.field reference) progress (.column name) progress
  | column {name : String} {progress : Progress} :
      Writes scope (.column name) progress (.column ⟨none, name⟩) progress
  | null {progress : Progress} : Writes scope (.literal .null) progress .null progress
  | literal {value : Value} {progress : Progress} :
      value.isNull = false →
      Writes scope (.literal value) progress (.parameter (progress.bound + 1) value)
        ⟨progress.calls, progress.bound + 1⟩
  | isNull {left : Expr} {operand : Sql.Phrase} {progress after : Progress} :
      Writes scope left progress operand after →
      Writes scope (.binary .eq left (.literal .null)) progress (.nullTest false operand) after
  | isNotNull {left : Expr} {operand : Sql.Phrase} {progress after : Progress} :
      Writes scope left progress operand after →
      Writes scope (.binary .ne left (.literal .null)) progress (.nullTest true operand) after
  | binary {operator : Operator} {left right : Expr} {first second : Sql.Phrase}
      {progress middle after : Progress} :
      (operator.nullTest? = none ∨ right.isNullLiteral = false) →
      Writes scope left progress first middle → Writes scope right middle second after →
      Writes scope (.binary operator left right) progress (.binary operator first second) after
  | not {operand : Expr} {phrase : Sql.Phrase} {progress after : Progress} :
      Writes scope operand progress phrase after →
      Writes scope (.not operand) progress (.not phrase) after
  | deferred {producer : ProducerId} {produce : Nat → Expr} {phrase : Sql.Phrase}
      {progress after : Progress} :
      Writes scope (produce (progress.calls.count producer))
        ⟨progress.calls.add producer, progress.bound⟩ phrase after →
      Writes scope (.deferred producer produce) progress phrase after

namespace Expr

variable {dialect : Dialect} {scope : Scope}

theorem eq_of_isNullLiteral {expr : Expr} (isNull : expr.isNullLiteral = true) :
    expr = .literal .null := by
  cases expr with
  | literal value => cases value <;> first | rfl | cases isNull
  | field | column | binary | not | deferred => cases isNull

/-- A successful rendering writes a phrase and binds its parameters. -/
theorem render_ok {expr : Expr} {text : String} {draft after : Draft (List Binding)}
    (succeeded : (expr.render dialect.delegate scope).runOn draft = (.ok text, after)) :
    ∃ phrase, Writes scope expr draft.progress phrase after.progress ∧
      text = phrase.text dialect ∧
      after.buffer = draft.buffer ++ Sql.bindings dialect phrase.parameters := by
  induction expr generalizing text draft after with
  | field reference =>
      obtain ⟨rfl, name, found, rfl⟩ := renderField_ok succeeded
      exact ⟨.column name, .field found, rfl, by simp [Sql.Phrase.parameters]⟩
  | column name =>
      obtain ⟨rfl, rfl⟩ := Rendering.quote_ok succeeded
      exact ⟨_, .column, rfl, by simp [Sql.Phrase.parameters]⟩
  | literal value =>
      unfold render at succeeded
      split at succeeded
      · rename_i isNull
        obtain rfl : value = .null := by cases value <;> first | rfl | cases isNull
        obtain ⟨rfl, rfl⟩ := Action.pure_ok succeeded
        exact ⟨_, .null, rfl, by simp [Sql.Phrase.parameters]⟩
      · rename_i notNull
        obtain ⟨rfl, rfl⟩ := Rendering.bind_ok succeeded
        refine ⟨.parameter (draft.buffer.length + 1) value, ?_, rfl, rfl⟩
        have written : Writes scope (.literal value) draft.progress
            (.parameter (draft.progress.bound + 1) value)
            ⟨draft.calls, draft.progress.bound + 1⟩ := .literal (Bool.eq_false_iff.mpr notNull)
        simpa [Draft.progress] using written
  | binary operator left right leftIH rightIH =>
      unfold render at succeeded
      obtain ⟨leftText, middle, leftRendered, comparing⟩ := Action.bind_ok succeeded
      obtain ⟨first, leftWrites, rfl, leftBound⟩ := leftIH leftRendered
      split at comparing
      · rename_i test tests isNull
        obtain ⟨rfl, rfl⟩ := Action.pure_ok comparing
        -- Only these two operators test for NULL, and they do not render the right operand.
        obtain rfl := eq_of_isNullLiteral isNull
        cases operator <;> cases tests
        · exact ⟨.nullTest false first, .isNull leftWrites, rfl, leftBound⟩
        · exact ⟨.nullTest true first, .isNotNull leftWrites, rfl, leftBound⟩
      · rename_i untested
        obtain ⟨rightText, last, rightRendered, finished⟩ := Action.bind_ok comparing
        obtain ⟨second, rightWrites, rfl, rightBound⟩ := rightIH rightRendered
        obtain ⟨rfl, rfl⟩ := Action.pure_ok finished
        refine ⟨.binary operator first second, .binary ?_ leftWrites rightWrites, rfl, ?_⟩
        · cases tests : operator.nullTest? with
          | none => exact .inl rfl
          | some test => exact .inr (Bool.eq_false_iff.mpr fun isNull => untested test tests isNull)
        · simp [rightBound, leftBound, Sql.Phrase.parameters]
  | not operand ih =>
      unfold render at succeeded
      obtain ⟨operandText, middle, rendered, finished⟩ := Action.bind_ok succeeded
      obtain ⟨phrase, writes, rfl, bound⟩ := ih rendered
      obtain ⟨rfl, rfl⟩ := Action.pure_ok finished
      exact ⟨.not phrase, .not writes, rfl, bound⟩
  | deferred producer produce ih =>
      unfold render at succeeded
      obtain ⟨call, middle, counted, produced⟩ := Action.bind_ok succeeded
      cases counted
      obtain ⟨phrase, writes, rfl, bound⟩ := ih _ produced
      exact ⟨phrase, .deferred writes, rfl, bound⟩

end Expr

end RecordMapper
