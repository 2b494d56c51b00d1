import RecordMapper.Delegate.Standard
import RecordMapper.Proofs.Agreement
import RecordMapper.Query.Generation

set_option autoImplicit false

/-!
Two renderings that differ in their dialects and in the values they bind. What is written then
differs only where a dialect writes something of its own, and neither run can fail without the
other.
-/

namespace RecordMapper

/-- How far two renderings differ: in the dialect, in bound values and so in text. Texts alike are
put together from fixed text and from what the dialects write for the same. -/
structure Likeness where
  first : Dialect
  second : Dialect
  values : Value → Value → Prop
  texts : String → String → Prop
  fixed : ∀ text, texts text text
  append : ∀ {text other rest otherRest : String},
    texts text other → texts rest otherRest → texts (text ++ rest) (other ++ otherRest)
  quoted : ∀ name, texts (first.quoteIdentifier name) (second.quoteIdentifier name)
  placeholder : ∀ index, texts (first.placeholder index) (second.placeholder index)
  limit : ∀ max skip, texts (first.limitClause max skip) (second.limitClause max skip)

/-- Expressions that differ in their literals. A literal NULL stays one, since it is written
differently. -/
inductive Expr.Alike (values : Value → Value → Prop) : Expr → Expr → Prop where
  | field (reference : FieldRef) : Alike values (.field reference) (.field reference)
  | column (name : String) : Alike values (.column name) (.column name)
  | null : Alike values (.literal .null) (.literal .null)
  | literal {value other : Value} :
      value.isNull = false → other.isNull = false → values value other →
      Alike values (.literal value) (.literal other)
  | binary {operator : Operator} {left right otherLeft otherRight : Expr} :
      Alike values left otherLeft → Alike values right otherRight →
      Alike values (.binary operator left right) (.binary operator otherLeft otherRight)
  | not {operand other : Expr} :
      Alike values operand other → Alike values (.not operand) (.not other)
  | deferred {producer : ProducerId} {produce otherProduce : Nat → Expr} :
      (∀ call, Alike values (produce call) (otherProduce call)) →
      Alike values (.deferred producer produce) (.deferred producer otherProduce)

namespace Expr.Alike

variable {values : Value → Value → Prop} {expr other : Expr}

theorem isNullLiteral_eq (alike : Alike values expr other) :
    expr.isNullLiteral = other.isNullLiteral := by
  have plain {value : Value} (notNull : value.isNull = false) :
      (Expr.literal value).isNullLiteral = false := by
    cases value <;> first | rfl | cases notNull
  cases alike with
  | literal notNull otherNotNull => rw [plain notNull, plain otherNotNull]
  | field | column | null | binary | not | deferred => rfl

theorem referencedTypes_eq (alike : Alike values expr other) :
    expr.referencedTypes = other.referencedTypes := by
  induction alike with
  | field | column | null | literal => rfl
  | binary _ _ leftIH rightIH => simp only [referencedTypes, leftIH, rightIH]
  | not _ ih => exact ih
  | deferred _ ih =>
      simp only [referencedTypes]
      congr 1
      funext call
      exact ih call

theorem foldl {operator : Operator} {filters others : List Expr}
    (alike : List.Forall₂ (Alike values) filters others) {first otherFirst : Expr}
    (firstAlike : Alike values first otherFirst) :
    Alike values (filters.foldl (.binary operator) first)
      (others.foldl (.binary operator) otherFirst) := by
  induction alike generalizing first otherFirst with
  | nil => exact firstAlike
  | cons next _ ih => exact ih (.binary firstAlike next)

end Expr.Alike

namespace Likeness

/-! ## Texts -/

theorem intercalate (alike : Likeness) (separator : String) {texts others : List String}
    (each : List.Forall₂ alike.texts texts others) :
    alike.texts (String.intercalate separator texts) (String.intercalate separator others) := by
  induction each with
  | nil => exact alike.fixed _
  | @cons text other texts others first rest ih =>
      cases rest with
      | nil => simpa using first
      | cons second rest =>
          rw [String.intercalate_cons_cons, String.intercalate_cons_cons]
          exact alike.append (alike.append first (alike.fixed _)) ih

theorem join (alike : Likeness) {texts others : List String}
    (each : List.Forall₂ alike.texts texts others) :
    alike.texts (String.join texts) (String.join others) := by
  induction each with
  | nil => exact alike.fixed _
  | cons first _ ih =>
      rw [String.join_cons, String.join_cons]
      exact alike.append first ih

/-! ## Drafts and states -/

def Bindings (alike : Likeness) (binding other : Binding) : Prop :=
  ∃ index, binding.placeholder = alike.first.placeholder index ∧
    other.placeholder = alike.second.placeholder index ∧ alike.values binding.value other.value

structure Drafts (alike : Likeness) (draft other : Draft (List Binding)) : Prop where
  calls : draft.calls = other.calls
  buffer : List.Forall₂ alike.Bindings draft.buffer other.buffer

/-- States that differ in the literals of their filters, in the instance and in what has been
rendered before. -/
inductive States (alike : Likeness) (state : QueryState) : QueryState → Prop where
  | differ {filters : List Expr} {values : Instance} {statements : List Statement} :
      List.Forall₂ (Expr.Alike alike.values) state.filters filters →
      (∀ name, alike.values (state.values.valueOrNull name) (values.valueOrNull name)) →
      States alike state { state with filters, values, statements }

variable {alike : Likeness} {scope : Scope} {state other : QueryState}

/-! ## Elements -/

theorem quote (alike : Likeness) (name : String) :
    Action.Agrees alike.Drafts alike.texts (Rendering.quote alike.first.delegate name)
      (Rendering.quote alike.second.delegate name) :=
  fun _ _ drafts => ⟨.ok (alike.quoted name), drafts⟩

theorem bind {value otherValue : Value} (values : alike.values value otherValue) :
    Action.Agrees alike.Drafts alike.texts (Rendering.bind alike.first.delegate value)
      (Rendering.bind alike.second.delegate otherValue) := by
  rintro ⟨buffer, calls⟩ ⟨otherBuffer, _⟩ ⟨rfl, buffers⟩
  have sameLength := buffers.length_eq
  refine ⟨.ok ?_, rfl, ?_⟩
  · change alike.texts (alike.first.placeholder (buffer.length + 1))
      (alike.second.placeholder (otherBuffer.length + 1))
    rw [sameLength]
    exact alike.placeholder _
  · exact List.rel_append buffers
      (.cons ⟨buffer.length + 1, rfl, by rw [sameLength], values⟩ .nil)

theorem counting {Result : Type} (count : StateM Calls Result) :
    Action.Agrees alike.Drafts Eq (Rendering.counting count) (Rendering.counting count) := by
  rintro ⟨buffer, calls⟩ ⟨otherBuffer, _⟩ ⟨rfl, buffers⟩
  exact ⟨.ok rfl, rfl, buffers⟩

theorem renderField (alike : Likeness) (scope : Scope) (reference : FieldRef) :
    Action.Agrees alike.Drafts alike.texts
      (Expr.renderField alike.first.delegate scope reference)
      (Expr.renderField alike.second.delegate scope reference) := by
  unfold Expr.renderField
  split
  · exact .throw _
  · refine .bind (alike.quote _) fun quoted otherQuoted isQuoted => ?_
    split
    · exact .bindEq (.ofOutcome (.refl _)) fun table =>
        .bind (alike.quote _) fun _ _ isAlias =>
          .pure (alike.append (alike.append isAlias (alike.fixed _)) isQuoted)
    · exact .pure isQuoted

theorem render {expr otherExpr : Expr} (exprs : Expr.Alike alike.values expr otherExpr) :
    Action.Agrees alike.Drafts alike.texts (expr.render alike.first.delegate scope)
      (otherExpr.render alike.second.delegate scope) := by
  induction exprs with
  | field reference => exact alike.renderField scope reference
  | column name => exact alike.quote name
  | null => exact .pure (alike.fixed _)
  | literal notNull otherNotNull values =>
      unfold Expr.render
      simp only [notNull, otherNotNull, Bool.false_eq_true, if_false]
      exact bind values
  | binary _ right leftIH rightIH =>
      unfold Expr.render
      refine .bind leftIH fun leftText otherLeft isLeft => ?_
      rw [right.isNullLiteral_eq]
      split
      · exact .pure (alike.append (alike.append isLeft (alike.fixed _)) (alike.fixed _))
      · exact .bind rightIH fun _ _ isRight =>
          .pure (alike.append (alike.append (alike.append (alike.append isLeft (alike.fixed _))
            (alike.fixed _)) (alike.fixed _)) isRight)
  | not _ ih =>
      unfold Expr.render
      exact .bind ih fun _ _ isOperand => .pure (alike.append (alike.fixed _) isOperand)
  | deferred _ ih =>
      unfold Expr.render
      exact .bindEq (counting _) ih

/-! ## Joins -/

theorem tableReference (alike : Likeness) (table : Table) :
    Action.Agrees alike.Drafts alike.texts (JoinClause.tableReference alike.first.delegate table)
      (JoinClause.tableReference alike.second.delegate table) := by
  unfold JoinClause.tableReference
  refine .bind (alike.quote _) fun name otherName isName => ?_
  refine .bind (alike.quote _) fun aliasName otherAlias isAlias => .pure ?_
  apply_rules [alike.append, alike.fixed]

theorem on (alike : Likeness) (scope : Scope) (record : RecordType) (left right : FieldRef) :
    Action.Agrees alike.Drafts alike.texts
      (JoinClause.on alike.first.delegate scope record left right)
      (JoinClause.on alike.second.delegate scope record left right) := by
  unfold JoinClause.on
  refine .bindEq (.ofOutcome (.refl _)) fun table => ?_
  refine .bind (alike.tableReference _) fun reference otherReference isReference => ?_
  refine .bind (alike.renderField _ _) fun leftText otherLeft isLeft => ?_
  refine .bind (alike.renderField _ _) fun rightText otherRight isRight => .pure ?_
  apply_rules [alike.append, alike.fixed]

theorem fromRoot (alike : Likeness) (scope : Scope) (record : RecordType) :
    Action.Agrees alike.Drafts (List.Forall₂ alike.texts)
      (JoinClause.fromRoot alike.first.delegate scope record)
      (JoinClause.fromRoot alike.second.delegate scope record) := by
  unfold JoinClause.fromRoot
  refine .bindEq (.ofOutcome (.refl _)) fun join => ?_
  split
  · exact .bind (alike.on _ _ _ _) fun _ _ isClause => .pure (.cons isClause .nil)
  · exact .bind (alike.on _ _ _ _) fun _ _ isPivot =>
      .bind (alike.on _ _ _ _) fun _ _ isClause => .pure (.cons isPivot (.cons isClause .nil))

theorem joinedHead (alike : Likeness) (scope : Scope) (table : Table) :
    Action.Agrees alike.Drafts alike.texts
      (JoinClause.joinedHead alike.first.delegate scope table)
      (JoinClause.joinedHead alike.second.delegate scope table) := by
  unfold JoinClause.joinedHead
  refine .bindEq (.ofOutcome (.refl _)) fun join => ?_
  split
  · exact .throw _
  · refine .bind (alike.quote _) fun aliasName otherAlias isAlias => ?_
    refine .bind (alike.tableReference _) fun source otherSource isSource => ?_
    split
    · refine .bind (alike.on _ _ _ _) fun clause otherClause isClause => .pure ?_
      apply_rules [alike.append, alike.fixed]
    · refine .bind (alike.renderField _ _) fun key otherKey isKey => ?_
      refine .bind (alike.on _ _ _ _) fun pivotClause otherPivot isPivot => ?_
      refine .bind (alike.on _ _ _ _) fun rootClause otherRoot isRoot => ?_
      refine .bind (alike.quote _) fun keyName otherName isName => .pure ?_
      apply_rules [alike.append, alike.fixed]

/-- Which joins the filters force does not depend on their literals. -/
theorem forced_eq {Buffer : Type} (states : alike.States state other) (current : RecordType) :
    (JoinClause.forced state current : Rendering Buffer (List RecordType)) =
      JoinClause.forced other current := by
  obtain ⟨filters, -⟩ := states
  unfold JoinClause.forced QueryState.condition? QueryState.scope
  dsimp only
  generalize state.filters = first at filters
  cases filters with
  | nil => rfl
  | cons first rest =>
      rcases state.tables with _ | ⟨root, _ | ⟨second, others⟩⟩
      · rfl
      · rfl
      · simp only [Expr.fold?, (Expr.Alike.foldl rest first).referencedTypes_eq]

theorem forcedClauses (states : alike.States state other) (current : RecordType) :
    Action.Agrees alike.Drafts alike.texts
      (JoinClause.forcedClauses alike.first.delegate state current)
      (JoinClause.forcedClauses alike.second.delegate other current) := by
  have forced : Action.Agrees alike.Drafts Eq
      (JoinClause.forced state current : Rendering (List Binding) (List RecordType))
      (JoinClause.forced other current) := by
    rw [← forced_eq states]
    unfold JoinClause.forced
    split
    · exact .bindEq (counting _) fun _ => .ofOutcome (.refl _)
    · exact .pure rfl
  unfold JoinClause.forcedClauses
  obtain ⟨-, -⟩ := states
  refine .bindEq forced fun records => ?_
  refine .bind (.mapMSame fun record _ => alike.fromRoot _ record)
    fun groups otherGroups areGroups => .pure (alike.join ?_)
  rw [List.forall₂_map_left_iff, List.forall₂_map_right_iff]
  exact (List.rel_flatten areGroups).imp fun _ _ isClause => alike.append (alike.fixed _) isClause

/-! ## Clauses -/

theorem whereClause (states : alike.States state other) :
    Action.Agrees alike.Drafts alike.texts
      (Generation.whereClause alike.first.delegate state)
      (Generation.whereClause alike.second.delegate other) := by
  obtain ⟨filters, -⟩ := states
  unfold Generation.whereClause
  have single {filter otherFilter : Expr} (isFilter : Expr.Alike alike.values filter otherFilter) :
      Action.Agrees alike.Drafts alike.texts
        (filter.render alike.first.delegate state.scope)
        (otherFilter.render alike.second.delegate state.scope) := render isFilter
  dsimp only
  generalize state.filters = written at filters
  rcases filters with _ | ⟨first, _ | ⟨second, others⟩⟩
  · exact .pure (alike.fixed _)
  · exact .bind (single first) fun _ _ isText => .pure (alike.append (alike.fixed _) isText)
  · refine .bind (.mapM (fun filter otherFilter isFilter => ?_) (.cons first (.cons second others)))
      fun _ _ areParts => .pure (alike.append (alike.fixed _) (alike.intercalate _ areParts))
    exact .bind (single isFilter) fun _ _ isText =>
      .pure (alike.append (alike.append (alike.fixed _) isText) (alike.fixed _))

theorem orderClause (states : alike.States state other) (keys : List SortKey)
    (record : RecordType) :
    Action.Agrees alike.Drafts alike.texts
      (Generation.orderClause alike.first.delegate state keys record)
      (Generation.orderClause alike.second.delegate other keys record) := by
  obtain ⟨-, -⟩ := states
  unfold Generation.orderClause
  have term (key : SortKey) : Action.Agrees alike.Drafts alike.texts
      (do
        let text ← Expr.renderField alike.first.delegate state.scope key.field
        pure (if key.descending then text ++ " DESC" else text))
      (do
        let text ← Expr.renderField alike.second.delegate state.scope key.field
        pure (if key.descending then text ++ " DESC" else text)) := by
    refine .bind (alike.renderField _ _) fun text otherText isText => .pure ?_
    split
    · exact alike.append isText (alike.fixed _)
    · exact isText
  refine .bind (.mapMSame fun key _ => term key) fun terms otherTerms areTerms => ?_
  cases areTerms with
  | nil => exact .pure (alike.fixed _)
  | cons first others =>
      exact .pure (alike.append (alike.fixed _) (alike.intercalate _ (.cons first others)))

theorem limitClause_isEmpty (dialect : Dialect) (max skip : UInt64) :
    (dialect.limitClause max skip).isEmpty = (decide (max = 0) && decide (skip = 0)) := by
  unfold Dialect.limitClause
  by_cases noSkip : skip = 0 <;> by_cases noMax : max = 0 <;> cases dialect <;>
    simp [noSkip, noMax, toString]

theorem limitClause (alike : Likeness) (limit : Option Limit) :
    Action.Agrees alike.Drafts alike.texts
      (Generation.limitClause alike.first.delegate limit)
      (Generation.limitClause alike.second.delegate limit) := by
  unfold Generation.limitClause
  cases limit with
  | none => exact .pure (alike.fixed _)
  | some limit =>
      rintro draft otherDraft drafts
      refine ⟨.ok ?_, drafts⟩
      rw [limitClause_isEmpty, limitClause_isEmpty]
      split
      · exact alike.fixed _
      · exact alike.append (alike.fixed _) (alike.limit _ _)

end Likeness

end RecordMapper
