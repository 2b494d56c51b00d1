import RecordMapper.Proofs.Query.Sample
import RecordMapper.Proofs.Query.Writing
import RecordMapper.Proofs.Sql.Grouping

set_option autoImplicit false

/-!
Which filters keep their meaning when they are written without parentheses: exactly the layered
ones, in which no operand binds looser than SQL reads it. Every other filter is read as a different
one, or not at all.
-/

namespace RecordMapper

namespace Expr

def IsDirect : Expr → Prop
  | .field _ => True
  | .column _ => True
  | .literal _ => True
  | .binary _ left right => left.IsDirect ∧ right.IsDirect
  | .not operand => operand.IsDirect
  | .deferred _ _ => False

def fields : Expr → List FieldRef
  | .field reference => [reference]
  | .column _ => []
  | .literal _ => []
  | .binary _ left right => left.fields ++ right.fields
  | .not operand => operand.fields
  | .deferred _ _ => []

def valueCount : Expr → Nat
  | .field _ => 0
  | .column _ => 0
  | .literal value => if value.isNull then 0 else 1
  | .binary _ left right => left.valueCount + right.valueCount
  | .not operand => operand.valueCount
  | .deferred _ _ => 0

/-- A direct expression with its leaves as they are written, after a number of bound values. -/
def outline (dialect : Dialect) (scope : Scope) : Expr → Nat → Sql.Reading
  | .field reference, _ =>
      .leaf (((scope.columnName? reference).map (·.text dialect)).getD "")
  | .column name, _ => .leaf (dialect.quoteIdentifier name)
  | .literal value, bound =>
      .leaf (if value.isNull then "NULL" else dialect.placeholder (bound + 1))
  | .binary operator left right, bound =>
      .binary operator (left.outline dialect scope bound)
        (right.outline dialect scope (bound + left.valueCount))
  | .not operand, bound => .not (operand.outline dialect scope bound)
  | .deferred _ _, _ => .leaf ""

def level : Expr → Sql.Level
  | .field _ => .atom
  | .column _ => .atom
  | .literal _ => .atom
  | .binary operator _ _ => Sql.operatorLevel operator
  | .not _ => .negation
  | .deferred _ _ => .atom

/-- No operand of an AND is an OR, and none of a NOT an AND or an OR; the operands of comparisons
are comparisons that bind as tight on the left and tighter on the right, or leaves. -/
def IsLayered : Expr → Prop
  | .binary operator left right =>
      left.IsLayered ∧ right.IsLayered ∧ Sql.admits operator left.level right.level
  | .not operand => operand.IsLayered ∧ operand.level ∉ [.conjunction, .disjunction]
  | .field _ => True
  | .column _ => True
  | .literal _ => True
  | .deferred _ _ => True

variable {dialect : Dialect} {scope : Scope}

theorem outline_level {expr : Expr} (direct : expr.IsDirect) (bound : Nat) :
    (expr.outline dialect scope bound).level = expr.level := by
  cases expr with
  | field | column | literal | binary | not => rfl
  | deferred => exact direct.elim

theorem layered_binary (operator : Operator) (left right : Expr) :
    (binary operator left right).IsLayered ↔
      left.IsLayered ∧ right.IsLayered ∧ Sql.admits operator left.level right.level := Iff.rfl

theorem layered_not (operand : Expr) :
    operand.not.IsLayered ↔
      operand.IsLayered ∧ operand.level ∉ [.conjunction, .disjunction] := Iff.rfl

theorem outline_layered {expr : Expr} (direct : expr.IsDirect) (bound : Nat) :
    (expr.outline dialect scope bound).IsLayered ↔ expr.IsLayered := by
  induction expr generalizing bound with
  | field | column | literal => exact Iff.rfl
  | binary operator left right leftIH rightIH =>
      rw [outline, Sql.Reading.layered_binary, layered_binary, leftIH direct.1, rightIH direct.2,
        outline_level direct.1, outline_level direct.2]
  | not operand ih =>
      have operandDirect : operand.IsDirect := direct
      rw [outline, Sql.Reading.layered_not, layered_not, ih operandDirect,
        outline_level operandDirect]
  | deferred => exact direct.elim

/-! ## Rendering -/

theorem render_total (dialect : Dialect) {expr : Expr} (direct : expr.IsDirect)
    (reached : ∀ reference ∈ expr.fields, (scope.columnName? reference).isSome)
    (draft : Draft (List Binding)) :
    ∃ text after, (expr.render dialect.delegate scope).runOn draft = (.ok text, after) := by
  induction expr generalizing draft with
  | field reference =>
      obtain ⟨text, rendered⟩ := renderField_total (reached reference (by simp [fields])) draft
      exact ⟨text, draft, rendered⟩
  | column name => exact ⟨_, draft, rfl⟩
  | literal value =>
      unfold render
      split
      · exact ⟨_, draft, rfl⟩
      · exact ⟨_, _, rfl⟩
  | binary operator left right leftIH rightIH =>
      obtain ⟨leftReached, rightReached⟩ := List.forall_mem_append.mp reached
      obtain ⟨leftText, middle, leftRendered⟩ := leftIH direct.1 leftReached draft
      unfold render
      rw [Action.runOn_bind_of_ok leftRendered]
      split
      · exact ⟨_, middle, rfl⟩
      · obtain ⟨rightText, after, rightRendered⟩ := rightIH direct.2 rightReached middle
        rw [Action.runOn_bind_of_ok rightRendered]
        exact ⟨_, after, rfl⟩
  | not operand ih =>
      obtain ⟨text, after, rendered⟩ := ih direct reached draft
      unfold render
      rw [Action.runOn_bind_of_ok rendered]
      exact ⟨_, after, rfl⟩
  | deferred => exact direct.elim

theorem nullTest_reads {left : Expr} {phrase : Sql.Phrase} {outlined : Sql.Reading}
    (negated : Bool)
    (reads : left.IsLayered → ∃ reading, Sql.Reads dialect left.level (phrase.read dialect) reading ∧
      Sql.Regrouped reading outlined)
    (layered : (binary (Sql.nullTestOperator negated) left (.literal .null)).IsLayered) :
    ∃ reading, Sql.Reads dialect .comparison
        ((Sql.Phrase.nullTest negated phrase).read dialect) reading ∧
      Sql.Regrouped reading
        (.binary (Sql.nullTestOperator negated) outlined (.leaf "NULL")) := by
  obtain ⟨leftLayered, -, fits⟩ := layered
  obtain ⟨reading, isRead, regrouped⟩ := reads leftLayered
  have isTighter := ((Sql.admits_iff _ _ _).mp fits).1
  have isComparison : Sql.operatorLevel (Sql.nullTestOperator negated) = .comparison := by
    cases negated <;> rfl
  rw [isComparison] at isTighter
  have tested := Sql.Reads.nullTest negated (isRead.looser isTighter)
  refine ⟨_, ?_, .binary _ regrouped (.refl _)⟩
  cases negated <;> exact tested

/-- A layered expression is read as itself. -/
theorem Writes.reads {expr : Expr} {before after : Progress} {phrase : Sql.Phrase}
    (writes : Writes scope expr before phrase after) (direct : expr.IsDirect) :
    after.bound = before.bound + expr.valueCount ∧
      (expr.IsLayered → ∃ reading, Sql.Reads dialect expr.level (phrase.read dialect) reading ∧
        Sql.Regrouped reading (expr.outline dialect scope before.bound)) := by
  induction writes with
  | field found =>
      refine ⟨rfl, fun _ => ⟨_, .name _, ?_⟩⟩
      rw [outline, found]
      exact .refl _
  | column => exact ⟨rfl, fun _ => ⟨_, .name _, .refl _⟩⟩
  | null => exact ⟨rfl, fun _ => ⟨_, .null, .refl _⟩⟩
  | literal notNull =>
      refine ⟨by simp [valueCount, notNull], fun _ => ⟨_, .placeholder _, ?_⟩⟩
      rw [outline, notNull]
      exact .refl _
  | isNull _ ih => exact ⟨(ih direct.1).1, nullTest_reads false (ih direct.1).2⟩
  | isNotNull _ ih => exact ⟨(ih direct.1).1, nullTest_reads true (ih direct.1).2⟩
  | @binary operator left right first second before middle after _ _ _ leftIH rightIH =>
      obtain ⟨leftCount, leftReads⟩ := leftIH direct.1
      obtain ⟨rightCount, rightReads⟩ := rightIH direct.2
      refine ⟨by simp only [rightCount, leftCount, valueCount, Nat.add_assoc], fun layered => ?_⟩
      obtain ⟨leftLayered, rightLayered, fits⟩ := layered
      obtain ⟨leftReading, leftRead, leftRegrouped⟩ := leftReads leftLayered
      obtain ⟨rightReading, rightRead, rightRegrouped⟩ := rightReads rightLayered
      rw [leftCount] at rightRegrouped
      have regrouped := Sql.Regrouped.binary operator leftRegrouped rightRegrouped
      obtain ⟨leftFits, rightFits⟩ := (Sql.admits_iff _ _ _).mp fits
      have written : (Sql.Phrase.binary operator first second).read dialect =
          first.read dialect ++ Sql.operatorToken operator :: second.read dialect := by
        simp [Sql.Phrase.read]
      rw [written]
      -- A right operand that is a chain itself is read as more of the same chain.
      rcases rightFits with isTighter | ⟨isChain, sameLevel⟩
      · exact ⟨_, .binary rfl (leftRead.looser leftFits) (rightRead.looser isTighter), regrouped⟩
      · obtain ⟨reading, isRead, chained⟩ :=
          Sql.Reads.chain isChain (leftRead.looser leftFits) (sameLevel ▸ rightRead)
        exact ⟨reading, isRead, chained.trans regrouped⟩
  | not _ ih =>
      obtain ⟨counted, reads⟩ := ih direct
      refine ⟨counted, fun layered => ?_⟩
      obtain ⟨reading, isRead, regrouped⟩ := reads layered.1
      exact ⟨_, .not (isRead.looser ((Sql.notMem_iff _).mp layered.2)), .not regrouped⟩
  | deferred => exact direct.elim

/-- A direct expression whose fields are reached is rendered as a text with at most one reading,
and is read back from it, up to the grouping of chains, exactly if it is layered. -/
theorem render_reads_iff_layered {expr : Expr} (direct : expr.IsDirect)
    (reached : ∀ reference ∈ expr.fields, (scope.columnName? reference).isSome)
    (draft : Draft (List Binding)) :
    ∃ text after, (expr.render dialect.delegate scope).runOn draft = (.ok text, after) ∧
      (∀ first second, Sql.Reads dialect .disjunction (Sql.tokens dialect text) first →
        Sql.Reads dialect .disjunction (Sql.tokens dialect text) second → first = second) ∧
      ((∃ reading, Sql.Reads dialect .disjunction (Sql.tokens dialect text) reading ∧
          Sql.Regrouped reading (expr.outline dialect scope draft.buffer.length)) ↔
        expr.IsLayered) := by
  obtain ⟨text, after, rendered⟩ := render_total dialect direct reached draft
  obtain ⟨phrase, writes, rfl, -⟩ := render_ok rendered
  refine ⟨_, after, rendered, fun first second isFirst isSecond => isFirst.unique isSecond, ?_⟩
  rw [(phrase.spells dialect).tokens_eq]
  constructor
  · rintro ⟨reading, isRead, regrouped⟩
    exact (outline_layered direct _).mp (regrouped.layered_iff.mp isRead.layered.1)
  · intro layered
    obtain ⟨reading, isRead, regrouped⟩ := (writes.reads direct).2 layered
    exact ⟨reading, isRead.looser (Nat.zero_le _), regrouped⟩

end Expr

namespace Sample

/-- A condition that needs no parentheses, with a chain that is grouped to the right. -/
def layered : Expr :=
  .binary .and (.not (.binary .eq (.field ⟨book, "title"⟩) (.literal .null)))
    (.binary .and (.binary .gt (.column "id") (.literal (.bool true)))
      (.not (.not (.field ⟨book, "title"⟩))))

end Sample

namespace Expr

theorem render_reads_iff_layered_sample :
    Sample.layered.IsDirect ∧
      (∀ reference ∈ Sample.layered.fields,
        ((Scope.mk [⟨Sample.book, "t0", none⟩] false).columnName? reference).isSome) ∧
      Sample.layered.IsLayered ∧
      ∃ text after, (Sample.layered.render Dialect.sqlite.delegate
          ⟨[⟨Sample.book, "t0", none⟩], false⟩).runOn ⟨[], .zero⟩ = (.ok text, after) ∧
        ∃ reading, Sql.Reads .sqlite .disjunction (Sql.tokens .sqlite text) reading ∧
          Sql.Regrouped reading
            (Sample.layered.outline .sqlite ⟨[⟨Sample.book, "t0", none⟩], false⟩ 0) := by
  have direct : Sample.layered.IsDirect := by simp [Sample.layered, IsDirect]
  have reached : ∀ reference ∈ Sample.layered.fields,
      ((Scope.mk [⟨Sample.book, "t0", none⟩] false).columnName? reference).isSome := by
    decide
  have layered : Sample.layered.IsLayered := by
    simp [Sample.layered, IsLayered, level, Sql.admits, Sql.operatorLevel]
  obtain ⟨text, after, rendered, -, reads⟩ :=
    render_reads_iff_layered direct reached ⟨[], .zero⟩
  exact ⟨direct, reached, layered, text, after, rendered, reads.mpr layered⟩

end Expr

end RecordMapper
