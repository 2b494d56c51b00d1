import RecordMapper.Proofs.Agreement
import RecordMapper.Proofs.Query.Purity
import RecordMapper.Proofs.Query.Sample
import RecordMapper.Proofs.Sql.NullTest

set_option autoImplicit false

/-!
Pure expressions with every deferred part replaced by what it produces. The two bind the same
values, fail with the same errors and name the same record types. Their texts differ where `=` or
`<>` has a deferred NULL on its right: that is written as a comparison with NULL, which a literal
NULL turns into a test.
-/

namespace RecordMapper

def Draft.SameBuffer {Buffer : Type} (draft other : Draft Buffer) : Prop :=
  draft.buffer = other.buffer

theorem Rendering.Insensitive.agrees {Buffer Result : Type} {rendering : Rendering Buffer Result}
    (insensitive : Insensitive rendering) {matched : Result → Result → Prop}
    (each : ∀ before result after, rendering.runOn before = (.ok result, after) →
      matched result result) :
    Action.Agrees Draft.SameBuffer matched rendering rendering := by
  rintro ⟨buffer, calls⟩ ⟨_, otherCalls⟩ rfl
  obtain ⟨sameOutcome, sameBuffer⟩ := insensitive buffer calls otherCalls
  refine ⟨?_, sameBuffer⟩
  rw [← sameOutcome]
  rcases ran : rendering.runOn ⟨buffer, calls⟩ with ⟨error | result, after⟩
  · exact .error error
  · exact .ok (each _ _ _ ran)

namespace Expr

def resolve : Expr → Expr
  | .field reference => .field reference
  | .column name => .column name
  | .literal value => .literal value
  | .binary operator left right => .binary operator left.resolve right.resolve
  | .not operand => .not operand.resolve
  | .deferred _ produce => (produce 0).resolve

/-- No `=` and no `<>` has a NULL on its right that is deferred. -/
def NullShown : Expr → Prop
  | .field _ => True
  | .column _ => True
  | .literal _ => True
  | .binary operator left right =>
      (operator.nullTest? = none ∨ right.isNullLiteral = right.resolve.isNullLiteral) ∧
        left.NullShown ∧ right.NullShown
  | .not operand => operand.NullShown
  | .deferred _ produce => (produce 0).NullShown

/-- A phrase that the expression is written as. With its comparisons with NULL made tests, it is
what the resolved expression is written as. -/
structure Resolves (expr : Expr) (phrase : Sql.Phrase) : Prop where
  null : phrase = .null ↔ expr.resolve.isNullLiteral = true
  shown : phrase.tested = phrase ↔ expr.NullShown

def ResolvedTexts (dialect : Dialect) (expr : Expr) (text other : String) : Prop :=
  ∃ phrase, Resolves expr phrase ∧ text = phrase.text dialect ∧ other = phrase.tested.text dialect

theorem isNullLiteral_resolve {expr : Expr} (isNull : expr.isNullLiteral = true) :
    expr.resolve.isNullLiteral = true := by
  obtain rfl := eq_of_isNullLiteral isNull
  rfl

theorem nullTest?_cases {operator : Operator} {test : String}
    (tests : operator.nullTest? = some test) :
    operator = .eq ∧ test = "IS NULL" ∨ operator = .ne ∧ test = "IS NOT NULL" := by
  cases operator with
  | eq =>
      cases tests
      exact .inl ⟨rfl, rfl⟩
  | ne =>
      cases tests
      exact .inr ⟨rfl, rfl⟩
  | and | or | lt | le | gt | ge => cases tests

namespace ResolvedTexts

variable {dialect : Dialect} {operator : Operator} {left right operand : Expr}
  {text other leftText otherLeft rightText otherRight : String}

/-- A leaf is its own resolution. -/
theorem leaf {expr : Expr} {phrase : Sql.Phrase} (written : text = phrase.text dialect)
    (same : phrase.tested = phrase) (null : phrase = .null ↔ expr.resolve.isNullLiteral = true)
    (shown : expr.NullShown) : ResolvedTexts dialect expr text text :=
  ⟨phrase, ⟨null, iff_of_true same shown⟩, written, by rw [same, written]⟩

theorem not (texts : ResolvedTexts dialect operand text other) :
    ResolvedTexts dialect (.not operand) ("NOT " ++ text) ("NOT " ++ other) := by
  obtain ⟨phrase, resolves, rfl, rfl⟩ := texts
  refine ⟨.not phrase, ⟨?_, ?_⟩, rfl, rfl⟩
  · exact iff_of_false nofun nofun
  · rw [Sql.Phrase.tested, Sql.Phrase.not.injEq]
    exact resolves.shown

theorem nullTest {test : String} (tests : operator.nullTest? = some test)
    (texts : ResolvedTexts dialect left text other) :
    ResolvedTexts dialect (.binary operator left (.literal .null)) (text ++ " " ++ test)
      (other ++ " " ++ test) := by
  obtain ⟨phrase, resolves, rfl, rfl⟩ := texts
  have written (negated : Bool) (operator : Operator) :
      Resolves (.binary operator left (.literal .null)) (.nullTest negated phrase) := by
    refine ⟨iff_of_false nofun nofun, ?_⟩
    rw [Sql.Phrase.tested, Sql.Phrase.nullTest.injEq, resolves.shown]
    simp [NullShown, resolve]
  rcases nullTest?_cases tests with ⟨rfl, rfl⟩ | ⟨rfl, rfl⟩
  · exact ⟨_, written false _, rfl, rfl⟩
  · exact ⟨_, written true _, rfl, rfl⟩

/-- Written as a comparison, resolved to a test. -/
theorem deferredNull {test : String} (tests : operator.nullTest? = some test)
    (hidden : right.isNullLiteral = false) (isNull : right.resolve.isNullLiteral = true)
    (leftTexts : ResolvedTexts dialect left leftText otherLeft)
    (rightTexts : ResolvedTexts dialect right rightText otherRight) :
    ResolvedTexts dialect (.binary operator left right)
      (leftText ++ " " ++ operator.text ++ " " ++ rightText) (otherLeft ++ " " ++ test) := by
  obtain ⟨phrase, -, rfl, rfl⟩ := leftTexts
  obtain ⟨second, resolves, rfl, -⟩ := rightTexts
  obtain rfl := resolves.null.mpr isNull
  have notShown : ¬ NullShown (.binary operator left right) := by
    rintro ⟨untested | same, -⟩
    · rw [tests] at untested
      cases untested
    · rw [hidden, isNull] at same
      cases same
  rcases nullTest?_cases tests with ⟨rfl, rfl⟩ | ⟨rfl, rfl⟩
  · exact ⟨.binary .eq phrase .null, ⟨iff_of_false nofun nofun, iff_of_false nofun notShown⟩,
      rfl, rfl⟩
  · exact ⟨.binary .ne phrase .null, ⟨iff_of_false nofun nofun, iff_of_false nofun notShown⟩,
      rfl, rfl⟩

theorem binary (plain : operator.nullTest? = none ∨ right.resolve.isNullLiteral = false)
    (leftTexts : ResolvedTexts dialect left leftText otherLeft)
    (rightTexts : ResolvedTexts dialect right rightText otherRight) :
    ResolvedTexts dialect (.binary operator left right)
      (leftText ++ " " ++ operator.text ++ " " ++ rightText)
      (otherLeft ++ " " ++ operator.text ++ " " ++ otherRight) := by
  obtain ⟨first, leftResolves, rfl, rfl⟩ := leftTexts
  obtain ⟨second, rightResolves, rfl, rfl⟩ := rightTexts
  have notNull : operator.nullTest? = none ∨ second ≠ .null := by
    refine plain.imp_right fun unresolved isNull => ?_
    rw [rightResolves.null.mp isNull] at unresolved
    cases unresolved
  have shown : operator.nullTest? = none ∨ right.isNullLiteral = right.resolve.isNullLiteral := by
    refine plain.imp_right fun unresolved => ?_
    rw [unresolved, Bool.eq_false_iff]
    intro isNull
    rw [isNullLiteral_resolve isNull] at unresolved
    cases unresolved
  have same : (Sql.Phrase.binary operator first second).tested =
      .binary operator first.tested second.tested := Sql.Phrase.tested_binary notNull
  refine ⟨.binary operator first second, ⟨iff_of_false nofun nofun, ?_⟩, rfl, by rw [same]; rfl⟩
  rw [same, Sql.Phrase.binary.injEq, leftResolves.shown, rightResolves.shown]
  simp [NullShown, shown]

theorem deferred {producer : ProducerId} {produce : Nat → Expr}
    (texts : ResolvedTexts dialect (produce 0) text other) :
    ResolvedTexts dialect (.deferred producer produce) text other := by
  obtain ⟨phrase, ⟨null, shown⟩, written, resolved⟩ := texts
  exact ⟨phrase, ⟨null, shown⟩, written, resolved⟩

/-- The texts are the same where every NULL is shown, and differ where one is hidden. -/
theorem eq_iff {expr : Expr} (texts : ResolvedTexts dialect expr text other) :
    text = other ↔ expr.NullShown := by
  obtain ⟨phrase, resolves, rfl, rfl⟩ := texts
  rw [Sql.Phrase.tested_eq_iff_text, resolves.shown]

end ResolvedTexts

variable {dialect : Dialect} {scope : Scope} {expr : Expr}

/-- Rendering the two sides binds the same values, and ends in the same error or in texts of which
one is the resolution of the other. -/
def ResolveAgrees (dialect : Dialect) (scope : Scope) (expr : Expr) : Prop :=
  Action.Agrees Draft.SameBuffer (ResolvedTexts dialect expr)
    (expr.render dialect.delegate scope) (expr.resolve.render dialect.delegate scope)

theorem ResolveAgrees.literal (value : Value) : ResolveAgrees dialect scope (.literal value) := by
  unfold ResolveAgrees resolve
  cases null : value.isNull with
  | true =>
      obtain rfl : value = .null := by cases value <;> first | rfl | cases null
      have asPhrase : "NULL" = Sql.Phrase.null.text dialect := rfl
      exact .pure (.leaf asPhrase rfl (iff_of_true rfl rfl) trivial)
  | false =>
      have written : render dialect.delegate scope (.literal value) =
          Rendering.bind dialect.delegate value := by
        unfold render
        simp [null]
      rw [written]
      refine Rendering.Insensitive.agrees (.bindValue _ _) fun before text after ran => ?_
      obtain ⟨bound, -⟩ := Rendering.bind_ok ran
      have asPhrase : text =
          (Sql.Phrase.parameter (before.buffer.length + 1) value).text dialect := bound
      refine .leaf asPhrase rfl (iff_of_false ?_ ?_) trivial
      · intro isNull
        cases isNull
      · intro isNull
        obtain rfl : value = .null := Expr.literal.inj (eq_of_isNullLiteral isNull)
        cases null

theorem ResolveAgrees.binary {operator : Operator} {left right : Expr}
    (leftAgrees : ResolveAgrees dialect scope left)
    (rightAgrees : ResolveAgrees dialect scope right) :
    ResolveAgrees dialect scope (.binary operator left right) := by
  unfold ResolveAgrees resolve render
  refine .bind leftAgrees fun leftText otherLeft leftTexts => ?_
  cases tests : operator.nullTest? with
  | none =>
      exact .bind rightAgrees fun rightText otherRight rightTexts =>
        .pure (.binary (.inl tests) leftTexts rightTexts)
  | some test =>
      cases isNull : right.resolve.isNullLiteral with
      | false =>
          have hidden : right.isNullLiteral = false := by
            rw [Bool.eq_false_iff]
            intro literal
            rw [isNullLiteral_resolve literal] at isNull
            cases isNull
          rw [hidden]
          exact .bind rightAgrees fun rightText otherRight rightTexts =>
            .pure (.binary (.inr isNull) leftTexts rightTexts)
      | true =>
          cases hidden : right.isNullLiteral with
          | true =>
              obtain rfl := eq_of_isNullLiteral hidden
              exact .pure (.nullTest tests leftTexts)
          | false =>
              -- One side renders its right operand and the other only tests for NULL.
              have resolved : render dialect.delegate scope right.resolve = pure "NULL" := by
                rw [eq_of_isNullLiteral isNull]
                rfl
              unfold ResolveAgrees at rightAgrees
              rw [resolved] at rightAgrees
              exact .bind rightAgrees fun rightText otherRight rightTexts =>
                .pure (.deferredNull tests hidden isNull leftTexts rightTexts)

theorem Pure.resolve_agrees (pure : expr.Pure) : ResolveAgrees dialect scope expr := by
  induction pure with
  | field reference =>
      refine (insensitive_renderField reference).agrees fun before text after ran => ?_
      obtain ⟨-, name, -, written⟩ := renderField_ok ran
      have asPhrase : text = (Sql.Phrase.column name).text dialect := written
      exact .leaf asPhrase rfl (iff_of_false nofun nofun) trivial
  | column name =>
      refine Rendering.Insensitive.agrees (.quote _ _) fun before text after ran => ?_
      obtain ⟨-, written⟩ := Rendering.quote_ok ran
      have asPhrase : text = (Sql.Phrase.column ⟨none, name⟩).text dialect := written
      exact .leaf asPhrase rfl (iff_of_false nofun nofun) trivial
  | literal value => exact .literal value
  | binary _ _ leftIH rightIH => exact .binary leftIH rightIH
  | not _ ih =>
      unfold ResolveAgrees resolve render
      exact .bind ih fun text other texts => .pure texts.not
  | @deferred producer produce _ constant ih =>
      rintro ⟨buffer, calls⟩ other same
      have produced : ((Expr.deferred producer produce).render dialect.delegate scope).runOn
            ⟨buffer, calls⟩ =
          ((produce 0).render dialect.delegate scope).runOn ⟨buffer, calls.add producer⟩ := by
        rw [constant 0 (calls.count producer)]
        rfl
      rw [produced]
      obtain ⟨agreed, sameBuffer⟩ := ih 0 ⟨buffer, calls.add producer⟩ other same
      exact ⟨agreed.mono fun _ _ => .deferred, sameBuffer⟩

theorem Pure.referencedTypes_resolve (pure : expr.Pure) (calls otherCalls : Calls) :
    (expr.referencedTypes.run calls).1 = (expr.resolve.referencedTypes.run otherCalls).1 := by
  induction pure generalizing calls otherCalls with
  | field | column | literal => rfl
  | binary _ _ leftIH rightIH =>
      exact congrArg₂ (· ++ ·) (leftIH calls otherCalls) (rightIH _ _)
  | not _ ih => exact ih calls otherCalls
  | @deferred producer produce _ constant ih =>
      have produced : ((Expr.deferred producer produce).referencedTypes.run calls).1 =
          ((produce 0).referencedTypes.run (calls.add producer)).1 := by
        rw [constant 0 (calls.count producer)]
        rfl
      rw [produced]
      exact ih 0 _ _

/-- Deferring changes neither the values that are bound nor an error nor the record types that are
named. The text of the resolved expression has tests where the other compares with NULL, so it is
the same exactly if no comparison hides a NULL. -/
theorem render_resolve (pure : expr.Pure) (dialect : Dialect) (scope : Scope)
    (buffer : List Binding) (calls otherCalls : Calls) :
    let deferred := (expr.render dialect.delegate scope).runOn ⟨buffer, calls⟩
    let resolved := (expr.resolve.render dialect.delegate scope).runOn ⟨buffer, otherCalls⟩
    Agreed (fun text other => (text = other ↔ expr.NullShown) ∧
        ∃ phrase, text = Sql.Phrase.text dialect phrase ∧ other = phrase.tested.text dialect)
      deferred.1 resolved.1 ∧
      deferred.2.buffer = resolved.2.buffer ∧
      (expr.referencedTypes.run calls).1 = (expr.resolve.referencedTypes.run otherCalls).1 := by
  have agrees : Action.Agrees Draft.SameBuffer (ResolvedTexts dialect expr)
      (expr.render dialect.delegate scope) (expr.resolve.render dialect.delegate scope) :=
    pure.resolve_agrees
  obtain ⟨agreed, sameBuffer⟩ := agrees ⟨buffer, calls⟩ ⟨buffer, otherCalls⟩ rfl
  refine ⟨agreed.mono fun text other texts => ⟨texts.eq_iff, ?_⟩, sameBuffer,
    pure.referencedTypes_resolve calls otherCalls⟩
  obtain ⟨phrase, -, written, resolved⟩ := texts
  exact ⟨phrase, written, resolved⟩

theorem render_resolve_sample :
    let scope : Scope := ⟨[⟨Sample.book, "t0", none⟩], true⟩
    let deferred := (Sample.untitled.render Dialect.postgres.delegate scope).runOn ⟨[], .zero⟩
    let resolved :=
      (Sample.untitled.resolve.render Dialect.postgres.delegate scope).runOn ⟨[], .zero⟩
    Sample.untitled.Pure ∧
      Agreed (fun text other => (text = other ↔ Sample.untitled.NullShown) ∧
          ∃ phrase, text = Sql.Phrase.text .postgres phrase ∧ other = phrase.tested.text .postgres)
        deferred.1 resolved.1 ∧
      deferred.2.buffer = resolved.2.buffer ∧
      (Sample.untitled.referencedTypes.run .zero).1 =
        (Sample.untitled.resolve.referencedTypes.run .zero).1 := by
  have pure : Sample.untitled.Pure :=
    .binary (.field _) (.deferred (fun _ => .literal .null) fun _ _ => rfl)
  exact ⟨pure, render_resolve pure .postgres _ _ _ _⟩

/-- A deferred NULL in a comparison: no row meets the condition, where rows without a title
should. -/
theorem render_hidden_null :
    let scope : Scope := ⟨[⟨Sample.book, "t0", none⟩], true⟩
    let deferred := Sample.untitled.render Dialect.sqlite.delegate scope
    let resolved := Sample.untitled.resolve.render Dialect.sqlite.delegate scope
    (deferred.runOn ⟨[], .zero⟩).1 = .ok "\"t0\".\"title\" = NULL" ∧
      (resolved.runOn ⟨[], .zero⟩).1 = .ok "\"t0\".\"title\" IS NULL" ∧
      (∀ environment, Sql.holds .plain [] environment
        (Sql.tokens .sqlite "\"t0\".\"title\" = NULL") = false) ∧
      Sql.holds .plain [] [("t0", ⟨["title"], [.null]⟩)]
        (Sql.tokens .sqlite "\"t0\".\"title\" IS NULL") = true := by
  refine ⟨rfl, rfl, fun environment => ?_, rfl⟩
  have read : Sql.grouping? [] 1 [] none (Sql.tokens .sqlite "\"t0\".\"title\" = NULL") =
      some (.binary .eq (.column ⟨some "t0", "title"⟩) .null) := rfl
  have unknown := Sql.Phrase.value_compare_null Sql.Comparison.plain_usual environment
    (.column ⟨some "t0", "title"⟩) (rfl : Operator.eq.nullTest?.isSome = true)
  unfold Sql.holds
  rw [read]
  dsimp only
  rw [unknown]
  rfl

end Expr

end RecordMapper
