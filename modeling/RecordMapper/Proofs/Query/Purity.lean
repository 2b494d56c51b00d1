import RecordMapper.Proofs.Query.Mention
import RecordMapper.Proofs.Sql.Renumbering

set_option autoImplicit false

/-!
Expressions whose producers give the same expression at every call. What such an expression is
written as depends on how many values are bound before it and never on the calls made before, so
every statement of a query writes its filters alike and a second rendering repeats the first.
-/

namespace RecordMapper

inductive Expr.Pure : Expr → Prop where
  | field (reference : FieldRef) : Pure (.field reference)
  | column (name : String) : Pure (.column name)
  | literal (value : Value) : Pure (.literal value)
  | binary {operator : Operator} {left right : Expr} :
      Pure left → Pure right → Pure (.binary operator left right)
  | not {operand : Expr} : Pure operand → Pure (.not operand)
  | deferred {producer : ProducerId} {produce : Nat → Expr} :
      (∀ call, Pure (produce call)) → (∀ first second, produce first = produce second) →
      Pure (.deferred producer produce)

namespace Expr

theorem Pure.foldl {operator : Operator} {filters : List Expr} {first : Expr}
    (firstPure : first.Pure) (pure : ∀ filter ∈ filters, filter.Pure) :
    (filters.foldl (.binary operator) first).Pure := by
  induction filters generalizing first with
  | nil => exact firstPure
  | cons filter filters ih =>
      obtain ⟨filterPure, others⟩ := List.forall_mem_cons.mp pure
      exact ih (.binary firstPure filterPure) others

theorem Pure.fold? {operator : Operator} {filters : List Expr} {condition : Expr}
    (folded : Expr.fold? operator filters = some condition)
    (pure : ∀ filter ∈ filters, filter.Pure) : condition.Pure := by
  cases filters with
  | nil => cases folded
  | cons first rest =>
      cases folded
      obtain ⟨firstPure, others⟩ := List.forall_mem_cons.mp pure
      exact Pure.foldl firstPure others

theorem Pure.steady {expr : Expr} (pure : expr.Pure) : expr.Steady := by
  induction pure with
  | field reference => exact .field reference
  | column name => exact .column name
  | literal value => exact .literal value
  | binary _ _ leftIH rightIH => exact .binary leftIH rightIH
  | not _ ih => exact .not ih
  | deferred _ constant ih =>
      refine .deferred ih ?_
      intro first second record mentions
      rwa [constant second first]

/-! ## Phrases -/

theorem nullTest_contra {operator : Operator} {test : String}
    (tests : operator.nullTest? = some test)
    (plain : operator.nullTest? = none ∨ isNullLiteral (.literal .null) = false) : False := by
  rcases plain with untested | other
  · rw [tests] at untested
    cases untested
  · cases other

/-- A pure expression that is written after more bound values is written as the shifted phrase,
whatever calls were made before. -/
theorem Pure.writes_shift {scope : Scope} {expr : Expr} (pure : expr.Pure) {offset : Nat}
    {before after before' after' : Progress} {phrase phrase' : Sql.Phrase}
    (writes : Writes scope expr before phrase after)
    (writes' : Writes scope expr before' phrase' after')
    (more : before'.bound = before.bound + offset) :
    phrase' = phrase.shift offset ∧ after'.bound = after.bound + offset := by
  induction pure generalizing before after before' after' phrase phrase' with
  | field reference =>
      cases writes with
      | field found =>
          cases writes' with
          | field found' =>
              rw [found] at found'
              cases found'
              exact ⟨rfl, more⟩
  | column name =>
      cases writes
      cases writes'
      exact ⟨rfl, more⟩
  | literal value =>
      cases writes with
      | null =>
          cases writes' with
          | null => exact ⟨rfl, more⟩
          | literal notNull => cases notNull
      | literal notNull =>
          cases writes' with
          | null => cases notNull
          | literal notNull' =>
              rw [more, Nat.add_right_comm]
              exact ⟨rfl, rfl⟩
  | binary leftPure rightPure leftIH rightIH =>
      cases writes with
      | isNull left =>
          cases writes' with
          | isNull left' =>
              obtain ⟨rfl, moreAfter⟩ := leftIH left left' more
              exact ⟨rfl, moreAfter⟩
          | binary plain => exact (nullTest_contra rfl plain).elim
      | isNotNull left =>
          cases writes' with
          | isNotNull left' =>
              obtain ⟨rfl, moreAfter⟩ := leftIH left left' more
              exact ⟨rfl, moreAfter⟩
          | binary plain => exact (nullTest_contra rfl plain).elim
      | binary plain left right =>
          cases writes' with
          | isNull => exact (nullTest_contra rfl plain).elim
          | isNotNull => exact (nullTest_contra rfl plain).elim
          | binary _ left' right' =>
              obtain ⟨rfl, moreMiddle⟩ := leftIH left left' more
              obtain ⟨rfl, moreAfter⟩ := rightIH right right' moreMiddle
              exact ⟨rfl, moreAfter⟩
  | not operandPure ih =>
      cases writes with
      | not operand =>
          cases writes' with
          | not operand' =>
              obtain ⟨rfl, moreAfter⟩ := ih operand operand' more
              exact ⟨rfl, moreAfter⟩
  | @deferred producer produce producedPure constant ih =>
      cases writes with
      | deferred produced =>
          cases writes' with
          | deferred produced' =>
              rw [constant _ (before.calls.count producer)] at produced'
              exact ih _ produced produced' more

/-- Two writings of a pure expression that begin at the same number of parameters agree, whatever
calls were made before either. -/
theorem Pure.writes_eq {scope : Scope} {expr : Expr} (pure : expr.Pure)
    {before after before' after' : Progress} {phrase phrase' : Sql.Phrase}
    (writes : Writes scope expr before phrase after)
    (writes' : Writes scope expr before' phrase' after') (same : before.bound = before'.bound) :
    phrase = phrase' ∧ after.bound = after'.bound := by
  have none : before'.bound = before.bound + 0 := same.symm
  obtain ⟨rfl, sameAfter⟩ := pure.writes_shift writes writes' none
  exact ⟨phrase.shift_zero.symm, sameAfter.symm⟩

end Expr

theorem Scope.WritesAll.eq_of_pure {scope : Scope} {filters : List Expr}
    (pure : ∀ filter ∈ filters, filter.Pure) {before after before' after' : Progress}
    {phrases phrases' : List Sql.Phrase} (writes : scope.WritesAll filters before phrases after)
    (writes' : scope.WritesAll filters before' phrases' after')
    (same : before.bound = before'.bound) : phrases = phrases' := by
  induction writes generalizing before' phrases' with
  | nil =>
      cases writes'
      rfl
  | cons first _ ih =>
      obtain ⟨firstPure, othersPure⟩ := List.forall_mem_cons.mp pure
      cases writes' with
      | cons first' others' =>
          obtain ⟨rfl, sameMiddle⟩ := firstPure.writes_eq first first' same
          rw [ih othersPure others' sameMiddle]

/-! ## Renderings -/

/-- A rendering whose outcome and buffer do not depend on the calls made before. -/
def Rendering.Insensitive {Buffer Result : Type} (rendering : Rendering Buffer Result) : Prop :=
  ∀ buffer first second,
    (rendering.runOn ⟨buffer, first⟩).1 = (rendering.runOn ⟨buffer, second⟩).1 ∧
      (rendering.runOn ⟨buffer, first⟩).2.buffer = (rendering.runOn ⟨buffer, second⟩).2.buffer

namespace Rendering.Insensitive

variable {Buffer Value Result Item : Type}

theorem rerun {rendering : Rendering Buffer Result} (insensitive : Insensitive rendering)
    {before after : Draft Buffer} {result : Result}
    (ran : rendering.runOn before = (.ok result, after)) (calls : Calls) :
    ∃ calls', rendering.runOn ⟨before.buffer, calls⟩ = (.ok result, ⟨after.buffer, calls'⟩) := by
  obtain ⟨sameOutcome, sameBuffer⟩ := insensitive before.buffer before.calls calls
  rw [show rendering.runOn ⟨before.buffer, before.calls⟩ = _ from ran] at sameOutcome sameBuffer
  rcases outcome : rendering.runOn ⟨before.buffer, calls⟩ with ⟨again, buffer, last⟩
  rw [outcome] at sameOutcome sameBuffer
  obtain rfl : Except.ok result = again := sameOutcome
  obtain rfl : after.buffer = buffer := sameBuffer
  exact ⟨last, rfl⟩

theorem ofOutcome (outcome : Except Error Result) :
    Insensitive (Action.ofOutcome outcome : Rendering Buffer Result) :=
  fun _ _ _ => ⟨rfl, rfl⟩

theorem pure (value : Result) : Insensitive (Pure.pure value : Rendering Buffer Result) :=
  fun _ _ _ => ⟨rfl, rfl⟩

theorem throw (error : Error) :
    Insensitive (MonadExcept.throw error : Rendering Buffer Result) :=
  fun _ _ _ => ⟨rfl, rfl⟩

theorem quote (delegate : Delegate Buffer) (name : String) :
    Insensitive (Rendering.quote delegate name) :=
  fun _ _ _ => ⟨rfl, rfl⟩

theorem bindValue (delegate : Delegate Buffer) (value : RecordMapper.Value) :
    Insensitive (Rendering.bind delegate value) :=
  fun _ _ _ => ⟨rfl, rfl⟩

theorem limitClause (delegate : Delegate Buffer) (max skip : UInt64) :
    Insensitive (Rendering.limitClause delegate max skip) :=
  fun _ _ _ => ⟨rfl, rfl⟩

theorem counting {count : StateM Calls Result}
    (same : ∀ first second, (count.run first).1 = (count.run second).1) :
    Insensitive (Rendering.counting count : Rendering Buffer Result) :=
  fun _ first second => ⟨congrArg Except.ok (same first second), rfl⟩

theorem bind {rendering : Rendering Buffer Value} {next : Value → Rendering Buffer Result}
    (first : Insensitive rendering) (second : ∀ value, Insensitive (next value)) :
    Insensitive (rendering >>= next) := by
  intro buffer calls calls'
  obtain ⟨sameOutcome, sameBuffer⟩ := first buffer calls calls'
  rw [Action.runOn_bind, Action.runOn_bind]
  rcases ran : rendering.runOn ⟨buffer, calls⟩ with ⟨outcome, middle, after⟩
  rcases ran' : rendering.runOn ⟨buffer, calls'⟩ with ⟨outcome', middle', after'⟩
  rw [ran, ran'] at sameOutcome sameBuffer
  obtain rfl : outcome = outcome' := sameOutcome
  obtain rfl : middle = middle' := sameBuffer
  cases outcome with
  | error error => exact ⟨rfl, rfl⟩
  | ok value => exact second value middle after after'

theorem mapM {step : Item → Rendering Buffer Result} {items : List Item}
    (each : ∀ item ∈ items, Insensitive (step item)) : Insensitive (items.mapM step) := by
  induction items with
  | nil =>
      rw [List.mapM_nil]
      exact .pure _
  | cons item items ih =>
      obtain ⟨first, others⟩ := List.forall_mem_cons.mp each
      rw [List.mapM_cons]
      exact .bind first fun _ => .bind (ih others) fun _ => .pure _

end Rendering.Insensitive

namespace Expr

variable {Buffer : Type} {delegate : Delegate Buffer} {scope : Scope}

/-- The search for record types finds the same ones whatever calls were made before. -/
theorem Pure.referencedTypes_eq {expr : Expr} (pure : expr.Pure) (first second : Calls) :
    (expr.referencedTypes.run first).1 = (expr.referencedTypes.run second).1 := by
  induction pure generalizing first second with
  | field | column | literal => rfl
  | binary _ _ leftIH rightIH =>
      exact congrArg₂ (· ++ ·) (leftIH first second) (rightIH _ _)
  | not _ ih => exact ih first second
  | @deferred producer produce _ constant ih =>
      have produced (calls : Calls) :
          ((Expr.deferred producer produce).referencedTypes.run calls).1 =
            ((produce 0).referencedTypes.run (calls.add producer)).1 := by
        rw [constant 0 (calls.count producer)]
        rfl
      rw [produced, produced]
      exact ih 0 _ _

theorem insensitive_renderField (reference : FieldRef) :
    Rendering.Insensitive (renderField delegate scope reference) := by
  unfold renderField
  split
  · exact .throw _
  · refine .bind (.quote _ _) fun quoted => ?_
    split
    · exact .bind (.ofOutcome _) fun _ => .bind (.quote _ _) fun _ => .pure _
    · exact .pure _

theorem Pure.insensitive_render {expr : Expr} (pure : expr.Pure) :
    Rendering.Insensitive (expr.render delegate scope) := by
  induction pure with
  | field reference => exact insensitive_renderField reference
  | column name => exact .quote _ _
  | literal value =>
      unfold render
      split
      · exact .pure _
      · exact .bindValue _ _
  | binary _ _ leftIH rightIH =>
      unfold render
      refine .bind leftIH fun _ => ?_
      split
      · exact .pure _
      · exact .bind rightIH fun _ => .pure _
  | not _ ih =>
      unfold render
      exact .bind ih fun _ => .pure _
  | @deferred producer produce _ constant ih =>
      -- The call that is counted has no effect on what is produced.
      intro buffer first second
      have produced (calls : Calls) :
          ((Expr.deferred producer produce).render delegate scope).runOn ⟨buffer, calls⟩ =
            ((produce 0).render delegate scope).runOn ⟨buffer, calls.add producer⟩ := by
        rw [constant 0 (calls.count producer)]
        rfl
      rw [produced, produced]
      exact ih 0 buffer _ _

end Expr

end RecordMapper
