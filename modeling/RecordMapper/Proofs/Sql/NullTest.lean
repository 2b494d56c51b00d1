import RecordMapper.Proofs.Sql.Condition

set_option autoImplicit false

/-!
Comparisons with NULL and tests for NULL. The first are never true, so a condition that compares
with NULL does not say what the test says; the two are told apart by the word IS.
-/

namespace RecordMapper.Sql

namespace Phrase

/-- The phrase with tests for NULL in place of `=` and `<>` with NULL. -/
def tested : Phrase → Phrase
  | .column name => .column name
  | .null => .null
  | .parameter index value => .parameter index value
  | .nullTest negated operand => .nullTest negated operand.tested
  | .binary operator left right =>
      match operator, right with
      | .eq, .null => .nullTest false left.tested
      | .ne, .null => .nullTest true left.tested
      | _, _ => .binary operator left.tested right.tested
  | .not operand => .not operand.tested

theorem tested_binary {operator : Operator} {left right : Phrase}
    (plain : operator.nullTest? = none ∨ right ≠ .null) :
    tested (.binary operator left right) = .binary operator left.tested right.tested := by
  rw [tested]
  · rintro rfl rfl
    rcases plain with untested | other
    · cases untested
    · exact other rfl
  · rintro rfl rfl
    rcases plain with untested | other
    · cases untested
    · exact other rfl

/-- How often a phrase tests for NULL. -/
def tests : Phrase → Nat
  | .column _ => 0
  | .null => 0
  | .parameter _ _ => 0
  | .nullTest _ operand => operand.tests + 1
  | .binary _ left right => left.tests + right.tests
  | .not operand => operand.tests

theorem count_column (name : ColumnName) : name.read.count (.word "IS") = 0 := by
  rcases name with ⟨_ | qualifier, column⟩ <;> simp [ColumnName.read]

theorem count_read (dialect : Dialect) (phrase : Phrase) :
    (phrase.read dialect).count (.word "IS") = phrase.tests := by
  induction phrase with
  | column name => exact count_column name
  | null => rfl
  | parameter index value =>
      have other : dialect.placeholder index ≠ "IS" := placeholder_ne (by decide)
      simp [read, tests, other]
  | nullTest negated operand ih => cases negated <;> simp [read, tests, ih]
  | binary operator left right leftIH rightIH =>
      have sign : operatorToken operator ≠ .word "IS" := by cases operator <;> decide
      simp [read, tests, leftIH, rightIH, sign]
  | not operand ih => simp [read, tests, ih]

theorem tests_tested_le (phrase : Phrase) : phrase.tests ≤ phrase.tested.tests := by
  induction phrase with
  | column | null | parameter => exact Nat.le_refl _
  | nullTest negated operand ih => exact Nat.succ_le_succ ih
  | not operand ih => exact ih
  | binary operator left right leftIH rightIH =>
      unfold tested
      split
      · exact Nat.le_succ_of_le leftIH
      · exact Nat.le_succ_of_le leftIH
      · exact Nat.add_le_add leftIH rightIH

/-- A phrase that has no comparison with NULL left is told by the number of its tests. -/
theorem tested_eq_of_tests {phrase : Phrase} (same : phrase.tests = phrase.tested.tests) :
    phrase.tested = phrase := by
  induction phrase with
  | column | null | parameter => rfl
  | nullTest negated operand ih => rw [tested, ih (Nat.succ.inj same)]
  | not operand ih => rw [tested, ih same]
  | binary operator left right leftIH rightIH =>
      have leftLe := left.tests_tested_le
      have rightLe := right.tests_tested_le
      unfold tested at same ⊢
      split at same
      · simp only [tests] at same
        omega
      · simp only [tests] at same
        omega
      · simp only [tests] at same
        rw [leftIH (by omega), rightIH (by omega)]

theorem tested_eq_iff_text {dialect : Dialect} {phrase : Phrase} :
    phrase.text dialect = phrase.tested.text dialect ↔ phrase.tested = phrase := by
  constructor
  · intro same
    have sameTokens := congrArg (tokens dialect) same
    rw [(phrase.spells dialect).tokens_eq, (phrase.tested.spells dialect).tokens_eq] at sameTokens
    apply tested_eq_of_tests
    rw [← count_read dialect, ← count_read dialect, sameTokens]
  · intro same
    rw [same]

/-! ## Truth -/

/-- A comparison with NULL is unknown in every row. -/
theorem value_compare_null {compare : Comparison} (usual : compare.Usual)
    (environment : Environment) (left : Phrase) {operator : Operator}
    (tests : operator.nullTest?.isSome = true) :
    (Phrase.binary operator left .null).value compare environment = .null := by
  have unknown := (usual.null (left.value compare environment)).2
  cases operator with
  | eq | ne => simp [value, Comparison.apply, unknown, ofTruth]
  | and | or | lt | le | gt | ge => cases tests

end Phrase

end RecordMapper.Sql
