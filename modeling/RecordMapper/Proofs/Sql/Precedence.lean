import RecordMapper.Proofs.Sql.Phrase

set_option autoImplicit false

/-!
How SQL reads a condition without parentheses. OR binds loosest, then AND, NOT, the comparisons for
equality and NULL, and the comparisons for order; chains associate to the left. What the grammar
reads is layered: no operand binds looser than its operator.
-/

namespace RecordMapper.Sql

/-! ## Grammar -/

/-- A condition as it is read. Leaves are texts. -/
inductive Reading where
  | leaf (text : String)
  | binary (operator : Operator) (left right : Reading)
  | not (operand : Reading)
deriving DecidableEq, Repr

/-- The levels of the grammar, from the loosest. -/
inductive Level where
  | disjunction
  | conjunction
  | negation
  | comparison
  | relation
  | atom
deriving DecidableEq, Repr

namespace Level

def rank : Level → Nat
  | .disjunction => 0
  | .conjunction => 1
  | .negation => 2
  | .comparison => 3
  | .relation => 4
  | .atom => 5

def tighter : Level → Level
  | .disjunction => .conjunction
  | .conjunction => .negation
  | .negation => .comparison
  | .comparison => .relation
  | .relation => .atom
  | .atom => .atom

end Level

def operatorLevel : Operator → Level
  | .or => .disjunction
  | .and => .conjunction
  | .eq | .ne => .comparison
  | .lt | .le | .gt | .ge => .relation

def nullTestRead (negated : Bool) : List Token :=
  .word "IS" :: if negated then [.word "NOT", .word "NULL"] else [.word "NULL"]

def nullTestOperator (negated : Bool) : Operator :=
  if negated then .ne else .eq

/-- The grammar of conditions: a chain of a level has operands of the next tighter one, and
associates to the left. A test for NULL is read as a comparison with NULL. -/
inductive Reads (dialect : Dialect) : Level → List Token → Reading → Prop where
  | name (name : ColumnName) : Reads dialect .atom name.read (.leaf (name.text dialect))
  | placeholder (index : Nat) :
      Reads dialect .atom [.word (dialect.placeholder index)] (.leaf (dialect.placeholder index))
  | null : Reads dialect .atom [.word "NULL"] (.leaf "NULL")
  | tighter {level : Level} {tokens : List Token} {reading : Reading} :
      level ≠ .atom → Reads dialect level.tighter tokens reading →
      Reads dialect level tokens reading
  | not {tokens : List Token} {operand : Reading} :
      Reads dialect .negation tokens operand →
      Reads dialect .negation (.word "NOT" :: tokens) (.not operand)
  | binary {level : Level} {operator : Operator} {first second : List Token}
      {left right : Reading} :
      operatorLevel operator = level → Reads dialect level first left →
      Reads dialect level.tighter second right →
      Reads dialect level (first ++ operatorToken operator :: second) (.binary operator left right)
  | nullTest {tokens : List Token} {operand : Reading} (negated : Bool) :
      Reads dialect .comparison tokens operand →
      Reads dialect .comparison (tokens ++ nullTestRead negated)
        (.binary (nullTestOperator negated) operand (.leaf "NULL"))

/-! ## Marks of a level -/

/-- The tokens that part the operands of a level. -/
def Level.marks : Level → Token → Bool
  | .disjunction, token => token = .word "OR"
  | .conjunction, token => token = .word "AND"
  | .comparison, token => token ∈ [.operator "=", .operator "<>", .word "IS"]
  | .relation, token => token ∈ [.operator "<", .operator "<=", .operator ">", .operator ">="]
  | .negation, _ => false
  | .atom, _ => false

theorem marks_operatorToken (level : Level) (operator : Operator) :
    level.marks (operatorToken operator) = true ↔ operatorLevel operator = level := by
  cases level <;> cases operator <;> decide

theorem operatorToken_injective : Function.Injective operatorToken := by
  intro first second
  cases first <;> cases second <;> decide

theorem rank_lt_tighter {level : Level} (notAtom : level ≠ .atom) :
    level.rank < level.tighter.rank := by
  cases level <;> first | decide | exact absurd rfl notAtom

theorem tighter_rank_le {level other : Level} (isLooser : other.rank ≤ level.rank)
    (different : other ≠ level) : other ≠ .atom ∧ other.tighter.rank ≤ level.rank := by
  cases other <;> cases level <;> revert isLooser different <;> decide

theorem operatorLevel_ne_atom (operator : Operator) : operatorLevel operator ≠ .atom := by
  cases operator <;> decide

theorem marks_name (level : Level) {name : ColumnName} {token : Token}
    (member : token ∈ name.read) : level.marks token = false := by
  rcases name with ⟨_ | qualifier, column⟩ <;>
    simp only [ColumnName.read, List.mem_cons, List.not_mem_nil, or_false] at member
  · subst member
    cases level <;> simp [Level.marks]
  · rcases member with rfl | rfl | rfl <;> cases level <;> simp [Level.marks]

theorem marks_placeholder (level : Level) (dialect : Dialect) (index : Nat) :
    level.marks (.word (dialect.placeholder index)) = false := by
  have notOr : dialect.placeholder index ≠ "OR" := placeholder_ne (by decide)
  have notAnd : dialect.placeholder index ≠ "AND" := placeholder_ne (by decide)
  have notIs : dialect.placeholder index ≠ "IS" := placeholder_ne (by decide)
  cases level <;> simp [Level.marks, notOr, notAnd, notIs]

theorem marks_nullTest {level : Level} (looser : level.rank < Level.comparison.rank)
    {negated : Bool} {token : Token} (member : token ∈ nullTestRead negated) :
    level.marks token = false := by
  cases negated <;>
    simp only [nullTestRead, List.mem_cons, List.not_mem_nil, or_false, if_true,
      Bool.false_eq_true, if_false] at member <;>
    rcases member with rfl | rfl | rfl <;> cases level <;> revert looser <;> decide

/-! ## Layers -/

/-- Whether an operator takes operands of two levels, when no parentheses can stand around them. -/
def admits : Operator → Level → Level → Prop
  | .or, _, _ => True
  | .and, left, right => left ≠ .disjunction ∧ right ≠ .disjunction
  | .eq, left, right | .ne, left, right =>
      left ∈ [.comparison, .relation, .atom] ∧ right ∈ [.relation, .atom]
  | .lt, left, right | .le, left, right | .gt, left, right | .ge, left, right =>
      left ∈ [.relation, .atom] ∧ right = .atom

namespace Reading

def level : Reading → Level
  | .leaf _ => .atom
  | .binary operator _ _ => operatorLevel operator
  | .not _ => .negation

def IsLayered : Reading → Prop
  | .leaf _ => True
  | .binary operator left right =>
      left.IsLayered ∧ right.IsLayered ∧ admits operator left.level right.level
  | .not operand => operand.IsLayered ∧ operand.level ∉ [.conjunction, .disjunction]

@[simp] theorem level_binary (operator : Operator) (left right : Reading) :
    (binary operator left right).level = operatorLevel operator := rfl

theorem layered_binary (operator : Operator) (left right : Reading) :
    (binary operator left right).IsLayered ↔
      left.IsLayered ∧ right.IsLayered ∧ admits operator left.level right.level := Iff.rfl

theorem layered_not (operand : Reading) :
    operand.not.IsLayered ↔
      operand.IsLayered ∧ operand.level ∉ [.conjunction, .disjunction] := Iff.rfl

end Reading

/-- A left operand binds at least as tight as its operator, and a right operand tighter unless the
operator makes chains that can be regrouped. -/
theorem admits_iff (operator : Operator) (left right : Level) :
    admits operator left right ↔ (operatorLevel operator).rank ≤ left.rank ∧
      ((operatorLevel operator).tighter.rank ≤ right.rank ∨
        (operator = .and ∨ operator = .or) ∧ right = operatorLevel operator) := by
  cases operator <;> cases left <;> cases right <;>
    simp [admits, operatorLevel, Level.rank, Level.tighter]

theorem notMem_iff (operand : Level) :
    operand ∉ [.conjunction, .disjunction] ↔ Level.negation.rank ≤ operand.rank := by
  cases operand <;> decide

/-- What the grammar reads is layered. -/
theorem Reads.layered {dialect : Dialect} {level : Level} {tokens : List Token}
    {reading : Reading} (reads : Reads dialect level tokens reading) :
    reading.IsLayered ∧ level.rank ≤ reading.level.rank := by
  induction reads with
  | name | placeholder | null => exact ⟨trivial, Nat.le_refl _⟩
  | tighter notAtom _ ih =>
      exact ⟨ih.1, Nat.le_trans (Nat.le_of_lt (rank_lt_tighter notAtom)) ih.2⟩
  | not _ ih => exact ⟨⟨ih.1, (notMem_iff _).mpr ih.2⟩, Nat.le_refl _⟩
  | @binary level operator first second left right isLevel _ _ leftIH rightIH =>
      subst isLevel
      exact ⟨⟨leftIH.1, rightIH.1, (admits_iff operator _ _).mpr ⟨leftIH.2, .inl rightIH.2⟩⟩,
        Nat.le_refl _⟩
  | @nullTest tokens operand negated _ ih =>
      have isComparison : operatorLevel (nullTestOperator negated) = .comparison := by
        cases negated <;> rfl
      refine ⟨⟨ih.1, trivial, (admits_iff _ _ _).mpr ?_⟩, ?_⟩
      · rw [isComparison]
        exact ⟨ih.2, .inl (by decide)⟩
      · simp [Reading.level_binary, isComparison]

/-! ## Regrouping -/

/-- The same reading up to how chains of AND and chains of OR are grouped. -/
inductive Regrouped : Reading → Reading → Prop where
  | refl (reading : Reading) : Regrouped reading reading
  | symm {first second : Reading} : Regrouped first second → Regrouped second first
  | trans {first second third : Reading} :
      Regrouped first second → Regrouped second third → Regrouped first third
  | assoc {operator : Operator} (isChain : operator = .and ∨ operator = .or)
      (first second third : Reading) :
      Regrouped (.binary operator (.binary operator first second) third)
        (.binary operator first (.binary operator second third))
  | binary (operator : Operator) {left right otherLeft otherRight : Reading} :
      Regrouped left otherLeft → Regrouped right otherRight →
      Regrouped (.binary operator left right) (.binary operator otherLeft otherRight)
  | not {operand other : Reading} : Regrouped operand other → Regrouped (.not operand) (.not other)

theorem Regrouped.level_eq {first second : Reading} (regrouped : Regrouped first second) :
    first.level = second.level := by
  induction regrouped with
  | refl | assoc | binary | not => rfl
  | symm _ ih => exact ih.symm
  | trans _ _ firstIH secondIH => exact firstIH.trans secondIH

theorem Regrouped.layered_iff {first second : Reading} (regrouped : Regrouped first second) :
    first.IsLayered ↔ second.IsLayered := by
  induction regrouped with
  | refl => rfl
  | symm _ ih => exact ih.symm
  | trans _ _ firstIH secondIH => exact firstIH.trans secondIH
  | assoc isChain first second third =>
      simp only [Reading.layered_binary, Reading.level_binary]
      rcases isChain with rfl | rfl <;> simp only [admits, operatorLevel] <;> grind
  | binary operator left right leftIH rightIH =>
      simp only [Reading.layered_binary, leftIH, rightIH, left.level_eq, right.level_eq]
  | not operand ih => simp only [Reading.layered_not, ih, operand.level_eq]

/-! ## Building readings -/

namespace Reads

variable {dialect : Dialect} {level : Level} {tokens first second : List Token}
  {reading left right : Reading}

theorem looser (reads : Reads dialect level tokens reading) {other : Level}
    (isLooser : other.rank ≤ level.rank) : Reads dialect other tokens reading := by
  by_cases same : other = level
  · exact same ▸ reads
  · obtain ⟨notAtom, closer⟩ := tighter_rank_le isLooser same
    have decreases := rank_lt_tighter notAtom
    exact .tighter notAtom (reads.looser closer)
termination_by level.rank - other.rank

/-- A chain of ANDs or of ORs goes on with the chain of its right operand. -/
theorem chain {operator : Operator} (isChain : operator = .and ∨ operator = .or)
    (leftReads : Reads dialect (operatorLevel operator) first left)
    (rightReads : Reads dialect (operatorLevel operator) second right) :
    ∃ reading, Reads dialect (operatorLevel operator)
        (first ++ operatorToken operator :: second) reading ∧
      Regrouped reading (.binary operator left right) := by
  generalize same : operatorLevel operator = level at rightReads
  induction rightReads with
  | name | placeholder | null => exact absurd same (operatorLevel_ne_atom operator)
  | tighter _ inside _ =>
      subst same
      exact ⟨_, .binary rfl leftReads inside, .refl _⟩
  | not => rcases isChain with rfl | rfl <;> cases same
  | nullTest => rcases isChain with rfl | rfl <;> cases same
  | @binary level other earlier later inner outer isLevel _ outerReads ih _ =>
      obtain rfl : other = operator := by
        rcases isChain with rfl | rfl <;> subst same <;> cases other <;> first | rfl | cases isLevel
      obtain ⟨reading, reads, regrouped⟩ := ih same
      subst same
      refine ⟨.binary other reading outer, ?_, ?_⟩
      · simpa using Reads.binary rfl reads outerReads
      · exact (Regrouped.binary other regrouped (.refl outer)).trans
          (.assoc isChain left inner outer)

end Reads

end RecordMapper.Sql
