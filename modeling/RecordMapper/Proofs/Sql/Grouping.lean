import Mathlib.Data.List.Forall2
import RecordMapper.Proofs.Sql.Precedence

set_option autoImplicit false

/-!
How SQL reads a condition with parentheses. A condition between parentheses is a leaf, and only what
stands outside of all parentheses parts the operands of a level. So tokens have at most one reading,
and a condition in parentheses keeps its own whatever it is joined with.
-/

namespace RecordMapper.Sql

/-! ## Parentheses -/

/-- How many parentheses are closed but not opened from a token on, when so many are after it. -/
def Token.unopened (token : Token) (behind : Nat) : Option Nat :=
  match token with
  | .mark ')' => some (behind + 1)
  | .mark '(' => if behind = 0 then none else some (behind - 1)
  | _ => some behind

def Token.isParenthesis : Token → Bool
  | .mark ')' => true
  | .mark '(' => true
  | _ => false

def unopened : List Token → Nat → Option Nat
  | [], behind => some behind
  | token :: rest, behind => (unopened rest behind).bind token.unopened

def Balanced (tokens : List Token) : Prop :=
  unopened tokens 0 = some 0

theorem Token.unopened_of_other {token : Token} (other : token.isParenthesis = false)
    (behind : Nat) : token.unopened behind = some behind := by
  unfold Token.isParenthesis at other
  unfold Token.unopened
  split at other
  · cases other
  · cases other
  · rfl

theorem Token.unopened_succ {token : Token} {behind inside : Nat}
    (counted : token.unopened behind = some inside) :
    token.unopened (behind + 1) = some (inside + 1) := by
  cases other : token.isParenthesis with
  | false =>
      rw [unopened_of_other other, Option.some.injEq] at counted
      rw [unopened_of_other other, counted]
  | true =>
      unfold Token.isParenthesis at other
      split at other
      · cases counted
        rfl
      · cases behind with
        | zero => cases counted
        | succ behind =>
            cases counted
            rfl
      · cases other

theorem unopened_append (first second : List Token) (behind : Nat) :
    unopened (first ++ second) behind = (unopened second behind).bind (unopened first) := by
  induction first with
  | nil => exact (Option.bind_fun_some _).symm
  | cons token first ih =>
      rw [List.cons_append, unopened, ih, Option.bind_assoc]
      rfl

theorem unopened_succ {tokens : List Token} {behind inside : Nat}
    (counted : unopened tokens behind = some inside) :
    unopened tokens (behind + 1) = some (inside + 1) := by
  induction tokens generalizing inside with
  | nil =>
      cases counted
      rfl
  | cons token rest ih =>
      rw [unopened, Option.bind_eq_some_iff] at counted
      obtain ⟨inner, counted, stepped⟩ := counted
      rw [unopened, ih counted, Option.bind_some, Token.unopened_succ stepped]

namespace Balanced

variable {tokens first second : List Token}

theorem nil : Balanced [] := rfl

theorem cons {token : Token} (other : token.isParenthesis = false) (balanced : Balanced tokens) :
    Balanced (token :: tokens) := by
  unfold Balanced
  rw [unopened, show unopened tokens 0 = some 0 from balanced, Option.bind_some,
    Token.unopened_of_other other]

theorem append (balanced : Balanced first) (others : Balanced second) :
    Balanced (first ++ second) := by
  unfold Balanced
  rw [unopened_append, show unopened second 0 = some 0 from others]
  exact balanced

theorem plain (plain : ∀ token ∈ tokens, token.isParenthesis = false) : Balanced tokens := by
  induction tokens with
  | nil => exact .nil
  | cons token tokens ih =>
      obtain ⟨first, others⟩ := List.forall_mem_cons.mp plain
      exact .cons first (ih others)

theorem group (balanced : Balanced tokens) : Balanced (.mark '(' :: tokens ++ [.mark ')']) := by
  have closing : unopened [.mark ')'] 0 = some 1 := rfl
  have inside : unopened tokens 1 = some 1 := unopened_succ balanced
  unfold Balanced
  rw [unopened_append, closing, Option.bind_some, unopened, inside]
  rfl

end Balanced

/-- Balanced tokens with no mark outside of all parentheses. -/
structure Whole (isMark : Token → Bool) (tokens : List Token) : Prop where
  balanced : Balanced tokens
  unparted : ∀ before mark after, tokens = before ++ mark :: after → isMark mark = true →
    ¬Balanced after

namespace Whole

variable {isMark : Token → Bool} {tokens first second : List Token}

theorem plain (plain : ∀ token ∈ tokens, token.isParenthesis = false ∧ isMark token = false) :
    Whole isMark tokens where
  balanced := .plain fun token member => (plain token member).1
  unparted := by
    rintro before mark after rfl marked -
    have unmarked := (plain mark (by simp)).2
    rw [marked] at unmarked
    cases unmarked

theorem append (whole : Whole isMark first) (others : Whole isMark second) :
    Whole isMark (first ++ second) where
  balanced := whole.balanced.append others.balanced
  unparted := by
    intro before mark after split marked balanced
    rcases List.append_eq_append_iff.mp split with ⟨between, -, sameSecond⟩ |
        ⟨between, sameFirst, sameAfter⟩
    · exact others.unparted between mark after sameSecond marked balanced
    · cases between with
      | nil =>
          exact others.unparted [] mark after (by simpa using sameAfter.symm) marked balanced
      | cons token between =>
          obtain ⟨rfl, sameRest⟩ : mark = token ∧ after = between ++ second :=
            List.cons.inj sameAfter
          -- Balanced tokens further behind change nothing about the mark.
          have inner : Balanced between := by
            unfold Balanced at balanced
            rw [sameRest, unopened_append,
              show unopened second 0 = some 0 from others.balanced] at balanced
            exact balanced
          exact whole.unparted before mark between sameFirst marked inner

theorem group (unmarked : ∀ char, isMark (.mark char) = false) (balanced : Balanced tokens) :
    Whole isMark (.mark '(' :: tokens ++ [.mark ')']) where
  balanced := balanced.group
  unparted := by
    intro before mark after split marked outside
    have notMark (char : Char) : mark ≠ .mark char := by
      rintro rfl
      rw [unmarked] at marked
      cases marked
    cases before with
    | nil => exact notMark '(' (List.cons.inj split).1.symm
    | cons token before =>
        have inside : tokens ++ [.mark ')'] = before ++ mark :: after := (List.cons.inj split).2
        rcases List.append_eq_append_iff.mp inside with ⟨between, -, sameLast⟩ |
            ⟨between, sameTokens, sameAfter⟩
        · cases between with
          | nil => exact notMark ')' (List.cons.inj sameLast).1.symm
          | cons other between => simp at sameLast
        · cases between with
          | nil => exact notMark ')' (List.cons.inj sameAfter).1
          | cons other between =>
              rw [List.cons_append] at sameAfter
              obtain ⟨rfl, rfl⟩ := List.cons.inj sameAfter
              -- The parenthesis that closes the group is still open before the mark.
              have counted : unopened (before ++ mark :: between) 0 = some 0 :=
                sameTokens ▸ balanced
              rw [unopened_append, Option.bind_eq_some_iff] at counted
              obtain ⟨_, counted, -⟩ := counted
              rw [unopened, Option.bind_eq_some_iff] at counted
              obtain ⟨depth, counted, -⟩ := counted
              have closing : unopened [.mark ')'] 0 = some 1 := rfl
              unfold Balanced at outside
              rw [unopened_append, closing, Option.bind_some, unopened_succ counted] at outside
              cases outside

end Whole

/-! ## Grammar -/

/-- The grammar of conditions in which a disjunction between parentheses is a leaf. -/
inductive Parses (dialect : Dialect) : Level → List Token → Reading → Prop where
  | name (name : ColumnName) : Parses dialect .atom name.read (.leaf (name.text dialect))
  | placeholder (index : Nat) :
      Parses dialect .atom [.word (dialect.placeholder index)] (.leaf (dialect.placeholder index))
  | null : Parses dialect .atom [.word "NULL"] (.leaf "NULL")
  | group {tokens : List Token} {reading : Reading} :
      Parses dialect .disjunction tokens reading →
      Parses dialect .atom (.mark '(' :: tokens ++ [.mark ')']) reading
  | tighter {level : Level} {tokens : List Token} {reading : Reading} :
      level ≠ .atom → Parses dialect level.tighter tokens reading →
      Parses dialect level tokens reading
  | not {tokens : List Token} {operand : Reading} :
      Parses dialect .negation tokens operand →
      Parses dialect .negation (.word "NOT" :: tokens) (.not operand)
  | binary {level : Level} {operator : Operator} {first second : List Token}
      {left right : Reading} :
      operatorLevel operator = level → Parses dialect level first left →
      Parses dialect level.tighter second right →
      Parses dialect level (first ++ operatorToken operator :: second) (.binary operator left right)
  | nullTest {tokens : List Token} {operand : Reading} (negated : Bool) :
      Parses dialect .comparison tokens operand →
      Parses dialect .comparison (tokens ++ nullTestRead negated)
        (.binary (nullTestOperator negated) operand (.leaf "NULL"))

theorem Reads.parses {dialect : Dialect} {level : Level} {tokens : List Token} {reading : Reading}
    (reads : Reads dialect level tokens reading) : Parses dialect level tokens reading := by
  induction reads with
  | name name => exact .name name
  | placeholder index => exact .placeholder index
  | null => exact .null
  | tighter notAtom _ ih => exact .tighter notAtom ih
  | not _ ih => exact .not ih
  | binary isLevel _ _ leftIH rightIH => exact .binary isLevel leftIH rightIH
  | nullTest negated _ ih => exact .nullTest negated ih

theorem marks_mark (level : Level) (char : Char) : level.marks (.mark char) = false := by
  cases level <;> simp [Level.marks]

theorem isParenthesis_name {name : ColumnName} {token : Token} (member : token ∈ name.read) :
    token.isParenthesis = false := by
  rcases name with ⟨_ | qualifier, column⟩ <;>
    simp only [ColumnName.read, List.mem_cons, List.not_mem_nil, or_false] at member
  · subst member
    rfl
  · rcases member with rfl | rfl | rfl <;> rfl

theorem isParenthesis_operatorToken (operator : Operator) :
    (operatorToken operator).isParenthesis = false := by
  cases operator <;> rfl

theorem isParenthesis_nullTest (negated : Bool) :
    ∀ token ∈ nullTestRead negated, token.isParenthesis = false := by
  cases negated <;> decide

theorem nullTest_tail (negated : Bool) :
    ∃ rest, nullTestRead negated = .word "IS" :: rest ∧ Whole Level.comparison.marks rest := by
  cases negated
  · exact ⟨_, rfl, .plain (by decide)⟩
  · exact ⟨_, rfl, .plain (by decide)⟩

theorem nullTestRead_injective : Function.Injective nullTestRead := by
  intro first second
  cases first <;> cases second <;> decide

theorem operatorToken_ne_is (operator : Operator) : operatorToken operator ≠ .word "IS" := by
  cases operator <;> decide

namespace Parses

variable {dialect : Dialect} {level : Level} {tokens : List Token} {reading : Reading}

theorem balanced (parses : Parses dialect level tokens reading) : Balanced tokens := by
  induction parses with
  | name name => exact .plain fun token => isParenthesis_name
  | placeholder index => exact .cons rfl .nil
  | null => exact .cons rfl .nil
  | group _ ih => exact ih.group
  | tighter _ _ ih => exact ih
  | not _ ih => exact .cons rfl ih
  | binary _ _ _ leftIH rightIH =>
      exact leftIH.append (.cons (isParenthesis_operatorToken _) rightIH)
  | nullTest negated _ ih => exact ih.append (.plain (isParenthesis_nullTest negated))

/-- Nothing that parses at a level is parted by the marks of a looser one. -/
theorem whole (parses : Parses dialect level tokens reading) {looser : Level}
    (isLooser : looser.rank < level.rank) : Whole looser.marks tokens := by
  induction parses with
  | name name =>
      exact .plain fun token member => ⟨isParenthesis_name member, marks_name looser member⟩
  | placeholder index =>
      exact .plain (by simpa using ⟨rfl, marks_placeholder looser dialect index⟩)
  | null => exact .plain (by cases looser <;> decide)
  | group inside _ => exact .group (marks_mark looser) inside.balanced
  | tighter notAtom _ ih => exact ih (Nat.lt_trans isLooser (rank_lt_tighter notAtom))
  | not _ ih =>
      have leads : Whole looser.marks [.word "NOT"] := .plain (by cases looser <;> decide)
      exact leads.append (ih isLooser)
  | @binary level operator first second left right isLevel _ _ leftIH rightIH =>
      have notAtom : level ≠ .atom := isLevel ▸ operatorLevel_ne_atom operator
      have unmarked : looser.marks (operatorToken operator) = false := by
        rw [Bool.eq_false_iff, ne_eq, marks_operatorToken, isLevel]
        rintro rfl
        exact Nat.lt_irrefl _ isLooser
      have joined : Whole looser.marks [operatorToken operator] :=
        .plain (by simpa using ⟨isParenthesis_operatorToken operator, unmarked⟩)
      exact (leftIH isLooser).append
        (joined.append (rightIH (Nat.lt_trans isLooser (rank_lt_tighter notAtom))))
  | nullTest negated _ ih =>
      exact (ih isLooser).append (.plain fun token member =>
        ⟨isParenthesis_nullTest negated token member, marks_nullTest isLooser member⟩)

theorem head_ne_not (parses : Parses dialect level tokens reading)
    (isTighter : Level.negation.rank < level.rank) :
    ∃ token rest, tokens = token :: rest ∧ token ≠ .word "NOT" := by
  induction parses with
  | name name =>
      rcases name with ⟨_ | qualifier, column⟩
      · exact ⟨_, _, rfl, by simp⟩
      · exact ⟨_, _, rfl, by simp⟩
  | placeholder index =>
      have notNot : dialect.placeholder index ≠ "NOT" := placeholder_ne (by decide)
      exact ⟨_, _, rfl, by simpa using notNot⟩
  | null => exact ⟨_, _, rfl, by decide⟩
  | group => exact ⟨_, _, rfl, by decide⟩
  | tighter notAtom _ ih => exact ih (Nat.lt_trans isTighter (rank_lt_tighter notAtom))
  | not => exact absurd isTighter (Nat.lt_irrefl _)
  | binary _ _ _ leftIH _ =>
      obtain ⟨token, rest, rfl, other⟩ := leftIH isTighter
      exact ⟨token, _, rfl, other⟩
  | nullTest negated _ ih =>
      obtain ⟨token, rest, rfl, other⟩ := ih isTighter
      exact ⟨token, _, rfl, other⟩

end Parses

/-! ## One reading -/

/-- There is one last mark outside of all parentheses. -/
theorem Whole.split_last {isMark : Token → Bool} {first second others rest : List Token}
    {item other : Token} (whole : Whole isMark second) (otherWhole : Whole isMark rest)
    (marked : isMark item = true) (otherMarked : isMark other = true)
    (same : first ++ item :: second = others ++ other :: rest) :
    first = others ∧ item = other ∧ second = rest := by
  rcases List.append_eq_append_iff.mp same with ⟨between, sameFirst, sameSecond⟩ |
      ⟨between, sameFirst, sameSecond⟩
  · cases between with
    | nil =>
        obtain ⟨rfl, rfl⟩ := List.cons.inj sameSecond
        exact ⟨by simpa using sameFirst.symm, rfl, rfl⟩
    | cons head between =>
        obtain ⟨rfl, rfl⟩ := List.cons.inj sameSecond
        exact absurd otherWhole.balanced (whole.unparted between other rest rfl otherMarked)
  · cases between with
    | nil =>
        obtain ⟨rfl, rfl⟩ := List.cons.inj sameSecond
        exact ⟨by simpa using sameFirst, rfl, rfl⟩
    | cons head between =>
        obtain ⟨rfl, rfl⟩ := List.cons.inj sameSecond
        exact absurd whole.balanced (otherWhole.unparted between item second rfl marked)

namespace Parses

variable {dialect : Dialect} {level : Level} {tokens first second : List Token}
  {reading : Reading} {operator : Operator}

theorem of_binary
    (parses : Parses dialect level (first ++ operatorToken operator :: second) reading)
    (isLevel : operatorLevel operator = level) (whole : Whole level.marks second) :
    ∃ left right, Parses dialect level first left ∧ Parses dialect level.tighter second right ∧
      reading = .binary operator left right := by
  have marked : level.marks (operatorToken operator) = true :=
    (marks_operatorToken level operator).mpr isLevel
  generalize written : first ++ operatorToken operator :: second = tokens at parses
  cases parses with
  | name | placeholder | null | group => exact absurd isLevel (operatorLevel_ne_atom operator)
  | tighter notAtom inside =>
      exact absurd whole.balanced
        ((inside.whole (rank_lt_tighter notAtom)).unparted first _ second written.symm marked)
  | not => cases marked
  | binary otherLevel left right =>
      have notAtom : level ≠ .atom := isLevel ▸ operatorLevel_ne_atom operator
      -- Both operators are the last mark of the level, so they are the same one.
      obtain ⟨rfl, same, rfl⟩ := whole.split_last (right.whole (rank_lt_tighter notAtom)) marked
        ((marks_operatorToken level _).mpr otherLevel) written
      obtain rfl := operatorToken_injective same
      exact ⟨_, _, left, right, rfl⟩
  | nullTest negated operand =>
      obtain ⟨rest, isRest, restWhole⟩ := nullTest_tail negated
      rw [isRest] at written
      obtain ⟨-, same, -⟩ := whole.split_last restWhole marked (by decide) written
      exact absurd same (operatorToken_ne_is operator)

theorem of_nullTest {negated : Bool}
    (parses : Parses dialect .comparison (tokens ++ nullTestRead negated) reading) :
    ∃ operand, Parses dialect .comparison tokens operand ∧
      reading = .binary (nullTestOperator negated) operand (.leaf "NULL") := by
  obtain ⟨rest, isRest, whole⟩ := nullTest_tail negated
  generalize written : tokens ++ nullTestRead negated = all at parses
  cases parses with
  | tighter notAtom inside =>
      rw [isRest] at written
      exact absurd whole.balanced ((inside.whole (rank_lt_tighter notAtom)).unparted tokens
        (.word "IS") rest written.symm (by decide))
  | binary isLevel left right =>
      rw [isRest] at written
      obtain ⟨-, same, -⟩ := whole.split_last (right.whole (by decide)) (by decide)
        ((marks_operatorToken .comparison _).mpr isLevel) written
      exact absurd same.symm (operatorToken_ne_is _)
  | nullTest other operand =>
      obtain ⟨otherRest, isOther, otherWhole⟩ := nullTest_tail other
      have parted := written
      rw [isRest, isOther] at parted
      obtain ⟨rfl, -, -⟩ := whole.split_last otherWhole (by decide) (by decide) parted
      obtain rfl := nullTestRead_injective (List.append_cancel_left written)
      exact ⟨_, operand, rfl⟩

theorem of_not (parses : Parses dialect .negation (.word "NOT" :: tokens) reading) :
    ∃ operand, Parses dialect .negation tokens operand ∧ reading = .not operand := by
  -- Nothing tighter begins with NOT, and a chain of AND or OR is no negation.
  generalize written : Token.word "NOT" :: tokens = all at parses
  cases parses with
  | tighter _ inside =>
      obtain ⟨token, rest, rfl, other⟩ := inside.head_ne_not (by decide)
      exact absurd (List.cons.inj written).1.symm other
  | not operand =>
      obtain ⟨-, rfl⟩ := List.cons.inj written
      exact ⟨_, operand, rfl⟩
  | binary isLevel => exact absurd isLevel (by cases ‹Operator› <;> decide)

theorem of_tighter {other : Reading} (inside : Parses dialect level.tighter tokens other)
    (notAtom : level ≠ .atom) (parses : Parses dialect level tokens reading) :
    Parses dialect level.tighter tokens reading := by
  have whole := inside.whole (rank_lt_tighter notAtom)
  cases parses with
  | name | placeholder | null | group => exact absurd rfl notAtom
  | tighter _ parses => exact parses
  | not =>
      obtain ⟨token, rest, same, notNot⟩ := inside.head_ne_not (by decide)
      exact absurd (List.cons.inj same).1.symm notNot
  | binary isLevel _ right =>
      have marked := (marks_operatorToken level _).mpr isLevel
      exact absurd right.balanced (whole.unparted _ _ _ rfl marked)
  | nullTest negated =>
      obtain ⟨rest, isRest, restWhole⟩ := nullTest_tail negated
      rw [isRest] at whole
      exact absurd restWhole.balanced (whole.unparted _ _ _ rfl (by decide))

theorem of_name {name : ColumnName} (parses : Parses dialect .atom name.read reading) :
    reading = .leaf (name.text dialect) := by
  generalize written : name.read = all at parses
  cases parses with
  | name other =>
      rcases name with ⟨_ | qualifier, column⟩ <;> rcases other with ⟨_ | otherQualifier, other⟩ <;>
        cases written <;> rfl
  | placeholder | null | group => rcases name with ⟨_ | qualifier, column⟩ <;> cases written
  | tighter notAtom => exact absurd rfl notAtom
  | binary isLevel => exact absurd isLevel (operatorLevel_ne_atom _)

theorem of_word {text : String} (parses : Parses dialect .atom [.word text] reading) :
    reading = .leaf text := by
  generalize written : [Token.word text] = all at parses
  cases parses with
  | name other => rcases other with ⟨_ | qualifier, column⟩ <;> cases written
  | placeholder | null =>
      cases written
      rfl
  | group => cases written
  | tighter notAtom => exact absurd rfl notAtom
  | binary isLevel => exact absurd isLevel (operatorLevel_ne_atom _)

theorem of_group (parses : Parses dialect .atom (.mark '(' :: tokens ++ [.mark ')']) reading) :
    Parses dialect .disjunction tokens reading := by
  generalize written : Token.mark '(' :: tokens ++ [.mark ')'] = all at parses
  cases parses with
  | name name => rcases name with ⟨_ | qualifier, column⟩ <;> cases written
  | placeholder | null => cases written
  | group inside =>
      obtain rfl := (List.cons.inj (List.append_cancel_right written)).2
      exact inside
  | tighter notAtom => exact absurd rfl notAtom
  | binary isLevel => exact absurd isLevel (operatorLevel_ne_atom _)

/-- Tokens have at most one reading at a level. -/
theorem unique (parses : Parses dialect level tokens reading) {other : Reading}
    (others : Parses dialect level tokens other) : reading = other := by
  induction parses generalizing other with
  | name name => exact others.of_name.symm
  | placeholder index => exact others.of_word.symm
  | null => exact others.of_word.symm
  | group _ ih => exact ih others.of_group
  | tighter notAtom inside ih => exact ih (inside.of_tighter notAtom others)
  | not _ ih =>
      obtain ⟨operand, parses, rfl⟩ := others.of_not
      rw [ih parses]
  | binary isLevel _ right leftIH rightIH =>
      have notAtom := isLevel ▸ operatorLevel_ne_atom _
      obtain ⟨left', right', leftParses, rightParses, rfl⟩ :=
        others.of_binary isLevel (right.whole (rank_lt_tighter notAtom))
      rw [leftIH leftParses, rightIH rightParses]
  | nullTest negated _ ih =>
      obtain ⟨operand, parses, rfl⟩ := others.of_nullTest
      rw [ih parses]

end Parses

theorem Reads.unique {dialect : Dialect} {level : Level} {tokens : List Token}
    {reading other : Reading} (reads : Reads dialect level tokens reading)
    (others : Reads dialect level tokens other) : reading = other :=
  reads.parses.unique others.parses

/-! ## Conjunctions -/

namespace Parses

variable {dialect : Dialect} {tokens : List Token} {reading : Reading}

theorem negation (parses : Parses dialect .atom tokens reading) :
    Parses dialect .negation tokens reading :=
  .tighter (by decide) (.tighter (by decide) (.tighter (by decide) parses))

theorem conjunction {parts : List (List Token)} {readings : List Reading}
    (others : List.Forall₂ (Parses dialect .negation) parts readings)
    (parses : Parses dialect .conjunction tokens reading) :
    Parses dialect .conjunction ([Token.word "AND"].intercalate (tokens :: parts))
      (readings.foldl (.binary .and) reading) := by
  induction others generalizing tokens reading with
  | nil => simpa using parses
  | @cons part right parts readings first _ ih =>
      have isAnd : operatorLevel .and = .conjunction := rfl
      have chained := ih (.binary isAnd parses first)
      cases parts <;> simpa [operatorToken] using chained

/-- Conditions in parentheses keep their readings. -/
theorem groups {parts : List (List Token)} {readings : List Reading}
    (parses : Parses dialect .disjunction tokens reading)
    (others : List.Forall₂ (Parses dialect .disjunction) parts readings) :
    Parses dialect .disjunction
      ([Token.word "AND"].intercalate
        ((tokens :: parts).map fun part => .mark '(' :: part ++ [.mark ')']))
      (readings.foldl (.binary .and) reading) := by
  have grouped : List.Forall₂ (Parses dialect .negation)
      (parts.map fun part => .mark '(' :: part ++ [.mark ')']) readings :=
    List.forall₂_map_left_iff.mpr (others.imp fun _ _ parses => (group parses).negation)
  have conjoined := conjunction grouped (.tighter (by decide) (group parses).negation)
  exact .tighter (by decide) conjoined

end Parses

end RecordMapper.Sql
