import RecordMapper.Proofs.Sql.Grouping

set_option autoImplicit false

/-!
A condition that is written after more bound values. Its placeholders have other numbers, and it is
read as the same condition but for these.
-/

namespace RecordMapper.Sql

/-- A phrase whose parameters have as many more before them. -/
def Phrase.shift (offset : Nat) : Phrase → Phrase
  | .column name => .column name
  | .null => .null
  | .parameter index value => .parameter (index + offset) value
  | .nullTest negated operand => .nullTest negated (operand.shift offset)
  | .binary operator left right => .binary operator (left.shift offset) (right.shift offset)
  | .not operand => .not (operand.shift offset)

theorem Phrase.shift_zero (phrase : Phrase) : phrase.shift 0 = phrase := by
  induction phrase with
  | column | null | parameter => rfl
  | nullTest negated operand ih => rw [shift, ih]
  | binary operator left right leftIH rightIH => rw [shift, leftIH, rightIH]
  | not operand ih => rw [shift, ih]

/-- The same token, or a placeholder under its number in a shifted phrase. -/
inductive Token.Shifts (dialect : Dialect) (offset : Nat) : Token → Token → Prop where
  | fixed {token : Token} :
      (∀ index, token ≠ .word (dialect.placeholder index)) → Shifts dialect offset token token
  | placeholder (index : Nat) :
      Shifts dialect offset (.word (dialect.placeholder index))
        (.word (dialect.placeholder (index + offset)))

/-- The same reading up to the numbers of its placeholders, which are shifted. -/
inductive Reading.Shifts (dialect : Dialect) (offset : Nat) : Reading → Reading → Prop where
  | leaf {text : String} :
      (∀ index, text ≠ dialect.placeholder index) →
      Shifts dialect offset (.leaf text) (.leaf text)
  | placeholder (index : Nat) :
      Shifts dialect offset (.leaf (dialect.placeholder index))
        (.leaf (dialect.placeholder (index + offset)))
  | binary (operator : Operator) {left right otherLeft otherRight : Reading} :
      Shifts dialect offset left otherLeft → Shifts dialect offset right otherRight →
      Shifts dialect offset (.binary operator left right) (.binary operator otherLeft otherRight)
  | not {operand other : Reading} :
      Shifts dialect offset operand other → Shifts dialect offset (.not operand) (.not other)

variable {dialect : Dialect} {offset : Nat}

/-! ## Tokens -/

/-- Tokens with no placeholder among them. -/
def Fixed (dialect : Dialect) (tokens : List Token) : Prop :=
  ∀ token ∈ tokens, ∀ index, token ≠ .word (dialect.placeholder index)

theorem ne_placeholder {word : String} (letter : word.toList.head? ∉ [some '?', some '$'])
    (index : Nat) : Token.word word ≠ .word (dialect.placeholder index) := by
  intro same
  exact placeholder_ne letter (Token.word.inj same).symm

theorem fixed_name (name : ColumnName) : Fixed dialect name.read := by
  intro token member index
  rcases name with ⟨_ | qualifier, column⟩ <;>
    simp only [ColumnName.read, List.mem_cons, List.not_mem_nil, or_false] at member
  · simp [member]
  · rcases member with rfl | rfl | rfl <;> simp

theorem fixed_operator (operator : Operator) : Fixed dialect [operatorToken operator] := by
  intro token member
  rw [List.mem_singleton.mp member]
  cases operator with
  | and => exact ne_placeholder (by decide)
  | or => exact ne_placeholder (by decide)
  | eq | ne | lt | le | gt | ge => simp [operatorToken]

theorem fixed_word {word : String} (letter : word.toList.head? ∉ [some '?', some '$']) :
    Fixed dialect [.word word] := by
  intro token member
  rw [List.mem_singleton.mp member]
  exact ne_placeholder letter

theorem fixed_mark (char : Char) : Fixed dialect [.mark char] := by
  simp [Fixed]

theorem Fixed.append {first second : List Token} (fixed : Fixed dialect first)
    (others : Fixed dialect second) : Fixed dialect (first ++ second) :=
  List.forall_mem_append.mpr ⟨fixed, others⟩

theorem fixed_nullTest (negated : Bool) : Fixed dialect (nullTestRead negated) := by
  have isWord : Fixed dialect [.word "IS"] := fixed_word (by decide)
  have notWord : Fixed dialect [.word "NOT"] := fixed_word (by decide)
  have nullWord : Fixed dialect [.word "NULL"] := fixed_word (by decide)
  cases negated with
  | false => exact isWord.append nullWord
  | true => exact isWord.append (notWord.append nullWord)

theorem Fixed.shifts {tokens : List Token} (fixed : Fixed dialect tokens) :
    List.Forall₂ (Token.Shifts dialect offset) tokens tokens :=
  List.forall₂_same.mpr fun token member => .fixed (fixed token member)

theorem Fixed.shifts_eq {tokens others : List Token} (fixed : Fixed dialect tokens)
    (shifts : List.Forall₂ (Token.Shifts dialect offset) tokens others) : others = tokens := by
  induction shifts with
  | nil => rfl
  | cons first _ ih =>
      obtain ⟨firstFixed, othersFixed⟩ := List.forall_mem_cons.mp fixed
      rw [ih othersFixed]
      cases first with
      | fixed => rfl
      | placeholder index => exact absurd rfl (firstFixed index)

theorem forall₂_append_left {First Second : Type} {related : First → Second → Prop}
    {first second : List First} {others : List Second}
    (holds : List.Forall₂ related (first ++ second) others) :
    ∃ before after, others = before ++ after ∧ List.Forall₂ related first before ∧
      List.Forall₂ related second after := by
  have flipped := holds.flip
  have before := (List.forall₂_take_append _ _ _ flipped).flip
  have after := (List.forall₂_drop_append _ _ _ flipped).flip
  exact ⟨_, _, (List.take_append_drop _ _).symm, before, after⟩

/-- What follows tokens with no placeholder is shifted on its own. -/
theorem Fixed.shifts_append {first second others : List Token} (fixed : Fixed dialect first)
    (shifts : List.Forall₂ (Token.Shifts dialect offset) (first ++ second) others) :
    ∃ after, others = first ++ after ∧ List.Forall₂ (Token.Shifts dialect offset) second after := by
  obtain ⟨before, after, rfl, begins, rest⟩ := forall₂_append_left shifts
  rw [fixed.shifts_eq begins]
  exact ⟨after, rfl, rest⟩

theorem Phrase.shift_read (phrase : Phrase) :
    List.Forall₂ (Token.Shifts dialect offset) (phrase.read dialect)
      ((phrase.shift offset).read dialect) := by
  induction phrase with
  | column name => exact (fixed_name name).shifts
  | null => exact (fixed_word (by decide)).shifts
  | parameter index value => exact .cons (.placeholder index) .nil
  | nullTest negated operand ih =>
      refine List.rel_append ih ?_
      cases negated
      · exact (fixed_nullTest false).shifts
      · exact (fixed_nullTest true).shifts
  | binary operator left right leftIH rightIH =>
      exact List.rel_append (List.rel_append leftIH (fixed_operator operator).shifts) rightIH
  | not operand ih => exact .cons (.fixed (ne_placeholder (by decide))) ih

/-! ## Readings -/

theorem name_ne_placeholder (name : ColumnName) (index : Nat) :
    name.text dialect ≠ dialect.placeholder index := by
  intro same
  have named := (name.spells dialect).tokens_eq
  rw [same, (spells_placeholder dialect index).tokens_eq] at named
  rcases name with ⟨_ | qualifier, column⟩ <;> cases named

theorem null_shifts : Reading.Shifts dialect offset (.leaf "NULL") (.leaf "NULL") :=
  .leaf fun _ same => placeholder_ne (by decide) same.symm

/-- Shifted tokens have the reading of the tokens, shifted. -/
theorem Parses.shift {level : Level} {tokens others : List Token} {reading : Reading}
    (parses : Parses dialect level tokens reading)
    (shifts : List.Forall₂ (Token.Shifts dialect offset) tokens others) :
    ∃ other, Parses dialect level others other ∧ reading.Shifts dialect offset other := by
  induction parses generalizing others with
  | name name =>
      rw [(fixed_name name).shifts_eq shifts]
      exact ⟨_, .name name, .leaf (name_ne_placeholder name)⟩
  | placeholder index =>
      obtain ⟨other, rest, first, none, rfl⟩ := List.forall₂_cons_left_iff.mp shifts
      obtain rfl := List.forall₂_nil_left_iff.mp none
      generalize written : Token.word (dialect.placeholder index) = token at first
      cases first with
      | fixed fixed => exact absurd written.symm (fixed index)
      | placeholder same =>
          rw [Token.word.inj written]
          exact ⟨_, .placeholder _, .placeholder same⟩
  | null =>
      have nullWord : Fixed dialect [.word "NULL"] := fixed_word (by decide)
      rw [nullWord.shifts_eq shifts]
      exact ⟨_, .null, null_shifts⟩
  | @group tokens _ _ ih =>
      change List.Forall₂ _ ([Token.mark '('] ++ (tokens ++ [.mark ')'])) _ at shifts
      obtain ⟨rest, rfl, opened⟩ := (fixed_mark '(').shifts_append shifts
      obtain ⟨inside, closing, rfl, within, closes⟩ := forall₂_append_left opened
      obtain ⟨other, parses, shifted⟩ := ih within
      rw [(fixed_mark ')').shifts_eq closes]
      exact ⟨other, .group parses, shifted⟩
  | tighter notAtom _ ih =>
      obtain ⟨other, parses, shifted⟩ := ih shifts
      exact ⟨other, .tighter notAtom parses, shifted⟩
  | @not tokens operand _ ih =>
      have notWord : Fixed dialect [.word "NOT"] := fixed_word (by decide)
      change List.Forall₂ _ ([Token.word "NOT"] ++ tokens) _ at shifts
      obtain ⟨rest, rfl, negated⟩ := notWord.shifts_append shifts
      obtain ⟨other, parses, shifted⟩ := ih negated
      exact ⟨.not other, .not parses, .not shifted⟩
  | @binary level operator first second left right isLevel _ _ leftIH rightIH =>
      obtain ⟨before, after, rfl, leftShifts, joined⟩ := forall₂_append_left shifts
      change List.Forall₂ _ ([operatorToken operator] ++ second) _ at joined
      obtain ⟨behind, rfl, rightShifts⟩ := (fixed_operator operator).shifts_append joined
      obtain ⟨otherLeft, leftParses, leftShifted⟩ := leftIH leftShifts
      obtain ⟨otherRight, rightParses, rightShifted⟩ := rightIH rightShifts
      exact ⟨_, .binary isLevel leftParses rightParses, .binary operator leftShifted rightShifted⟩
  | nullTest negated _ ih =>
      obtain ⟨before, after, rfl, operandShifts, tested⟩ := forall₂_append_left shifts
      obtain ⟨other, parses, shifted⟩ := ih operandShifts
      rw [(fixed_nullTest negated).shifts_eq tested]
      exact ⟨_, .nullTest negated parses, .binary _ shifted null_shifts⟩

end RecordMapper.Sql
