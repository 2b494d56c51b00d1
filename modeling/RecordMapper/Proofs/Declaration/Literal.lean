import Mathlib.Data.Nat.Digits.Defs
import RecordMapper.Declaration.Token.Natural

set_option autoImplicit false

/-!
Literals that write whole numbers. A literal is a mark of its base, digits of that base with
underscores anywhere between them, and a name that may follow. What is read from it is the number
that the digits are.
-/

namespace RecordMapper.Declaration.Token

variable {base value number : Nat} {char : Char} {chars rest : List Char} {seen : Bool}

/-! ## Digits -/

/-- A character as a digit of a base. Letters go on where the ten digits end, in either case. -/
def IsDigit (base : Nat) (char : Char) (value : Nat) : Prop :=
  value < base ∧ (char = value.digitChar ∨ char = value.digitChar.toUpper)

/-- Digits with underscores between them, and what they are worth one after another. -/
inductive Digits (base : Nat) : List Char → List Nat → Prop where
  | nil : Digits base [] []
  | underscore {chars : List Char} {values : List Nat} :
      Digits base chars values → Digits base ('_' :: chars) values
  | digit {char : Char} {value : Nat} {chars : List Char} {values : List Nat} :
      IsDigit base char value → Digits base chars values →
      Digits base (char :: chars) (value :: values)

theorem toNat_digitChar : ∀ value < 16,
    value.digitChar.toNat = (if value < 10 then value + 48 else value + 87) ∧
      value.digitChar.toUpper.toNat = if value < 10 then value + 48 else value + 55 := by
  decide

theorem isDigit_iff_toNat (small : base ≤ 16) :
    IsDigit base char value ↔
      value < base ∧
        (value < 10 ∧ char.toNat = value + 48 ∨
          10 ≤ value ∧ (char.toNat = value + 87 ∨ char.toNat = value + 55)) := by
  refine and_congr_right fun within => ?_
  obtain ⟨lower, upper⟩ := toNat_digitChar value (Nat.lt_of_lt_of_le within small)
  rw [← Char.toNat_inj, ← Char.toNat_inj, lower, upper]
  split <;> omega

theorem isDigit_char (char : Char) :
    char.isDigit = true ↔ 48 ≤ char.toNat ∧ char.toNat ≤ 57 := by
  simp only [Char.isDigit, Bool.and_eq_true, decide_eq_true_eq]
  rfl

theorem digitValue?_eq (base : Nat) (char : Char) :
    digitValue? base char =
      if 48 ≤ char.toNat ∧ char.toNat ≤ 57 then some (char.toNat - 48)
      else if (10 < base ∧ 97 ≤ char.toNat) ∧ char.toNat ≤ 102 then some (char.toNat - 97 + 10)
      else if (10 < base ∧ 65 ≤ char.toNat) ∧ char.toNat ≤ 70 then some (char.toNat - 65 + 10)
      else none := by
  unfold digitValue?
  simp only [isDigit_char, Bool.and_eq_true, decide_eq_true_eq]
  rfl

theorem isDigit_iff (small : base ≤ 16) :
    IsDigit base char value ↔ digitValue? base char = some value ∧ value < base := by
  rw [isDigit_iff_toNat small, digitValue?_eq]
  split
  · rw [Option.some_inj]
    omega
  · split
    · rw [Option.some_inj]
      omega
    · split
      · rw [Option.some_inj]
        omega
      · simp only [reduceCtorEq, false_and, iff_false]
        omega

/-- Letters are read as digits only in a base that has them all. -/
theorem lt_of_digitValue? (isBase : base ≤ 10 ∨ base = 16) (letter : char.isDigit = false)
    (read : digitValue? base char = some value) : value < base := by
  have other : ¬(48 ≤ char.toNat ∧ char.toNat ≤ 57) := by simp [← isDigit_char, letter]
  rw [digitValue?_eq, if_neg other] at read
  split at read
  · cases read
    omega
  · split at read
    · cases read
      omega
    · cases read

theorem digitValue?_eq_none (isBase : base ≤ 10 ∨ base = 16) :
    digitValue? base char = none ↔
      char.isDigit = false ∧ ∀ value, ¬IsDigit base char value := by
  simp only [isDigit_iff (show base ≤ 16 by omega)]
  constructor
  · intro unread
    rw [unread]
    refine ⟨Bool.eq_false_of_not_eq_true fun digit => ?_, fun _ read => nomatch read.1⟩
    rw [digitValue?, if_pos digit] at unread
    cases unread
  · rintro ⟨letter, none⟩
    cases read : digitValue? base char with
    | none => rfl
    | some value => exact absurd ⟨read, lt_of_digitValue? isBase letter read⟩ (none value)

/-! ## Suffixes -/

/-- A mark with digits behind it, which make a decimal number a fraction. -/
inductive IsExponent : List Char → Prop where
  | intro {mark digit : Char} (count : Nat) (rest : List Char) :
      mark = 'e' ∨ mark = 'E' → digit.isDigit = true →
      IsExponent (mark :: (List.replicate count '_' ++ digit :: rest))

/-- What may follow the digits of a number: nothing, or a name that continues none of them. -/
structure Follows (base : Nat) (suffix : List Char) : Prop where
  isWord : suffix.all isWordChar = true
  parted : ∀ char ∈ suffix.head?,
    char ≠ '_' ∧ char.isDigit = false ∧ ∀ value, ¬IsDigit base char value
  whole : base = 10 → ¬IsExponent suffix

theorem isSuffix_cons (isWord : (char :: rest).all isWordChar = true)
    (other : char.isDigit = false) : isSuffix (char :: rest) = true := by
  rw [isSuffix, other, isWord]
  rfl

theorem isExponent_seen (isWord : chars.all isWordChar = true) :
    isExponent true chars = true := by
  induction chars with
  | nil => rfl
  | cons char rest ih =>
      have others := ih (Bool.and_eq_true_iff.mp (List.all_cons ▸ isWord)).2
      unfold isExponent
      split
      · exact others
      · split
        · exact others
        · rename_i other
          rw [isSuffix_cons isWord (Bool.eq_false_of_not_eq_true other), Bool.and_self, ite_self]

/-- In a name, what follows the mark is an exponent when its first character other than an
underscore is a digit. -/
theorem isExponent_iff (isWord : chars.all isWordChar = true) :
    isExponent false chars = true ↔
      ∃ count digit rest, chars = List.replicate count '_' ++ digit :: rest ∧
        digit.isDigit = true := by
  induction chars with
  | nil =>
      constructor
      · nofun
      · rintro ⟨count, digit, rest, same, -⟩
        simp at same
  | cons char rest ih =>
      obtain ⟨first, others⟩ := Bool.and_eq_true_iff.mp (List.all_cons ▸ isWord)
      unfold isExponent
      by_cases underscore : char = '_'
      · subst underscore
        rw [if_pos (beq_self_eq_true _), ih others]
        constructor
        · rintro ⟨count, digit, rest, rfl, isDigit⟩
          exact ⟨count + 1, digit, rest, rfl, isDigit⟩
        · rintro ⟨count, digit, rest, same, isDigit⟩
          cases count with
          | zero =>
              cases same
              exact absurd isDigit (by decide)
          | succ count => exact ⟨count, digit, rest, (List.cons.inj same).2, isDigit⟩
      · have alone {count : Nat} {digit : Char} {tail : List Char}
            (same : char :: rest = List.replicate count '_' ++ digit :: tail) : char = digit := by
          cases count with
          | zero => exact (List.cons.inj same).1
          | succ count => exact absurd (List.cons.inj same).1 underscore
        rw [if_neg (by simpa using underscore)]
        by_cases digit : char.isDigit = true
        · rw [if_pos digit]
          exact iff_of_true (isExponent_seen others) ⟨0, char, rest, rfl, digit⟩
        · have unsigned : ¬((char == '-' || char == '+') = true) := by
            intro signed
            rcases Bool.or_eq_true_iff.mp signed with minus | plus
            · rw [eq_of_beq minus] at first
              exact absurd first (by decide)
            · rw [eq_of_beq plus] at first
              exact absurd first (by decide)
          rw [if_neg digit, if_neg unsigned, Bool.false_and]
          refine iff_of_false nofun ?_
          rintro ⟨count, other, tail, same, isDigit⟩
          exact digit (alone same ▸ isDigit)

/-! ## Numbers -/

/-- A number in digits of a base, the one of most worth first, with a name that may follow. -/
def Writes (base : Nat) (chars : List Char) (number : Nat) : Prop :=
  ∃ digits values suffix, chars = digits ++ suffix ∧ Digits base digits values ∧ values ≠ [] ∧
    Follows base suffix ∧ Nat.ofDigits base values.reverse = number

/-- What ends a number, by what is looked at behind its last digit. -/
theorem follows_cons (isBase : base ≤ 10 ∨ base = 16) :
    Follows base (char :: rest) ↔
      (digitValue? base char = none ∧ char ≠ '_') ∧
        ¬(base = 10 ∧ (char = 'e' ∨ char = 'E') ∧ isExponent false rest = true) ∧
        (char :: rest).all isWordChar = true := by
  rw [digitValue?_eq_none isBase]
  constructor
  · intro follows
    obtain ⟨noUnderscore, noDigit⟩ := follows.parted char rfl
    refine ⟨⟨noDigit, noUnderscore⟩, ?_, follows.isWord⟩
    rintro ⟨decimal, isMark, isFraction⟩
    have others := (Bool.and_eq_true_iff.mp (List.all_cons ▸ follows.isWord)).2
    obtain ⟨count, digit, tail, rfl, isDigit⟩ := (isExponent_iff others).mp isFraction
    exact follows.whole decimal (.intro count tail isMark isDigit)
  · rintro ⟨⟨noDigit, noUnderscore⟩, whole, isWord⟩
    refine ⟨isWord, ?_, ?_⟩
    · rintro _ ⟨⟩
      exact ⟨noUnderscore, noDigit⟩
    · rintro decimal ⟨count, tail, isMark, isDigit⟩
      have others := (Bool.and_eq_true_iff.mp (List.all_cons ▸ isWord)).2
      exact whole ⟨decimal, isMark, (isExponent_iff others).mpr ⟨count, _, tail, rfl, isDigit⟩⟩

/-- Reading goes on behind a character that is no digit only where it is an underscore. -/
theorem readDigits_stop (isBase : base ≤ 10 ∨ base = 16) (noDigit : digitValue? base char = none)
    (noUnderscore : char ≠ '_') :
    readDigits base value seen (char :: rest) = some number ↔
      seen = true ∧ Follows base (char :: rest) ∧ value = number := by
  have letter : char.isDigit = false := ((digitValue?_eq_none isBase).mp noDigit).1
  have suffix : isSuffix (char :: rest) = (char :: rest).all isWordChar := by
    rw [isSuffix, letter, Bool.not_false, Bool.true_and]
  have noPoint (isWord : (char :: rest).all isWordChar = true) : char ≠ '.' := by
    rintro rfl
    exact absurd (Bool.and_eq_true_iff.mp (List.all_cons ▸ isWord)).1 (by decide)
  rw [readDigits, noDigit]
  dsimp only
  rw [if_neg (by simpa using noUnderscore), follows_cons isBase]
  simp only [Bool.and_eq_true, beq_iff_eq, Bool.or_eq_true, suffix]
  by_cases point : base = 10 ∧ char = '.'
  · rw [if_pos point]
    exact iff_of_false nofun fun follows => noPoint follows.2.1.2.2 point.2
  · rw [if_neg point]
    by_cases fraction : (base = 10 ∧ (char = 'e' ∨ char = 'E')) ∧ isExponent false rest = true
    · rw [if_pos fraction]
      exact iff_of_false nofun fun follows =>
        follows.2.1.2.1 ⟨fraction.1.1, fraction.1.2, fraction.2⟩
    · rw [if_neg fraction]
      have whole : ¬(base = 10 ∧ (char = 'e' ∨ char = 'E') ∧ isExponent false rest = true) :=
        fun parts => fraction ⟨⟨parts.1, parts.2.1⟩, parts.2.2⟩
      split
      · rename_i ends
        rw [Option.some_inj]
        exact ⟨fun same => ⟨ends.1, ⟨⟨noDigit, noUnderscore⟩, whole, ends.2⟩, same⟩,
          fun parts => parts.2.2⟩
      · rename_i ends
        exact iff_of_false nofun fun parts => ends ⟨parts.1, parts.2.1.2.2⟩

/-- The digits that are left behind a value, where some may be read already, and the number that
all of them make. -/
def Continues (base value : Nat) (seen : Bool) (chars : List Char) (number : Nat) : Prop :=
  ∃ digits values suffix, chars = digits ++ suffix ∧ Digits base digits values ∧
    (seen = true ∨ values ≠ []) ∧ Follows base suffix ∧
    values.foldl (fun number value => number * base + value) value = number

theorem continues_nil :
    Continues base value seen [] number ↔ seen = true ∧ value = number := by
  constructor
  · rintro ⟨digits, values, suffix, same, isDigits, some, -, total⟩
    obtain ⟨rfl, rfl⟩ := List.append_eq_nil_iff.mp same.symm
    cases isDigits
    exact ⟨some.resolve_right (absurd rfl), total⟩
  · rintro ⟨digitSeen, total⟩
    exact ⟨[], [], [], rfl, .nil, .inl digitSeen, ⟨rfl, nofun, nofun⟩, total⟩

theorem continues_underscore (isBase : base ≤ 10 ∨ base = 16) :
    Continues base value seen ('_' :: rest) number ↔ Continues base value seen rest number := by
  constructor
  · rintro ⟨digits, values, suffix, same, isDigits, parts⟩
    cases isDigits with
    | nil =>
        obtain rfl : '_' :: rest = suffix := same
        exact absurd rfl (parts.2.1.parted '_' rfl).1
    | underscore others =>
        obtain ⟨-, rfl⟩ := List.cons.inj same
        exact ⟨_, _, suffix, rfl, others, parts⟩
    | digit isDigit others =>
        obtain ⟨rfl, -⟩ := List.cons.inj same
        have read := ((isDigit_iff (by omega)).mp isDigit).1
        rw [show digitValue? base '_' = none by simp [digitValue?_eq]] at read
        cases read
  · rintro ⟨digits, values, suffix, rfl, isDigits, parts⟩
    exact ⟨'_' :: digits, values, suffix, rfl, .underscore isDigits, parts⟩

theorem continues_digit {digit : Nat} (isBase : base ≤ 10 ∨ base = 16)
    (read : digitValue? base char = some digit) :
    Continues base value seen (char :: rest) number ↔
      digit < base ∧ Continues base (value * base + digit) true rest number := by
  have small : base ≤ 16 := by omega
  constructor
  · rintro ⟨digits, values, suffix, same, isDigits, -, follows, total⟩
    cases isDigits with
    | nil =>
        obtain rfl : char :: rest = suffix := same
        have unread := ((follows_cons isBase).mp follows).1.1
        rw [read] at unread
        cases unread
    | underscore others =>
        obtain ⟨rfl, -⟩ := List.cons.inj same
        rw [show digitValue? base '_' = none by simp [digitValue?_eq]] at read
        cases read
    | digit isDigit others =>
        obtain ⟨rfl, rfl⟩ := List.cons.inj same
        obtain ⟨again, within⟩ := (isDigit_iff small).mp isDigit
        obtain rfl := Option.some_inj.mp (read.symm.trans again)
        exact ⟨within, _, _, suffix, rfl, others, .inl rfl, follows, total⟩
  · rintro ⟨within, digits, values, suffix, rfl, isDigits, -, follows, total⟩
    exact ⟨char :: digits, digit :: values, suffix, rfl,
      .digit ((isDigit_iff small).mpr ⟨read, within⟩) isDigits, .inr nofun, follows, total⟩

theorem continues_stop (isBase : base ≤ 10 ∨ base = 16) (noDigit : digitValue? base char = none)
    (noUnderscore : char ≠ '_') :
    Continues base value seen (char :: rest) number ↔
      seen = true ∧ Follows base (char :: rest) ∧ value = number := by
  constructor
  · rintro ⟨digits, values, suffix, same, isDigits, some, follows, total⟩
    cases isDigits with
    | nil =>
        obtain rfl : char :: rest = suffix := same
        exact ⟨some.resolve_right (absurd rfl), follows, total⟩
    | underscore others => exact absurd (List.cons.inj same).1 noUnderscore
    | digit isDigit others =>
        obtain ⟨rfl, -⟩ := List.cons.inj same
        exact absurd isDigit (((digitValue?_eq_none isBase).mp noDigit).2 _)
  · rintro ⟨digitSeen, follows, total⟩
    exact ⟨[], [], char :: rest, rfl, .nil, .inl digitSeen, follows, total⟩

theorem readDigits_iff (isBase : base ≤ 10 ∨ base = 16) :
    readDigits base value seen chars = some number ↔
      Continues base value seen chars number := by
  induction chars generalizing value seen with
  | nil =>
      rw [readDigits, continues_nil]
      cases seen with
      | true => simp
      | false => simp
  | cons char rest ih =>
      cases read : digitValue? base char with
      | some digit =>
          rw [continues_digit isBase read, readDigits, read]
          dsimp only
          split
          · rename_i within
            exact ih.trans ⟨fun others => ⟨within, others⟩, And.right⟩
          · rename_i large
            exact iff_of_false nofun fun parts => large parts.1
      | none =>
          by_cases underscore : char = '_'
          · subst underscore
            have skip : readDigits base value seen ('_' :: rest) =
                readDigits base value seen rest := by
              rw [readDigits, read]
              rfl
            rw [skip, continues_underscore isBase]
            exact ih
          · rw [readDigits_stop isBase read underscore, continues_stop isBase read underscore]

theorem ofDigits_reverse (base : Nat) (values : List Nat) :
    Nat.ofDigits base values.reverse =
      values.foldl (fun number value => number * base + value) 0 := by
  rw [Nat.ofDigits_eq_foldr, List.foldr_reverse]
  congr 1
  funext number value
  rw [Nat.cast_id]
  ring

theorem readDigits_eq_some (isBase : base ≤ 10 ∨ base = 16) :
    readDigits base 0 false chars = some number ↔ Writes base chars number := by
  rw [readDigits_iff isBase]
  simp only [Continues, Writes, ofDigits_reverse, reduceCtorEq, false_or]

/-! ## Literals -/

/-- The second character of a literal, behind a zero, and the base that it says. -/
inductive IsMark : Char → Nat → Prop where
  | hexadecimal : IsMark 'x' 16
  | octal : IsMark 'o' 8
  | binary : IsMark 'b' 2

/-- A literal of a whole number, in the base that its mark says or else in base ten. -/
inductive IsNatural : Token → Nat → Prop where
  | marked {text : String} {mark : Char} {chars : List Char} {base number : Nat} :
      text.toList = '0' :: mark :: chars → IsMark mark base → Writes base chars number →
      IsNatural (.literal text) number
  | decimal {text : String} {first : Char} {chars : List Char} {number : Nat} :
      text.toList = first :: chars → first.isDigit = true →
      (first = '0' → ∀ mark ∈ chars.head?, ∀ base, ¬IsMark mark base) →
      Writes 10 (first :: chars) number → IsNatural (.literal text) number

theorem IsMark.isBase (isMark : IsMark char base) : base ≤ 10 ∨ base = 16 := by
  cases isMark <;> decide

theorem numberBase_marked (isMark : IsMark char base) :
    numberBase ('0' :: char :: rest) = (base, rest) := by
  cases isMark <;> rfl

theorem numberBase_decimal {first : Char}
    (unmarked : first = '0' → ∀ mark ∈ rest.head?, ∀ base, ¬IsMark mark base) :
    numberBase (first :: rest) = (10, first :: rest) := by
  unfold numberBase
  split
  · rename_i same
    obtain ⟨rfl, rfl⟩ := List.cons.inj same
    exact absurd .hexadecimal (unmarked rfl _ rfl _)
  · rename_i same
    obtain ⟨rfl, rfl⟩ := List.cons.inj same
    exact absurd .octal (unmarked rfl _ rfl _)
  · rename_i same
    obtain ⟨rfl, rfl⟩ := List.cons.inj same
    exact absurd .binary (unmarked rfl _ rfl _)
  · rfl

theorem natural?_literal {text : String} {first : Char} (chars : text.toList = first :: rest) :
    (literal text).natural? =
      if first.isDigit then
        readDigits (numberBase (first :: rest)).1 0 false (numberBase (first :: rest)).2
      else none := by
  rw [natural?, chars]
  rfl

/-- What is read from a literal is the number that it writes. -/
theorem natural?_eq_some {token : Token} :
    token.natural? = some number ↔ IsNatural token number := by
  constructor
  · intro read
    cases token with
    | literal text =>
        cases chars : text.toList with
        | nil =>
            rw [natural?, chars] at read
            cases read
        | cons first rest =>
            rw [natural?_literal chars] at read
            split at read
            · rename_i starts
              by_cases marked : first = '0' ∧ ∃ mark ∈ rest.head?, ∃ base, IsMark mark base
              · obtain ⟨rfl, mark, second, base, isMark⟩ := marked
                obtain ⟨tail, rfl⟩ := List.head?_eq_some_iff.mp second
                rw [numberBase_marked isMark] at read
                exact .marked chars isMark ((readDigits_eq_some isMark.isBase).mp read)
              · have unmarked : first = '0' → ∀ mark ∈ rest.head?, ∀ base, ¬IsMark mark base :=
                  fun zero mark second base isMark => marked ⟨zero, mark, second, base, isMark⟩
                rw [numberBase_decimal unmarked] at read
                exact .decimal chars starts unmarked
                  ((readDigits_eq_some (.inl (Nat.le_refl 10))).mp read)
            · cases read
    | _ => cases read
  · intro isNatural
    cases isNatural with
    | marked chars isMark writes =>
        rw [natural?_literal chars, if_pos (by rfl), numberBase_marked isMark]
        exact (readDigits_eq_some isMark.isBase).mpr writes
    | decimal chars starts unmarked writes =>
        rw [natural?_literal chars, if_pos starts, numberBase_decimal unmarked]
        exact (readDigits_eq_some (.inl (Nat.le_refl 10))).mpr writes

example : (Token.literal "0x1_0usize").natural? = some 16 := by decide

end RecordMapper.Declaration.Token
