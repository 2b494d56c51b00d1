import Mathlib.Algebra.Group.Int.Defs
import Mathlib.Data.List.Basic
import Mathlib.Data.List.Induction
import RecordMapper.Proofs.Value.Integer
import RecordMapper.Value.Native

set_option autoImplicit false

/-!
Integers across kinds. Seven kinds of values denote an integer and nine native types hold one. A
conversion between them keeps the number or fails: it fails exactly when there is no number or the
native type has no room for it. Written out as a decimal, a number is its only canonical numeral.
-/

namespace RecordMapper

/-! ## Numerals -/

namespace Text

/-- The digits of a natural number, which start with 0 only when they are nothing else. -/
structure IsDigits (digits : List Char) (number : Nat) : Prop where
  isDigit : ∀ char ∈ digits, char.isDigit = true
  nonempty : digits ≠ []
  reads : Nat.ofDigitChars 10 digits 0 = number
  unpadded : digits.head? = some '0' → digits = ['0']

/-- The canonical decimal numeral of an integer: the digits of its absolute value, after a minus
sign if it is negative. -/
def IsNumeral (text : String) (number : Int) : Prop :=
  ∃ digits, IsDigits digits number.natAbs ∧
    text.toList = (if number < 0 then ['-'] else []) ++ digits

theorem toNat_of_isDigit {char : Char} (digit : char.isDigit = true) :
    48 ≤ char.toNat ∧ char.toNat ≤ 57 := by
  simp only [Char.isDigit, Bool.and_eq_true, decide_eq_true_eq] at digit
  exact digit

theorem digitChar_of_isDigit {char : Char} (digit : char.isDigit = true) :
    (char.toNat - 48).digitChar = char := by
  obtain ⟨lower, upper⟩ := toNat_of_isDigit digit
  have same : (char.toNat - 48).digitChar.toNat = char.toNat := by
    rw [Nat.toNat_digitChar_of_lt_ten (by omega)]
    omega
  exact Char.toNat_inj.mp same

/-- A canonical list of digits is the one that its number is written with: the last digit is the
remainder by ten, and the digits before it are canonical again. -/
theorem IsDigits.eq_toDigits {digits : List Char} {number : Nat}
    (isDigits : IsDigits digits number) : digits = Nat.toDigits 10 number := by
  induction digits using List.reverseRecOn generalizing number with
  | nil => exact absurd rfl isDigits.nonempty
  | append_singleton front last ih =>
      have lastDigit := isDigits.isDigit last (by simp)
      obtain ⟨lower, upper⟩ := toNat_of_isDigit lastDigit
      have small : last.toNat - 48 < 10 := by omega
      have number_eq : number = 10 * Nat.ofDigitChars 10 front 0 + (last.toNat - 48) := by
        simpa [Nat.ofDigitChars_append, Nat.ofDigitChars_cons] using isDigits.reads.symm
      by_cases alone : front = []
      · subst alone
        have single : number = last.toNat - 48 := by
          rw [number_eq, Nat.ofDigitChars_nil]
          omega
        rw [single, Nat.toDigits_of_lt_base small, digitChar_of_isDigit lastDigit]
        rfl
      · have padded : front.head? ≠ some '0' := by
          intro zero
          have whole := isDigits.unpadded (by rw [List.head?_append, zero]; rfl)
          exact alone (by simpa using congrArg List.length whole)
        have before : IsDigits front (Nat.ofDigitChars 10 front 0) :=
          ⟨fun char member => isDigits.isDigit char (by simp [member]), alone, rfl,
            fun zero => absurd zero padded⟩
        have front_eq := ih before
        have positive : 0 < Nat.ofDigitChars 10 front 0 := by
          refine Nat.pos_of_ne_zero fun zero => padded ?_
          rw [front_eq, zero, Nat.toDigits_zero]
          rfl
        have last_eq : [last] = Nat.toDigits 10 (last.toNat - 48) := by
          rw [Nat.toDigits_of_lt_base small, digitChar_of_isDigit lastDigit]
        rw [number_eq, ← Nat.toDigits_append_toDigits (by decide) positive small, ← front_eq,
          ← last_eq]

theorem isDigits_toDigits (number : Nat) : IsDigits (Nat.toDigits 10 number) number where
  isDigit := fun _ member => Nat.isDigit_of_mem_toDigits (by decide) (by decide) member
  nonempty := Nat.toDigits_ne_nil
  reads := Nat.ofDigitChars_ten_toDigits
  unpadded := by
    induction number using Nat.strongRecOn with
    | ind number ih =>
        intro zero
        by_cases small : number < 10
        · rw [Nat.toDigits_of_lt_base small] at zero ⊢
          simpa using zero
        · rw [Nat.toDigits_of_base_le (by decide) (by omega)] at zero
          rw [List.head?_append_of_ne_nil _ Nat.toDigits_ne_nil] at zero
          have front := ih (number / 10) (by omega) zero
          have read := congrArg (Nat.ofDigitChars 10 · 0) front
          simp [Nat.ofDigitChars_ten_toDigits, Nat.ofDigitChars_cons] at read
          omega

theorem isNumeral_iff (text : String) (number : Int) :
    IsNumeral text number ↔ text = toString number := by
  have written : (toString number).toList =
      (if number < 0 then ['-'] else []) ++ Nat.toDigits 10 number.natAbs := by
    cases number with
    | ofNat number => simp [Int.toString_eq_repr, Int.repr, Nat.toList_repr]
    | negSucc number => simp [Int.toString_eq_repr, Int.repr, Nat.toList_repr, Int.negSucc_lt_zero]
  constructor
  · intro numeral
    obtain ⟨digits, isDigits, spelled⟩ := numeral
    apply String.toList_inj.mp
    rw [spelled, written, isDigits.eq_toDigits]
  · intro same
    exact ⟨_, isDigits_toDigits number.natAbs, by rw [same, written]⟩

end Text

/-! ## Native integers -/

/-- The kinds of columns whose native type holds an integer. -/
inductive IntegerKind where
  | int8
  | int16
  | int32
  | int64
  | uint8
  | uint16
  | uint32
  | uint64
  | timestamp
deriving DecidableEq, Repr

namespace IntegerKind

abbrev column : IntegerKind → ColumnKind
  | .int8 => .int8
  | .int16 => .int16
  | .int32 => .int32
  | .int64 => .int64
  | .uint8 => .uint8
  | .uint16 => .uint16
  | .uint32 => .uint32
  | .uint64 => .uint64
  | .timestamp => .timestamp

def lower : IntegerKind → Int
  | .int8 => -2 ^ 7
  | .int16 => -2 ^ 15
  | .int32 => -2 ^ 31
  | .int64 | .timestamp => -2 ^ 63
  | .uint8 | .uint16 | .uint32 | .uint64 => 0

def upper : IntegerKind → Int
  | .int8 => 2 ^ 7 - 1
  | .int16 => 2 ^ 15 - 1
  | .int32 => 2 ^ 31 - 1
  | .int64 | .timestamp => 2 ^ 63 - 1
  | .uint8 => 2 ^ 8 - 1
  | .uint16 => 2 ^ 16 - 1
  | .uint32 => 2 ^ 32 - 1
  | .uint64 => 2 ^ 64 - 1

def Holds (kind : IntegerKind) (number : Int) : Prop :=
  kind.lower ≤ number ∧ number ≤ kind.upper

instance (kind : IntegerKind) (number : Int) : Decidable (kind.Holds number) :=
  inferInstanceAs (Decidable (_ ∧ _))

/-- The integer that a native value is. -/
def number : (kind : IntegerKind) → kind.column.Native → Int
  | .int8, native => Int8.toInt native
  | .int16, native => Int16.toInt native
  | .int32, native => Int32.toInt native
  | .int64, native => Int64.toInt native
  | .uint8, native => UInt8.toNat native
  | .uint16, native => UInt16.toNat native
  | .uint32, native => UInt32.toNat native
  | .uint64, native => UInt64.toNat native
  | .timestamp, micros => Int64.toInt micros

theorem holds_number (kind : IntegerKind) (native : kind.column.Native) :
    kind.Holds (kind.number native) := by
  cases kind with
  | int8 => exact ⟨Int8.le_toInt native, Int.le_sub_one_of_lt (Int8.toInt_lt native)⟩
  | int16 => exact ⟨Int16.le_toInt native, Int.le_sub_one_of_lt (Int16.toInt_lt native)⟩
  | int32 => exact ⟨Int32.le_toInt native, Int.le_sub_one_of_lt (Int32.toInt_lt native)⟩
  | int64 => exact ⟨Int64.le_toInt native, Int.le_sub_one_of_lt (Int64.toInt_lt native)⟩
  | uint8 =>
      have bound := UInt8.toNat_lt native
      simp [Holds, lower, upper, number]; omega
  | uint16 =>
      have bound := UInt16.toNat_lt native
      simp [Holds, lower, upper, number]; omega
  | uint32 =>
      have bound := UInt32.toNat_lt native
      simp [Holds, lower, upper, number]; omega
  | uint64 =>
      have bound := UInt64.toNat_lt native
      simp [Holds, lower, upper, number]; omega
  | timestamp => exact ⟨Int64.le_toInt native, Int.le_sub_one_of_lt (Int64.toInt_lt native)⟩

/-- Only the widest unsigned kind has room for numbers past the signed range. -/
theorem holds_signed (kind : IntegerKind) (narrow : kind ≠ .uint64) (number : Int)
    (holds : kind.Holds number) : IntegerKind.int64.Holds number := by
  cases kind with
  | uint64 => exact absurd rfl narrow
  | _ =>
      simp only [Holds, lower, upper] at holds ⊢
      omega

theorem number_injective {kind : IntegerKind} {native other : kind.column.Native}
    (same : kind.number native = kind.number other) : native = other := by
  cases kind with
  | int8 => exact Int8.toInt_inj.mp same
  | int16 => exact Int16.toInt_inj.mp same
  | int32 => exact Int32.toInt_inj.mp same
  | int64 => exact Int64.toInt_inj.mp same
  | uint8 => exact UInt8.toNat_inj.mp (Int.ofNat_inj.mp same)
  | uint16 => exact UInt16.toNat_inj.mp (Int.ofNat_inj.mp same)
  | uint32 => exact UInt32.toNat_inj.mp (Int.ofNat_inj.mp same)
  | uint64 => exact UInt64.toNat_inj.mp (Int.ofNat_inj.mp same)
  | timestamp => exact Int64.toInt_inj.mp same

/-- Every integer that the kind has room for is a native value of it. -/
theorem exists_number {kind : IntegerKind} {number : Int} (holds : kind.Holds number) :
    ∃ native, kind.number native = number := by
  obtain ⟨lower, upper⟩ := holds
  have below : number < kind.upper + 1 := Int.lt_add_one_of_le upper
  have natural {native : Nat} (nonnegative : 0 ≤ number) (same : native = number.toNat) :
      (native : Int) = number := by omega
  cases kind with
  | int8 => exact ⟨Int8.ofInt number, Int8.toInt_ofInt_of_le lower below⟩
  | int16 => exact ⟨Int16.ofInt number, Int16.toInt_ofInt_of_le lower below⟩
  | int32 => exact ⟨Int32.ofInt number, Int32.toInt_ofInt_of_le lower below⟩
  | int64 => exact ⟨Int64.ofInt number, Int64.toInt_ofInt_of_le lower below⟩
  | uint8 =>
      have small := (Int.toNat_lt lower).mpr below
      exact ⟨UInt8.ofNat number.toNat, natural lower (UInt8.toNat_ofNat_of_lt' small)⟩
  | uint16 =>
      have small := (Int.toNat_lt lower).mpr below
      exact ⟨UInt16.ofNat number.toNat, natural lower (UInt16.toNat_ofNat_of_lt' small)⟩
  | uint32 =>
      have small := (Int.toNat_lt lower).mpr below
      exact ⟨UInt32.ofNat number.toNat, natural lower (UInt32.toNat_ofNat_of_lt' small)⟩
  | uint64 =>
      have small := (Int.toNat_lt lower).mpr below
      exact ⟨UInt64.ofNat number.toNat, natural lower (UInt64.toNat_ofNat_of_lt' small)⟩
  | timestamp => exact ⟨Int64.ofInt number, Int64.toInt_ofInt_of_le lower below⟩

end IntegerKind

/-! ## Values -/

namespace Value

/-- The integer that a value denotes: a truth value is 0 or 1, and a timestamp its microseconds. -/
def integer? : Value → Option Int
  | .bool value => some (if value then 1 else 0)
  | .tinyInt value => some value.toInt
  | .smallInt value => some value.toInt
  | .int value => some value.toInt
  | .bigInt value => some value.toInt
  | .unsigned value => some value.toNat
  | .timestamp micros => some micros.toInt
  | .null | .float _ | .double _ | .decimal _ | .text _ | .bytes _ | .uuid _ => none

/-- A kind has a native value for what a value denotes exactly when it has room for it. -/
theorem exists_native_iff (kind : IntegerKind) (value : Value) :
    (∃ native, value.integer? = some (kind.number native)) ↔
      ∃ number, value.integer? = some number ∧ kind.Holds number := by
  constructor
  · intro found
    obtain ⟨native, denotes⟩ := found
    exact ⟨_, denotes, kind.holds_number native⟩
  · intro room
    obtain ⟨number, denotes, holds⟩ := room
    obtain ⟨native, rfl⟩ := IntegerKind.exists_number holds
    exact ⟨native, denotes⟩

theorem toInt64?_eq_some {value : Value} {number : Int64} :
    value.toInt64? = some number ↔ value.integer? = some number.toInt := by
  have same {denoted : Int64} {integer : Int} (denotes : denoted.toInt = integer) :
      some denoted = some number ↔ some integer = some number.toInt := by
    rw [Option.some_inj, Option.some_inj, ← denotes, Int64.toInt_inj]
  cases value with
  | bool value => cases value <;> exact same rfl
  | tinyInt value => exact same (Int8.toInt_toInt64 value)
  | smallInt value => exact same (Int16.toInt_toInt64 value)
  | int value => exact same (Int32.toInt_toInt64 value)
  | bigInt value => exact same rfl
  | timestamp micros => exact same rfl
  | unsigned value =>
      by_cases small : value.toNat < signedBound
      · rw [toInt64?, if_pos small]
        exact same (Integer.toInt_toInt64 small)
      · have bound := number.toInt_lt
        simp only [toInt64?, if_neg small, integer?, Option.some_inj, reduceCtorEq, false_iff]
        intro equal
        rw [signedBound] at small
        omega
  | _ => simp [toInt64?, integer?]

/-- Only an unsigned value can denote an integer beyond the signed range. -/
theorem exists_toInt64? {value : Value} {integer : Int} (denotes : value.integer? = some integer)
    (signed : ∀ number, value ≠ .unsigned number) :
    ∃ number, value.toInt64? = some number ∧ number.toInt = integer := by
  have found {number : Int64} (read : value.toInt64? = some number) :
      ∃ number, value.toInt64? = some number ∧ number.toInt = integer :=
    ⟨number, read, Option.some_inj.mp ((toInt64?_eq_some.mp read).symm.trans denotes)⟩
  cases value with
  | unsigned number => exact absurd rfl (signed number)
  | bool value => exact found rfl
  | tinyInt value => exact found rfl
  | smallInt value => exact found rfl
  | int value => exact found rfl
  | bigInt value => exact found rfl
  | timestamp micros => exact found rfl
  | _ => cases denotes

theorem toUInt64?_of_signed {value : Value} (signed : ∀ number, value ≠ .unsigned number) :
    value.toUInt64? =
      value.toInt64?.bind fun number => if 0 ≤ number then some number.toUInt64 else none := by
  cases value with
  | unsigned number => exact absurd rfl (signed number)
  | _ => rfl

theorem toUInt64?_eq_some {value : Value} {number : UInt64} :
    value.toUInt64? = some number ↔ value.integer? = some (number.toNat : Int) := by
  by_cases isUnsigned : ∃ number, value = .unsigned number
  · obtain ⟨found, rfl⟩ := isUnsigned
    simp only [toUInt64?, integer?, Option.some_inj, Int.ofNat_inj, UInt64.toNat_inj]
  · have signed : ∀ number, value ≠ .unsigned number := not_exists.mp isUnsigned
    rw [toUInt64?_of_signed signed]
    constructor
    · intro read
      obtain ⟨wide, wideRead, kept⟩ := Option.bind_eq_some_iff.mp read
      split at kept
      · rename_i natural
        rw [toInt64?_eq_some.mp wideRead, ← Integer.toNat_toUInt64 natural, Option.some.inj kept]
      · cases kept
    · intro denotes
      obtain ⟨wide, wideRead, same⟩ := exists_toInt64? denotes signed
      have natural : 0 ≤ wide := by simp [Int64.le_iff_toInt_le, same]
      rw [wideRead, Option.bind_some, if_pos natural]
      exact congrArg some (UInt64.toNat_inj.mp (Integer.toNat_toUInt64_of same))

/-! ### Reading -/

theorem toIntWithin_eq_ok {lower upper : Int} {value : Value} {number : Int64} :
    value.toIntWithin lower upper = .ok number ↔
      value.integer? = some number.toInt ∧ lower ≤ number.toInt ∧ number.toInt ≤ upper := by
  rw [toIntWithin, ← toInt64?_eq_some]
  cases value.toInt64? with
  | none => simp
  | some found =>
      simp only [Option.some_inj]
      split
      · rename_i within
        simp only [Except.ok.injEq]
        constructor
        · intro same
          exact ⟨same, same ▸ within⟩
        · intro same
          exact same.1
      · rename_i outside
        simp only [reduceCtorEq, false_iff]
        intro same
        exact outside (same.1 ▸ same.2)

/-- Reading within the bounds of a kind and then narrowing reads the kind, if the narrowing keeps
every number within those bounds. -/
theorem decode_within {kind : IntegerKind} {value : Value} {narrow : Int64 → kind.column.Native}
    (decodes : value.decode kind.column = (value.toIntWithin kind.lower kind.upper).map narrow)
    (keeps : ∀ number : Int64, kind.Holds number.toInt → kind.number (narrow number) = number.toInt)
    (signed : ∀ number, kind.Holds number → IntegerKind.int64.Holds number)
    (native : kind.column.Native) :
    value.decode kind.column = .ok native ↔ value.integer? = some (kind.number native) := by
  rw [decodes]
  constructor
  · intro read
    cases within : value.toIntWithin kind.lower kind.upper with
    | error mismatch =>
        rw [within] at read
        cases read
    | ok number =>
        rw [within] at read
        obtain ⟨denotes, holds⟩ := toIntWithin_eq_ok.mp within
        rw [denotes, ← Except.ok.inj read, keeps number holds]
  · intro denotes
    have holds := kind.holds_number native
    obtain ⟨wide, same⟩ := IntegerKind.exists_number (signed _ holds)
    change wide.toInt = kind.number native at same
    rw [← same] at denotes holds
    rw [toIntWithin_eq_ok.mpr ⟨denotes, holds⟩]
    exact congrArg Except.ok (IntegerKind.number_injective ((keeps wide holds).trans same))

/-- A kind that is read through a view of the value is read exactly when the view shows one. -/
theorem decode_view (kind : ColumnKind) (value : Value) (view : Option kind.Native)
    (decodes : value.decode kind =
      match view with
      | some native => .ok native
      | none => .error (.kind value))
    (native : kind.Native) : value.decode kind = .ok native ↔ view = some native := by
  cases view with
  | none => simp [decodes]
  | some found => rw [decodes, Except.ok.injEq, Option.some_inj]

theorem decode_eq_ok (kind : IntegerKind) (value : Value) (native : kind.column.Native) :
    value.decode kind.column = .ok native ↔ value.integer? = some (kind.number native) := by
  have fits (narrow : kind ≠ .uint64) := kind.holds_signed narrow
  cases kind with
  | int8 =>
      refine decode_within rfl ?_ (fits nofun) native
      intro number holds
      exact (number.toInt_toInt8).trans (Int.bmod_eq_of_le holds.1 (Int.lt_add_one_of_le holds.2))
  | int16 =>
      refine decode_within rfl ?_ (fits nofun) native
      intro number holds
      exact (number.toInt_toInt16).trans (Int.bmod_eq_of_le holds.1 (Int.lt_add_one_of_le holds.2))
  | int32 =>
      refine decode_within rfl ?_ (fits nofun) native
      intro number holds
      exact (number.toInt_toInt32).trans (Int.bmod_eq_of_le holds.1 (Int.lt_add_one_of_le holds.2))
  | uint8 =>
      refine decode_within rfl ?_ (fits nofun) native
      intro number holds
      exact (congrArg Int.ofNat number.toUInt64.toNat_toUInt8).trans
        (Integer.toNat_toUInt64_mod holds.1 (Int.lt_add_one_of_le holds.2))
  | uint16 =>
      refine decode_within rfl ?_ (fits nofun) native
      intro number holds
      exact (congrArg Int.ofNat number.toUInt64.toNat_toUInt16).trans
        (Integer.toNat_toUInt64_mod holds.1 (Int.lt_add_one_of_le holds.2))
  | uint32 =>
      refine decode_within rfl ?_ (fits nofun) native
      intro number holds
      exact (congrArg Int.ofNat number.toUInt64.toNat_toUInt32).trans
        (Integer.toNat_toUInt64_mod holds.1 (Int.lt_add_one_of_le holds.2))
  | int64 =>
      have decodes := decode_view .int64 value value.toInt64? (by
        rw [decode]
        cases value.toInt64? <;> rfl)
      exact (decodes native).trans toInt64?_eq_some
  | uint64 =>
      have decodes := decode_view .uint64 value value.toUInt64? (by
        rw [decode]
        cases value.toUInt64? <;> rfl)
      exact (decodes native).trans toUInt64?_eq_some
  | timestamp =>
      have decodes := decode_view .timestamp value value.toInt64? (by
        rw [decode]
        cases value.toInt64? <;> rfl)
      exact (decodes native).trans toInt64?_eq_some

/-! ### Writing -/

theorem integer?_encode (kind : IntegerKind) (native : kind.column.Native) :
    (encode kind.column native).integer? = some (kind.number native) := by
  cases kind with
  | uint8 => exact congrArg some (Integer.toInt_widened (UInt8.toBitVec native) (by decide))
  | uint16 => exact congrArg some (Integer.toInt_widened (UInt16.toBitVec native) (by decide))
  | uint32 => exact congrArg some (Integer.toInt_widened (UInt32.toBitVec native) (by decide))
  | _ => rfl

/-- Every integer but a truth value is written out as its numeral. -/
theorem decode_decimal {value : Value} {number : Int} (denotes : value.integer? = some number)
    (plain : ∀ truth, value ≠ .bool truth) : value.decode .decimal = .ok (toString number) := by
  have spelled {wide : Int64} (read : value.toInt64? = some wide)
      (decodes : value.decode .decimal = .ok (toString wide.toInt)) :
      value.decode .decimal = .ok (toString number) := by
    rw [decodes, Option.some_inj.mp ((toInt64?_eq_some.mp read).symm.trans denotes)]
  cases value with
  | bool truth => exact absurd rfl (plain truth)
  | tinyInt value => exact spelled rfl rfl
  | smallInt value => exact spelled rfl rfl
  | int value => exact spelled rfl rfl
  | bigInt value => exact spelled rfl rfl
  | timestamp micros => exact spelled rfl rfl
  | unsigned value =>
      by_cases small : value.toNat < signedBound
      · have read : (Value.unsigned value).toInt64? = some value.toInt64 := if_pos small
        exact spelled read (by simp only [decode, toDecimal, read])
      · have beyond : (Value.unsigned value).toInt64? = none := if_neg small
        rw [← Option.some_inj.mp denotes]
        simp only [decode, toDecimal, beyond, toUInt64?]
        rfl
  | _ => cases denotes

theorem integer?_ofUnsignedClamped (number : UInt64) :
    (ofUnsignedClamped number).integer? = some (number.toNat : Int) ↔
      number.toNat < signedBound := by
  rw [ofUnsignedClamped]
  split
  · rename_i small
    simp only [small, iff_true]
    exact congrArg some (Integer.toInt_toInt64 small)
  · rename_i large
    simp only [large, iff_false, integer?, Option.some_inj, Int64.toInt_maxValue]
    rw [signedBound] at large
    omega

/-- Clamping changes exactly the unsigned values that are reported as too large. -/
theorem signedOverflow?_eq_some {value : Value} {number : UInt64} :
    value.signedOverflow? = some number ↔
      value = .unsigned number ∧
        (ofUnsignedClamped number).integer? ≠ some (number.toNat : Int) := by
  rw [ne_eq, integer?_ofUnsignedClamped]
  cases value with
  | unsigned found =>
      rw [signedOverflow?]
      split
      · rename_i small
        simp only [reduceCtorEq, false_iff, unsigned.injEq, not_and, not_not]
        intro same
        exact same ▸ small
      · rename_i large
        simp only [Option.some_inj, unsigned.injEq]
        constructor
        · intro same
          exact ⟨same, same ▸ large⟩
        · intro same
          exact same.1
  | _ => simp [signedOverflow?]

/-! ### Agreement -/

/-- Conversions between values and native integers never change a number. A value is read as a kind
exactly when it denotes an integer that the kind has room for, and then as that integer; a native
integer is stored as a value that denotes it; the two 64-bit views show exactly the integers that
fit; a decimal is read as the only canonical numeral; and exactly the unsigned numbers that
clamping changes are reported as too large. -/
theorem integer_conversions (value : Value) :
    (∀ kind : IntegerKind,
      ((∃ native, value.decode kind.column = .ok native) ↔
        ∃ number, value.integer? = some number ∧ kind.Holds number) ∧
      (∀ native, value.decode kind.column = .ok native →
        value.integer? = some (kind.number native)) ∧
      ∀ native, (encode kind.column native).integer? = some (kind.number native)) ∧
    (value.toInt64?.isSome ↔
      ∃ number, value.integer? = some number ∧ IntegerKind.int64.Holds number) ∧
    (∀ number, value.toInt64? = some number → value.integer? = some number.toInt) ∧
    (value.toUInt64?.isSome ↔
      ∃ number, value.integer? = some number ∧ IntegerKind.uint64.Holds number) ∧
    (∀ number, value.toUInt64? = some number → value.integer? = some (number.toNat : Int)) ∧
    (∀ number, value.integer? = some number → (∀ truth, value ≠ .bool truth) →
      ∃ text, value.decode .decimal = .ok text ∧
        ∀ other, Text.IsNumeral other number ↔ other = text) ∧
    ∀ number, value.signedOverflow? = some number ↔
      value = .unsigned number ∧
        (ofUnsignedClamped number).integer? ≠ some (number.toNat : Int) := by
  refine ⟨?_, ?_, fun _ => toInt64?_eq_some.mp, ?_, fun _ => toUInt64?_eq_some.mp, ?_,
    fun _ => signedOverflow?_eq_some⟩
  · intro kind
    have room : (∃ native, value.decode kind.column = .ok native) ↔
        ∃ number, value.integer? = some number ∧ kind.Holds number := by
      simp only [decode_eq_ok, exists_native_iff]
    exact ⟨room, fun native => (decode_eq_ok kind value native).mp, integer?_encode kind⟩
  · simp only [Option.isSome_iff_exists, toInt64?_eq_some]
    exact exists_native_iff .int64 value
  · simp only [Option.isSome_iff_exists, toUInt64?_eq_some]
    exact exists_native_iff .uint64 value
  · intro number denotes plain
    exact ⟨_, decode_decimal denotes plain, fun other => Text.isNumeral_iff other number⟩

/-- A negative number is no unsigned native value, and its numeral has a minus sign. -/
theorem integer_conversions_negative :
    (Value.smallInt (-70)).integer? = some (-70) ∧
    (¬∃ native, (Value.smallInt (-70)).decode .uint64 = .ok native) ∧
    (∃ native, (Value.smallInt (-70)).decode .int8 = .ok native) ∧
    ∃ text, (Value.smallInt (-70)).decode .decimal = .ok text ∧ Text.IsNumeral text (-70) := by
  obtain ⟨reads, -, -, -, -, decimal, -⟩ := integer_conversions (.smallInt (-70))
  have denotes : (Value.smallInt (-70)).integer? = some (-70) := by decide
  refine ⟨denotes, ?_, ?_, ?_⟩
  · intro read
    obtain ⟨number, found, holds⟩ := (reads .uint64).1.mp read
    rw [← Option.some_inj.mp (denotes.symm.trans found)] at holds
    exact absurd holds (by decide)
  · exact (reads .int8).1.mpr ⟨-70, denotes, by decide⟩
  · obtain ⟨text, decoded, only⟩ := decimal (-70) denotes nofun
    exact ⟨text, decoded, (only text).mpr rfl⟩

end Value

end RecordMapper
