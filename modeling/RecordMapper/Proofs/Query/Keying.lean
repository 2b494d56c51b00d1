import RecordMapper.Proofs.Query.Merging
import RecordMapper.Proofs.Sql.Condition
import RecordMapper.Proofs.Value.Integer

set_option autoImplicit false

/-!
Keys as an engine compares them. Where keys are integers or texts, merging chooses the rows whose
values an engine finds equal to the root's; it need not know which engine this is.
-/

namespace RecordMapper

/-! ## Keys of integers and texts -/

def Row.valueOf (row : Row) (column : String) : Value :=
  (row.getByName? column).getD .null

theorem Row.valueOf_of_present {row : Row} {column : String} {value : Value}
    (present : row.getByName? column = some value) : row.valueOf column = value := by
  unfold valueOf
  rw [present]
  rfl

theorem Value.eq_null {value : Value} (isNull : value.isNull = true) : value = .null := by
  cases value with
  | null => rfl
  | _ => cases isNull

/-- What a value is equal by: its number or its letters. -/
def Sql.Comparison.content? : Value → Option (Int ⊕ String)
  | .text text => some (.inr text)
  | value => (integer? value).map .inl

theorem Sql.Comparison.content_integer {value : Value} {number : Int}
    (isInteger : integer? value = some number) : content? value = some (.inl number) := by
  cases value with
  | text text => cases isInteger
  | _ => simp [content?, isInteger]

namespace KeyKind

/-- Values of a key that is an integer or a text. -/
inductive Takes : KeyKind → Value → Prop where
  | null (kind : KeyKind) : Takes kind .null
  | int {value : Value} {number : Int} :
      Sql.Comparison.integer? value = some number → Takes .int value
  | uint {value : Value} {number : Int} :
      Sql.Comparison.integer? value = some number → Takes .uint value
  | text (text : String) : Takes .text (.text text)

/-- A column whose value in every row may be a key of a kind. -/
def TakesAll (kind : KeyKind) (column : String) (rows : List Row) : Prop :=
  ∀ row ∈ rows, ∃ value, row.getByName? column = some value ∧ kind.Takes value

end KeyKind

namespace KeyValue

open Sql

theorem toInt64?_integer {value : Value} {number : Int} {key : Int64}
    (isInteger : Comparison.integer? value = some number) (isKey : value.toInt64? = some key) :
    key.toInt = number := by
  cases value with
  | tinyInt value | smallInt value | int value | bigInt value =>
      cases isInteger
      cases isKey
      simp
  | unsigned value =>
      cases isInteger
      simp only [Value.toInt64?, Option.ite_none_right_eq_some, Option.some.injEq] at isKey
      obtain ⟨small, rfl⟩ := isKey
      exact Integer.toInt_toInt64 small
  | _ => cases isInteger

theorem toUInt64?_integer {value : Value} {number : Int} {key : UInt64}
    (isInteger : Comparison.integer? value = some number) (isKey : value.toUInt64? = some key) :
    (key.toNat : Int) = number := by
  unfold Value.toUInt64? at isKey
  split at isKey
  · cases isInteger
    cases isKey
    rfl
  · obtain ⟨signed, isSigned, natural⟩ := Option.bind_eq_some_iff.mp isKey
    rw [Option.ite_none_right_eq_some] at natural
    obtain ⟨natural, same⟩ := natural
    cases same
    rw [Integer.toNat_toUInt64 natural]
    exact toInt64?_integer isInteger isSigned

/-- Keys that are integers or texts are equal where an engine compares their values as equal. -/
theorem ofValue?_eq_iff {compare : Comparison} (usual : compare.Usual) {kind : KeyKind}
    {left right : Value} {first second : KeyValue} (leftTaken : kind.Takes left)
    (rightTaken : kind.Takes right) (isFirst : ofValue? kind left = some first)
    (isSecond : ofValue? kind right = some second) :
    first = second ↔ compare left right = some .eq := by
  have keyless (kind : KeyKind) : ofValue? kind .null = none := by
    cases kind <;> rfl
  cases leftTaken with
  | null =>
      rw [keyless] at isFirst
      cases isFirst
  | int leftInteger =>
      cases rightTaken with
      | null =>
          rw [keyless] at isSecond
          cases isSecond
      | int rightInteger =>
          obtain ⟨leftKey, isLeft, rfl⟩ := Option.map_eq_some_iff.mp isFirst
          obtain ⟨rightKey, isRight, rfl⟩ := Option.map_eq_some_iff.mp isSecond
          rw [usual.integers leftInteger rightInteger, ← toInt64?_integer leftInteger isLeft,
            ← toInt64?_integer rightInteger isRight, Int64.toInt_inj, KeyValue.int.injEq]
  | uint leftInteger =>
      cases rightTaken with
      | null =>
          rw [keyless] at isSecond
          cases isSecond
      | uint rightInteger =>
          obtain ⟨leftKey, isLeft, rfl⟩ := Option.map_eq_some_iff.mp isFirst
          obtain ⟨rightKey, isRight, rfl⟩ := Option.map_eq_some_iff.mp isSecond
          rw [usual.integers leftInteger rightInteger, ← toUInt64?_integer leftInteger isLeft,
            ← toUInt64?_integer rightInteger isRight, Int.natCast_inj, UInt64.toNat_inj,
            KeyValue.uint.injEq]
  | text left =>
      cases rightTaken with
      | null =>
          rw [keyless] at isSecond
          cases isSecond
      | text right =>
          cases isFirst
          cases isSecond
          rw [usual.texts, KeyValue.text.injEq]

end KeyValue

namespace KeyKind

open Sql

variable {compare : Comparison} {kind : KeyKind} {first second third : Value}

/-- Where a value is a key, two of them are equal as the same number or as the same letters. -/
theorem compare_eq_iff (usual : compare.Usual) (isFirst : kind.Takes first)
    (isSecond : kind.Takes second) :
    compare first second = some .eq ↔
      ∃ content, Comparison.content? first = some content ∧
        Comparison.content? second = some content := by
  have apart (value : Value) : compare value .null = some .eq ↔
      ∃ content, Comparison.content? value = some content ∧
        Comparison.content? .null = some content := by
    rw [(usual.null value).2]
    simp [Comparison.content?, Comparison.integer?]
  have integers {left right : Int} (isLeft : Comparison.integer? first = some left)
      (isRight : Comparison.integer? second = some right) :
      compare first second = some .eq ↔
        ∃ content, Comparison.content? first = some content ∧
          Comparison.content? second = some content := by
    rw [usual.integers isLeft isRight, Comparison.content_integer isLeft,
      Comparison.content_integer isRight]
    simp [eq_comm]
  cases isFirst with
  | null =>
      rw [(usual.null second).1]
      simp [Comparison.content?, Comparison.integer?]
  | int isLeft =>
      cases isSecond with
      | null => exact apart first
      | int isRight => exact integers isLeft isRight
  | uint isLeft =>
      cases isSecond with
      | null => exact apart first
      | uint isRight => exact integers isLeft isRight
  | text left =>
      cases isSecond with
      | null => exact apart _
      | text right =>
          rw [usual.texts]
          simp [Comparison.content?, eq_comm]

/-- Values of one key that equal the same value equal each other. -/
theorem compare_congr (usual : compare.Usual) (isFirst : kind.Takes first)
    (isSecond : kind.Takes second) (isThird : kind.Takes third)
    (equal : compare first third = some .eq) :
    compare second first = some .eq ↔ compare second third = some .eq := by
  obtain ⟨content, isContent, sameContent⟩ := (compare_eq_iff usual isFirst isThird).mp equal
  rw [compare_eq_iff usual isSecond isFirst, compare_eq_iff usual isSecond isThird, isContent,
    sameContent]

end KeyKind

/-! ## Rows of one key -/

namespace JoinedRows

variable {joined : JoinedRows} {record : RecordType} {field : String} {root : Row}
  {rows : List Row} {compare : Sql.Comparison}

theorem keyOf?_of_present {kind : KeyKind} {column : String} {row : Row} {value : Value}
    (present : row.getByName? column = some value) :
    kind.keyOf? column row =
      if value.isNull then some none else (KeyValue.ofValue? kind value).map some := by
  unfold KeyKind.keyOf?
  rw [present]
  rfl

theorem partners_of_relatedTo (exact : joined.keyKind ∈ KeyKind.exact)
    (succeeded : joined.relatedTo record field root = .ok rows) :
    (joined.rootKeyOf? root).isSome ∧ rows = joined.partners root ∧
      (joined.rootKeyOf? root = some none ∨
        ∀ row ∈ joined.rows, (joined.joinedKeyOf? row).isSome) := by
  cases isKey : joined.rootKeyOf? root with
  | none =>
      -- Neither a missing column nor an unreadable key lets the rows be told.
      unfold relatedTo at succeeded
      unfold rootKeyOf? KeyKind.keyOf? at isKey
      cases present : root.getByName? joined.rootKey with
      | none =>
          rw [present] at succeeded
          cases succeeded
      | some value =>
          rw [present, Option.bind_some, ← KeyValue.read_toOption] at isKey
          rw [present] at succeeded
          dsimp only at succeeded
          cases outcome : KeyValue.read joined.keyKind value with
          | error error =>
              rw [outcome] at succeeded
              cases succeeded
          | ok found =>
              rw [outcome] at isKey
              cases isKey
  | some found =>
      cases found with
      | none =>
          obtain ⟨value, present, isRead⟩ := exists_of_keyOf isKey
          unfold relatedTo at succeeded
          rw [present] at succeeded
          simp only [isRead] at succeeded
          cases succeeded
          have alone : ∀ row, joined.pairs root row = false := fun row => pairs_null (.inl isKey)
          exact ⟨rfl, by simp [partners, alone], .inl rfl⟩
      | some key =>
          have readable : ∀ row ∈ joined.rows, (joined.joinedKeyOf? row).isSome := by
            intro row member
            by_contra unreadable
            rw [Option.not_isSome_iff_eq_none] at unreadable
            obtain ⟨error, failed⟩ := relatedTo_error isKey ⟨row, member, unreadable⟩
            rw [failed] at succeeded
            cases succeeded
          have rootReadable : (joined.rootKeyOf? root).isSome := by
            rw [isKey]
            rfl
          rw [relatedTo_ok exact rootReadable readable] at succeeded
          cases succeeded
          exact ⟨rfl, rfl, .inr readable⟩

/-- Where merging succeeds, it chooses as an engine would that compares the keys. -/
theorem mem_of_relatedTo (usual : compare.Usual) (exact : joined.keyKind ∈ KeyKind.exact)
    {value : Value} (present : root.getByName? joined.rootKey = some value)
    (taken : joined.keyKind.Takes value)
    (allTaken : joined.keyKind.TakesAll joined.joinedKey joined.rows)
    (succeeded : joined.relatedTo record field root = .ok rows) :
    rows = joined.rows.filter fun row =>
      compare value (row.valueOf joined.joinedKey) == some .eq := by
  obtain ⟨rootReadable, rfl, readable⟩ := partners_of_relatedTo exact succeeded
  refine List.filter_congr fun row member => ?_
  obtain ⟨other, otherPresent, otherTaken⟩ := allTaken row member
  have rootKey : joined.rootKeyOf? root = _ := keyOf?_of_present present
  have rowKey : joined.joinedKeyOf? row = _ := keyOf?_of_present otherPresent
  rw [Row.valueOf_of_present otherPresent]
  cases isNull : value.isNull with
  | true =>
      obtain rfl := Value.eq_null isNull
      rw [pairs_null (.inl rootKey), (usual.null other).1]
      rfl
  | false =>
      cases otherNull : other.isNull with
      | true =>
          obtain rfl := Value.eq_null otherNull
          rw [pairs_null (.inr rowKey), (usual.null value).2]
          rfl
      | false =>
          simp only [isNull, Bool.false_eq_true, if_false] at rootKey
          simp only [otherNull, Bool.false_eq_true, if_false] at rowKey
          obtain ⟨first, isFirst⟩ : ∃ first, KeyValue.ofValue? joined.keyKind value = some first := by
            rw [rootKey] at rootReadable
            exact Option.isSome_iff_exists.mp (by simpa using rootReadable)
          obtain ⟨second, isSecond⟩ :
              ∃ second, KeyValue.ofValue? joined.keyKind other = some second := by
            rcases readable with rootNone | allReadable
            · rw [rootKey, isFirst] at rootNone
              cases rootNone
            · have rowReadable := allReadable row member
              rw [rowKey] at rowReadable
              exact Option.isSome_iff_exists.mp (by simpa using rowReadable)
          have sameKey := KeyValue.ofValue?_eq_iff usual taken otherTaken isFirst isSecond
          unfold pairs
          rw [rootKey, rowKey, isFirst, isSecond]
          exact Bool.eq_iff_iff.mpr (by simpa using sameKey)

end JoinedRows

end RecordMapper
