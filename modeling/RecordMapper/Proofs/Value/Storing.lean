import RecordMapper.Engine.Storage
import RecordMapper.Proofs.Value.Integer
import RecordMapper.Value.Native

set_option autoImplicit false

/-!
Values through storage. An engine with five storage classes forgets which kind of integer, text or
blob it was given, and still each kind but the floating ones reads its own value back.
-/

namespace RecordMapper

open Engine (Stored)

/-! ## Text -/

theorem Text.Utf8.toList_loop (bytes : ByteArray) (index : Nat) (read : List UInt8) :
    ByteArray.toList.loop bytes index read = read.reverse ++ bytes.data.toList.drop index := by
  induction index, read using ByteArray.toList.loop.induct bytes with
  | case1 index read more ih =>
      have inside : index < bytes.data.toList.length := by simpa using more
      rw [ByteArray.toList.loop, if_pos more, ih, List.drop_eq_getElem_cons inside]
      simp [ByteArray.get!, getElem!_pos bytes.data index more]
  | case2 index read ended =>
      have outside : bytes.data.toList.length ≤ index := by simpa using ended
      rw [ByteArray.toList.loop, if_neg ended, List.drop_of_length_le outside, List.append_nil]

theorem Text.Utf8.decode_encode (text : String) : decode (encode text) = .ok text := by
  have bytes : (encode text).toByteArray = text.toByteArray := by
    ext1
    simp [encode, ByteArray.toList, toList_loop]
  rw [decode, bytes, String.fromUTF8?, dif_pos text.isValidUTF8]
  rfl

/-! ## Integers -/

/-- The value is an integer and reads as the number. -/
structure Value.ReadsAs (value : Value) (number : Int64) : Prop where
  isNull : value.isNull = false
  toInt64? : value.toInt64? = some number
  toUInt64? : value.toUInt64? = if 0 ≤ number then some number.toUInt64 else none
  toBool? : value.toBool? = some (number != 0)

theorem Engine.Stored.toValue_integer (number : Int64) :
    ∃ value, (Stored.integer number).toValue = .ok value ∧ value.ReadsAs number := by
  by_cases narrow : number.toInt32.toInt64 = number
  · have zero : number.toInt32 = 0 ↔ number = 0 := by
      constructor
      · intro isZero
        rw [← narrow, isZero]
        rfl
      · rintro rfl
        rfl
    have nonzero : (number.toInt32 != 0) = (number != 0) := by
      rw [Bool.eq_iff_iff, bne_iff_ne, bne_iff_ne, ne_eq, ne_eq, zero]
    refine ⟨.int number.toInt32, if_pos narrow, rfl, congrArg some narrow, ?_,
      congrArg some nonzero⟩
    simp [Value.toUInt64?, Value.toInt64?, narrow]
  · exact ⟨.bigInt number, if_neg narrow, rfl, rfl, rfl, rfl⟩

/-! ## Kinds -/

namespace Value

/-- What is stored is read as a value that is not NULL and that decodes to the native one. -/
def Recovers (stored : Stored) (kind : ColumnKind) (native : kind.Native) : Prop :=
  ∃ value, stored.toValue = .ok value ∧ value.isNull = false ∧ value.decode kind = .ok native

theorem Recovers.integer {kind : ColumnKind} {native : kind.Native} {number : Int64}
    (decodes : ∀ value : Value, value.ReadsAs number → value.decode kind = .ok native) :
    Recovers (.integer number) kind native := by
  obtain ⟨value, read, reads⟩ := Stored.toValue_integer number
  exact ⟨value, read, reads.isNull, decodes value reads⟩

theorem Recovers.within {kind : ColumnKind} {native : kind.Native} {number : Int64}
    {lower upper : Int} {narrow : Int64 → kind.Native}
    (decodes : ∀ value : Value, value.decode kind = (value.toIntWithin lower upper).map narrow)
    (above : lower ≤ number.toInt) (below : number.toInt ≤ upper) (back : narrow number = native) :
    Recovers (.integer number) kind native := by
  refine .integer fun value reads => ?_
  rw [decodes, toIntWithin, reads.toInt64?]
  dsimp only
  rw [if_pos ⟨above, below⟩, ← back]
  rfl

theorem Recovers.text {kind : ColumnKind} {native : kind.Native} {text : String}
    (decodes : (Value.text text).decode kind = .ok native) :
    Recovers (.text (Text.Utf8.encode text)) kind native := by
  refine ⟨.text text, ?_, rfl, decodes⟩
  rw [Stored.toValue, Text.Utf8.decode_encode]
  rfl

theorem recovers {kind : ColumnKind} (exact : kind ≠ .float ∧ kind ≠ .double)
    {native : kind.Native} {stored : Stored}
    (isStored : Stored.ofValue? (encode kind native) = some stored) :
    Recovers stored kind native := by
  cases kind with
  | bool =>
      cases isStored
      refine .integer fun value reads => ?_
      rw [decode, reads.toBool?]
      cases native <;> rfl
  | int8 =>
      cases isStored
      have above : -128 ≤ native.toInt64.toInt := by simpa using native.le_toInt
      have below : native.toInt64.toInt ≤ 127 := by
        rw [Int8.toInt_toInt64]
        exact native.toInt_le
      exact .within (fun _ => rfl) above below (Int8.toInt8_toInt64 native)
  | int16 =>
      cases isStored
      have above : -32768 ≤ native.toInt64.toInt := by simpa using native.le_toInt
      have below : native.toInt64.toInt ≤ 32767 := by
        rw [Int16.toInt_toInt64]
        exact native.toInt_le
      exact .within (fun _ => rfl) above below (Int16.toInt16_toInt64 native)
  | int32 =>
      cases isStored
      have above : -2147483648 ≤ native.toInt64.toInt := by simpa using native.le_toInt
      have below : native.toInt64.toInt ≤ 2147483647 := by
        rw [Int32.toInt_toInt64]
        exact native.toInt_le
      exact .within (fun _ => rfl) above below (Int32.toInt32_toInt64 native)
  | int64 =>
      cases isStored
      refine .integer fun value reads => ?_
      rw [decode, reads.toInt64?]
      rfl
  | uint8 =>
      cases isStored
      have bound := native.toNat_lt
      have widened : native.toUInt16.toInt16.toInt64.toInt = native.toNat :=
        (Int16.toInt_toInt64 _).trans (Integer.toInt_widened native.toBitVec (by decide))
      refine .within (fun _ => rfl) (by omega) (by omega) ?_
      rw [← UInt8.toNat_inj, UInt64.toNat_toUInt8, Integer.toNat_toUInt64_of widened]
      omega
  | uint16 =>
      cases isStored
      have bound := native.toNat_lt
      have widened : native.toUInt32.toInt32.toInt64.toInt = native.toNat :=
        (Int32.toInt_toInt64 _).trans (Integer.toInt_widened native.toBitVec (by decide))
      refine .within (fun _ => rfl) (by omega) (by omega) ?_
      rw [← UInt16.toNat_inj, UInt64.toNat_toUInt16, Integer.toNat_toUInt64_of widened]
      omega
  | uint32 =>
      cases isStored
      have bound := native.toNat_lt
      have widened : native.toUInt64.toInt64.toInt = native.toNat :=
        Integer.toInt_widened native.toBitVec (by decide)
      refine .within (fun _ => rfl) (by omega) (by omega) ?_
      rw [← UInt32.toNat_inj, UInt64.toNat_toUInt32, Integer.toNat_toUInt64_of widened]
      omega
  | uint64 =>
      obtain ⟨number, isNumber, rfl⟩ := Option.map_eq_some_iff.mp isStored
      obtain ⟨small, same⟩ := Option.ite_none_right_eq_some.mp isNumber
      cases same
      refine .integer fun value reads => ?_
      have nonnegative : 0 ≤ native.toInt64 := by
        simp [Int64.le_iff_toInt_le, Integer.toInt_toInt64 small]
      rw [decode, reads.toUInt64?, if_pos nonnegative]
      rfl
  | float => exact absurd rfl exact.1
  | double => exact absurd rfl exact.2
  | decimal =>
      cases isStored
      exact .text rfl
  | text =>
      cases isStored
      exact .text rfl
  | blob =>
      cases isStored
      exact ⟨.bytes native, rfl, rfl, rfl⟩
  | uuid =>
      cases isStored
      have length : native.toList.length = 16 := by simp
      refine ⟨.bytes native.toList, rfl, rfl, (dif_pos length).trans ?_⟩
      exact congrArg Except.ok (by ext; simp)
  | timestamp =>
      cases isStored
      refine .integer fun value reads => ?_
      rw [decode, reads.toInt64?]
      rfl

end Value

theorem NativeType.recovers {type : NativeType} {kind : ColumnKind}
    (isKind : type.kind? = some kind) (exact : kind ≠ .float ∧ kind ≠ .double)
    {native : type.Carrier} {stored : Stored}
    (isStored : Stored.ofValue? (type.encode native) = some stored) :
    ∃ value, stored.toValue = .ok value ∧ type.decode value = .ok native := by
  cases type with
  | any => cases isKind
  | required kind =>
      cases isKind
      obtain ⟨value, read, -, decodes⟩ := Value.recovers exact isStored
      exact ⟨value, read, decodes⟩
  | optional kind =>
      cases isKind
      cases native with
      | none =>
          cases isStored
          exact ⟨.null, rfl, rfl⟩
      | some native =>
          obtain ⟨value, read, present, decodes⟩ := Value.recovers exact isStored
          refine ⟨value, read, ?_⟩
          simp [decode, present, decodes, Except.map]

/-- Only numbers beyond the signed range cannot be stored. -/
theorem Engine.Stored.ofValue?_eq_none_iff {value : Value} :
    ofValue? value = none ↔
      ∃ number, value = .unsigned number ∧ 9223372036854775807 < number.toNat := by
  cases value with
  | unsigned number =>
      have bounded : ofValue? (.unsigned number) = none ↔ ¬number.toNat < Value.signedBound := by
        simp [ofValue?, Value.toInt64?]
      rw [bounded, Nat.not_lt]
      constructor
      · exact fun large => ⟨number, rfl, large⟩
      · rintro ⟨_, same, large⟩
        cases same
        exact large
  | _ => simp [ofValue?]

end RecordMapper
