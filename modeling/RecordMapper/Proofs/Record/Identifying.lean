import RecordMapper.Proofs.Query.Merging
import RecordMapper.Proofs.Value.Denoting

set_option autoImplicit false

/-!
What join keys tell apart. Of every kind but the floating-point ones a key is what its value
denotes: an integer, whether it is zero, a text or bytes. So two values have the same key exactly
when they denote the same, and values that are read as one native value join.
-/

namespace RecordMapper

/-! ## What values denote -/

/-- The text that a value is. -/
inductive Value.IsText : Value → String → Prop where
  | text (text : String) : IsText (.text text) text
  | decimal (digits : String) : IsText (.decimal digits) digits

/-- The bytes that a value is made of. -/
inductive Value.IsBytes : Value → List UInt8 → Prop where
  | bytes (bytes : List UInt8) : IsBytes (.bytes bytes) bytes
  | uuid (bytes : Vector UInt8 16) : IsBytes (.uuid bytes) bytes.toList
  | text (text : String) : IsBytes (.text text) (Text.Utf8.encode text)

/-- A value that has a key of a kind. -/
inductive KeyKind.Admits : KeyKind → Value → Prop where
  | bool {value : Value} {number : Int} :
      value.integer? = some number → (∀ micros, value ≠ .timestamp micros) → Admits .bool value
  | int {value : Value} {number : Int} :
      value.integer? = some number → IntegerKind.int64.Holds number → Admits .int value
  | uint {value : Value} {number : Int} :
      value.integer? = some number → IntegerKind.uint64.Holds number → Admits .uint value
  | timestamp {value : Value} {number : Int} :
      value.integer? = some number → IntegerKind.int64.Holds number → Admits .timestamp value
  | text {value : Value} {text : String} : value.IsText text → Admits .text value
  | blob {value : Value} {bytes : List UInt8} : value.IsBytes bytes → Admits .blob value

/-- Two values that are the same as keys of a kind, whatever their variants. -/
inductive KeyKind.Same : KeyKind → Value → Value → Prop where
  | bool {left right : Value} {number other : Int} :
      left.integer? = some number → right.integer? = some other → (number = 0 ↔ other = 0) →
      Same .bool left right
  | int {left right : Value} {number : Int} :
      left.integer? = some number → right.integer? = some number → Same .int left right
  | uint {left right : Value} {number : Int} :
      left.integer? = some number → right.integer? = some number → Same .uint left right
  | timestamp {left right : Value} {number : Int} :
      left.integer? = some number → right.integer? = some number → Same .timestamp left right
  | text {left right : Value} {text : String} :
      left.IsText text → right.IsText text → Same .text left right
  | blob {left right : Value} {bytes : List UInt8} :
      left.IsBytes bytes → right.IsBytes bytes → Same .blob left right

namespace Value

variable {value : Value}

theorem text?_eq_some {text : String} : value.text? = some text ↔ value.IsText text := by
  constructor
  · intro isText
    cases value with
    | text found =>
        cases isText
        exact .text _
    | decimal digits =>
        cases isText
        exact .decimal _
    | _ => cases isText
  · rintro (_ | _) <;> rfl

theorem bytes?_eq_some {bytes : List UInt8} : value.bytes? = some bytes ↔ value.IsBytes bytes := by
  constructor
  · intro isBytes
    cases value with
    | bytes found =>
        cases isBytes
        exact .bytes _
    | uuid found =>
        cases isBytes
        exact .uuid _
    | text found =>
        cases isBytes
        exact .text _
    | _ => cases isBytes
  · rintro (_ | _ | _) <;> rfl

/-- A number is true unless it is zero; a timestamp is no truth value. -/
theorem toBool?_eq_some {truth : Bool} :
    value.toBool? = some truth ↔
      ∃ number, value.integer? = some number ∧ (∀ micros, value ≠ .timestamp micros) ∧
        truth = decide (number ≠ 0) := by
  have denoting {found : Bool} {number : Int} (denotes : value.integer? = some number)
      (read : value.toBool? = some found) (plain : ∀ micros, value ≠ .timestamp micros)
      (same : found = true ↔ number ≠ 0) :
      value.toBool? = some truth ↔
        ∃ number, value.integer? = some number ∧ (∀ micros, value ≠ .timestamp micros) ∧
          truth = decide (number ≠ 0) := by
    have sameTruth : found = decide (number ≠ 0) := by
      rw [Bool.eq_iff_iff, same, decide_eq_true_eq]
    rw [read, denotes, sameTruth]
    constructor
    · intro isTruth
      exact ⟨number, rfl, plain, (Option.some_inj.mp isTruth).symm⟩
    · rintro ⟨other, isOther, -, rfl⟩
      rw [Option.some_inj.mp isOther]
  cases value with
  | bool value => exact denoting rfl rfl nofun (by cases value <;> decide)
  | tinyInt value => exact denoting rfl rfl nofun (by simp [← Int8.toInt_inj])
  | smallInt value => exact denoting rfl rfl nofun (by simp [← Int16.toInt_inj])
  | int value => exact denoting rfl rfl nofun (by simp [← Int32.toInt_inj])
  | bigInt value => exact denoting rfl rfl nofun (by simp [← Int64.toInt_inj])
  | unsigned value => exact denoting rfl rfl nofun (by simp [← UInt64.toNat_inj])
  | timestamp micros =>
      refine iff_of_false nofun ?_
      rintro ⟨number, -, plain, -⟩
      exact plain micros rfl
  | _ => simp [toBool?, integer?]

theorem decode_bool {native : Bool} :
    value.decode .bool = .ok native ↔ value.toBool? = some native := by
  refine decode_view .bool value value.toBool? ?_ native
  rw [decode]
  cases value.toBool? <;> rfl

theorem decode_text {native : String} :
    value.decode .text = .ok native ↔ value.text? = some native := by
  refine decode_view .text value value.text? ?_ native
  rw [decode]
  cases value.text? <;> rfl

theorem decode_blob {native : List UInt8} :
    value.decode .blob = .ok native ↔ value.bytes? = some native := by
  refine decode_view .blob value value.bytes? ?_ native
  rw [decode]
  cases value.bytes? <;> rfl

end Value

/-! ## Keys -/

/-- The key of a value, by what the value denotes. -/
inductive KeyKind.Keys : KeyKind → Value → KeyValue → Prop where
  | bool {value : Value} {number : Int} :
      value.integer? = some number → (∀ micros, value ≠ .timestamp micros) →
      Keys .bool value (.bool (decide (number ≠ 0)))
  | int {value : Value} {number : Int64} :
      value.integer? = some number.toInt → Keys .int value (.int number)
  | uint {value : Value} {number : UInt64} :
      value.integer? = some (number.toNat : Int) → Keys .uint value (.uint number)
  | timestamp {value : Value} {micros : Int64} :
      value.integer? = some micros.toInt → Keys .timestamp value (.timestamp micros)
  | text {value : Value} {text : String} : value.IsText text → Keys .text value (.text text)
  | blob {value : Value} {bytes : List UInt8} :
      value.IsBytes bytes → Keys .blob value (.blob bytes)

namespace KeyValue

variable {kind : KeyKind} {value left right : Value} {key other : KeyValue} {error : Error}

theorem ofValue?_eq_some (exact : kind ∈ KeyKind.exact) :
    ofValue? kind value = some key ↔ kind.Keys value key := by
  cases kind with
  | float | double => simp [KeyKind.exact] at exact
  | bool =>
      simp only [ofValue?, Option.map_eq_some_iff, Value.toBool?_eq_some]
      constructor
      · rintro ⟨_, ⟨number, denotes, plain, rfl⟩, rfl⟩
        exact .bool denotes plain
      · intro keys
        cases keys with
        | bool denotes plain => exact ⟨_, ⟨_, denotes, plain, rfl⟩, rfl⟩
  | int =>
      simp only [ofValue?, Option.map_eq_some_iff, Value.toInt64?_eq_some]
      constructor
      · rintro ⟨number, denotes, rfl⟩
        exact .int denotes
      · intro keys
        cases keys with
        | int denotes => exact ⟨_, denotes, rfl⟩
  | uint =>
      simp only [ofValue?, Option.map_eq_some_iff, Value.toUInt64?_eq_some]
      constructor
      · rintro ⟨number, denotes, rfl⟩
        exact .uint denotes
      · intro keys
        cases keys with
        | uint denotes => exact ⟨_, denotes, rfl⟩
  | timestamp =>
      simp only [ofValue?, Option.map_eq_some_iff, Value.toInt64?_eq_some]
      constructor
      · rintro ⟨micros, denotes, rfl⟩
        exact .timestamp denotes
      · intro keys
        cases keys with
        | timestamp denotes => exact ⟨_, denotes, rfl⟩
  | text =>
      simp only [ofValue?, Option.map_eq_some_iff, Value.text?_eq_some]
      constructor
      · rintro ⟨text, isText, rfl⟩
        exact .text isText
      · intro keys
        cases keys with
        | text isText => exact ⟨_, isText, rfl⟩
  | blob =>
      simp only [ofValue?, Option.map_eq_some_iff, Value.bytes?_eq_some]
      constructor
      · rintro ⟨bytes, isBytes, rfl⟩
        exact .blob isBytes
      · intro keys
        cases keys with
        | blob isBytes => exact ⟨_, isBytes, rfl⟩

theorem exists_keys (exact : kind ∈ KeyKind.exact) :
    (∃ key, kind.Keys value key) ↔ kind.Admits value := by
  constructor
  · rintro ⟨_, keys⟩
    cases keys with
    | bool denotes plain => exact .bool denotes plain
    | int denotes => exact .int denotes (IntegerKind.holds_number .int64 _)
    | uint denotes => exact .uint denotes (IntegerKind.holds_number .uint64 _)
    | timestamp denotes => exact .timestamp denotes (IntegerKind.holds_number .int64 _)
    | text isText => exact .text isText
    | blob isBytes => exact .blob isBytes
  · intro admits
    cases admits with
    | bool denotes plain => exact ⟨_, .bool denotes plain⟩
    | int denotes holds =>
        obtain ⟨native, rfl⟩ := IntegerKind.exists_number holds
        exact ⟨_, .int denotes⟩
    | uint denotes holds =>
        obtain ⟨native, rfl⟩ := IntegerKind.exists_number holds
        exact ⟨_, .uint denotes⟩
    | timestamp denotes holds =>
        obtain ⟨native, rfl⟩ := IntegerKind.exists_number holds
        exact ⟨_, .timestamp denotes⟩
    | text isText => exact ⟨_, .text isText⟩
    | blob isBytes => exact ⟨_, .blob isBytes⟩

theorem some_eq_iff {Item : Type} {first second : Option Item} {item another : Item}
    (isFirst : first = some item) (isSecond : second = some another) :
    item = another ↔ ∃ same, first = some same ∧ second = some same := by
  rw [isFirst, isSecond]
  simp only [Option.some_inj, exists_eq_left', eq_comm]

/-- Keys of one kind are equal exactly when their values denote the same. -/
theorem eq_iff_same (isLeft : kind.Keys left key) (isRight : kind.Keys right other) :
    key = other ↔ kind.Same left right := by
  cases isLeft with
  | bool denotes _ =>
      cases isRight with
      | bool otherDenotes _ =>
          rw [KeyValue.bool.injEq, decide_eq_decide, not_iff_not]
          constructor
          · exact .bool denotes otherDenotes
          · intro isSame
            cases isSame with
            | bool again otherAgain same =>
                rwa [Option.some_inj.mp (denotes.symm.trans again),
                  Option.some_inj.mp (otherDenotes.symm.trans otherAgain)]
  | int denotes =>
      cases isRight with
      | int otherDenotes =>
          rw [KeyValue.int.injEq, ← Int64.toInt_inj, some_eq_iff denotes otherDenotes]
          constructor
          · rintro ⟨_, first, second⟩
            exact .int first second
          · intro isSame
            cases isSame with
            | int first second => exact ⟨_, first, second⟩
  | uint denotes =>
      cases isRight with
      | uint otherDenotes =>
          rw [KeyValue.uint.injEq, ← UInt64.toNat_inj, ← Int.ofNat_inj,
            some_eq_iff denotes otherDenotes]
          constructor
          · rintro ⟨_, first, second⟩
            exact .uint first second
          · intro isSame
            cases isSame with
            | uint first second => exact ⟨_, first, second⟩
  | timestamp denotes =>
      cases isRight with
      | timestamp otherDenotes =>
          rw [KeyValue.timestamp.injEq, ← Int64.toInt_inj, some_eq_iff denotes otherDenotes]
          constructor
          · rintro ⟨_, first, second⟩
            exact .timestamp first second
          · intro isSame
            cases isSame with
            | timestamp first second => exact ⟨_, first, second⟩
  | text isText =>
      cases isRight with
      | text otherIsText =>
          rw [KeyValue.text.injEq, some_eq_iff (Value.text?_eq_some.mpr isText)
            (Value.text?_eq_some.mpr otherIsText)]
          simp only [Value.text?_eq_some]
          constructor
          · rintro ⟨_, first, second⟩
            exact .text first second
          · intro isSame
            cases isSame with
            | text first second => exact ⟨_, first, second⟩
  | blob isBytes =>
      cases isRight with
      | blob otherIsBytes =>
          rw [KeyValue.blob.injEq, some_eq_iff (Value.bytes?_eq_some.mpr isBytes)
            (Value.bytes?_eq_some.mpr otherIsBytes)]
          simp only [Value.bytes?_eq_some]
          constructor
          · rintro ⟨_, first, second⟩
            exact .blob first second
          · intro isSame
            cases isSame with
            | blob first second => exact ⟨_, first, second⟩

/-! ## Reading -/

/-- The error for a value that has no key of the kind. -/
def incomparable (kind : KeyKind) (value : Value) : Error :=
  .conversion ⟨"join key", s!"{value.typeName} cannot be compared as {kind.name}", none⟩

theorem ofValue?_null (kind : KeyKind) : ofValue? kind .null = none := by
  cases kind <;> rfl

theorem read_of_key (isKey : ofValue? kind value = some key) :
    read kind value = .ok (some key) := by
  have present : ¬value.isNull = true := by
    intro isNull
    cases value with
    | null =>
        rw [ofValue?_null] at isKey
        cases isKey
    | _ => cases isNull
  rw [read, if_neg present, isKey]

theorem read_of_none (present : value ≠ .null) (noKey : ofValue? kind value = none) :
    read kind value = .error (incomparable kind value) := by
  have notNull : ¬value.isNull = true := by
    intro isNull
    cases value with
    | null => exact present rfl
    | _ => cases isNull
  rw [read, if_neg notNull, noKey]
  rfl

theorem read_eq_some : read kind value = .ok (some key) ↔ ofValue? kind value = some key := by
  refine ⟨fun isRead => ?_, read_of_key⟩
  cases outcome : ofValue? kind value with
  | some found =>
      rw [read_of_key outcome] at isRead
      cases isRead
      rfl
  | none =>
      by_cases isNull : value = .null
      · subst isNull
        cases isRead
      · rw [read_of_none isNull outcome] at isRead
        cases isRead

theorem read_eq_none : read kind value = .ok none ↔ value = .null := by
  constructor
  · intro isRead
    by_contra present
    cases outcome : ofValue? kind value with
    | some found =>
        rw [read_of_key outcome] at isRead
        cases isRead
    | none =>
        rw [read_of_none present outcome] at isRead
        cases isRead
  · rintro rfl
    rfl

theorem read_eq_error :
    read kind value = .error error ↔
      value ≠ .null ∧ ofValue? kind value = none ∧ error = incomparable kind value := by
  constructor
  · intro isRead
    have present : value ≠ .null := by
      rintro rfl
      cases isRead
    cases outcome : ofValue? kind value with
    | some found =>
        rw [read_of_key outcome] at isRead
        cases isRead
    | none =>
        rw [read_of_none present outcome] at isRead
        cases isRead
        exact ⟨present, rfl, rfl⟩
  · rintro ⟨present, noKey, rfl⟩
    exact read_of_none present noKey

/-! ## Native values -/

/-- Native integers of the signed range are compared as the 64-bit numbers that are their keys. -/
theorem decode_signed {integer : IntegerKind} {native another : integer.column.Native}
    (narrow : integer ≠ .uint64) (isLeft : left.decode integer.column = .ok native)
    (isRight : right.decode integer.column = .ok another) :
    ∃ number other : Int64, left.integer? = some number.toInt ∧
      right.integer? = some other.toInt ∧ (number = other ↔ native = another) := by
  have signed (native : integer.column.Native) :
      ∃ number : Int64, number.toInt = integer.number native :=
    @IntegerKind.exists_number .int64 _
      (integer.holds_signed narrow _ (integer.holds_number native))
  obtain ⟨number, isNumber⟩ := signed native
  obtain ⟨other, isOther⟩ := signed another
  refine ⟨number, other, ?_, ?_, ?_⟩
  · rw [isNumber]
    exact (Value.decode_eq_ok integer left native).mp isLeft
  · rw [isOther]
    exact (Value.decode_eq_ok integer right another).mp isRight
  · rw [← Int64.toInt_inj, isNumber, isOther]
    exact ⟨IntegerKind.number_injective, congrArg _⟩

/-- What is read as native values has keys, which are equal where the native values are. -/
theorem decode_keys {column : ColumnKind} {native another : column.Native}
    (isKind : KeyKind.ofColumn? column = some kind) (exact : kind ∈ KeyKind.exact)
    (isLeft : left.decode column = .ok native) (isRight : right.decode column = .ok another) :
    ∃ key other, kind.Keys left key ∧ kind.Keys right other ∧ (key = other ↔ native = another) := by
  have narrow (integer : IntegerKind) (isNarrow : integer ≠ .uint64)
      {native another : integer.column.Native} (isLeft : left.decode integer.column = .ok native)
      (isRight : right.decode integer.column = .ok another) :
      ∃ key other, KeyKind.int.Keys left key ∧ KeyKind.int.Keys right other ∧
        (key = other ↔ native = another) := by
    obtain ⟨number, other, denotes, otherDenotes, same⟩ := decode_signed isNarrow isLeft isRight
    exact ⟨_, _, .int denotes, .int otherDenotes, (KeyValue.int.injEq ..).to_iff.trans same⟩
  -- The other columns are read through the very view that gives the key.
  have viewed (make : column.Native → KeyValue) (injective : Function.Injective make)
      (isKey : ∀ {value native}, value.decode column = .ok native →
        ofValue? kind value = some (make native)) :
      ∃ key other, kind.Keys left key ∧ kind.Keys right other ∧ (key = other ↔ native = another) :=
    ⟨make native, make another, (ofValue?_eq_some exact).mp (isKey isLeft),
      (ofValue?_eq_some exact).mp (isKey isRight), injective.eq_iff⟩
  cases column with
  | float | double | decimal | uuid => cases isKind <;> simp [KeyKind.exact] at exact
  | bool =>
      cases isKind
      exact viewed .bool (fun _ _ => KeyValue.bool.inj) fun read =>
        congrArg (Option.map KeyValue.bool) (Value.decode_bool.mp read)
  | int8 =>
      cases isKind
      exact narrow .int8 (by decide) isLeft isRight
  | int16 =>
      cases isKind
      exact narrow .int16 (by decide) isLeft isRight
  | int32 =>
      cases isKind
      exact narrow .int32 (by decide) isLeft isRight
  | int64 =>
      cases isKind
      exact narrow .int64 (by decide) isLeft isRight
  | uint8 =>
      cases isKind
      exact narrow .uint8 (by decide) isLeft isRight
  | uint16 =>
      cases isKind
      exact narrow .uint16 (by decide) isLeft isRight
  | uint32 =>
      cases isKind
      exact narrow .uint32 (by decide) isLeft isRight
  | uint64 =>
      cases isKind
      exact viewed .uint (fun _ _ => KeyValue.uint.inj) fun read =>
        congrArg (Option.map KeyValue.uint)
          (Value.toUInt64?_eq_some.mpr ((Value.decode_eq_ok .uint64 _ _).mp read))
  | text =>
      cases isKind
      exact viewed .text (fun _ _ => KeyValue.text.inj) fun read =>
        congrArg (Option.map KeyValue.text) (Value.decode_text.mp read)
  | blob =>
      cases isKind
      exact viewed .blob (fun _ _ => KeyValue.blob.inj) fun read =>
        congrArg (Option.map KeyValue.blob) (Value.decode_blob.mp read)
  | timestamp =>
      cases isKind
      exact viewed .timestamp (fun _ _ => KeyValue.timestamp.inj) fun read =>
        congrArg (Option.map KeyValue.timestamp)
          (Value.toInt64?_eq_some.mpr ((Value.decode_eq_ok .timestamp _ _).mp read))

end KeyValue

/-! ## Rows -/

/-- A buffered row is among those of a root row when the keys are equal. -/
theorem JoinedRows.mem_relatedTo {joined : JoinedRows} {record : RecordType} {field : String}
    {root row : Row} {found : List Row} {left right : Value} {key other : KeyValue}
    (exact : joined.keyKind ∈ KeyKind.exact) (isRoot : root.getByName? joined.rootKey = some left)
    (isRow : row.getByName? joined.joinedKey = some right) (isLeft : joined.keyKind.Keys left key)
    (isRight : joined.keyKind.Keys right other) (member : row ∈ joined.rows)
    (related : joined.relatedTo record field root = .ok found) : row ∈ found ↔ key = other := by
  have keyed {value : Value} {column : String} {row : Row} {key : KeyValue}
      (present : row.getByName? column = some value) (keys : joined.keyKind.Keys value key) :
      joined.keyKind.keyOf? column row = some (some key) := by
    rw [KeyKind.keyOf?, present, Option.bind_some, ← KeyValue.read_toOption,
      KeyValue.read_of_key ((KeyValue.ofValue?_eq_some exact).mpr keys)]
    rfl
  have rootKeyed : joined.rootKeyOf? root = some (some key) := keyed isRoot isLeft
  have rowKeyed : joined.joinedKeyOf? row = some (some other) := keyed isRow isRight
  have readable : ∀ row ∈ joined.rows, (joined.joinedKeyOf? row).isSome := by
    intro row member
    by_contra unreadable
    have isNone := Option.not_isSome_iff_eq_none.mp unreadable
    obtain ⟨error, failed⟩ := relatedTo_error rootKeyed ⟨row, member, isNone⟩
    rw [failed] at related
    cases related
  rw [relatedTo_ok exact (by rw [rootKeyed]; rfl) readable] at related
  cases related
  unfold partners pairs
  rw [List.mem_filter, rootKeyed, rowKeyed]
  simp [member]

namespace KeyValue

/-- A key of every kind but the floating-point ones is what its value denotes. NULL has none, other
values fail to have one exactly when the kind does not admit them, and keys are equal exactly when
the values are the same for the kind. So rows whose keys are read as native values are related
exactly when these are equal. -/
theorem read_identifies (kind : KeyKind) (exact : kind ∈ KeyKind.exact) :
    (∀ value, read kind value = .ok none ↔ value = .null) ∧
    (∀ value error, read kind value = .error error ↔
      (value ≠ .null ∧ ¬kind.Admits value) ∧ error = incomparable kind value) ∧
    (∀ left right key other,
      read kind left = .ok (some key) → read kind right = .ok (some other) →
        (key = other ↔ kind.Same left right) ∧
        (key.joins other = true ↔ kind.Same left right)) ∧
    ∀ column, KeyKind.ofColumn? column = some kind → ∀ left right native another,
      left.decode column = .ok native → right.decode column = .ok another →
        (∃ key other, read kind left = .ok (some key) ∧ read kind right = .ok (some other) ∧
          (key = other ↔ native = another)) ∧
        ∀ joined : JoinedRows, joined.keyKind = kind →
          ∀ root, root.getByName? joined.rootKey = some left →
          ∀ row ∈ joined.rows, row.getByName? joined.joinedKey = some right →
          ∀ record field found, joined.relatedTo record field root = .ok found →
            (row ∈ found ↔ native = another) := by
  refine ⟨fun value => read_eq_none, ?_, ?_, ?_⟩
  · intro value error
    have noKey : ofValue? kind value = none ↔ ¬kind.Admits value := by
      rw [← exists_keys exact, Option.eq_none_iff_forall_ne_some, not_exists]
      simp only [ne_eq, ofValue?_eq_some exact]
    rw [read_eq_error, noKey, and_assoc]
  · intro left right key other isLeft isRight
    have same := eq_iff_same ((ofValue?_eq_some exact).mp (read_eq_some.mp isLeft))
      ((ofValue?_eq_some exact).mp (read_eq_some.mp isRight))
    refine ⟨same, ?_⟩
    rw [joins_of_read exact isLeft, beq_iff_eq]
    exact same
  · intro column isKind left right native another isLeft isRight
    obtain ⟨key, other, leftKeys, rightKeys, same⟩ := decode_keys isKind exact isLeft isRight
    refine ⟨⟨key, other, read_eq_some.mpr ((ofValue?_eq_some exact).mpr leftKeys),
      read_eq_some.mpr ((ofValue?_eq_some exact).mpr rightKeys), same⟩, ?_⟩
    rintro joined rfl root isRoot row member isRow record field found related
    rw [← same]
    exact JoinedRows.mem_relatedTo exact isRoot isRow leftKeys rightKeys member related

/-- A number has one key in all its widths, and a text has none among the numbers. -/
theorem read_identifies_widths :
    KeyKind.int ∈ KeyKind.exact ∧ KeyKind.int.Same (.int 7) (.bigInt 7) ∧
      (∃ key, read .int (.int 7) = .ok (some key) ∧ read .int (.bigInt 7) = .ok (some key)) ∧
      ¬KeyKind.int.Admits (.text "7") := by
  have exact : KeyKind.int ∈ KeyKind.exact := by decide
  obtain ⟨-, failing, same, reading⟩ := read_identifies .int exact
  obtain ⟨⟨key, other, isLeft, isRight, keys⟩, -⟩ :=
    reading .int64 rfl (.int 7) (.bigInt 7) 7 7 rfl rfl
  obtain rfl := keys.mpr rfl
  refine ⟨exact, (same _ _ _ _ isLeft isRight).1.mp rfl, ⟨key, isLeft, isRight⟩, ?_⟩
  exact ((failing (.text "7") (incomparable .int (.text "7"))).mp rfl).1.2

end KeyValue

end RecordMapper
