import Mathlib.Data.List.Nodup
import Mathlib.Data.List.Perm.Basic
import RecordMapper.Engine.Statement
import RecordMapper.Proofs.Action
import RecordMapper.Proofs.Value.Storing
import RecordMapper.Record.Hydration

set_option autoImplicit false

/-!
Records through storage. The values of a record are bound to a statement one after the other; a row
that holds what was stored, in whatever order and whatever else it holds, gives the record back.
-/

namespace RecordMapper

open Engine (Stored)

/-! ## Binding -/

/-- The value is an unsigned number that no signed one of 64 bits equals. -/
def Binding.Exceeds (binding : Binding) (number : UInt64) : Prop :=
  binding.value = .unsigned number ∧ 9223372036854775807 < number.toNat

theorem Binding.exists_first {bindings : List Binding} {binding : Binding} {number : UInt64}
    (member : binding ∈ bindings) (exceeds : binding.Exceeds number) :
    ∃ front first rest number, bindings = front ++ first :: rest ∧ first.Exceeds number ∧
      ∀ earlier ∈ front, ∀ number, ¬earlier.Exceeds number := by
  induction bindings with
  | nil => cases member
  | cons head bindings ih =>
      by_cases large : ∃ number, head.Exceeds number
      · obtain ⟨number, exceeds⟩ := large
        exact ⟨[], head, bindings, number, rfl, exceeds, by simp⟩
      · have later : binding ∈ bindings := by
          rcases List.mem_cons.mp member with rfl | later
          · exact absurd ⟨number, exceeds⟩ large
          · exact later
        obtain ⟨front, first, rest, number, split, exceeds, earlier⟩ := ih later
        refine ⟨head :: front, first, rest, number, by rw [split, List.cons_append], exceeds, ?_⟩
        exact List.forall_mem_cons.mpr ⟨not_exists.mp large, earlier⟩

namespace Engine.Statement

def withParameters (statement : Statement) (parameters : List Stored) : Statement :=
  { statement with parameters }

/-- What each of the values is stored as. -/
def StoredAs (bindings : List Binding) (stored : List Stored) : Prop :=
  List.Forall₂ (fun binding cell => Stored.ofValue? binding.value = some cell) bindings stored

variable {statement : Statement} {front : List Binding} {stored : List Stored}

theorem exists_storedAs {bindings : List Binding}
    (small : ∀ binding ∈ bindings, ∀ number, ¬binding.Exceeds number) :
    ∃ stored, StoredAs bindings stored := by
  induction bindings with
  | nil => exact ⟨[], .nil⟩
  | cons binding bindings ih =>
      obtain ⟨first, others⟩ := List.forall_mem_cons.mp small
      obtain ⟨stored, storedAs⟩ := ih others
      cases isStored : Stored.ofValue? binding.value with
      | none =>
          obtain ⟨number, exceeds⟩ := Stored.ofValue?_eq_none_iff.mp isStored
          exact absurd exceeds (first number)
      | some cell => exact ⟨cell :: stored, .cons isStored storedAs⟩

theorem bindOne_ok {binding : Binding} {cell pending : Stored} {done others : List Stored}
    (isStored : Stored.ofValue? binding.value = some cell) :
    (statement.withParameters (done ++ pending :: others)).bindOne done.length binding =
      .ok (statement.withParameters (done ++ [cell] ++ others)) := by
  rw [bindOne, isStored]
  simp [withParameters]

/-- The values at the front are set one after the other. -/
theorem bindFrom_append (storedAs : StoredAs front stored) (statement : Statement)
    (rest : List Binding) (done pending : List Stored) (room : front.length ≤ pending.length) :
    (statement.withParameters (done ++ pending)).bindFrom done.length (front ++ rest) =
      (statement.withParameters (done ++ stored ++ pending.drop front.length)).bindFrom
        (done.length + front.length) rest := by
  -- Each value that is set moves from those that are pending to those that are done.
  induction storedAs generalizing done pending with
  | nil => simp
  | @cons binding cell front stored isStored _ ih =>
      cases pending with
      | nil => cases room
      | cons first others =>
          have next := ih (done ++ [cell]) others (Nat.le_of_succ_le_succ room)
          rw [List.length_append, List.length_singleton] at next
          rw [List.cons_append, bindFrom, bindOne_ok isStored]
          dsimp only
          rw [next]
          simp [Nat.add_assoc, Nat.add_comm 1]

theorem bind_append (storedAs : StoredAs front stored) (rest : List Binding)
    (room : front.length ≤ statement.parameters.length) :
    statement.bind (front ++ rest) 0 =
      (statement.rewind.withParameters (stored ++
          List.replicate (statement.parameters.length - front.length) .null)).bindFrom
        front.length rest := by
  let unset := List.replicate statement.parameters.length Stored.null
  have cleared : statement.rewind.clear = statement.rewind.withParameters unset := by
    simp [clear, rewind, withParameters, unset]
  have set := bindFrom_append storedAs statement.rewind rest [] unset (by simpa [unset] using room)
  rw [bind, if_pos rfl, cleared]
  simpa [unset] using set

/-- All values are stored, and the parameters that are left over are NULL. -/
theorem bind_ok (storedAs : StoredAs front stored)
    (room : front.length ≤ statement.parameters.length) :
    statement.bind front 0 =
      (.ok (), statement.rewind.withParameters (stored ++
        List.replicate (statement.parameters.length - front.length) .null)) := by
  have bound := bind_append storedAs [] room
  rwa [List.append_nil, bindFrom] at bound

def overflowText (index : Nat) (placeholder : String) (number : UInt64) : String :=
  s!"Failed to bind parameter {index + 1} ({placeholder}): u64 value {number} " ++
    "exceeds the SQLite INTEGER range (max 9223372036854775807)"

/-- Binding stops at the first number that is too large, and stores nothing from there on. -/
theorem bind_overflow (storedAs : StoredAs front stored) {binding : Binding} {number : UInt64}
    (rest : List Binding) (room : front.length ≤ statement.parameters.length)
    (exceeds : binding.Exceeds number) :
    statement.bind (front ++ binding :: rest) 0 =
      (.error (.query
        { kind := .bind
          message := overflowText front.length binding.placeholder number
          sql := some statement.sql }),
        statement.rewind.withParameters (stored ++
          List.replicate (statement.parameters.length - front.length) .null)) := by
  have unstorable : Stored.ofValue? binding.value = none :=
    Stored.ofValue?_eq_none_iff.mpr ⟨number, exceeds⟩
  obtain ⟨isNumber, exceeds⟩ := exceeds
  have large : ¬number.toNat < Value.signedBound := by
    rw [Value.signedBound]
    omega
  rw [bind_append storedAs (binding :: rest) room, bindFrom, bindOne, unstorable]
  dsimp only
  rw [overflow, isNumber, Value.signedOverflow?, if_neg large]
  rfl

end Engine.Statement

/-! ## Rows -/

/-- The row has the values under their names, in any order, and else only values under other
names. -/
structure Row.Holds (row : Row) (pairs : List (String × Value)) : Prop where
  length_eq : row.columns.length = row.values.length
  others : ∃ others, row.pairs.Perm (pairs ++ others) ∧
    ∀ other ∈ others, other.1 ∉ pairs.map Prod.fst

theorem Row.getByName?_of_unique {row : Row} {name : String} {value : Value}
    (length_eq : row.columns.length = row.values.length) (member : (name, value) ∈ row.pairs)
    (unique : ∀ other, (name, other) ∈ row.pairs → other = value) :
    row.getByName? name = some value := by
  have named : row.columns.reverse.any (· == name) = true := by
    simpa using (List.of_mem_zip member).1
  obtain ⟨fromEnd, found⟩ := Option.isSome_iff_exists.mp (List.findIdx?_isSome.trans named)
  obtain ⟨inside, isName, -⟩ := List.findIdx?_eq_some_iff_getElem.mp found
  rw [List.length_reverse] at inside
  have place : row.columns.length - 1 - fromEnd < row.columns.length := by omega
  have valuePlace : row.columns.length - 1 - fromEnd < row.values.length := length_eq ▸ place
  have column : row.columns[row.columns.length - 1 - fromEnd] = name := by
    simpa [List.getElem_reverse] using isName
  have read : row.values[row.columns.length - 1 - fromEnd] = value := by
    refine unique _ (List.mem_iff_getElem.mpr ⟨row.columns.length - 1 - fromEnd, ?_, ?_⟩)
    · simpa [pairs, length_eq] using valuePlace
    · simp [pairs, column]
  rw [getByName?, indexOf?, found]
  exact (List.getElem?_eq_getElem valuePlace).trans (congrArg some read)

theorem Row.Holds.getByName?_eq {row : Row} {pairs : List (String × Value)}
    (holds : row.Holds pairs) (distinct : (pairs.map Prod.fst).Nodup) {name : String}
    {value : Value} (member : (name, value) ∈ pairs) : row.getByName? name = some value := by
  obtain ⟨others, perm, apart⟩ := holds.others
  refine getByName?_of_unique holds.length_eq (perm.mem_iff.mpr (List.mem_append_left _ member)) ?_
  intro other isOther
  rcases List.mem_append.mp (perm.mem_iff.mp isOther) with again | elsewhere
  · exact (Prod.mk.inj (List.inj_on_of_nodup_map distinct again member rfl)).2
  · exact absurd (List.mem_map_of_mem member) (apart (name, other) elsewhere)

theorem Row.getNamed_ok_iff {row : Row} {type : NativeType} {name : String}
    {native : type.Carrier} :
    row.getNamed type name = .ok native ↔
      ∃ value, row.getByName? name = some value ∧ type.decode value = .ok native := by
  unfold getNamed
  cases row.getByName? name with
  | none => simp
  | some value =>
      cases decoded : type.decode value with
      | error reason => simp [decoded, Except.mapError]
      | ok found => simp [decoded, Except.mapError]

/-! ## Records -/

/-- What a program holds for each of the columns. -/
abbrev RecordType.Natives : Type :=
  (column : Column) → (NativeType.ofColumn column.kind column.optional).Carrier

namespace RecordType

/-- The values of the columns, in declaration order. -/
def toValues (record : RecordType) (natives : Natives) : List (String × Value) :=
  record.columns.map fun column => (column.name, NativeType.encode _ (natives column))

/-- The record with its columns as they were written and no collection joined. -/
def unjoined (record : RecordType) (natives : Natives) : HydratedRecord :=
  record.fields.map fun field =>
    match field.column? with
    | some column => (field.name, .column (NativeType.encode _ (natives column)))
    | none => (field.name, .unjoined)

variable {record : RecordType} {natives : Natives} {row : Row}

theorem readColumn_ok {column : Column}
    (reads : row.getNamed (.ofColumn column.kind column.optional) column.name =
      .ok (natives column)) :
    record.readColumn row column = .ok (NativeType.encode _ (natives column)) := by
  obtain ⟨value, present, decoded⟩ := Row.getNamed_ok_iff.mp reads
  unfold readColumn
  rw [present]
  dsimp only
  rw [decoded]

theorem decodeRow_unjoined (schema : Schema)
    (optional : ∀ field ∈ record.fields, ∀ item, field.kind = .collection item →
      field.optional = true)
    (reads : ∀ column ∈ record.columns,
      row.getNamed (.ofColumn column.kind column.optional) column.name = .ok (natives column)) :
    record.decodeRow schema row = .ok (record.unjoined natives) := by
  refine mapM_ok_iff.mpr ?_
  rw [unjoined, List.forall₂_map_right_iff, List.forall₂_same]
  intro field member
  unfold readField Field.column?
  cases isKind : field.kind with
  | column kind =>
      have isColumn : (⟨field.name, kind, field.optional, field.primaryKey⟩ : Column) ∈
          record.columns :=
        List.mem_filterMap.mpr ⟨field, member, by simp [Field.column?, isKind]⟩
      dsimp only
      rw [readColumn_ok (reads _ isColumn)]
      rfl
  | collection item =>
      have isOptional := optional field member item isKind
      dsimp only
      rw [readUnjoined, if_pos isOptional]
      rfl

/-- The values that are read of what was stored, in the order of the columns. -/
theorem exists_read {columns : List Column} {cells : List Stored}
    (exact : ∀ column ∈ columns, column.kind ≠ .float ∧ column.kind ≠ .double)
    (stored : List.Forall₂ (fun column cell =>
      Stored.ofValue? (NativeType.encode _ (natives column)) = some cell) columns cells) :
    ∃ values, List.Forall₂ (fun cell value => cell.toValue = .ok value) cells values ∧
      List.Forall₂ (fun column value =>
        NativeType.decode (.ofColumn column.kind column.optional) value = .ok (natives column))
        columns values := by
  induction stored with
  | nil => exact ⟨[], .nil, .nil⟩
  | @cons column cell columns cells isStored _ ih =>
      obtain ⟨first, others⟩ := List.forall_mem_cons.mp exact
      obtain ⟨values, read, decoded⟩ := ih others
      have isKind : (NativeType.ofColumn column.kind column.optional).kind? = some column.kind := by
        cases column.optional <;> rfl
      obtain ⟨value, isRead, isDecoded⟩ := NativeType.recovers isKind first isStored
      exact ⟨value :: values, .cons isRead read, .cons isDecoded decoded⟩

theorem getNamed_ok {values : List Value}
    (holds : row.Holds ((record.columns.map (·.name)).zip values))
    (distinct : (record.columns.map (·.name)).Nodup)
    (decoded : List.Forall₂ (fun column value =>
      NativeType.decode (.ofColumn column.kind column.optional) value = .ok (natives column))
      record.columns values) :
    ∀ column ∈ record.columns,
      row.getNamed (.ofColumn column.kind column.optional) column.name = .ok (natives column) := by
  intro column member
  have length : record.columns.length = values.length := decoded.length_eq
  obtain ⟨index, inside, rfl⟩ := List.getElem_of_mem member
  have valueInside : index < values.length := length ▸ inside
  have isValue : (record.columns[index].name, values[index]) ∈
      (record.columns.map (·.name)).zip values :=
    List.mem_iff_getElem.mpr ⟨index, by simpa [length] using valueInside, by simp⟩
  have names : ((record.columns.map (·.name)).zip values).map Prod.fst =
      record.columns.map (·.name) := List.map_fst_zip (by simp [length])
  have present := holds.getByName?_eq (names.symm ▸ distinct) isValue
  exact Row.getNamed_ok_iff.mpr ⟨_, present, decoded.get inside valueInside⟩

theorem stored_columns {bindings : List Binding} {stored : List Stored}
    (encoded : bindings.map (·.value) = (record.toValues natives).map (·.2))
    (storedAs : Engine.Statement.StoredAs bindings stored) :
    List.Forall₂ (fun column cell =>
      Stored.ofValue? (NativeType.encode _ (natives column)) = some cell)
      record.columns stored := by
  have each : List.Forall₂ (fun value cell => Stored.ofValue? value = some cell)
      (bindings.map (·.value)) stored := List.forall₂_map_left_iff.mpr storedAs
  rw [encoded, toValues, List.map_map] at each
  exact List.forall₂_map_left_iff.mp each

/-- Columns of distinct names and of any kinds but the floating ones come back from the statement
that their values were bound to. A number beyond the signed range is refused, and the first that is
stops the binding. -/
theorem bind_recovers (schema : Schema) (record : RecordType) (natives : Natives)
    (statement : Engine.Statement) (bindings : List Binding)
    (encoded : bindings.map (·.value) = (record.toValues natives).map (·.2))
    (room : bindings.length ≤ statement.parameters.length)
    (distinct : (record.columns.map (·.name)).Nodup)
    (exact : ∀ column ∈ record.columns, column.kind ≠ .float ∧ column.kind ≠ .double)
    (optional : ∀ field ∈ record.fields, ∀ item, field.kind = .collection item →
      field.optional = true) :
    let bound := statement.bind bindings 0
    ((∀ binding ∈ bindings, ∀ number, ¬binding.Exceeds number) →
      bound.1 = .ok () ∧ ∃ values,
        List.Forall₂ (fun cell value => cell.toValue = .ok value)
          (bound.2.parameters.take bindings.length) values ∧
        ∀ row : Row, row.Holds ((record.columns.map (·.name)).zip values) →
          record.decodeRow schema row = .ok (record.unjoined natives) ∧
          ∀ column ∈ record.columns,
            row.getNamed (.ofColumn column.kind column.optional) column.name =
              .ok (natives column)) ∧
    ((∃ binding ∈ bindings, ∃ number, binding.Exceeds number) →
      ∃ front first rest number, bindings = front ++ first :: rest ∧ first.Exceeds number ∧
        (∀ earlier ∈ front, ∀ number, ¬earlier.Exceeds number) ∧
        bound.1 = .error (.query
          { kind := .bind
            message := Engine.Statement.overflowText front.length first.placeholder number
            sql := some statement.sql }) ∧
        ∀ cell ∈ bound.2.parameters.drop front.length, cell = .null) := by
  intro bound
  constructor
  · intro small
    obtain ⟨stored, storedAs⟩ := Engine.Statement.exists_storedAs small
    have isBound : bound = _ := Engine.Statement.bind_ok storedAs room
    have length : bindings.length = stored.length := storedAs.length_eq
    have parameters : bound.2.parameters.take bindings.length = stored := by
      rw [isBound, length]
      exact List.take_left
    obtain ⟨values, read, decoded⟩ := exists_read exact (stored_columns encoded storedAs)
    refine ⟨congrArg Prod.fst isBound, values, parameters ▸ read, fun row holds => ?_⟩
    have reads := getNamed_ok holds distinct decoded
    exact ⟨decodeRow_unjoined schema optional reads, reads⟩
  · rintro ⟨binding, member, number, exceeds⟩
    obtain ⟨front, first, rest, number, rfl, exceeds, earlier⟩ :=
      Binding.exists_first member exceeds
    obtain ⟨stored, storedAs⟩ := Engine.Statement.exists_storedAs earlier
    have frontRoom : front.length ≤ statement.parameters.length := by
      rw [List.length_append] at room
      omega
    have isBound : bound = _ := Engine.Statement.bind_overflow storedAs rest frontRoom exceeds
    have length : front.length = stored.length := storedAs.length_eq
    have parameters : bound.2.parameters.drop front.length =
        List.replicate (statement.parameters.length - front.length) .null := by
      rw [isBound, length]
      exact List.drop_left
    refine ⟨front, first, rest, number, rfl, exceeds, earlier, congrArg Prod.fst isBound, ?_⟩
    intro cell isCell
    rw [parameters] at isCell
    exact (List.mem_replicate.mp isCell).2

end RecordType

/-! ## A parcel -/

namespace Sample

/-- One column of each storage class, an optional one and an optional collection. -/
def parcel : RecordType where
  name := "Parcel"
  table := "parcel"
  fields :=
    [{ name := "key", kind := .column .uuid, primaryKey := true },
      { name := "sent", kind := .column .timestamp },
      { name := "items", kind := .collection "Item", optional := true },
      { name := "fragile", kind := .column .bool },
      { name := "weight", kind := .column .uint16 },
      { name := "serial", kind := .column .uint64 },
      { name := "price", kind := .column .decimal },
      { name := "note", kind := .column .text, optional := true }]

/-- Values at the ends of their ranges, and no optional ones. -/
def natives (serial : UInt64) : RecordType.Natives := fun column =>
  match column with
  | ⟨_, kind, true, _⟩ => (none : Option kind.Native)
  | ⟨_, .bool, false, _⟩ => true
  | ⟨_, .int8, false, _⟩ => Int8.minValue
  | ⟨_, .int16, false, _⟩ => Int16.minValue
  | ⟨_, .int32, false, _⟩ => Int32.minValue
  | ⟨_, .int64, false, _⟩ => Int64.minValue
  | ⟨_, .uint8, false, _⟩ => (255 : UInt8)
  | ⟨_, .uint16, false, _⟩ => (65535 : UInt16)
  | ⟨_, .uint32, false, _⟩ => (4294967295 : UInt32)
  | ⟨_, .uint64, false, _⟩ => serial
  | ⟨_, .float, false, _⟩ => (⟨0⟩ : Binary.Single)
  | ⟨_, .double, false, _⟩ => (⟨0⟩ : Binary.Double)
  | ⟨_, .decimal, false, _⟩ => "0.10"
  | ⟨_, .text, false, _⟩ => "naïve"
  | ⟨_, .blob, false, _⟩ => ([] : List UInt8)
  | ⟨_, .uuid, false, _⟩ => Vector.replicate 16 (0 : UInt8)
  | ⟨_, .timestamp, false, _⟩ => Int64.minValue

end Sample

namespace RecordType

open Sample

/-- The columns read back to front beside another one, and a serial number that is one too large. -/
theorem bind_recovers_sample :
    let bindings (serial : UInt64) : List Binding :=
      (parcel.toValues (natives serial)).map fun pair => ⟨pair.1, pair.2⟩
    let statement := Engine.Statement.prepared "INSERT" [] 8
    let names := parcel.columns.map (·.name)
    (∀ serial, (bindings serial).map (·.value) = (parcel.toValues (natives serial)).map (·.2)) ∧
    (∀ serial, (bindings serial).length ≤ statement.parameters.length) ∧ names.Nodup ∧
    (∀ column ∈ parcel.columns, column.kind ≠ .float ∧ column.kind ≠ .double) ∧
    (∀ field ∈ parcel.fields, ∀ item, field.kind = .collection item → field.optional = true) ∧
    (∃ values,
      List.Forall₂ (fun cell value => cell.toValue = .ok value)
        ((statement.bind (bindings 9223372036854775807) 0).2.parameters.take 7) values ∧
      parcel.decodeRow [] ⟨"other" :: names.reverse, .null :: values.reverse⟩ =
        .ok (parcel.unjoined (natives 9223372036854775807))) ∧
    ∃ cause, (statement.bind (bindings 9223372036854775808) 0).1 = .error (.query cause) ∧
      cause.kind = .bind := by
  intro bindings statement names
  have encoded (serial : UInt64) : (bindings serial).map (·.value) =
      (parcel.toValues (natives serial)).map (·.2) := by
    simp [bindings]
  have room (serial : UInt64) : (bindings serial).length ≤ statement.parameters.length := by
    have lengths : (bindings serial).length = 7 ∧ statement.parameters.length = 8 := ⟨rfl, rfl⟩
    omega
  have distinct : names.Nodup := by
    decide
  have exact : ∀ column ∈ parcel.columns, column.kind ≠ .float ∧ column.kind ≠ .double := by
    decide
  have optional : ∀ field ∈ parcel.fields, ∀ item, field.kind = .collection item →
      field.optional = true := by
    simp [parcel]
  have recovers (serial : UInt64) := bind_recovers [] parcel (natives serial) statement
    (bindings serial) (encoded serial) (room serial) distinct exact optional
  refine ⟨encoded, room, distinct, exact, optional, ?_, ?_⟩
  · have storable : ∀ binding ∈ bindings 9223372036854775807,
        (Stored.ofValue? binding.value).isSome = true := by
      decide
    have small : ∀ binding ∈ bindings 9223372036854775807, ∀ number, ¬binding.Exceeds number := by
      intro binding member number exceeds
      have unstorable := Stored.ofValue?_eq_none_iff.mpr ⟨number, exceeds⟩
      simpa [unstorable] using storable binding member
    obtain ⟨-, values, read, rows⟩ := (recovers 9223372036854775807).1 small
    have length : names.length = values.length := by
      rw [← read.length_eq]
      decide
    refine ⟨values, read, (rows _ ⟨?_, [("other", .null)], ?_, ?_⟩).1⟩
    · simpa using length
    · have backwards : names.reverse.zip values.reverse = (names.zip values).reverse :=
        (List.reverse_zipWith length).symm
      have reversed : (("other", Value.null) :: names.reverse.zip values.reverse).Perm
          (names.zip values ++ [("other", .null)]) := by
        rw [backwards]
        exact ((List.reverse_perm _).cons _).trans (List.perm_append_singleton _ _).symm
      exact reversed
    · have absent : "other" ∉ names := by
        decide
      rw [List.forall_mem_singleton, List.map_fst_zip (Nat.le_of_eq length)]
      exact absent
  · have exceeds : ∃ binding ∈ bindings 9223372036854775808, ∃ number,
        binding.Exceeds number := by
      refine ⟨⟨"serial", .unsigned 9223372036854775808⟩, ?_, 9223372036854775808, rfl, by decide⟩
      decide
    obtain ⟨front, first, rest, number, -, -, -, failed, -⟩ :=
      (recovers 9223372036854775808).2 exceeds
    exact ⟨_, failed, rfl⟩

end RecordType

end RecordMapper
