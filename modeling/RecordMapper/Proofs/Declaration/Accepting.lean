import RecordMapper.Declaration.Check
import RecordMapper.Proofs.Action
import RecordMapper.Proofs.Identifier

set_option autoImplicit false

/-!
Declarations that are accepted. The checks report every violation at its site, in the order of the
sites, and a declaration without violations stands for a record type that passes the checks made
when it is used.
-/

namespace RecordMapper

/-! ## Primary keys -/

namespace RecordType

variable {record : RecordType} {field : Field} {column : Column}

theorem column_primaryKey (isColumn : field.column? = some column) :
    column.primaryKey = field.primaryKey := by
  unfold Field.column? at isColumn
  split at isColumn <;> cases isColumn
  rfl

/-- The only field that is marked is the primary key, if it is a column. -/
theorem primaryKey_marked (single : (record.fields.filter (·.primaryKey)).length ≤ 1)
    (member : field ∈ record.fields) (marked : field.primaryKey = true)
    (isColumn : field.column? = some column) : record.primaryKey? = some column := by
  have marks : field ∈ record.fields.filter (·.primaryKey) := List.mem_filter.mpr ⟨member, marked⟩
  have keyed : column.primaryKey = true := (column_primaryKey isColumn).trans marked
  have inColumns : column ∈ record.columns := List.mem_filterMap.mpr ⟨field, member, isColumn⟩
  cases found : record.columns.find? (·.primaryKey) with
  | none => exact absurd keyed (List.find?_eq_none.mp found column inColumns)
  | some other =>
      obtain ⟨owner, isOwner, otherColumn⟩ :=
        List.mem_filterMap.mp (List.mem_of_find?_eq_some found)
      have otherKeyed : other.primaryKey = true := List.find?_some found
      have owns : owner ∈ record.fields.filter (·.primaryKey) :=
        List.mem_filter.mpr ⟨isOwner, (column_primaryKey otherColumn).symm.trans otherKeyed⟩
      obtain rfl : owner = field := by
        obtain ⟨only, isOnly⟩ := List.length_eq_one_iff.mp
          (Nat.le_antisymm single (List.length_pos_of_mem marks))
        rw [isOnly, List.mem_singleton] at marks owns
        exact owns.trans marks.symm
      obtain rfl : other = column := Option.some.inj (otherColumn.symm.trans isColumn)
      simp [primaryKey?, found]

theorem primaryKey_unmarked (unmarked : ∀ field ∈ record.fields, field.primaryKey = false) :
    record.primaryKey? = record.columns.find? (·.name == "id") := by
  have none : record.columns.find? (·.primaryKey) = none := by
    refine List.find?_eq_none.mpr fun column inColumns => ?_
    obtain ⟨field, member, isColumn⟩ := List.mem_filterMap.mp inColumns
    simp [column_primaryKey isColumn, unmarked field member]
  simp [primaryKey?, none]

end RecordType

namespace Declaration

/-! ## Violations -/

/-- Where a declaration can be at fault. -/
inductive Site where
  | record
  | table
  | name (index : Nat)
  | key (index : Nat)

namespace Entry

/-- All sites, in the order in which they are checked. -/
def sites (entry : Entry) : List Site :=
  [.record, .table] ++ (List.range entry.fields.length).map .name
    ++ (List.range entry.fields.length).map .key

/-- What is wrong at a site. A key is at fault when a field before it is one. -/
inductive Reports (entry : Entry) : Site → Violation → Prop where
  | record : (∀ field ∈ entry.fields, field.shape.column? = none) → Reports entry .record .noColumns
  | table : entry.table.toList ∉ Identifier.pattern.matches' →
      Reports entry .table (.tableName entry.table)
  | name {index : Nat} {field : FieldEntry} : entry.fields[index]? = some field →
      field.columnName.toList ∉ Identifier.pattern.matches' →
      Reports entry (.name index) (.columnName field.columnName)
  | key {index earlier : Nat} {field first : FieldEntry} : entry.fields[index]? = some field →
      field.primaryKey = true → earlier < index → entry.fields[earlier]? = some first →
      first.primaryKey = true → Reports entry (.key index) .secondKey

/-- What comes after the first marked item, if that is not behind. -/
def later? {Item Result : Type} (marked : Item → Bool) (result : Result) (behind : Bool)
    (items : List Item) (index : Nat) : Option Result :=
  items[index]?.bind fun item =>
    if marked item && (behind || (items.take index).any marked) then some result else none

/-- The violation at a site, if there is one. -/
def report? (entry : Entry) : Site → Option Violation
  | .record => if entry.columns.isEmpty then some .noColumns else none
  | .table => (nameViolations .tableName entry.table).head?
  | .name index =>
      entry.fields[index]?.bind fun field => (nameViolations .columnName field.columnName).head?
  | .key index =>
      later? (·.primaryKey) .secondKey false entry.fields index

variable {entry : Entry} {make : String → Violation} {name : String} {site : Site}
  {violation : Violation}

theorem head_nameViolations :
    (nameViolations make name).head? = some violation ↔
      name.toList ∉ Identifier.pattern.matches' ∧ make name = violation := by
  rw [← Identifier.isPlain_iff]
  unfold nameViolations
  split
  · rename_i plain
    exact ⟨nofun, fun bad => absurd plain bad.1⟩
  · rename_i bad
    simp [bad]

theorem columns_isEmpty :
    entry.columns.isEmpty = true ↔ ∀ field ∈ entry.fields, field.shape.column? = none := by
  simp [columns]

theorem later_eq_some {Item Result : Type} {marked : Item → Bool} {result found : Result}
    {items : List Item} {index : Nat} :
    later? marked result false items index = some found ↔
      ∃ item, items[index]? = some item ∧ marked item = true ∧
        (∃ earlier < index, ∃ first, items[earlier]? = some first ∧ marked first = true) ∧
        result = found := by
  have before : (items.take index).any marked = true ↔
      ∃ earlier < index, ∃ first, items[earlier]? = some first ∧ marked first = true := by
    simp only [List.any_eq_true, List.mem_take_iff_getElem, List.getElem?_eq_some_iff]
    grind
  simp only [later?, Option.bind_eq_some_iff, Bool.false_or, Option.ite_none_right_eq_some,
    Bool.and_eq_true, before, Option.some.injEq, and_assoc]

theorem report_iff : entry.report? site = some violation ↔ entry.Reports site violation := by
  constructor
  · intro reported
    cases site with
    | record =>
      obtain ⟨empty, same⟩ := Option.ite_none_right_eq_some.mp reported
      cases same
      exact .record (columns_isEmpty.mp empty)
    | table =>
      obtain ⟨bad, rfl⟩ := head_nameViolations.mp reported
      exact .table bad
    | name index =>
      obtain ⟨field, found, reported⟩ := Option.bind_eq_some_iff.mp reported
      obtain ⟨bad, rfl⟩ := head_nameViolations.mp reported
      exact .name found bad
    | key index =>
      obtain ⟨field, found, marked, ⟨earlier, before, first, foundFirst, markedFirst⟩, rfl⟩ :=
        later_eq_some.mp reported
      exact .key found marked before foundFirst markedFirst
  · rintro (none | bad | ⟨found, bad⟩ | ⟨found, marked, before, foundFirst, markedFirst⟩)
    · exact if_pos (columns_isEmpty.mpr none)
    · exact head_nameViolations.mpr ⟨bad, rfl⟩
    · exact Option.bind_eq_some_iff.mpr ⟨_, found, head_nameViolations.mpr ⟨bad, rfl⟩⟩
    · exact later_eq_some.mpr ⟨_, found, marked, ⟨_, before, _, foundFirst, markedFirst⟩, rfl⟩

theorem filterMap_range {Item Result : Type} (step : Item → Option Result) (items : List Item) :
    (List.range items.length).filterMap (fun index => items[index]?.bind step) =
      items.filterMap step := by
  induction items with
  | nil => rfl
  | cons item items ih =>
      rw [List.length_cons, List.range_succ_eq_map, List.filterMap_cons, List.filterMap_cons,
        List.filterMap_map]
      simp [ih]

theorem filterMap_later {Item Result : Type} (marked : Item → Bool) (result : Result)
    (behind : Bool) (items : List Item) :
    (List.range items.length).filterMap (later? marked result behind items) =
      ((items.filter marked).drop (if behind then 0 else 1)).map fun _ => result := by
  induction items generalizing behind with
  | nil => simp
  | cons item items ih =>
      have shifted : later? marked result behind (item :: items) ∘ Nat.succ =
          later? marked result (behind || marked item) items := by
        funext index
        simp [later?, or_assoc]
      rw [List.length_cons, List.range_succ_eq_map, List.filterMap_cons, List.filterMap_map,
        shifted, ih]
      cases behind <;> cases isMarked : marked item <;> simp [later?, isMarked]

theorem head_toList (make : String → Violation) (name : String) :
    (nameViolations make name).head?.toList = nameViolations make name := by
  unfold nameViolations
  split <;> rfl

theorem violations_eq (entry : Entry) : entry.violations = entry.sites.filterMap entry.report? := by
  have names : ((List.range entry.fields.length).map Site.name).filterMap entry.report? =
      entry.fields.flatMap fun field => nameViolations .columnName field.columnName := by
    rw [List.filterMap_map]
    refine (filterMap_range _ _).trans ?_
    simp only [List.filterMap_eq_flatMap_toList, head_toList]
  have keys : ((List.range entry.fields.length).map Site.key).filterMap entry.report? =
      ((entry.fields.filter (·.primaryKey)).drop 1).map fun _ => .secondKey := by
    rw [List.filterMap_map]
    exact filterMap_later _ _ false _
  have first : [Site.record, .table].filterMap entry.report? =
      (if entry.columns.isEmpty then [.noColumns] else [])
        ++ nameViolations .tableName entry.table := by
    simp only [List.filterMap_eq_flatMap_toList, List.flatMap_cons, List.flatMap_nil,
      List.append_nil]
    refine congrArg₂ _ ?_ (head_toList .tableName entry.table)
    unfold report?
    dsimp only
    split <;> rfl
  rw [sites, List.filterMap_append, List.filterMap_append, first, names, keys, violations]

theorem violations_nil (entry : Entry) :
    entry.violations = [] ↔ ∀ site violation, ¬entry.Reports site violation := by
  have inSites : ∀ site violation, entry.Reports site violation → site ∈ entry.sites := by
    rintro _ _ (_ | _ | ⟨found, _⟩ | ⟨found, _, _, _, _⟩)
    · simp [sites]
    · simp [sites]
    · simpa [sites] using (List.getElem?_eq_some_iff.mp found).1
    · simpa [sites] using (List.getElem?_eq_some_iff.mp found).1
  rw [violations_eq, List.filterMap_eq_nil_iff]
  constructor
  · intro none site violation reports
    have reported := report_iff.mpr reports
    rw [none site (inSites site violation reports)] at reported
    cases reported
  · intro none site _
    refine Option.eq_none_iff_forall_ne_some.mpr fun violation reported => ?_
    exact none site violation (report_iff.mp reported)

end Entry

/-! ## Accepted declarations -/

theorem readField_ok {source : FieldSource} {field : FieldEntry}
    (read : readField source = .ok field) :
    field.columnName = plainName source.name ∧
      (field.primaryKey = true → field.shape.column?.isSome = true) := by
  obtain ⟨shape, -, read⟩ := bind_ok read
  obtain ⟨primaryKey, -, read⟩ := bind_ok read
  split at read
  · cases read
  · rename_i isColumn
    cases read
    refine ⟨rfl, fun (isKey : primaryKey = true) => ?_⟩
    simpa [isKey, Option.isSome_iff_ne_none] using isColumn

theorem Source.fields_of_read {source : Source} {entry : Entry} (read : source.read = .ok entry) :
    List.Forall₂ (fun source field => readField source = .ok field) source.fields entry.fields := by
  unfold Source.read at read
  split at read
  · cases read
  · obtain ⟨table, -, read⟩ := bind_ok read
    obtain ⟨fields, readFields, read⟩ := bind_ok read
    cases read
    unfold Declaration.readFields at readFields
    split at readFields
    · exact mapM_ok_iff.mp readFields
    all_goals cases readFields

theorem FieldEntry.column_toField (field : FieldEntry) (path : String) :
    (field.toField path).column? = field.shape.column?.map fun kind =>
      ⟨field.columnName, kind, field.shape.optional, field.primaryKey⟩ := by
  unfold toField Field.column? FieldShape.column?
  cases field.shape.content <;> rfl

namespace Entry

variable {source : Source} {entry : Entry}

theorem names_toRecordType (read : source.read = .ok entry) (path : String) :
    (entry.toRecordType path).fields.map (·.name) =
      source.fields.map fun field => plainName field.name := by
  have named : List.Forall₂ (fun source field => plainName source.name = field.columnName)
      source.fields entry.fields :=
    source.fields_of_read read |>.imp fun _ _ read => (readField_ok read).1.symm
  have same := List.forall₂_eq_eq_eq ▸
    List.forall₂_map_left_iff.mpr (List.forall₂_map_right_iff.mpr named)
  rw [same, toRecordType, List.map_map]
  rfl

/-- What there is to know of a declaration without violations. -/
theorem accepted (clean : entry.violations = []) :
    entry.columns ≠ [] ∧ Identifier.isPlain entry.table = true ∧
      (∀ field ∈ entry.fields, Identifier.isPlain field.columnName = true) ∧
      (entry.fields.filter (·.primaryKey)).length ≤ 1 := by
  have plain {make : String → Violation} {name : String} (none : nameViolations make name = []) :
      Identifier.isPlain name = true := by
    unfold nameViolations at none
    split at none
    · assumption
    · cases none
  unfold violations at clean
  simp only [List.append_eq_nil_iff, List.flatMap_eq_nil_iff, List.map_eq_nil_iff,
    List.drop_eq_nil_iff] at clean
  obtain ⟨⟨⟨columns, table⟩, names⟩, keys⟩ := clean
  refine ⟨?_, plain table, fun field member => plain (names field member), keys⟩
  intro empty
  simp [empty] at columns

theorem validate_toRecordType (clean : entry.violations = []) (path : String) :
    (entry.toRecordType path).validate = .ok () := by
  obtain ⟨-, table, names, -⟩ := accepted clean
  have none : (entry.toRecordType path).firstBadName? = none := by
    refine List.find?_eq_none.mpr fun name isName => ?_
    have plain : Identifier.isPlain name = true := by
      rcases List.mem_cons.mp isName with rfl | isField
      · exact table
      · obtain ⟨declared, isDeclared, rfl⟩ := List.mem_map.mp isField
        obtain ⟨field, member, rfl⟩ := List.mem_map.mp isDeclared
        exact names field member
    simp [plain]
  unfold RecordType.validate
  rw [none]

theorem columns_toRecordType (clean : entry.violations = []) (path : String) :
    (entry.toRecordType path).columns ≠ [] := by
  obtain ⟨columns, -⟩ := accepted clean
  obtain ⟨field, isColumn⟩ := List.exists_mem_of_ne_nil _ columns
  obtain ⟨member, shaped⟩ := List.mem_filter.mp isColumn
  obtain ⟨kind, isKind⟩ := Option.isSome_iff_exists.mp shaped
  have stored := field.column_toField path
  rw [isKind, Option.map_some] at stored
  exact List.ne_nil_of_mem
    (List.mem_filterMap.mpr ⟨field.toField path, List.mem_map_of_mem member, stored⟩)

theorem marked_toRecordType (read : source.read = .ok entry) (path : String) :
    ∀ field ∈ (entry.toRecordType path).fields, field.primaryKey = true →
      ∃ column, field.column? = some column := by
  rintro _ isField marked
  obtain ⟨field, member, rfl⟩ := List.mem_map.mp isField
  have keyed : List.Forall₂ (fun field source =>
      (field.primaryKey = true → field.shape.column?.isSome = true) ∧
        readField source = .ok field) entry.fields source.fields :=
    (source.fields_of_read read |>.imp fun _ _ read => ⟨(readField_ok read).2, read⟩).flip
  have shaped := ((List.forall₂_and_left _ _).mp keyed).1 field member
  obtain ⟨kind, isKind⟩ := Option.isSome_iff_exists.mp (shaped marked)
  exact ⟨_, by rw [field.column_toField, isKind, Option.map_some]⟩

theorem keys_toRecordType (clean : entry.violations = []) (path : String) :
    ((entry.toRecordType path).fields.filter (·.primaryKey)).length ≤ 1 := by
  obtain ⟨-, -, -, single⟩ := accepted clean
  have marks : (entry.toRecordType path).fields.filter (·.primaryKey) =
      (entry.fields.filter (·.primaryKey)).map (·.toField path) := by
    rw [toRecordType, List.filter_map]
    rfl
  rwa [marks, List.length_map]

end Entry

/-- The checks report each violation once, at its site and in the order of the sites, and a
declaration that they accept stands for a record type that has columns, whose names are plain and
in the order of declaration, and whose marked field, if there is one, is the primary key. Names are
plain when the pattern matches them. -/
theorem accepts (path : String) :
    (∀ name : String, Identifier.isPlain name = true ↔
      name.toList ∈ Identifier.pattern.matches') ∧
    (∀ entry : Entry, ∃ report : Site → Option Violation,
      (∀ site violation, report site = some violation ↔ entry.Reports site violation) ∧
      entry.violations = entry.sites.filterMap report ∧
      (entry.violations = [] ↔ ∀ site violation, ¬entry.Reports site violation)) ∧
    ∀ (source : Source) (entry : Entry), source.read = .ok entry → entry.violations = [] →
      let record := entry.toRecordType path
      record.validate = .ok () ∧
        record.fields.map (·.name) = source.fields.map (fun field => plainName field.name) ∧
        record.columns ≠ [] ∧
        (record.fields.filter (·.primaryKey)).length ≤ 1 ∧
        (∀ field ∈ record.fields, field.primaryKey = true →
          ∃ column, field.column? = some column ∧ record.primaryKey? = some column) ∧
        ((∀ field ∈ record.fields, field.primaryKey = false) →
          record.primaryKey? = record.columns.find? (·.name == "id")) := by
  refine ⟨Identifier.isPlain_iff, fun entry => ⟨entry.report?, fun _ _ => Entry.report_iff,
    entry.violations_eq, entry.violations_nil⟩, fun source entry read clean => ?_⟩
  intro record
  have single := Entry.keys_toRecordType clean path
  refine ⟨Entry.validate_toRecordType clean path, Entry.names_toRecordType read path,
    Entry.columns_toRecordType clean path, single, fun field member marked => ?_,
    RecordType.primaryKey_unmarked⟩
  obtain ⟨column, isColumn⟩ := Entry.marked_toRecordType read path field member marked
  exact ⟨column, isColumn, RecordType.primaryKey_marked single member marked isColumn⟩

namespace Sample

/-- A record with a raw name, a key of another name than `id`, and a collection. -/
def shipment : Source where
  name := "Shipment"
  generic := false
  attributes := [.foreign, .items [.table (.text "shipments")]]
  form := .namedFields
  fields :=
    [⟨"r#type", .path [] "Option" (.angled false [.type (.path [] "String" .none) false]), []⟩,
      ⟨"number", .path [] "u32" .none, [.items [.word "primary_key"]]⟩,
      ⟨"parcels", .path [] "Vec" (.angled false [.type (.path [] "Parcel" .none) false]), []⟩]

/-- The same record as it is read, with a second key and a name that starts with a digit. -/
def faulty (entry : Entry) : Entry :=
  { entry with
    table := "1st"
    fields := entry.fields ++ [⟨"id", "id", { content := .column .int64 }, true⟩] }

end Sample

open Sample in
theorem accepts_sample :
    ∃ entry, shipment.read = .ok entry ∧ entry.violations = [] ∧
      let record := entry.toRecordType "freight::"
      record.validate = .ok () ∧ record.fields.map (·.name) = ["type", "number", "parcels"] ∧
        record.primaryKey? = some ⟨"number", .uint32, false, true⟩ ∧
        (faulty entry).Reports .table (.tableName "1st") ∧
        (faulty entry).Reports (.key 3) .secondKey ∧
        (faulty entry).violations = [.tableName "1st", .secondKey] := by
  let type : FieldEntry := ⟨"r#type", "type", ⟨.column .text, true⟩, false⟩
  let number : FieldEntry := ⟨"number", "number", ⟨.column .uint32, false⟩, true⟩
  let parcels : FieldEntry :=
    ⟨"parcels", "parcels", ⟨.collection (.path [] "Parcel" .none), false⟩, false⟩
  let entry : Entry := ⟨"Shipment", "shipments", [type, number, parcels]⟩
  have read : shipment.read = .ok entry := rfl
  have clean : entry.violations = [] := by decide
  obtain ⟨plain, -, accepted⟩ := accepts "freight::"
  obtain ⟨valid, names, -, -, marked, -⟩ := accepted shipment entry read clean
  have isField : number.toField "freight::" ∈ (entry.toRecordType "freight::").fields :=
    List.mem_map_of_mem (List.mem_cons_of_mem _ List.mem_cons_self)
  obtain ⟨column, isColumn, isKey⟩ := marked (number.toField "freight::") isField rfl
  cases isColumn
  have unmatched : "1st".toList ∉ Identifier.pattern.matches' :=
    fun matched => absurd ((plain "1st").mpr matched) (by decide)
  have before : (faulty entry).fields[1]? = some number := rfl
  exact ⟨entry, read, clean, valid, names, isKey, .table unmatched,
    .key rfl rfl (by decide) before rfl, by decide⟩

end Declaration

end RecordMapper
