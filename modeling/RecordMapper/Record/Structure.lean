import RecordMapper.Record.Basic

set_option autoImplicit false

/-!
The tables that a record type needs: its own, and below it those of its collections. A record
type that is met again on its own path is not expanded again, so the structure is finite for
every schema, cyclic ones included.
-/

namespace RecordMapper

structure CreatePolicy where
  /-- Only the first table, not those of its collections. -/
  shallow : Bool := false
  /-- Drop each table before it is created. -/
  dropTable : Bool := false
deriving DecidableEq, Repr

structure TableStructure where
  table : String
  columns : List Column
  subTables : List TableStructure

namespace TableStructure

def primaryKey? (table : TableStructure) : Option String :=
  (table.columns.find? (·.primaryKey)).map (·.name)

/-- The columns of a record type with the primary key set to one name and no other. -/
def keyedColumns (record : RecordType) (key : Option String) : List Column :=
  record.columns.map fun column => { column with primaryKey := some column.name == key }

/-- Record types of the schema that a path has not met. -/
def unmet (schema : Schema) (path : List RecordType) : List RecordType :=
  schema.filter fun record => !path.contains record

theorem unmet_length_lt {schema : Schema} {path : List RecordType} {record : RecordType}
    (member : record ∈ schema) (fresh : record ∉ path) :
    (unmet schema (record :: path)).length < (unmet schema path).length := by
  have smaller : unmet schema (record :: path)
      = (unmet schema path).filter fun other => other != record := by
    simp only [unmet, List.filter_filter]
    congr 1
    funext other
    by_cases same : other = record <;> simp [same]
  rw [smaller]
  have present : record ∈ unmet schema path := by
    simp [unmet, member, fresh]
  exact List.length_filter_lt_length_iff_exists.mpr ⟨record, present, by simp⟩

theorem mem_of_find? {schema : Schema} {name : String} {record : RecordType}
    (found : schema.find? name = some record) : record ∈ schema :=
  List.mem_of_find?_eq_some found

theorem mem_of_related {schema : Schema} {record related : RecordType}
    (member : related ∈ schema.related record) : related ∈ schema := by
  obtain ⟨collection, _, found⟩ := List.mem_filterMap.mp member
  exact mem_of_find? found

/-- The structure below a record type that the path, starting with it, leads to. -/
def nested (schema : Schema) (record : RecordType) (path : List RecordType) :
    List TableStructure :=
  (schema.related record).attach.filterMap fun ⟨related, _⟩ =>
    if _ : related ∈ path then none
    else some
      { table := related.table
        columns := keyedColumns related (related.primaryKey?.map (·.name))
        subTables := nested schema related (related :: path) }
termination_by (unmet schema path).length
decreasing_by exact unmet_length_lt (mem_of_related ‹_›) ‹_›

/-- The structure of a record type. An explicit primary key must be one of its columns; without
one every record type keeps its own choice. -/
def of (schema : Schema) (record : RecordType) (primaryKey : Option String)
    (policy : CreatePolicy) : Except Error TableStructure :=
  let subTables := if policy.shallow then [] else nested schema record [record]
  match primaryKey with
  | none => .ok ⟨record.table, keyedColumns record (record.primaryKey?.map (·.name)), subTables⟩
  | some name =>
      if record.columns.any (·.name == name) then
        .ok ⟨record.table, keyedColumns record (some name), subTables⟩
      else .error (.schema (.primaryKeyNotFound name record.table))

end TableStructure

end RecordMapper
