import Mathlib.Data.List.Chain
import Mathlib.Data.List.Nodup
import Mathlib.Data.List.Perm.Subperm
import Mathlib.Data.Option.Basic
import RecordMapper.Record.Structure

set_option autoImplicit false

/-!
Table structures as trees of record types. The ways down the tree of a record type are exactly the
ways along collections on which no record type repeats. They are finitely many, for every schema,
and still they lead to each record type that can be reached at all.
-/

namespace RecordMapper

/-! ## Collections -/

/-- One of the record type's collections holds records of the other. -/
def Schema.Collects (schema : Schema) (record related : RecordType) : Prop :=
  ∃ field ∈ record.fields, ∃ item, field.kind = .collection item ∧ schema.find? item = some related

/-- A chain of collections leads from one record type to the other. -/
def Schema.Reaches (schema : Schema) : RecordType → RecordType → Prop :=
  Relation.ReflTransGen schema.Collects

theorem Schema.mem_related {schema : Schema} {record related : RecordType} :
    related ∈ schema.related record ↔ schema.Collects record related := by
  simp only [Schema.related, RecordType.collections, List.mem_filterMap, Schema.Collects]
  constructor
  · rintro ⟨collection, ⟨field, member, isCollection⟩, found⟩
    refine ⟨field, member, collection.item, ?_, found⟩
    unfold Field.collection? at isCollection
    split at isCollection
    · cases isCollection
    · cases isCollection
      assumption
  · rintro ⟨field, member, item, isCollection, found⟩
    have isRead : field.collection? = some ⟨field.name, item, field.optional⟩ := by
      simp [Field.collection?, isCollection]
    exact ⟨_, ⟨field, member, isRead⟩, found⟩

/-- A chain that comes back to a record type can be cut short there. -/
theorem Schema.Reaches.exists_nodup {schema : Schema} {record last : RecordType}
    (reaches : schema.Reaches record last) :
    ∃ way, (record :: way).IsChain schema.Collects ∧ (record :: way).Nodup ∧
      (record :: way).getLast? = some last := by
  induction reaches using Relation.ReflTransGen.head_induction_on with
  | refl => exact ⟨[], .singleton _, by simp, rfl⟩
  | @head record next collects _ ih =>
      obtain ⟨way, chain, nodup, ends⟩ := ih
      by_cases again : record ∈ next :: way
      -- What lies between the two places is left out.
      · obtain ⟨front, back, split⟩ := List.append_of_mem again
        rw [split] at chain nodup ends
        refine ⟨back, chain.right_of_append, (List.nodup_append.mp nodup).2.1, ?_⟩
        rwa [List.getLast?_append_of_ne_nil _ (List.cons_ne_nil _ _)] at ends
      · exact ⟨next :: way, chain.cons_cons collects, List.nodup_cons.mpr ⟨again, nodup⟩,
          by simpa using ends⟩

/-! ## Trees of record types -/

/-- Record types below one another, as a structure has their tables. -/
inductive Unfolding where
  | node (record : RecordType) (below : List Unfolding)

def RecordType.ownKey? (record : RecordType) : Option String :=
  record.primaryKey?.map (·.name)

namespace Unfolding

open TableStructure (keyedColumns)

def record : Unfolding → RecordType
  | .node record _ => record

def ownTables : Unfolding → TableStructure
  | .node record below => ⟨record.table, keyedColumns record record.ownKey?, below.map ownTables⟩

/-- The tables of the record types, each keyed by its own choice but the first, which is keyed by
the name. -/
def tables (tree : Unfolding) (key : Option String) : TableStructure :=
  { tree.ownTables with columns := keyedColumns tree.record key }

/-- A way down the tree: the record types on it and the table that it ends at. -/
inductive Leads : Unfolding → Option String → List RecordType → TableStructure → Prop where
  | here (tree : Unfolding) (key : Option String) : Leads tree key [tree.record] (tree.tables key)
  | inside {record : RecordType} {below : List Unfolding} {key : Option String} {tree : Unfolding}
      {way : List RecordType} {table : TableStructure} :
      tree ∈ below → Leads tree tree.record.ownKey? way table →
      Leads (.node record below) key (record :: way) table

end Unfolding

open Unfolding

/-- The tree below a record type at the end of a path: no record type of the path is unfolded
again. -/
def Schema.unfold (schema : Schema) (record : RecordType) (path : List RecordType) : Unfolding :=
  .node record <| (schema.related record).attach.filterMap fun ⟨related, _⟩ =>
    if _ : related ∈ path then none else some (schema.unfold related (related :: path))
termination_by (TableStructure.unmet schema path).length
decreasing_by
  exact TableStructure.unmet_length_lt (TableStructure.mem_of_related ‹_›) ‹_›

theorem Schema.unfold_eq (schema : Schema) (record : RecordType) (path : List RecordType) :
    schema.unfold record path =
      .node record ((schema.related record).filterMap fun related =>
        if related ∈ path then none else some (schema.unfold related (related :: path))) := by
  rw [Schema.unfold, List.filterMap_subtype (g := fun related =>
    if related ∈ path then none else some (schema.unfold related (related :: path)))]
  · simp
  · intro related member
    by_cases met : related ∈ path <;> simp [met]

theorem TableStructure.nested_eq (schema : Schema) (record : RecordType) (path : List RecordType) :
    nested schema record path =
      (schema.related record).filterMap fun related =>
        if related ∈ path then none
        else some ⟨related.table, keyedColumns related related.ownKey?,
          nested schema related (related :: path)⟩ := by
  rw [nested, List.filterMap_subtype (g := fun related =>
    if related ∈ path then none
    else some ⟨related.table, keyedColumns related related.ownKey?,
      nested schema related (related :: path)⟩)]
  · simp
  · intro related member
    by_cases met : related ∈ path <;> simp [met, RecordType.ownKey?]

namespace Unfolding

open TableStructure (keyedColumns)

variable {schema : Schema} {tree : Unfolding} {record last : RecordType} {below : List Unfolding}
  {key : Option String} {way path : List RecordType} {table : TableStructure}

@[simp] theorem record_unfold (schema : Schema) (record : RecordType) (path : List RecordType) :
    (schema.unfold record path).record = record := by
  rw [Schema.unfold_eq, Unfolding.record]

theorem tables_table (tree : Unfolding) (key : Option String) :
    (tree.tables key).table = tree.record.table := by
  cases tree
  simp [tables, ownTables, Unfolding.record]

theorem ownTables_unfold (schema : Schema) (record : RecordType) (path : List RecordType) :
    (schema.unfold record path).ownTables =
      ⟨record.table, keyedColumns record record.ownKey?,
        TableStructure.nested schema record path⟩ := by
  induction record, path using TableStructure.nested.induct schema with
  | case1 record path ih =>
      rw [Schema.unfold_eq, ownTables, TableStructure.nested_eq, List.map_filterMap]
      congr 1
      refine List.filterMap_congr fun related member => ?_
      by_cases met : related ∈ path
      · simp [met]
      · simp [met, ih related member met]

/-! ## Ways -/

theorem leads_node :
    (node record below).Leads key way table ↔
      (way = [record] ∧ table = (node record below).tables key) ∨
        ∃ tree ∈ below, ∃ rest, way = record :: rest ∧
          tree.Leads tree.record.ownKey? rest table := by
  constructor
  · intro leads
    cases leads with
    | here => exact .inl ⟨rfl, rfl⟩
    | inside member rest => exact .inr ⟨_, member, _, rfl, rest⟩
  · rintro (⟨rfl, rfl⟩ | ⟨tree, member, rest, rfl, leads⟩)
    · exact .here (node record below) key
    · exact .inside member leads

theorem Leads.head?_eq (leads : tree.Leads key way table) : way.head? = some tree.record := by
  cases leads <;> rfl

theorem Leads.exists_cons (leads : tree.Leads key way table) :
    ∃ rest, way = tree.record :: rest := by
  cases leads with
  | here => exact ⟨[], rfl⟩
  | inside => exact ⟨_, rfl⟩

/-- A table is that of the last record type on the way to it. -/
theorem Leads.tabulates (leads : tree.Leads key way table) :
    ∃ last, way.getLast? = some last ∧ table.table = last.table ∧
      table.columns = keyedColumns last (if way.tail = [] then key else last.ownKey?) := by
  induction leads with
  | here tree key => exact ⟨tree.record, rfl, tree.tables_table key, rfl⟩
  | @inside record below key tree way table _ rest ih =>
      obtain ⟨last, ends, tableEq, columnsEq⟩ := ih
      cases way with
      | nil => cases ends
      | cons first others =>
          refine ⟨last, by simpa using ends, tableEq, ?_⟩
          rw [columnsEq]
          cases others with
          | nil =>
              have isLast : tree.record = last := Option.some.inj (rest.head?_eq.symm.trans ends)
              simp [isLast]
          | cons => simp

theorem leads_unfold {rest : List RecordType} :
    (schema.unfold record path).Leads key (record :: rest) table ↔
      (rest = [] ∧ table = (schema.unfold record path).tables key) ∨
        ∃ related, schema.Collects record related ∧ related ∉ path ∧
          (schema.unfold related (related :: path)).Leads related.ownKey? rest table := by
  have inside (tree : Unfolding) :
      tree ∈ (schema.related record).filterMap (fun related =>
          if related ∈ path then none else some (schema.unfold related (related :: path))) ↔
        ∃ related, schema.Collects record related ∧ related ∉ path ∧
          tree = schema.unfold related (related :: path) := by
    simp only [List.mem_filterMap, Schema.mem_related]
    refine exists_congr fun related => and_congr_right fun _ => ?_
    by_cases met : related ∈ path <;> simp [met, eq_comm]
  rw [Schema.unfold_eq, leads_node]
  constructor
  · rintro (⟨same, rfl⟩ | ⟨tree, member, others, same, leads⟩)
    · exact .inl ⟨(List.cons.inj same).2, rfl⟩
    · obtain ⟨related, collects, fresh, rfl⟩ := (inside tree).mp member
      rw [record_unfold] at leads
      exact .inr ⟨related, collects, fresh, (List.cons.inj same).2 ▸ leads⟩
  · rintro (⟨rfl, rfl⟩ | ⟨related, collects, fresh, leads⟩)
    · exact .inl ⟨rfl, rfl⟩
    · refine .inr ⟨_, (inside _).mpr ⟨related, collects, fresh, rfl⟩, rest, rfl, ?_⟩
      rwa [record_unfold]

/-- The ways down a tree are those along collections on which no record type repeats. -/
theorem leads_unfold_iff (member : record ∈ path) {rest : List RecordType} :
    (∃ table, (schema.unfold record path).Leads key (record :: rest) table) ↔
      (record :: rest).IsChain schema.Collects ∧ rest.Nodup ∧ ∀ other ∈ rest, other ∉ path := by
  induction rest generalizing record path key with
  | nil => simp [leads_unfold]
  | cons next rest ih =>
      have inner : (∃ table, (schema.unfold next (next :: path)).Leads next.ownKey? (next :: rest)
            table) ↔
          (next :: rest).IsChain schema.Collects ∧ rest.Nodup ∧
            ∀ other ∈ rest, other ∉ next :: path := ih List.mem_cons_self
      constructor
      · rintro ⟨table, leads⟩
        rcases leads_unfold.mp leads with ⟨impossible, -⟩ | ⟨related, collects, fresh, leads⟩
        · cases impossible
        have isNext : next = related := by simpa using leads.head?_eq
        subst isNext
        obtain ⟨chain, nodup, others⟩ := inner.mp ⟨table, leads⟩
        refine ⟨chain.cons_cons collects, List.nodup_cons.mpr ⟨fun again => ?_, nodup⟩, ?_⟩
        · exact others next again List.mem_cons_self
        · exact List.forall_mem_cons.mpr ⟨fresh, fun other isOther met =>
            others other isOther (List.mem_cons_of_mem _ met)⟩
      · rintro ⟨chain, nodup, others⟩
        obtain ⟨collects, chain⟩ := List.isChain_cons_cons.mp chain
        obtain ⟨apart, nodup⟩ := List.nodup_cons.mp nodup
        obtain ⟨fresh, others⟩ := List.forall_mem_cons.mp others
        obtain ⟨table, leads⟩ := inner.mpr ⟨chain, nodup, fun other isOther met => by
          rcases List.mem_cons.mp met with rfl | met
          · exact apart isOther
          · exact others other isOther met⟩
        exact ⟨table, leads_unfold.mpr (.inr ⟨next, collects, fresh, leads⟩)⟩

theorem exists_leads_unfold_iff (schema : Schema) (record other : RecordType)
    (key : Option String) :
    (∃ way table, (schema.unfold record [record]).Leads key way table ∧
        way.getLast? = some other) ↔ schema.Reaches record other := by
  have exactly {rest : List RecordType} :
      (∃ table, (schema.unfold record [record]).Leads key (record :: rest) table) ↔
        (record :: rest).IsChain schema.Collects ∧ rest.Nodup ∧ ∀ other ∈ rest, other ∉ [record] :=
    leads_unfold_iff List.mem_cons_self
  constructor
  · rintro ⟨way, table, leads, ends⟩
    obtain ⟨rest, rfl⟩ := leads.exists_cons
    rw [record_unfold] at leads ends
    obtain ⟨chain, -⟩ := exactly.mp ⟨table, leads⟩
    rw [List.getLast?_eq_getLast_of_ne_nil (List.cons_ne_nil _ _)] at ends
    exact List.relationReflTransGen_of_exists_isChain_cons rest chain (Option.some.inj ends)
  · intro reaches
    obtain ⟨rest, chain, nodup, ends⟩ := reaches.exists_nodup
    obtain ⟨apart, nodup⟩ := List.nodup_cons.mp nodup
    obtain ⟨table, leads⟩ := exactly.mpr ⟨chain, nodup, fun other member met => by
      obtain rfl : other = record := by simpa using met
      exact apart member⟩
    exact ⟨record :: rest, table, leads, ends⟩

theorem leads_alone :
    (node record []).Leads key way table ↔
      way = [record] ∧ table = (node record []).tables key := by
  simp [leads_node]

end Unfolding

/-- The tree of a structure: of the first record type alone, or of all that it leads to. -/
def Schema.unfolding (schema : Schema) (record : RecordType) (policy : CreatePolicy) : Unfolding :=
  if policy.shallow then .node record [] else schema.unfold record [record]

namespace Unfolding

variable {schema : Schema} {record other : RecordType} {policy : CreatePolicy}
  {key : Option String} {way : List RecordType} {table : TableStructure}

@[simp] theorem record_unfolding (schema : Schema) (record : RecordType) (policy : CreatePolicy) :
    (schema.unfolding record policy).record = record := by
  unfold Schema.unfolding
  split
  · rfl
  · exact record_unfold schema record [record]

theorem tables_unfolding (schema : Schema) (record : RecordType) (policy : CreatePolicy)
    (key : Option String) :
    (schema.unfolding record policy).tables key =
      ⟨record.table, TableStructure.keyedColumns record key,
        if policy.shallow then [] else TableStructure.nested schema record [record]⟩ := by
  unfold Schema.unfolding
  split
  · simp [tables, ownTables, Unfolding.record]
  · simp [tables, ownTables_unfold]

theorem Leads.way_simple (leads : (schema.unfolding record policy).Leads key way table) :
    way.IsChain schema.Collects ∧ way.Nodup := by
  unfold Schema.unfolding at leads
  split at leads
  · obtain ⟨rfl, -⟩ := leads_alone.mp leads
    exact ⟨.singleton record, by simp⟩
  · obtain ⟨rest, rfl⟩ := leads.exists_cons
    rw [record_unfold] at leads ⊢
    obtain ⟨chain, nodup, others⟩ := (leads_unfold_iff List.mem_cons_self).mp ⟨table, leads⟩
    exact ⟨chain, List.nodup_cons.mpr ⟨fun again => others record again (by simp), nodup⟩⟩

theorem exists_leads_iff (schema : Schema) (record other : RecordType) (policy : CreatePolicy)
    (key : Option String) :
    (∃ way table, (schema.unfolding record policy).Leads key way table ∧
        way.getLast? = some other) ↔
      if policy.shallow then other = record else schema.Reaches record other := by
  unfold Schema.unfolding
  split
  · simp [leads_alone, eq_comm]
  · exact exists_leads_unfold_iff schema record other key

end Unfolding

theorem Schema.mem_of_chain {schema : Schema} {record : RecordType} {rest : List RecordType}
    (chain : (record :: rest).IsChain schema.Collects) : rest ⊆ schema := by
  induction rest generalizing record with
  | nil => exact List.nil_subset _
  | cons next rest ih =>
      obtain ⟨collects, chain⟩ := List.isChain_cons_cons.mp chain
      exact List.cons_subset.mpr
        ⟨TableStructure.mem_of_related (mem_related.mpr collects), ih chain⟩

/-- A way on which no record type repeats is no longer than the schema allows. -/
theorem Schema.length_le_of_chain {schema : Schema} {way : List RecordType}
    (chain : way.IsChain schema.Collects) (nodup : way.Nodup) :
    way.length ≤ schema.length + 1 := by
  cases way with
  | nil => exact Nat.zero_le _
  | cons record rest =>
      have inside := (List.nodup_cons.mp nodup).2.subperm (mem_of_chain chain)
      exact Nat.succ_le_succ inside.length_le

/-! ## Structures -/

def Column.unkeyed (column : Column) : Column :=
  { column with primaryKey := false }

namespace TableStructure

variable {schema : Schema} {record : RecordType} {primaryKey : Option String}
  {policy : CreatePolicy} {tables : TableStructure} {error : Error}

/-- The table has the columns of the record type, in declaration order. As long as no two have one
name, at most one of them is the primary key. -/
structure Tabulates (table : TableStructure) (record : RecordType) : Prop where
  table_eq : table.table = record.table
  columns_eq : table.columns.map Column.unkeyed = record.columns.map Column.unkeyed
  keys_le : (record.columns.map (·.name)).Nodup →
    (table.columns.filter (·.primaryKey)).length ≤ 1

theorem keyedColumns_unkeyed (record : RecordType) (key : Option String) :
    (keyedColumns record key).map Column.unkeyed = record.columns.map Column.unkeyed := by
  simp [keyedColumns, Column.unkeyed, Function.comp_def]

theorem keyedColumns_keys_le (record : RecordType) (key : Option String)
    (distinct : (record.columns.map (·.name)).Nodup) :
    ((keyedColumns record key).filter (·.primaryKey)).length ≤ 1 := by
  have counted : ((keyedColumns record key).filter (·.primaryKey)).length =
      (record.columns.map fun column => some column.name).count key := by
    rw [← List.countP_eq_length_filter, keyedColumns, List.countP_map, List.count,
      List.countP_map]
    rfl
  have someDistinct : (record.columns.map fun column => some column.name).Nodup := by
    simpa [Function.comp_def] using distinct.map (Option.some_injective String)
  exact counted ▸ List.nodup_iff_count_le_one.mp someDistinct key

theorem of_none (schema : Schema) (record : RecordType) (policy : CreatePolicy) :
    of schema record none policy =
      .ok ((schema.unfolding record policy).tables record.ownKey?) := by
  rw [Unfolding.tables_unfolding]
  rfl

theorem of_some (schema : Schema) (record : RecordType) (name : String) (policy : CreatePolicy) :
    of schema record (some name) policy =
      if name ∈ record.columns.map (·.name) then
        .ok ((schema.unfolding record policy).tables (some name))
      else .error (.schema (.primaryKeyNotFound name record.table)) := by
  have isColumn : record.columns.any (·.name == name) = true ↔
      name ∈ record.columns.map (·.name) := by
    simp
  rw [Unfolding.tables_unfolding]
  unfold of
  simp only [isColumn]

theorem of_ok_iff :
    of schema record primaryKey policy = .ok tables ↔
      (∀ name ∈ primaryKey, name ∈ record.columns.map (·.name)) ∧
        tables = (schema.unfolding record policy).tables (primaryKey.or record.ownKey?) := by
  cases primaryKey with
  | none =>
      rw [of_none, Except.ok.injEq, eq_comm]
      exact ⟨fun same => ⟨nofun, same⟩, And.right⟩
  | some name =>
      rw [of_some]
      split
      · rename_i isColumn
        rw [Except.ok.injEq, eq_comm]
        refine ⟨fun same => ⟨fun _ named => Option.some.inj named ▸ isColumn, same⟩, And.right⟩
      · rename_i isColumn
        exact ⟨nofun, fun known => absurd (known.1 name rfl) isColumn⟩

theorem of_error_iff :
    of schema record primaryKey policy = .error error ↔
      ∃ name, primaryKey = some name ∧ name ∉ record.columns.map (·.name) ∧
        error = .schema (.primaryKeyNotFound name record.table) := by
  cases primaryKey with
  | none =>
      rw [of_none]
      exact ⟨nofun, nofun⟩
  | some name =>
      rw [of_some]
      constructor
      · intro fails
        split at fails
        · cases fails
        · cases fails
          exact ⟨name, rfl, ‹_›, rfl⟩
      · rintro ⟨_, named, notColumn, rfl⟩
        cases named
        rw [if_neg notColumn]

/-- The structure of a record type is a tree whose ways are those along collections on which no
record type repeats, so that it is finite, and still it has the tables of all record types that can
be reached. A shallow one has the first table alone. It fails only if the explicit primary key is
not a column. -/
theorem of_unfolds (schema : Schema) (record : RecordType) (primaryKey : Option String)
    (policy : CreatePolicy) :
    (∀ error, of schema record primaryKey policy = .error error ↔
      ∃ name, primaryKey = some name ∧ name ∉ record.columns.map (·.name) ∧
        error = .schema (.primaryKeyNotFound name record.table)) ∧
    let key := primaryKey.or record.ownKey?
    ∃ tree : Unfolding, tree.record = record ∧
      (∀ tables, of schema record primaryKey policy = .ok tables → tables = tree.tables key) ∧
      (∀ way table, tree.Leads key way table →
        way.IsChain schema.Collects ∧ way.Nodup ∧ way.length ≤ schema.length + 1 ∧
          ∃ last, way.getLast? = some last ∧ table.Tabulates last) ∧
      ∀ other, (∃ way table, tree.Leads key way table ∧ way.getLast? = some other) ↔
        if policy.shallow then other = record else schema.Reaches record other := by
  refine ⟨fun error => of_error_iff, schema.unfolding record policy,
    Unfolding.record_unfolding schema record policy, fun tables ok => (of_ok_iff.mp ok).2, ?_,
    fun other => Unfolding.exists_leads_iff schema record other policy _⟩
  intro way table leads
  obtain ⟨chain, nodup⟩ := leads.way_simple
  obtain ⟨last, ends, tableEq, columnsEq⟩ := leads.tabulates
  refine ⟨chain, nodup, Schema.length_le_of_chain chain nodup, last, ends, tableEq, ?_, ?_⟩
  · rw [columnsEq, keyedColumns_unkeyed]
  · rw [columnsEq]
    exact keyedColumns_keys_le last _

end TableStructure

end RecordMapper
