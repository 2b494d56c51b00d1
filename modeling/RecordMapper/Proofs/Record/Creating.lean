import Mathlib.Logic.Function.Basic
import RecordMapper.Proofs.Record.Unfolding
import RecordMapper.Proofs.Sql.TableCommand

set_option autoImplicit false

/-!
What the statements for a table structure make of a database. A table can stand at several places of
a structure, and is then dropped and created again: each time it becomes what it was, so that the
places make no difference.
-/

namespace RecordMapper

open Sql (ColumnDefinition TableCommand)
open TableStructure (keyedColumns)

/-! ## Databases -/

/-- How an engine tells tables apart by their names, and what it makes of the columns of a new one.
Whether it would refuse them is left out. -/
structure TableRules (Name Definition : Type) where
  nameOf : String → Name
  declare : List ColumnDefinition → Definition

structure StandingTable (Definition Row : Type) where
  definition : Definition
  rows : List Row
deriving DecidableEq, Repr

abbrev Catalog (Name Definition Row : Type) :=
  Name → Option (StandingTable Definition Row)

variable {Name Definition Row : Type} [DecidableEq Name]

def TableRules.empty (rules : TableRules Name Definition) (columns : List ColumnDefinition) :
    StandingTable Definition Row :=
  ⟨rules.declare columns, []⟩

def Sql.TableCommand.run (rules : TableRules Name Definition)
    (catalog : Catalog Name Definition Row) : TableCommand → Catalog Name Definition Row
  | .create table columns =>
      match catalog (rules.nameOf table) with
      | some _ => catalog
      | none => Function.update catalog (rules.nameOf table) (some (rules.empty columns))
  | .drop table => Function.update catalog (rules.nameOf table) none

/-- Runs the texts in order; one that is no table command stops it. -/
def Catalog.execute (dialect : Dialect) (rules : TableRules Name Definition)
    (catalog : Catalog Name Definition Row) (texts : List String) :
    Option (Catalog Name Definition Row) :=
  texts.foldlM (fun catalog text =>
    (TableCommand.read? (Sql.tokens dialect text)).map (·.run rules catalog)) catalog

/-! ## One table -/

variable {dialect : Dialect} {rules : TableRules Name Definition}
  {catalog : Catalog Name Definition Row} {policy : CreatePolicy}

/-- The table that stands after it has been created: a new one, or the one from before unless that
was dropped. -/
def CreatePolicy.standing (policy : CreatePolicy) (before : Option (StandingTable Definition Row))
    (new : StandingTable Definition Row) : StandingTable Definition Row :=
  if policy.dropTable then new else before.getD new

theorem CreatePolicy.standing_standing (policy : CreatePolicy)
    (before : Option (StandingTable Definition Row)) (new : StandingTable Definition Row) :
    policy.standing (some (policy.standing before new)) new = policy.standing before new := by
  unfold standing
  split <;> rfl

def TableStructure.definitions (dialect : Dialect) (table : TableStructure) :
    List ColumnDefinition :=
  table.columns.map (ColumnDefinition.ofColumn dialect)

def Catalog.create (catalog : Catalog Name Definition Row) (dialect : Dialect)
    (rules : TableRules Name Definition) (policy : CreatePolicy) (table : TableStructure) :
    Catalog Name Definition Row :=
  let name := rules.nameOf table.table
  Function.update catalog name
    (some (policy.standing (catalog name) (rules.empty (table.definitions dialect))))

theorem Sql.TableCommand.run_create (table : String) (columns : List ColumnDefinition) :
    (TableCommand.create table columns).run rules catalog =
      Function.update catalog (rules.nameOf table)
        (some ((catalog (rules.nameOf table)).getD (rules.empty columns))) := by
  unfold run
  dsimp only
  cases stands : catalog (rules.nameOf table) with
  | none => rfl
  | some standing => simp [stands]

theorem Sql.TableCommand.run_drop (table : String) :
    (TableCommand.drop table).run rules catalog =
      Function.update catalog (rules.nameOf table) none := rfl

theorem Catalog.execute_own (table : TableStructure) :
    catalog.execute dialect rules (dialect.ownStatements policy table.table table.columns) =
      some (catalog.create dialect rules policy table) := by
  rw [Sql.ownStatements_eq]
  unfold Catalog.execute Catalog.create CreatePolicy.standing
  split
  · simp [Sql.read?_drop, Sql.read?_create, TableCommand.run_drop, TableCommand.run_create,
      TableStructure.definitions]
  · simp [Sql.read?_create, TableCommand.run_create, TableStructure.definitions]

/-! ## All tables of a structure -/

/-- A table and those below it, in the order in which they are created. -/
def TableStructure.all : TableStructure → List TableStructure
  | ⟨table, columns, subTables⟩ => ⟨table, columns, subTables⟩ :: subTables.flatMap all

theorem TableStructure.statements_eq (dialect : Dialect) (policy : CreatePolicy)
    (tables : TableStructure) (deep : policy.shallow = false) :
    dialect.tableStatements policy tables =
      tables.all.flatMap fun table => dialect.ownStatements policy table.table table.columns := by
  match tables with
  | ⟨table, columns, subTables⟩ =>
      have below : ∀ sub ∈ subTables, dialect.tableStatements policy sub =
          sub.all.flatMap fun table => dialect.ownStatements policy table.table table.columns :=
        fun sub member => statements_eq dialect policy sub deep
      rw [Dialect.tableStatements, all]
      simp [deep, List.flatMap_assoc, List.flatMap_congr below]

namespace Catalog

theorem execute_tables (tables : List TableStructure) :
    catalog.execute dialect rules
        (tables.flatMap fun table => dialect.ownStatements policy table.table table.columns) =
      some (tables.foldl (fun catalog table => catalog.create dialect rules policy table)
        catalog) := by
  induction tables generalizing catalog with
  | nil => rfl
  | cons table tables ih =>
      rw [List.flatMap_cons, execute, List.foldlM_append]
      exact (congrArg (Option.bind · _) (execute_own table)).trans ih

/-- A table that all of its places agree on stands as if it had been created once. -/
theorem create_all {tables : List TableStructure} {name : Name}
    {new : StandingTable Definition Row}
    (agree : ∀ table ∈ tables, rules.nameOf table.table = name →
      rules.empty (table.definitions dialect) = new) :
    tables.foldl (fun catalog table => catalog.create dialect rules policy table) catalog name =
      if name ∈ tables.map (fun table => rules.nameOf table.table) then
        some (policy.standing (catalog name) new)
      else catalog name := by
  induction tables generalizing catalog with
  | nil => rfl
  | cons table tables ih =>
      obtain ⟨first, others⟩ := List.forall_mem_cons.mp agree
      rw [List.foldl_cons, ih others]
      -- Another place of the same table meets what this one left, and leaves that as it is.
      by_cases here : rules.nameOf table.table = name
      · have created : catalog.create dialect rules policy table name =
            some (policy.standing (catalog name) new) := by
          simp [create, here, first here]
        simp [created, here, CreatePolicy.standing_standing]
      · have kept : catalog.create dialect rules policy table name = catalog name := by
          simp [create, Function.update_of_ne (Ne.symm here)]
        simp [kept, Ne.symm here]

end Catalog

/-! ## The tables of a record type -/

theorem Schema.Reaches.mem {schema : Schema} {record other : RecordType}
    (reaches : schema.Reaches record other) (member : record ∈ schema) : other ∈ schema := by
  cases reaches with
  | refl => exact member
  | tail _ collects => exact TableStructure.mem_of_related (mem_related.mpr collects)

/-- The table of the other record type is one of those that the record type is created with. -/
def Schema.Needs (schema : Schema) (record : RecordType) (policy : CreatePolicy)
    (other : RecordType) : Prop :=
  if policy.shallow then other = record else schema.Reaches record other

/-- The columns of a record type, where one name is the primary key's. -/
def RecordType.definitions (record : RecordType) (dialect : Dialect) (key : Option String) :
    List ColumnDefinition :=
  record.columns.map fun column =>
    let isKey := some column.name == key
    { name := column.name
      type := Sql.tokens dialect (dialect.columnType column.kind isKey)
      primaryKey := isKey
      required := !isKey && !column.optional }

theorem RecordType.definitions_keyed (record : RecordType) (dialect : Dialect)
    (key : Option String) :
    (keyedColumns record key).map (ColumnDefinition.ofColumn dialect) =
      record.definitions dialect key := by
  simp [keyedColumns, definitions, ColumnDefinition.ofColumn]

namespace Unfolding

variable {schema : Schema} {record other : RecordType} {key : Option String}
  {way : List RecordType} {table : TableStructure}

theorem tables_ownKey (tree : Unfolding) : tree.tables tree.record.ownKey? = tree.ownTables := by
  cases tree
  simp [tables, ownTables, Unfolding.record]

theorem mem_all_iff (tree : Unfolding) (key : Option String) :
    table ∈ (tree.tables key).all ↔ ∃ way, tree.Leads key way table := by
  match tree with
  | .node record below =>
      have inside : ∀ tree ∈ below, table ∈ tree.ownTables.all ↔
          ∃ way, tree.Leads tree.record.ownKey? way table :=
        fun tree member => tree.tables_ownKey ▸ mem_all_iff tree tree.record.ownKey?
      have unfolded : ((node record below).tables key).all =
          (node record below).tables key :: below.flatMap fun tree => tree.ownTables.all := by
        simp [tables, ownTables, Unfolding.record, TableStructure.all, List.flatMap_map]
      simp only [unfolded, List.mem_cons, List.mem_flatMap, leads_node]
      constructor
      · rintro (rfl | ⟨tree, member, table⟩)
        · exact ⟨_, .inl ⟨rfl, rfl⟩⟩
        · obtain ⟨way, leads⟩ := (inside tree member).mp table
          exact ⟨_, .inr ⟨tree, member, way, rfl, leads⟩⟩
      · rintro ⟨way, ⟨-, rfl⟩ | ⟨tree, member, rest, -, leads⟩⟩
        · exact .inl rfl
        · exact .inr ⟨tree, member, (inside tree member).mpr ⟨rest, leads⟩⟩

/-- Only the way that has not left the first record type ends there. -/
theorem Leads.definitions (leads : (schema.unfolding record policy).Leads key way table) :
    ∃ other, way.getLast? = some other ∧ table.table = other.table ∧
      table.definitions dialect =
        other.definitions dialect (if other = record then key else other.ownKey?) := by
  obtain ⟨other, ends, tableEq, columnsEq⟩ := leads.tabulates
  obtain ⟨-, nodup⟩ := leads.way_simple
  obtain ⟨rest, begins⟩ := leads.exists_cons
  rw [record_unfolding] at begins
  subst begins
  have stays : rest = [] ↔ other = record := by
    constructor
    · rintro rfl
      exact (Option.some.inj ends).symm
    · rintro rfl
      by_contra leaves
      rw [List.getLast?_cons_of_ne_nil leaves] at ends
      exact (List.nodup_cons.mp nodup).1 (List.mem_of_getLast? ends)
  refine ⟨other, ends, tableEq, ?_⟩
  rw [TableStructure.definitions, columnsEq, RecordType.definitions_keyed]
  simp only [List.tail_cons, stays]

theorem needs_of_mem (member : table ∈ ((schema.unfolding record policy).tables key).all)
    (dialect : Dialect) :
    ∃ other, schema.Needs record policy other ∧ table.table = other.table ∧
      table.definitions dialect =
        other.definitions dialect (if other = record then key else other.ownKey?) := by
  obtain ⟨way, leads⟩ := (mem_all_iff _ key).mp member
  obtain ⟨other, ends, tableEq, definitionsEq⟩ := leads.definitions
  have needs := (exists_leads_iff schema record other policy key).mp ⟨way, table, leads, ends⟩
  exact ⟨other, needs, tableEq, definitionsEq⟩

theorem mem_of_needs (needs : schema.Needs record policy other) (key : Option String) :
    ∃ table ∈ ((schema.unfolding record policy).tables key).all, table.table = other.table := by
  obtain ⟨way, table, leads, ends⟩ := (exists_leads_iff schema record other policy key).mpr needs
  obtain ⟨last, lastEnds, tableEq, -⟩ := leads.tabulates
  obtain rfl : last = other := Option.some.inj (lastEnds.symm.trans ends)
  exact ⟨table, (mem_all_iff _ key).mpr ⟨way, leads⟩, tableEq⟩

end Unfolding

theorem Schema.statements_unfolding (schema : Schema) (record : RecordType) (policy : CreatePolicy)
    (dialect : Dialect) (key : Option String) :
    let tables := (schema.unfolding record policy).tables key
    dialect.tableStatements policy tables =
      tables.all.flatMap fun table => dialect.ownStatements policy table.table table.columns := by
  intro tables
  cases depth : policy.shallow with
  | false => exact tables.statements_eq dialect policy depth
  | true => simp [tables, Unfolding.tables_unfolding, depth, Dialect.tableStatements,
      TableStructure.all]

namespace Dialect

/-- The statements for a record type build its tables, whatever stands before, as long as no two of
them have one name. A table that is dropped first is empty and has the columns of its record type;
one that stands and is not dropped stays as it is. The first is keyed by the explicit primary key,
and the others by their own. All tables outside the structure stay as they are. -/
theorem createTable_builds (dialect : Dialect) (rules : TableRules Name Definition)
    (schema : Schema) (record : RecordType) (primaryKey : Option String) (policy : CreatePolicy)
    (buffer : List Binding)
    (isColumn : ∀ name ∈ primaryKey, name ∈ record.columns.map (·.name))
    (distinct : ∀ first second, schema.Needs record policy first →
      schema.Needs record policy second →
      rules.nameOf first.table = rules.nameOf second.table → first = second) :
    ∃ tables statements,
      TableStructure.of schema record primaryKey policy = .ok tables ∧
      (dialect.delegate.createTable tables policy).runOn buffer = (.ok statements, buffer) ∧
      (∀ name, (∃ table ∈ tables.all, table.table = name) ↔
        ∃ other, schema.Needs record policy other ∧ other.table = name) ∧
      ∀ before : Catalog Name Definition Row, ∃ after,
        before.execute dialect rules statements = some after ∧
        (∀ other, schema.Needs record policy other →
          let name := rules.nameOf other.table
          let key := if other = record then primaryKey.or record.ownKey? else other.ownKey?
          let new := rules.empty (other.definitions dialect key)
          after name = some (if policy.dropTable then new else (before name).getD new)) ∧
        ∀ name, (∀ other, schema.Needs record policy other → rules.nameOf other.table ≠ name) →
          after name = before name := by
  let key := primaryKey.or record.ownKey?
  let tables := (schema.unfolding record policy).tables key
  have ok : TableStructure.of schema record primaryKey policy = .ok tables :=
    TableStructure.of_ok_iff.mpr ⟨isColumn, rfl⟩
  refine ⟨tables, _, ok, rfl, fun name => ⟨?_, ?_⟩, fun before => ?_⟩
  · rintro ⟨table, member, rfl⟩
    obtain ⟨other, needs, tableEq, -⟩ := Unfolding.needs_of_mem member dialect
    exact ⟨other, needs, tableEq.symm⟩
  · rintro ⟨other, needs, rfl⟩
    exact Unfolding.mem_of_needs needs key
  rw [schema.statements_unfolding record policy dialect key, Catalog.execute_tables]
  refine ⟨_, rfl, fun other needs => ?_, fun name outside => ?_⟩
  · have agree : ∀ table ∈ tables.all, rules.nameOf table.table = rules.nameOf other.table →
        rules.empty (table.definitions dialect) =
          (rules.empty (other.definitions dialect (if other = record then key else other.ownKey?)) :
            StandingTable Definition Row) := by
      intro table member same
      obtain ⟨owner, ownerNeeds, tableEq, definitionsEq⟩ := Unfolding.needs_of_mem member dialect
      rw [tableEq] at same
      obtain rfl := distinct owner other ownerNeeds needs same
      rw [definitionsEq]
    obtain ⟨table, member, tableEq⟩ := Unfolding.mem_of_needs needs key
    have stands : rules.nameOf other.table ∈ tables.all.map fun table => rules.nameOf table.table :=
      List.mem_map.mpr ⟨table, member, by rw [tableEq]⟩
    exact (Catalog.create_all agree).trans (if_pos stands)
  · have absent : ∀ table ∈ tables.all, rules.nameOf table.table ≠ name := by
      intro table member
      obtain ⟨owner, needs, tableEq, -⟩ := Unfolding.needs_of_mem member dialect
      exact tableEq ▸ outside owner needs
    have agree : ∀ table ∈ tables.all, rules.nameOf table.table = name →
        rules.empty (table.definitions dialect) =
          (rules.empty [] : StandingTable Definition Row) :=
      fun table member same => absurd same (absent table member)
    exact (Catalog.create_all agree).trans (if_neg (by simpa using absent))

end Dialect

/-! ## A cyclic schema -/

namespace Sample

def customer : RecordType where
  name := "Customer"
  table := "customer"
  fields :=
    [{ name := "id", kind := .column .int64 },
      { name := "email", kind := .column .text },
      { name := "orders", kind := .collection "Order" },
      { name := "reviews", kind := .collection "Review" }]

def order : RecordType where
  name := "Order"
  table := "order"
  fields :=
    [{ name := "number", kind := .column .uint32, primaryKey := true },
      { name := "reviews", kind := .collection "Review" }]

def review : RecordType where
  name := "Review"
  table := "review"
  fields :=
    [{ name := "id", kind := .column .uuid },
      { name := "comment", kind := .column .text, optional := true },
      { name := "customers", kind := .collection "Customer" }]

/-- Reviews are met on two ways, and lead back to customers. -/
def shop : Schema := [customer, order, review]

end Sample

namespace Dialect

open Sample

theorem createTable_builds_sample :
    let policy : CreatePolicy := { dropTable := true }
    let rules : TableRules String (List ColumnDefinition) := ⟨id, id⟩
    (∀ name ∈ some "email", name ∈ customer.columns.map (·.name)) ∧
    (∀ first second, shop.Needs customer policy first → shop.Needs customer policy second →
      rules.nameOf first.table = rules.nameOf second.table → first = second) ∧
    ∃ tables statements,
      TableStructure.of shop customer (some "email") policy = .ok tables ∧
      (mysql.delegate.createTable tables policy).runOn [] = (.ok statements, []) ∧
      ∀ before : Catalog String (List ColumnDefinition) (List Value), ∃ after,
        before.execute mysql rules statements = some after ∧
        after "customer" = some ⟨[⟨"id", [.word "BIGINT"], false, true⟩,
          ⟨"email", [.word "VARCHAR", .mark '(', .word "255", .mark ')'], true, false⟩], []⟩ ∧
        after "review" = some ⟨[⟨"id", [.word "BINARY", .mark '(', .word "16", .mark ')'], true,
          false⟩, ⟨"comment", [.word "TEXT"], false, false⟩], []⟩ ∧
        after "reviews" = before "reviews" := by
  intro policy rules
  have isColumn : ∀ name ∈ some "email", name ∈ customer.columns.map (·.name) := by
    simp [customer, RecordType.columns, Field.column?]
  have inShop : ∀ other, shop.Needs customer policy other → other ∈ shop :=
    fun other reaches => Schema.Reaches.mem reaches List.mem_cons_self
  have tablesApart : ∀ first ∈ shop, ∀ second ∈ shop, first.table = second.table →
      first = second := by
    decide
  have distinct : ∀ first second, shop.Needs customer policy first →
      shop.Needs customer policy second → rules.nameOf first.table = rules.nameOf second.table →
      first = second := fun first second needsFirst needsSecond =>
    tablesApart first (inShop first needsFirst) second (inShop second needsSecond)
  obtain ⟨tables, statements, structured, created, -, runs⟩ :=
    mysql.createTable_builds rules shop customer (some "email") policy [] isColumn distinct
  refine ⟨isColumn, distinct, tables, statements, structured, created, fun before => ?_⟩
  obtain ⟨after, executed, builds, keeps⟩ := runs before
  have self : shop.Needs customer policy customer := .refl
  have collected : shop.Needs customer policy review := by
    refine .single (Schema.mem_related.mp ?_)
    decide
  have outside : ∀ other ∈ shop, other.table ≠ "reviews" := by
    decide
  have customerColumns : customer.definitions mysql (some "email") =
      [⟨"id", [.word "BIGINT"], false, true⟩,
        ⟨"email", [.word "VARCHAR", .mark '(', .word "255", .mark ')'], true, false⟩] := by
    decide
  have reviewColumns : review.definitions mysql review.ownKey? =
      [⟨"id", [.word "BINARY", .mark '(', .word "16", .mark ')'], true, false⟩,
        ⟨"comment", [.word "TEXT"], false, false⟩] := by
    decide
  have empty {columns definition : List ColumnDefinition}
      (same : columns = definition) :
      some (rules.empty columns : StandingTable _ (List Value)) = some ⟨definition, []⟩ := by
    rw [same]
    rfl
  exact ⟨after, executed, (builds customer self).trans (empty customerColumns),
    (builds review collected).trans (empty reviewColumns),
    keeps "reviews" fun other needs => outside other (inShop other needs)⟩

end Dialect

end RecordMapper
