import Mathlib.Logic.Function.Basic
import RecordMapper.Proofs.Sql.TableCommand

set_option autoImplicit false

/-!
What the statements that create indexes ask for, and what comes of running them. The name of an
index joins those of its table and its columns with underscores, which these may contain as well,
and says nothing of uniqueness. Of two indexes with one name only the first is created.
-/

namespace RecordMapper

open Sql (tokens)

structure IndexRequest where
  table : String
  columns : List String
  unique : Bool
deriving DecidableEq, Repr

namespace IndexRequest

def create (request : IndexRequest) (dialect : Dialect) : Except Error (List String) :=
  let delegate := dialect.delegate
  ((delegate.createIndex request.table request.columns request.unique).runOn delegate.empty).1

def name (request : IndexRequest) : String :=
  Sql.indexName request.table request.columns

/-- The table's name and those of the columns. -/
def names (request : IndexRequest) : List String :=
  request.table :: request.columns

/-- What stands between the underscores of the names, one name after the other. -/
def parts (request : IndexRequest) : List (List Char) :=
  request.names.flatMap (·.toList.splitOn '_')

end IndexRequest

/-! ## Reading -/

namespace Sql

structure IndexCommand where
  name : String
  request : IndexRequest
  /-- A name that is taken is no failure. -/
  guarded : Bool
deriving DecidableEq, Repr

namespace IndexCommand

def column? : List Token → Option String
  | [.name column] => some column
  | _ => none

def on? (unique guarded : Bool) : List Token → Option IndexCommand
  | .name name :: .word "ON" :: .name table :: .mark '(' :: rest =>
      ((entries? 0 [] rest).bind (·.mapM column?)).map fun columns =>
        ⟨name, ⟨table, columns, unique⟩, guarded⟩
  | _ => none

def named? (unique : Bool) : List Token → Option IndexCommand
  | .word "IF" :: .word "NOT" :: .word "EXISTS" :: rest => on? unique true rest
  | rest => on? unique false rest

def read? : List Token → Option IndexCommand
  | .word "CREATE" :: .word "UNIQUE" :: .word "INDEX" :: rest => named? true rest
  | .word "CREATE" :: .word "INDEX" :: rest => named? false rest
  | _ => none

theorem columns_read (columns : List String) :
    (columns.map fun column => [Token.name column]).mapM column? = some columns := by
  induction columns with
  | nil => rfl
  | cons column columns ih => simp [ih, column?]

def guards : Dialect → Bool
  | .mysql => false
  | .sqlite | .postgres => true

theorem tokens_command (dialect : Dialect) (unique : Bool) :
    tokens dialect (indexCommand dialect unique) =
      .word "CREATE" :: (if unique then [.word "UNIQUE"] else []) ++ .word "INDEX" ::
        (if guards dialect then [.word "IF", .word "NOT", .word "EXISTS"] else []) := by
  cases dialect <;> cases unique <;> decide +kernel

theorem read?_command (dialect : Dialect) (unique : Bool) (name : String) (rest : List Token) :
    read? (tokens dialect (indexCommand dialect unique) ++ .name name :: rest) =
      on? unique (guards dialect) (.name name :: rest) := by
  rw [tokens_command]
  cases dialect <;> cases unique <;> rfl

theorem columns?_list {columns : List String} (nonempty : columns ≠ []) :
    (entries? 0 [] (List.intercalate [.mark ','] (columns.map fun column => [Token.name column]) ++
      [.mark ')'])).bind (·.mapM column?) = some columns := by
  have each : ∀ entry ∈ columns.map fun column => [Token.name column], IsEntry entry := by
    intro entry member
    obtain ⟨column, -, rfl⟩ := List.mem_map.mp member
    exact .closed rfl
  rw [entries_listed each (mt List.map_eq_nil_iff.mp nonempty)]
  exact columns_read columns

theorem read?_index (dialect : Dialect) {request : IndexRequest} (nonempty : request.columns ≠ []) :
    read? (tokens dialect (dialect.indexStatement request.table request.columns request.unique)) =
      some ⟨request.name, request, guards dialect⟩ := by
  obtain ⟨table, columns, unique⟩ := request
  have command : Spells dialect (indexCommand dialect unique)
      (tokens dialect (indexCommand dialect unique)) := by
    have unquoted : (indexCommand dialect unique).toList.all (· != dialect.quoteMark) = true := by
      cases dialect <;> cases unique <;> decide
    exact spells_unquoted (by simpa using unquoted)
  have on := spells_keyword dialect "ON" (by decide)
  have listed := spells_list
    (forall₂_map _ (fun column => [Token.name column]) (spells_name dialect) columns)
  have spelled := (((command.spaced (spells_name dialect (indexName table columns))).spaced
    on).spaced (spells_name dialect table)).spaced listed
  rw [indexStatement_eq, spelled.tokens_eq]
  simp only [listRead, List.append_assoc, List.cons_append, List.nil_append]
  rw [read?_command, on?, columns?_list nonempty]
  rfl

end IndexCommand

end Sql

/-! ## Names -/

theorem splitOn_joined {Item : Type} [BEq Item] [LawfulBEq Item] (mark : Item)
    {texts : List (List Item)} (nonempty : texts ≠ []) :
    (List.intercalate [mark] texts).splitOn mark = texts.flatMap (·.splitOn mark) := by
  induction texts with
  | nil => exact absurd rfl nonempty
  | cons first rest ih =>
      cases rest with
      | nil => simp
      | cons second rest =>
          rw [List.intercalate_cons_cons, List.append_assoc, List.singleton_append,
            List.splitOn_append_cons_self, ih (List.cons_ne_nil _ _)]
          rfl

theorem splitOn_injective {Item : Type} [BEq Item] [LawfulBEq Item] (mark : Item) :
    Function.Injective (List.splitOn mark) := by
  intro first second same
  have joined : List.intercalate [mark] (first.splitOn mark) = first :=
    List.intercalate_splitOn mark
  rw [← joined, same, List.intercalate_splitOn]

namespace IndexRequest

variable {first second : IndexRequest}

theorem name_toList {request : IndexRequest} (nonempty : request.columns ≠ []) :
    request.name.toList =
      "index_".toList ++ List.intercalate ['_'] (request.names.map String.toList) := by
  obtain ⟨table, columns, unique⟩ := request
  cases columns with
  | nil => exact absurd rfl nonempty
  | cons column columns => simp [name, names, Sql.indexName]

/-- Names that are joined by underscores share all of their parts, and nothing else. -/
theorem name_eq_iff (indexed : first.columns ≠ []) (otherIndexed : second.columns ≠ []) :
    first.name = second.name ↔ first.parts = second.parts := by
  have parted (request : IndexRequest) :
      (List.intercalate ['_'] (request.names.map String.toList)).splitOn '_' = request.parts := by
    rw [splitOn_joined _ (by simp [names]), List.flatMap_map]
    rfl
  rw [← String.toList_inj, name_toList indexed, name_toList otherIndexed, List.append_right_inj,
    ← (splitOn_injective '_').eq_iff, parted, parted]

theorem parts_undivided {request : IndexRequest}
    (undivided : ∀ name ∈ request.names, '_' ∉ name.toList) :
    request.parts = request.names.map String.toList := by
  unfold parts
  rw [List.map_eq_flatMap]
  exact List.flatMap_congr fun name member => List.splitOn_eq_singleton (undivided name member)

theorem names_eq_of_parts (same : first.parts = second.parts)
    (undivided : ∀ name ∈ first.names ++ second.names, '_' ∉ name.toList) :
    first.names = second.names := by
  obtain ⟨own, others⟩ := List.forall_mem_append.mp undivided
  rw [parts_undivided own, parts_undivided others] at same
  exact List.map_injective_iff.mpr (fun _ _ => String.toList_inj.mp) same

end IndexRequest

/-! ## Running -/

/-- What each index was asked for. Engines tell names apart in their own ways. -/
abbrev Indexes (Name : Type) := Name → Option IndexRequest

variable {Name : Type} [DecidableEq Name]

def Sql.IndexCommand.run (nameOf : String → Name) (indexes : Indexes Name)
    (command : IndexCommand) : Option (Indexes Name) :=
  match indexes (nameOf command.name) with
  | some _ => if command.guarded then some indexes else none
  | none => some (Function.update indexes (nameOf command.name) (some command.request))

/-- Runs the texts in order; one that fails or is no index command stops it. -/
def Indexes.execute (dialect : Dialect) (nameOf : String → Name) (indexes : Indexes Name)
    (texts : List String) : Option (Indexes Name) :=
  texts.foldlM (fun indexes text =>
    (Sql.IndexCommand.read? (tokens dialect text)).bind (·.run nameOf indexes)) indexes

namespace IndexRequest

variable {dialect : Dialect} {nameOf : String → Name} {indexes : Indexes Name}
  {request first second : IndexRequest}

/-- The indexes after a request that leaves alone what has its name. -/
def added (request : IndexRequest) (nameOf : String → Name) (indexes : Indexes Name) :
    Indexes Name :=
  Function.update indexes (nameOf request.name)
    (some ((indexes (nameOf request.name)).getD request))

theorem added_eq_self_iff :
    request.added nameOf indexes = indexes ↔ indexes (nameOf request.name) ≠ none := by
  constructor
  · intro unchanged
    rw [← unchanged]
    simp [added]
  · intro stands
    obtain ⟨standing, stands⟩ := Option.ne_none_iff_exists'.mp stands
    unfold added
    rw [stands, Function.update_eq_self_iff, stands]
    rfl

theorem create_eq (dialect : Dialect) (nonempty : request.columns ≠ []) :
    request.create dialect =
      .ok [dialect.indexStatement request.table request.columns request.unique] := by
  change dialect.indexStatements request.table request.columns request.unique = _
  unfold Dialect.indexStatements
  rw [if_neg (mt List.isEmpty_iff.mp nonempty)]

theorem guards_of_ne (guarded : dialect ≠ .mysql) : Sql.IndexCommand.guards dialect = true := by
  cases dialect with
  | mysql => exact absurd rfl guarded
  | sqlite | postgres => rfl

theorem execute_create (guarded : dialect ≠ .mysql) (nonempty : request.columns ≠ [])
    (indexes : Indexes Name) :
    indexes.execute dialect nameOf
        [dialect.indexStatement request.table request.columns request.unique] =
      some (request.added nameOf indexes) := by
  have ran : (Sql.IndexCommand.mk request.name request true).run nameOf indexes =
      some (request.added nameOf indexes) := by
    unfold Sql.IndexCommand.run added
    dsimp only
    cases stands : indexes (nameOf request.name) with
    | none => rfl
    | some standing => simp [stands]
  unfold Indexes.execute
  rw [List.foldlM_cons, Sql.IndexCommand.read?_index dialect nonempty, guards_of_ne guarded,
    Option.bind_some, ran]
  rfl

theorem added_none_iff (first second : IndexRequest) (nameOf : String → Name)
    (indexes : Indexes Name) :
    first.added nameOf indexes (nameOf second.name) = none ↔
      indexes (nameOf second.name) = none ∧ nameOf second.name ≠ nameOf first.name := by
  unfold added
  rw [Function.update_apply]
  split
  · rename_i shared
    simp [shared]
  · rename_i apart
    simp [apart]

/-- Requests under one name have the same parts, but need not be for the same index. The one that
is run later then creates nothing. -/
theorem create_named (guarded : dialect ≠ .mysql) (indexed : first.columns ≠ [])
    (otherIndexed : second.columns ≠ []) :
    ∃ text other, first.create dialect = .ok [text] ∧ second.create dialect = .ok [other] ∧
      Sql.IndexCommand.read? (tokens dialect text) = some ⟨first.name, first, true⟩ ∧
      Sql.IndexCommand.read? (tokens dialect other) = some ⟨second.name, second, true⟩ ∧
      (first.name = second.name ↔ first.parts = second.parts) ∧
      (first.name = second.name →
        (∀ name ∈ first.names ++ second.names, '_' ∉ name.toList) →
        first.table = second.table ∧ first.columns = second.columns) ∧
      ∀ {Name : Type} [DecidableEq Name] (nameOf : String → Name) (indexes : Indexes Name),
        ∃ created, indexes.execute dialect nameOf [text] = some created ∧
          (created.execute dialect nameOf [other] = some created ↔
            indexes (nameOf second.name) ≠ none ∨ nameOf second.name = nameOf first.name) ∧
          (indexes (nameOf second.name) = none → nameOf second.name = nameOf first.name →
            created (nameOf second.name) = some first) := by
  have read (request : IndexRequest) (nonempty : request.columns ≠ []) :
      Sql.IndexCommand.read? (tokens dialect (dialect.indexStatement request.table request.columns
        request.unique)) = some ⟨request.name, request, true⟩ := by
    rw [Sql.IndexCommand.read?_index dialect nonempty, guards_of_ne guarded]
  refine ⟨_, _, create_eq dialect indexed, create_eq dialect otherIndexed, read first indexed,
    read second otherIndexed, name_eq_iff indexed otherIndexed, ?_, ?_⟩
  · intro shared undivided
    have sameParts := (name_eq_iff indexed otherIndexed).mp shared
    exact List.cons.inj (names_eq_of_parts sameParts undivided)
  · intro Name _ nameOf indexes
    refine ⟨first.added nameOf indexes, execute_create guarded indexed indexes, ?_, ?_⟩
    · rw [execute_create guarded otherIndexed, Option.some_inj, added_eq_self_iff, ne_eq,
        added_none_iff, not_and_or, not_not]
    · intro free shared
      unfold added
      rw [shared, Function.update_self, ← shared, free]
      rfl

/-- Books by their author. -/
def byAuthor : IndexRequest :=
  ⟨"book", ["author_id"], false⟩

/-- No two books of an author with one number. -/
def numbered : IndexRequest :=
  ⟨"book", ["author", "id"], true⟩

theorem create_named_sample :
    Dialect.sqlite ≠ .mysql ∧ byAuthor.columns ≠ [] ∧ numbered.columns ≠ [] ∧
      ∃ text other, byAuthor.create .sqlite = .ok [text] ∧ numbered.create .sqlite = .ok [other] ∧
        (byAuthor.name = numbered.name ↔ byAuthor.parts = numbered.parts) ∧
        ∃ created, Indexes.execute .sqlite id (fun _ => none) [text] = some created ∧
          created.execute .sqlite id [other] = some created := by
  have guarded : Dialect.sqlite ≠ .mysql := by decide
  have indexed : byAuthor.columns ≠ [] := by decide
  have otherIndexed : numbered.columns ≠ [] := by decide
  obtain ⟨text, other, made, otherMade, -, -, named, -, running⟩ :=
    create_named guarded indexed otherIndexed
  obtain ⟨created, ran, idle, -⟩ := running id fun _ => none
  refine ⟨guarded, indexed, otherIndexed, text, other, made, otherMade, named, created, ran, ?_⟩
  exact idle.mpr (.inr (named.mpr (by decide)).symm)

/-- The later of two indexes with one name is not created, though it alone is unique. -/
theorem create_swallows :
    (∀ name ∈ byAuthor.names ++ numbered.names, Identifier.isPlain name = true) ∧
      byAuthor.name = numbered.name ∧ byAuthor.columns ≠ numbered.columns ∧
      byAuthor.unique ≠ numbered.unique ∧
      byAuthor.create .sqlite = .ok ["CREATE INDEX IF NOT EXISTS \"index_book_author_id\" " ++
        "ON \"book\" (\"author_id\")"] ∧
      numbered.create .sqlite = .ok ["CREATE UNIQUE INDEX IF NOT EXISTS " ++
        "\"index_book_author_id\" ON \"book\" (\"author\", \"id\")"] ∧
      ∀ texts others, byAuthor.create .sqlite = .ok texts → numbered.create .sqlite = .ok others →
        (Indexes.execute .sqlite id (fun _ => none) (texts ++ others)).map
          (· "index_book_author_id") = some (some byAuthor) := by
  have guarded : Dialect.sqlite ≠ .mysql := by decide
  have indexed : byAuthor.columns ≠ [] := by decide
  have otherIndexed : numbered.columns ≠ [] := by decide
  refine ⟨by decide, by decide, by decide, by decide, by decide +kernel, by decide +kernel, ?_⟩
  intro texts others made otherMade
  rw [create_eq _ indexed] at made
  rw [create_eq _ otherIndexed] at otherMade
  cases made
  cases otherMade
  let standing : Indexes String := byAuthor.added id fun _ => none
  have first : Indexes.execute .sqlite id (fun _ => none) _ = some standing :=
    execute_create guarded indexed _
  have second : standing.execute .sqlite id _ = some (numbered.added id standing) :=
    execute_create guarded otherIndexed standing
  unfold Indexes.execute at first second ⊢
  rw [List.foldlM_append, first, Option.bind_eq_bind, Option.bind_some, second]
  rfl

end IndexRequest

end RecordMapper
