import RecordMapper.Delegate.Standard
import RecordMapper.Proofs.Sql.Naming

set_option autoImplicit false

/-!
Statements that define tables and indexes. Their quoted names are those of the definition, in the
order in which it gives them; column types are fixed vocabulary.
-/

namespace RecordMapper.Sql

/-! ## Text without quotes -/

inductive Mode.Outside : Mode → Prop where
  | between : Outside .between
  | run {kind : CharKind} {chars : List Char} :
      kind = .letter ∨ kind = .operator → Outside (.run kind chars)

theorem start_outside {quote char : Char} (unquoted : char ≠ quote) :
    (start quote char).2.Outside := by
  unfold start
  split
  · rename_i isQuote
    unfold CharKind.of at isQuote
    grind
  · exact .between
  · exact .between
  · exact .run (.inr rfl)
  · exact .run (.inl rfl)

theorem Mode.Outside.extend {quote char : Char} {mode next : Mode} (outside : mode.Outside)
    (extended : mode.extend? quote char = some next) : next.Outside := by
  cases outside with
  | between => cases extended
  | run runs =>
      simp only [Mode.extend?] at extended
      split at extended
      · cases extended
        exact .run runs
      · cases extended

variable {dialect : Dialect}

theorem scan_outside {mode : Mode} (outside : mode.Outside) {chars rest : List Char}
    (unquoted : ∀ char ∈ chars, char ≠ dialect.quoteMark) (parts : Parts rest) :
    scan dialect.quoteMark mode (chars ++ rest) =
      scan dialect.quoteMark mode chars ++ scan dialect.quoteMark .between rest := by
  induction chars generalizing mode with
  | nil =>
      have ends : Ends dialect.quoteMark mode rest := by
        intro char first
        have apart := parts char first
        cases outside with
        | between => rfl
        | run runs => simp [Mode.extend?, ne_run_of_parts runs apart]
      rw [List.nil_append, scan_of_ends ends, scan]
  | cons char chars ih =>
      obtain ⟨other, others⟩ := List.forall_mem_cons.mp unquoted
      rw [List.cons_append, scan, scan]
      cases extended : mode.extend? dialect.quoteMark char with
      | some next => exact ih (outside.extend extended) others
      | none => simp only [ih (start_outside other) others, List.append_assoc]

theorem spells_unquoted {text : String}
    (unquoted : ∀ char ∈ text.toList, char ≠ dialect.quoteMark) :
    Spells dialect text (tokens dialect text) :=
  fun _ parts => scan_outside .between unquoted parts

/-! ## Texts and their names -/

/-- No quotes, and all of it vocabulary. -/
def isFixed (dialect : Dialect) (text : String) : Bool :=
  text.toList.all (· != dialect.quoteMark) && (tokens dialect text).all Token.isVocabulary

/-- The text reads as tokens that carry the names, whatever it is parted from. -/
def Names (dialect : Dialect) (text : String) (names : List String) : Prop :=
  ∃ read, Spells dialect text read ∧ Carries dialect read names

namespace Names

variable {first second : String} {names others : List String}

theorem carries (spelled : Names dialect first names) :
    Carries dialect (tokens dialect first) names := by
  obtain ⟨read, spells, carries⟩ := spelled
  rwa [spells.tokens_eq]

theorem spells (spelled : Names dialect first names) :
    Spells dialect first (tokens dialect first) := by
  obtain ⟨read, spells, -⟩ := spelled
  rwa [spells.tokens_eq]

theorem quoted (dialect : Dialect) (name : String) :
    Names dialect (dialect.quoteIdentifier name) [name] :=
  ⟨_, spells_name dialect name, .name name .nil⟩

theorem fixed {text : String} (known : isFixed dialect text = true) : Names dialect text [] := by
  obtain ⟨unquoted, vocabulary⟩ := Bool.and_eq_true_iff.mp known
  refine ⟨_, spells_unquoted ?_, .vocabulary vocabulary⟩
  simpa using unquoted

theorem spaced (spelled : Names dialect first names) (rest : Names dialect second others) :
    Names dialect (first ++ " " ++ second) (names ++ others) := by
  obtain ⟨read, spells, carries⟩ := spelled
  obtain ⟨otherRead, otherSpells, otherCarries⟩ := rest
  exact ⟨_, spells.spaced otherSpells, carries.append otherCarries⟩

theorem list {Item : Type} {text : Item → String} {named : Item → List String}
    (each : ∀ item, Names dialect (text item) (named item)) (items : List Item) :
    Names dialect (listText (items.map text)) (items.flatMap named) := by
  choose read spells carries using each
  exact ⟨_, spells_list (forall₂_map text read spells items), .list carries items⟩

end Names

/-! ## Tables -/

def compoundTypes : List String :=
  ["NUMERIC(20)", "DOUBLE PRECISION", "TINYINT(1)", "TINYINT UNSIGNED", "SMALLINT UNSIGNED",
    "INT UNSIGNED", "BIGINT UNSIGNED", "DECIMAL(65,30)", "VARCHAR(255)", "BINARY(16)"]

theorem columnType_mem (dialect : Dialect) (kind : ColumnKind) (primaryKey : Bool) :
    dialect.columnType kind primaryKey ∈ typeNames ∨
      dialect.columnType kind primaryKey ∈ compoundTypes := by
  unfold Dialect.columnType
  split
  case h_37 => cases primaryKey <;> simp [typeNames, compoundTypes]
  all_goals simp [typeNames, compoundTypes]

theorem typeNames_plain :
    ∀ name ∈ typeNames, name.toList ≠ [] ∧ name.toList.all isPlain := by
  decide

theorem compoundTypes_fixed (dialect : Dialect) :
    ∀ text ∈ compoundTypes, isFixed dialect text = true := by
  rw [← List.all_eq_true]
  cases dialect <;> decide +kernel

theorem names_columnType (dialect : Dialect) (kind : ColumnKind) (primaryKey : Bool) :
    Names dialect (dialect.columnType kind primaryKey) [] := by
  rcases columnType_mem dialect kind primaryKey with simple | compound
  · refine ⟨_, spells_keyword dialect _ (typeNames_plain _ simple), .vocabulary ?_⟩
    simp [Token.isVocabulary, simple]
  · exact .fixed (compoundTypes_fixed dialect _ compound)

theorem names_columnDefinition (dialect : Dialect) (column : Column) :
    Names dialect (dialect.columnDefinition column) [column.name] := by
  have typed := (Names.quoted dialect column.name).spaced
    (names_columnType dialect column.kind column.primaryKey)
  have primary : Names dialect "PRIMARY KEY" [] := by
    apply Names.fixed
    cases dialect <;> decide
  have required : Names dialect "NOT NULL" [] := by
    apply Names.fixed
    cases dialect <;> decide
  unfold Dialect.columnDefinition
  dsimp only
  split
  · simpa [String.append_assoc] using typed.spaced primary
  split
  · simpa using typed
  · simpa [String.append_assoc] using typed.spaced required

/-- The names in the statements for one table. -/
def ownNames (policy : CreatePolicy) (table : String) (columns : List Column) :
    List (List String) :=
  let create := table :: columns.map (·.name)
  if policy.dropTable then [[table], create] else [create]

/-- The names in each of the statements for a table and those below it. -/
def tableNames (policy : CreatePolicy) : TableStructure → List (List String)
  | ⟨table, columns, subTables⟩ =>
      let below := if policy.shallow then [] else subTables.flatMap (tableNames policy)
      ownNames policy table columns ++ below

def createText (dialect : Dialect) (table : String) (columns : List Column) : String :=
  "CREATE TABLE IF NOT EXISTS" ++ " " ++ dialect.quoteIdentifier table ++ " "
    ++ listText (columns.map dialect.columnDefinition)

def dropText (dialect : Dialect) (table : String) : String :=
  "DROP TABLE IF EXISTS" ++ " " ++ dialect.quoteIdentifier table

theorem ownStatements_eq (dialect : Dialect) (policy : CreatePolicy) (table : String)
    (columns : List Column) :
    dialect.ownStatements policy table columns =
      if policy.dropTable then [dropText dialect table, createText dialect table columns]
      else [createText dialect table columns] := by
  have created : createText dialect table columns =
      "CREATE TABLE IF NOT EXISTS " ++ dialect.quoteIdentifier table ++ " ("
        ++ String.intercalate ", " (columns.map dialect.columnDefinition) ++ ")" := by
    unfold createText
    rw [← String.toList_inj]
    simp [listText]
  have dropped : dropText dialect table =
      "DROP TABLE IF EXISTS " ++ dialect.quoteIdentifier table := by
    unfold dropText
    rw [← String.toList_inj]
    simp
  rw [created, dropped, Dialect.ownStatements]

theorem names_createCommand (dialect : Dialect) :
    Names dialect "CREATE TABLE IF NOT EXISTS" [] := by
  apply Names.fixed
  cases dialect <;> decide

theorem names_dropCommand (dialect : Dialect) : Names dialect "DROP TABLE IF EXISTS" [] := by
  apply Names.fixed
  cases dialect <;> decide

theorem names_create (dialect : Dialect) (table : String) (columns : List Column) :
    Names dialect (createText dialect table columns) (table :: columns.map (·.name)) := by
  have definitions := Names.list (names_columnDefinition dialect) columns
  have names := ((names_createCommand dialect).spaced (.quoted dialect table)).spaced definitions
  rwa [← List.map_eq_flatMap] at names

theorem names_drop (dialect : Dialect) (table : String) :
    Names dialect (dropText dialect table) [table] :=
  (names_dropCommand dialect).spaced (.quoted dialect table)

theorem names_own (dialect : Dialect) (policy : CreatePolicy) (table : String)
    (columns : List Column) :
    List.Forall₂ (Names dialect) (dialect.ownStatements policy table columns)
      (ownNames policy table columns) := by
  rw [ownStatements_eq]
  unfold ownNames
  dsimp only
  split
  · exact .cons (names_drop dialect table) (.cons (names_create dialect table columns) .nil)
  · exact .cons (names_create dialect table columns) .nil

theorem names_table (dialect : Dialect) (policy : CreatePolicy) (tables : TableStructure) :
    List.Forall₂ (Names dialect) (dialect.tableStatements policy tables)
      (tableNames policy tables) := by
  match tables with
  | ⟨table, columns, subTables⟩ =>
      rw [Dialect.tableStatements, tableNames]
      refine List.rel_append (names_own dialect policy table columns) ?_
      split
      · exact .nil
      · have below : List.Forall₂ (fun sub other => sub ∈ subTables ∧ sub = other) subTables
            subTables := List.forall₂_same.mpr fun sub member => ⟨member, rfl⟩
        refine List.rel_flatMap below ?_
        rintro sub _ ⟨member, rfl⟩
        exact names_table dialect policy sub

/-! ## Indexes -/

def indexName (table : String) (columns : List String) : String :=
  "index_" ++ table ++ "_" ++ String.intercalate "_" columns

def indexGuard : Dialect → String
  | .mysql => ""
  | .sqlite => "IF NOT EXISTS "
  | .postgres => "IF NOT EXISTS "

def indexCommand (dialect : Dialect) (unique : Bool) : String :=
  match dialect, unique with
  | .mysql, false => "CREATE INDEX"
  | .mysql, true => "CREATE UNIQUE INDEX"
  | _, false => "CREATE INDEX IF NOT EXISTS"
  | _, true => "CREATE UNIQUE INDEX IF NOT EXISTS"

theorem indexStatement_eq (dialect : Dialect) (table : String) (columns : List String)
    (unique : Bool) :
    dialect.indexStatement table columns unique =
      indexCommand dialect unique ++ " " ++ dialect.quoteIdentifier (indexName table columns)
        ++ " " ++ "ON" ++ " " ++ dialect.quoteIdentifier table ++ " "
        ++ listText (columns.map dialect.quoteIdentifier) := by
  have unfolded : dialect.indexStatement table columns unique =
      "CREATE " ++ (if unique then "UNIQUE " else "") ++ "INDEX " ++ indexGuard dialect
        ++ dialect.quoteIdentifier (indexName table columns) ++ " ON "
        ++ dialect.quoteIdentifier table ++ " ("
        ++ String.intercalate ", " (columns.map dialect.quoteIdentifier) ++ ")" := by
    cases dialect <;> rfl
  have command : "CREATE " ++ (if unique then "UNIQUE " else "") ++ "INDEX " ++ indexGuard dialect =
      indexCommand dialect unique ++ " " := by
    cases dialect <;> cases unique <;> decide
  rw [unfolded, command, ← String.toList_inj]
  simp [listText]

theorem names_index (dialect : Dialect) (table : String) (columns : List String) (unique : Bool) :
    Names dialect (dialect.indexStatement table columns unique)
      (indexName table columns :: table :: columns) := by
  have command : Names dialect (indexCommand dialect unique) [] := by
    apply Names.fixed
    cases dialect <;> cases unique <;> decide
  have on : Names dialect "ON" [] := by
    apply Names.fixed
    cases dialect <;> decide
  have names := (((command.spaced (.quoted dialect (indexName table columns))).spaced on).spaced
    (.quoted dialect table)).spaced (.list (Names.quoted dialect) columns)
  rw [indexStatement_eq]
  simpa using names

end RecordMapper.Sql
