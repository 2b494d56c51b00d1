import RecordMapper.Proofs.Sql.Definition

set_option autoImplicit false

/-!
Statements that create and drop tables, read from their tokens. The columns of a table stand between
parentheses, parted by the commas that are in no others; each is a name, the tokens of its type, and
what is asked of it.
-/

namespace RecordMapper.Sql

/-! ## Reading -/

structure ColumnDefinition where
  name : String
  type : List Token
  primaryKey : Bool
  /-- NULL is refused by name, and not only because the column is the primary key. -/
  required : Bool
deriving DecidableEq, Repr

/-- Creating does nothing when the table exists, and dropping does nothing when it does not. -/
inductive TableCommand where
  | create (table : String) (columns : List ColumnDefinition)
  | drop (table : String)
deriving DecidableEq, Repr

/-- What stands between commas, up to the parenthesis that closes the list and ends the text. The
depth counts the parentheses that are open inside, and the tokens since the last comma are at
hand. -/
def entries? : Nat → List Token → List Token → Option (List (List Token))
  | _, _, [] => none
  | depth, read, token :: rest =>
      if token = .mark '(' then entries? (depth + 1) (read ++ [token]) rest
      else if token = .mark ')' then
        if depth = 0 then if rest = [] then some [read] else none
        else entries? (depth - 1) (read ++ [token]) rest
      else if token = .mark ',' ∧ depth = 0 then (entries? 0 [] rest).map (read :: ·)
      else entries? depth (read ++ [token]) rest

def ColumnDefinition.read? : List Token → Option ColumnDefinition
  | .name name :: rest =>
      let count := rest.length - 2
      if rest.drop count = [.word "PRIMARY", .word "KEY"] then
        some ⟨name, rest.take count, true, false⟩
      else if rest.drop count = [.word "NOT", .word "NULL"] then
        some ⟨name, rest.take count, false, true⟩
      else some ⟨name, rest, false, false⟩
  | _ => none

def columns? (tokens : List Token) : Option (List ColumnDefinition) :=
  if tokens = [.mark ')'] then some []
  else (entries? 0 [] tokens).bind fun entries => entries.mapM ColumnDefinition.read?

def TableCommand.read? : List Token → Option TableCommand
  | [.word "DROP", .word "TABLE", .word "IF", .word "EXISTS", .name table] => some (.drop table)
  | .word "CREATE" :: .word "TABLE" :: .word "IF" :: .word "NOT" :: .word "EXISTS" ::
      .name table :: .mark '(' :: rest => (columns? rest).map (.create table)
  | _ => none

/-! ## Lists of columns -/

/-- All parentheses are closed in the text, from a depth on, and no comma is outside of them. -/
def isClosed : Nat → List Token → Bool
  | depth, [] => depth = 0
  | depth, token :: rest =>
      if token = .mark '(' then isClosed (depth + 1) rest
      else if token = .mark ')' then depth ≠ 0 && isClosed (depth - 1) rest
      else if token = .mark ',' ∧ depth = 0 then false
      else isClosed depth rest

theorem entries_closed {inner : Nat} {closed : List Token} (isClosed : isClosed inner closed = true)
    (depth : Nat) (read rest : List Token) :
    entries? (inner + depth) read (closed ++ rest) = entries? depth (read ++ closed) rest := by
  -- Both readers count the same parentheses: a comma at `inner + depth = 0` would be one at 0.
  induction closed generalizing inner read with
  | nil =>
      have outside : inner = 0 := by simpa [Sql.isClosed] using isClosed
      simp [outside]
  | cons token closed ih =>
      rw [Sql.isClosed] at isClosed
      rw [List.cons_append, entries?]
      split at isClosed
      · rename_i opens
        rw [if_pos opens, Nat.add_right_comm, ih isClosed]
        simp
      rename_i notOpening
      rw [if_neg notOpening]
      split at isClosed
      · rename_i closes
        obtain ⟨isInner, isClosed⟩ := Bool.and_eq_true_iff.mp isClosed
        have positive : inner ≠ 0 := of_decide_eq_true isInner
        rw [if_pos closes, if_neg (by omega), show inner + depth - 1 = inner - 1 + depth by omega,
          ih isClosed]
        simp
      rename_i notClosing
      rw [if_neg notClosing]
      split at isClosed
      · cases isClosed
      · rename_i notParting
        have inside : ¬(token = .mark ',' ∧ inner + depth = 0) := by
          rintro ⟨isComma, isZero⟩
          exact notParting ⟨isComma, by omega⟩
        rw [if_neg inside, ih isClosed]
        simp

/-- The tokens belong to one entry, whatever stands before and after them. -/
def IsEntry (entry : List Token) : Prop :=
  ∀ read rest, entries? 0 read (entry ++ rest) = entries? 0 (read ++ entry) rest

namespace IsEntry

variable {entry other : List Token}

theorem closed (isClosed : isClosed 0 entry = true) : IsEntry entry := by
  intro read rest
  simpa using entries_closed isClosed 0 read rest

theorem append (isEntry : IsEntry entry) (others : IsEntry other) : IsEntry (entry ++ other) := by
  intro read rest
  rw [List.append_assoc, isEntry, others, List.append_assoc]

end IsEntry

theorem entries_listed {reads : List (List Token)} (each : ∀ read ∈ reads, IsEntry read)
    (nonempty : reads ≠ []) :
    entries? 0 [] (List.intercalate [.mark ','] reads ++ [.mark ')']) = some reads := by
  induction reads with
  | nil => exact absurd rfl nonempty
  | cons first others ih =>
      obtain ⟨isEntry, areEntries⟩ := List.forall_mem_cons.mp each
      cases others with
      | nil =>
          rw [List.intercalate_singleton, isEntry, List.nil_append]
          rfl
      | cons second others =>
          have rest := ih areEntries (List.cons_ne_nil _ _)
          rw [List.intercalate_cons_cons, List.append_assoc, List.append_assoc, isEntry,
            List.nil_append, List.singleton_append, entries?, rest]
          rfl

/-! ## Written columns -/

/-- Tokens that can be read as a type: closed, and with no constraint at their end. -/
def isType (type : List Token) : Bool :=
  isClosed 0 type &&
    type.drop (type.length - 2) ∉ [[.word "PRIMARY", .word "KEY"], [.word "NOT", .word "NULL"]]

theorem word_isType (text : String) : isType [.word text] = true := by
  simp [isType, isClosed]

theorem compoundTypes_isType (dialect : Dialect) :
    ∀ text ∈ compoundTypes, isType (tokens dialect text) = true := by
  rw [← List.all_eq_true]
  cases dialect <;> decide +kernel

namespace ColumnDefinition

/-- The definition of a column in a dialect. -/
def ofColumn (dialect : Dialect) (column : Column) : ColumnDefinition where
  name := column.name
  type := tokens dialect (dialect.columnType column.kind column.primaryKey)
  primaryKey := column.primaryKey
  required := !column.primaryKey && !column.optional

def constraint (definition : ColumnDefinition) : List Token :=
  if definition.primaryKey then [.word "PRIMARY", .word "KEY"]
  else if definition.required then [.word "NOT", .word "NULL"]
  else []

def read (definition : ColumnDefinition) : List Token :=
  .name definition.name :: (definition.type ++ definition.constraint)

variable {definition : ColumnDefinition} (dialect : Dialect) (column : Column)

theorem read?_read (isType : isType definition.type = true)
    (alone : definition.primaryKey = true → definition.required = false) :
    read? definition.read = some definition := by
  obtain ⟨name, type, primaryKey, required⟩ := definition
  obtain ⟨-, plain⟩ := Bool.and_eq_true_iff.mp isType
  cases primaryKey with
  | true =>
      cases alone rfl
      simp [read, constraint, read?]
  | false =>
      cases required with
      | true => simp [read, constraint, read?]
      | false =>
          have plain := of_decide_eq_true plain
          simp only [List.mem_cons, List.not_mem_nil, or_false, not_or] at plain
          simp [read, constraint, read?, plain.1, plain.2]

theorem ofColumn_isType : isType (ofColumn dialect column).type = true := by
  rcases columnType_mem dialect column.kind column.primaryKey with simple | compound
  · have word := spells_keyword dialect _ (typeNames_plain _ simple)
    rw [ofColumn, word.tokens_eq]
    exact word_isType _
  · exact compoundTypes_isType dialect _ compound

theorem ofColumn_isEntry : IsEntry (ofColumn dialect column).read := by
  have name : IsEntry [.name column.name] := .closed (by simp [isClosed])
  have type : IsEntry (ofColumn dialect column).type :=
    .closed (Bool.and_eq_true_iff.mp (ofColumn_isType dialect column)).1
  have constraint : IsEntry (ofColumn dialect column).constraint := by
    unfold ColumnDefinition.constraint
    split
    · exact .closed rfl
    · split <;> exact .closed rfl
  exact name.append (type.append constraint)

theorem read?_ofColumn : read? (ofColumn dialect column).read = some (ofColumn dialect column) := by
  refine read?_read (ofColumn_isType dialect column) fun keyed => ?_
  have keyed : column.primaryKey = true := keyed
  simp [ofColumn, keyed]

theorem spells_ofColumn :
    Spells dialect (dialect.columnDefinition column) (ofColumn dialect column).read := by
  have typed := (spells_name dialect column.name).spaced
    (names_columnType dialect column.kind column.primaryKey).spells
  have primary := typed.spaced ((spells_keyword dialect "PRIMARY" (by decide)).spaced
    (spells_keyword dialect "KEY" (by decide)))
  have notNull := typed.spaced ((spells_keyword dialect "NOT" (by decide)).spaced
    (spells_keyword dialect "NULL" (by decide)))
  unfold Dialect.columnDefinition
  dsimp only
  split
  · rename_i keyed
    simpa [read, constraint, ofColumn, keyed, String.append_assoc] using primary
  rename_i unkeyed
  split
  · rename_i optional
    simpa [read, constraint, ofColumn, unkeyed, optional] using typed
  · rename_i required
    simpa [read, constraint, ofColumn, unkeyed, required, String.append_assoc] using notNull

end ColumnDefinition

/-! ## Written statements -/

variable (dialect : Dialect) (table : String) (columns : List Column)

theorem readAll_ofColumn (columns : List Column) :
    (columns.map fun column => (ColumnDefinition.ofColumn dialect column).read).mapM
      ColumnDefinition.read? = some (columns.map (ColumnDefinition.ofColumn dialect)) := by
  induction columns with
  | nil => rfl
  | cons column columns ih => simp [ColumnDefinition.read?_ofColumn, ih]

theorem columns?_list (columns : List Column) :
    columns? (List.intercalate [.mark ','] (columns.map fun column =>
          (ColumnDefinition.ofColumn dialect column).read) ++ [.mark ')']) =
      some (columns.map (ColumnDefinition.ofColumn dialect)) := by
  cases columns with
  | nil => rfl
  | cons column others =>
      have each : ∀ read ∈ (column :: others).map fun column =>
          (ColumnDefinition.ofColumn dialect column).read, IsEntry read := by
        intro read member
        obtain ⟨column, -, rfl⟩ := List.mem_map.mp member
        exact ColumnDefinition.ofColumn_isEntry dialect column
      have named : List.intercalate [.mark ','] ((column :: others).map fun column =>
          (ColumnDefinition.ofColumn dialect column).read) ++ [.mark ')'] ≠ [.mark ')'] := by
        cases others <;> simp [ColumnDefinition.read]
      rw [columns?, if_neg named, entries_listed each (List.cons_ne_nil _ _)]
      exact readAll_ofColumn dialect (column :: others)

theorem read?_create :
    TableCommand.read? (tokens dialect (createText dialect table columns)) =
      some (.create table (columns.map (ColumnDefinition.ofColumn dialect))) := by
  have commandTokens : tokens dialect "CREATE TABLE IF NOT EXISTS" =
      [.word "CREATE", .word "TABLE", .word "IF", .word "NOT", .word "EXISTS"] := by
    cases dialect <;> decide
  have definitions := spells_list
    (forall₂_map _ _ (ColumnDefinition.spells_ofColumn dialect) columns)
  have spelled := ((names_createCommand dialect).spells.spaced (spells_name dialect table)).spaced
    definitions
  unfold createText
  rw [spelled.tokens_eq, commandTokens]
  simp [TableCommand.read?, listRead, columns?_list]

theorem read?_drop :
    TableCommand.read? (tokens dialect (dropText dialect table)) = some (.drop table) := by
  have commandTokens : tokens dialect "DROP TABLE IF EXISTS" =
      [.word "DROP", .word "TABLE", .word "IF", .word "EXISTS"] := by
    cases dialect <;> decide
  have spelled := (names_dropCommand dialect).spells.spaced (spells_name dialect table)
  unfold dropText
  rw [spelled.tokens_eq, commandTokens]
  rfl

end RecordMapper.Sql
