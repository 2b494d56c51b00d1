import RecordMapper.Engine.Grammar.Query

set_option autoImplicit false

/-!
Reading instructions from lexemes.
-/

namespace RecordMapper.Engine.Grammar

/-! ## Rows -/

def condition? : Reading (List Expression) :=
  behind (keyword? "WHERE") (alone expression)

/-- A table that is changed, and the name by which its columns are qualified. -/
def changedTable : Reading (String × String) := do
  let table ← tableName
  let label ← optionally (← keyword? "AS") name
  pure (table, label.getD table)

def conflictOf? : String → Option OnConflict
  | "ABORT" => some .abort
  | "FAIL" => some .fail
  | "IGNORE" => some .ignore
  | "REPLACE" => some .replace
  | "ROLLBACK" => some .rollback
  | _ => none

def onConflict : Reading OnConflict := do
  if ← keyword? "OR" then
    match (← get).head? with
    | some (.word word) =>
        match conflictOf? (word.map Char.toUpper) with
        | some found => do
            advance
            pure found
        | none => unexpected
    | _ => unexpected
  else pure .abort

def namedColumns : Reading (Option (List String)) := do
  optionally (← next (isSymbol "(")) (inBrackets (commaSeparated name))

def assignment : Reading (String × Expression) := do
  let column ← name
  equalsSign
  pure (column, ← expression)

def assignments : Reading (List (String × Expression)) := do
  keyword "SET"
  commaSeparated assignment

def ascending : Reading Unit := do
  let _ ← anyKeyword? ["ASC", "DESC"]

def indexedColumn : Reading String := do
  let column ← name
  ascending
  pure column

def indexedColumns : Reading (List String) :=
  inBrackets (commaSeparated indexedColumn)

def merging : Reading Merging := do
  keyword "CONFLICT"
  let columns ← if ← next (isSymbol "(") then indexedColumns else pure []
  keyword "DO"
  if ← keyword? "NOTHING" then pure { columns, assignments := [], conditions := [] }
  else
    keyword "UPDATE"
    let assignments ← assignments
    pure { columns, assignments, conditions := ← condition? }

def insertInto (onConflict : OnConflict) : Reading Instruction := do
  keyword "INTO"
  let (table, label) ← changedTable
  let columns ← namedColumns
  if ← keyword? "DEFAULT" then
    keyword "VALUES"
    pure (.insertDefaults onConflict table)
  else
    let query ← query
    let merging ← optionally (← keyword? "ON") merging
    pure (.insert onConflict table label columns query merging)

def insert : Reading Instruction := do
  insertInto (← onConflict)

def update : Reading Instruction := do
  let onConflict ← onConflict
  let (table, label) ← changedTable
  let assignments ← assignments
  pure (.update onConflict table label assignments (← condition?))

def delete : Reading Instruction := do
  keyword "FROM"
  let (table, label) ← changedTable
  pure (.delete table label (← condition?))

/-! ## Tables -/

def default : Reading Expression := do
  let signed ← next fun lexeme => isSymbol "+" lexeme || isSymbol "-" lexeme
  let length := (← get).length
  match (← get).head? with
  | some (.word word) =>
      if isOperandWord word && word.map Char.toUpper != "NULL" then
        pure (.literal (.text (Text.Utf8.encode (← name))))
      else operand (readers length)
  | some (.quotedName _ name) => do
      advance
      pure (.literal (.text (Text.Utf8.encode name)))
  | _ =>
      if signed || (← next (isSymbol "(")) then (readers (length + 1)).expression 12
      else operand (readers length)

/-- What a column's declaration says of it so far, and the keys that it is by itself. -/
abbrev Declared := ColumnSource × List KeySource

/-- The constraints of a column, in any order. -/
def constraints : Nat → Declared → Reading Declared
  | 0, declared => pure declared
  | fuel + 1, (column, keys) => do
      if ← keyword? "PRIMARY" then
        keyword "KEY"
        ascending
        let growing ← keyword? "AUTOINCREMENT"
        let key : KeySource := { columns := [column.name], primary := true, growing }
        constraints fuel (column, keys ++ [key])
      else if ← keyword? "UNIQUE" then
        constraints fuel (column, keys ++ [{ columns := [column.name], primary := false }])
      else if ← keyword? "NOT" then
        keyword "NULL"
        constraints fuel ({ column with notNull := true }, keys)
      else if ← keyword? "NULL" then constraints fuel (column, keys)
      else if ← keyword? "DEFAULT" then
        constraints fuel ({ column with default := some (← default) }, keys)
      else pure (column, keys)

def column : Reading Declared := do
  let name ← name
  let typeName ← typeName
  constraints (← get).length ({ name, typeName }, [])

def tableKeys : Nat → Reading (List KeySource)
  | 0 => pure []
  | fuel + 1 => do
      let primary ← keyword? "PRIMARY"
      if primary then keyword "KEY"
      else keyword "UNIQUE"
      let columns ← indexedColumns
      let rest ← behind (symbol? ",") (tableKeys fuel)
      pure ({ columns, primary } :: rest)

def declarations : Nat → Reading (List Declared × List KeySource)
  | 0 => unexpected
  | fuel + 1 => do
      if ← next fun lexeme => isKeyword "PRIMARY" lexeme || isKeyword "UNIQUE" lexeme then
        pure ([], ← tableKeys fuel)
      else
        let first ← column
        if ← symbol? "," then
          let (columns, keys) ← declarations fuel
          pure (first :: columns, keys)
        else pure ([first], [])

def ifAbsent : Reading Bool := do
  let given ← keyword? "IF"
  if given then
    keyword "NOT"
    keyword "EXISTS"
  pure given

def ifPresent : Reading Bool := do
  let given ← keyword? "IF"
  if given then keyword "EXISTS"
  pure given

def createTable : Reading Instruction := do
  let ifAbsent ← ifAbsent
  let table ← tableName
  if ← keyword? "AS" then .createTableAs table ifAbsent <$> query
  else
    symbol "("
    let first ← column
    let (others, keys) ←
      if ← symbol? "," then declarations (← get).length else pure ([], [])
    symbol ")"
    let declared := first :: others
    pure (.createTable table ifAbsent (declared.map (·.1)) (declared.flatMap (·.2) ++ keys))

def createIndex (unique : Bool) : Reading Instruction := do
  let ifAbsent ← ifAbsent
  let index ← tableName
  keyword "ON"
  let table ← name
  .createIndex index ifAbsent unique table <$> indexedColumns

def create : Reading Instruction := do
  if ← keyword? "TABLE" then createTable
  else if ← keyword? "INDEX" then createIndex false
  else if ← keyword? "UNIQUE" then
    keyword "INDEX"
    createIndex true
  else unexpected

def drop : Reading Instruction := do
  let isTable ← keyword? "TABLE"
  if !isTable then keyword "INDEX"
  let ifPresent ← ifPresent
  let dropped ← tableName
  pure (if isTable then .dropTable dropped ifPresent else .dropIndex dropped ifPresent)

/-! ## Transactions and settings -/

/-- The optional word behind BEGIN, COMMIT and ROLLBACK, which a name may follow. -/
def transactionWord : Reading Unit := do
  if ← keyword? "TRANSACTION" then let _ ← plainName?

def beginning : Reading Instruction := do
  let deferred ← keyword? "DEFERRED"
  let writing ← if deferred then pure false else anyKeyword? ["IMMEDIATE", "EXCLUSIVE"]
  transactionWord
  pure (.begin writing)

def rollback : Reading Instruction := do
  transactionWord
  if ← keyword? "TO" then
    let _ ← keyword? "SAVEPOINT"
    .rollbackTo <$> name
  else pure (.finish .rollback)

def release : Reading Instruction := do
  let _ ← keyword? "SAVEPOINT"
  .release <$> name

/-- The value of a setting: a number, perhaps with a sign, a name or one of three words. -/
def settingValue : Reading String := fun lexemes =>
  match lexemes with
  | .symbol "-" :: .number written :: rest => .ok ("-" ++ written, rest)
  | .symbol "+" :: .number written :: rest => .ok (written, rest)
  | .number written :: rest => .ok (written, rest)
  | .symbol "-" :: rest => unexpected rest
  | .symbol "+" :: rest => unexpected rest
  | lexeme :: rest =>
      if ["ON", "DELETE", "DEFAULT"].any (isKeyword · lexeme) then .ok (lexeme.source, rest)
      else name lexemes
  | [] => unexpected lexemes

def pragma : Reading Instruction := do
  let setting ← tableName
  if ← equalsSign? then .pragma setting <$> some <$> settingValue
  else if ← next (isSymbol "(") then .pragma setting <$> some <$> inBrackets settingValue
  else pure (.pragma setting none)

def vacuum : Reading Instruction := do
  let _ ← plainName?
  pure .vacuum

/-! ## Instructions -/

/-- The instructions by the words they start with. -/
def starts : List (String × Reading Instruction) :=
  [("INSERT", insert), ("REPLACE", insertInto .replace), ("UPDATE", update), ("DELETE", delete),
    ("CREATE", create), ("DROP", drop), ("PRAGMA", pragma), ("BEGIN", beginning),
    ("COMMIT", do transactionWord; pure (.finish .commit)),
    ("END", do transactionWord; pure (.finish .commit)), ("ROLLBACK", rollback),
    ("SAVEPOINT", .savepoint <$> name), ("RELEASE", release), ("VACUUM", vacuum)]

def unexplained : Reading Instruction := fun lexemes =>
  match lexemes with
  | lexeme :: rest =>
      match starts.find? fun (word, _) => isKeyword word lexeme with
      | some (_, reading) => reading rest
      | none => (.query <$> query) lexemes
  | [] => unexpected lexemes

def instruction : Reading Instruction := do
  if ← keyword? "EXPLAIN" then
    if ← keyword? "QUERY" then keyword "PLAN"
    .explain <$> unexplained
  else unexplained

/-- The end of an instruction: a semicolon, or the end of the text. -/
def ending : Reading Unit := do
  if (← get).isEmpty then pure () else symbol ";"

def parameterCount (lexemes : List Lexeme) : Nat :=
  let numbers := lexemes.filterMap fun lexeme =>
    match lexeme with
    | .parameter _ place => some place
    | _ => none
  numbers.foldl max 0

/-- The first instruction, if there is one, with the number of its parameters and the lexemes
after it. -/
def first? (lexemes : List Lexeme) :
    Except Failure (Option (Instruction × Nat × List Lexeme)) :=
  let start := Lexeme.numbered [] 0 (lexemes.dropWhile (isSymbol ";"))
  if start.isEmpty then .ok none
  else
    match (instruction <* ending).run start with
    | .error failure => .error failure
    | .ok (read, rest) =>
        .ok (some (read, parameterCount (start.take (start.length - rest.length)), rest))

end RecordMapper.Engine.Grammar
