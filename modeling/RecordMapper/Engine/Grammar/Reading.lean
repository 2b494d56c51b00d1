import RecordMapper.Engine.Failure
import RecordMapper.Engine.Lexeme

set_option autoImplicit false

/-!
Reading from lexemes. Keywords are told without regard to case. The first lexeme that cannot go on
is named in the refusal; a text that ends too early is incomplete.
-/

namespace RecordMapper.Engine.Grammar

abbrev Reading := StateT (List Lexeme) (Except Failure)

variable {Item : Type}

def unexpected : Reading Item := fun lexemes =>
  match lexemes with
  | [] => .error .incomplete
  | .bad text :: _ => .error (.unrecognized text)
  | lexeme :: _ => .error (.syntaxNear lexeme.source)

/-- Takes the next lexeme if it passes a test. -/
def take (wanted : Lexeme → Bool) : Reading Bool := fun lexemes =>
  match lexemes with
  | lexeme :: rest => .ok (if wanted lexeme then (true, rest) else (false, lexeme :: rest))
  | [] => .ok (false, [])

def next (wanted : Lexeme → Bool) : Reading Bool := fun lexemes =>
  .ok (lexemes.head?.any wanted, lexemes)

def advance : Reading Unit :=
  modify (·.drop 1)

/-! ## Keywords and symbols -/

def isKeyword (keyword : String) : Lexeme → Bool
  | .word text => text.map Char.toUpper == keyword
  | _ => false

def isSymbol (text : String) : Lexeme → Bool :=
  (· == .symbol text)

def keyword? (keyword : String) : Reading Bool :=
  take (isKeyword keyword)

def anyKeyword? (keywords : List String) : Reading Bool :=
  take fun lexeme => keywords.any (isKeyword · lexeme)

def symbol? (text : String) : Reading Bool :=
  take (isSymbol text)

def keyword (text : String) : Reading Unit := do
  if ← keyword? text then pure () else unexpected

def symbol (text : String) : Reading Unit := do
  if ← symbol? text then pure () else unexpected

/-- The sign between a name and its value, which may be doubled. -/
def equalsSign? : Reading Bool :=
  take fun lexeme => isSymbol "=" lexeme || isSymbol "==" lexeme

def equalsSign : Reading Unit := do
  if ← equalsSign? then pure () else unexpected

/-! ## Names -/

/-- Words that are no names unless they are quoted. -/
def reserved : List String :=
  ["ADD", "ALL", "ALTER", "AND", "AS", "AUTOINCREMENT", "BETWEEN", "CASE", "CHECK", "COLLATE",
    "COMMIT", "CONSTRAINT", "CREATE", "DEFAULT", "DEFERRABLE", "DELETE", "DISTINCT", "DROP",
    "ELSE", "ESCAPE", "EXCEPT", "EXISTS", "FOREIGN", "FROM", "GROUP", "HAVING", "IN", "INDEX",
    "INSERT", "INTERSECT", "INTO", "IS", "ISNULL", "JOIN", "LIMIT", "NOT", "NOTHING", "NOTNULL",
    "NULL", "ON", "OR", "ORDER", "PRIMARY", "REFERENCES", "RETURNING", "SELECT", "SET", "TABLE",
    "THEN", "TO", "TRANSACTION", "UNION", "UNIQUE", "UPDATE", "USING", "VALUES", "WHEN", "WHERE"]

/-- Words that are names, but not where a join could follow. -/
def joinWords : List String :=
  ["CROSS", "FULL", "INDEXED", "INNER", "LEFT", "NATURAL", "OUTER", "RIGHT"]

/-- The name that a lexeme is: a word that is not among the excluded ones, or what is quoted. -/
def nameOf? (excluded : List String) : Lexeme → Option String
  | .word text => if excluded.contains (text.map Char.toUpper) then none else some text
  | .quotedName _ name => some name
  | .text content => some content
  | _ => none

def takeName? (excluded : List String) : Reading (Option String) := fun lexemes =>
  match lexemes with
  | lexeme :: rest =>
      match nameOf? excluded lexeme with
      | some name => .ok (some name, rest)
      | none => .ok (none, lexemes)
  | [] => .ok (none, [])

def name : Reading String := do
  match ← takeName? reserved with
  | some name => pure name
  | none => unexpected

/-- A name where a join could follow. -/
def plainName? : Reading (Option String) :=
  takeName? (reserved ++ joinWords)

def plainName : Reading String := do
  match ← plainName? with
  | some name => pure name
  | none => unexpected

def label? : Reading (Option String) := do
  if ← keyword? "AS" then some <$> name else plainName?

/-- A table's name, perhaps behind that of its database. There is one database. -/
def tableName : Reading String := do
  let first ← name
  if ← symbol? "." then
    let second ← name
    pure (if first.map Char.toLower == "main" then second else s!"{first}.{second}")
  else pure first

/-! ## Repetition -/

/-- Takes a further item after each separator. -/
def further (separator? : Reading Bool) (item : Reading Item) : Nat → Reading (List Item)
  | 0 => pure []
  | fuel + 1 => do
      if ← separator? then
        let first ← item
        let rest ← further separator? item fuel
        pure (first :: rest)
      else pure []

/-- One item or more, parted by commas. -/
def commaSeparated (item : Reading Item) : Reading (List Item) := do
  let first ← item
  let rest ← further (symbol? ",") item (← get).length
  pure (first :: rest)

def inBrackets (item : Reading Item) : Reading Item := do
  symbol "("
  let read ← item
  symbol ")"
  pure read

def alone (item : Reading Item) : Reading (List Item) := do
  pure [← item]

/-- The items behind a word, if the word is there. -/
def behind (word? : Reading Bool) (items : Reading (List Item)) : Reading (List Item) := do
  if ← word? then items else pure []

def optionally (present : Bool) (item : Reading Item) : Reading (Option Item) :=
  if present then some <$> item else pure none

end RecordMapper.Engine.Grammar
