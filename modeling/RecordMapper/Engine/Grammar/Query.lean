import RecordMapper.Engine.Grammar.Reading
import RecordMapper.Engine.Instruction
import RecordMapper.Text.Hexadecimal

set_option autoImplicit false

/-!
Reading expressions and queries. Operators bind at levels: an expression read at a level takes
only operators of that level or above, and the operand to the right of an operator is read one
level above it, so operators of one level group to the left. What stands in brackets is read from
the lowest level again.
-/

namespace RecordMapper.Engine.Grammar

structure Inner where
  /-- An expression from a level on. -/
  expression : Nat → Reading Expression
  query : Reading Query

/-! ## Literals -/

/-- A number of at most sixteen digits to the base sixteen, which fill an integer. -/
def hexLiteral (written : String) : Reading Expression :=
  let digits := ((written.toList.drop 2).map Char.toLower).dropWhile (· == '0')
  if 16 < digits.length then throw (.wideNumeral written)
  else pure (.literal (.integer (.ofInt (Text.Hexadecimal.number digits))))

def number (written : String) : Reading Expression :=
  match Binary.Numeral.read? written.toList with
  | some numeral => pure (.literal (Stored.ofNumeral written.toList numeral))
  | none => hexLiteral written

def blobBytes (written : String) : List UInt8 :=
  Text.Hexadecimal.toOctets (((written.toList.drop 2).dropLast).map Char.toLower)

def maxParameter : Nat :=
  32766

def parameter (place : Nat) : Reading Expression :=
  if 0 < place && place ≤ maxParameter then pure (.parameter place) else throw .parameterNumber

/-! ## Names -/

def columnNamed (first : String) (quoted : Bool) : Reading Expression := do
  if ← symbol? "." then
    let second ← name
    if ← symbol? "." then
      let third ← name
      let table := if first.map Char.toLower == "main" then second else s!"{first}.{second}"
      pure (.column (some table) third false)
    else pure (.column (some first) second false)
  else pure (.column none first quoted)

/-- The arguments of a function behind the opening bracket. A star stands for none. -/
def arguments (inner : Inner) (function : String) : Reading Expression := do
  if ← symbol? "*" then
    symbol ")"
    pure (.call function false [])
  else
    let distinct ← keyword? "DISTINCT"
    if !distinct then let _ ← keyword? "ALL"
    if ← symbol? ")" then pure (.call function distinct [])
    else
      let given ← commaSeparated (inner.expression 0)
      symbol ")"
      pure (.call function distinct given)

def named (inner : Inner) (name : String) (quoted : Bool) : Reading Expression := do
  if ← symbol? "(" then arguments inner name else columnNamed name quoted

/-- A type name of any number of words. -/
def typeWords : Nat → Reading String
  | 0 => pure ""
  | fuel + 1 => do
      match ← plainName? with
      | none => pure ""
      | some word =>
          let rest ← typeWords fuel
          pure (if rest.isEmpty then word else word ++ " " ++ rest)

def signedNumber : Reading Unit := do
  let _ ← take fun lexeme => isSymbol "+" lexeme || isSymbol "-" lexeme
  match (← get).head? with
  | some (.number _) => advance
  | _ => unexpected

/-- A type name with its sizes, which change nothing. -/
def typeName : Reading String := do
  let words ← typeWords (← get).length
  if words.isEmpty then pure words
  else
    if ← symbol? "(" then
      signedNumber
      if ← symbol? "," then signedNumber
      symbol ")"
    pure words

/-! ## Operands -/

def castTo (inner : Inner) : Reading Expression := do
  let operand ← inner.expression 0
  keyword "AS"
  let typeName ← typeName
  symbol ")"
  pure (.apply (.cast (.ofTypeName typeName)) [operand])

/-- What stands in brackets: a query or an expression. -/
def bracketed (inner : Inner) : Reading Expression := do
  if ← next fun lexeme => isKeyword "SELECT" lexeme || isKeyword "VALUES" lexeme then
    let query ← inner.query
    symbol ")"
    pure (.query .value [] query)
  else
    let expression ← inner.expression 0
    symbol ")"
    pure expression

def existing (inner : Inner) : Reading Expression :=
  .query .presence [] <$> inBrackets inner.query

/-- The branches of a choice: conditions with their results, one after the other. The subject, if
there is one, is compared with each condition. -/
def branches (inner : Inner) (subject : Option Expression) : Nat → Reading (List Expression)
  | 0 => pure []
  | fuel + 1 => do
      if ← keyword? "WHEN" then
        let condition ← inner.expression 0
        keyword "THEN"
        let result ← inner.expression 0
        let rest ← branches inner subject fuel
        let test :=
          match subject with
          | some subject => .apply (.compare .eq) [subject, condition]
          | none => condition
        pure (test :: result :: rest)
      else pure []

def choice (inner : Inner) : Reading Expression := do
  let subject ← optionally (!(← next (isKeyword "WHEN"))) (inner.expression 0)
  let branches ← branches inner subject (← get).length
  if branches.isEmpty then unexpected
  let otherwise ← optionally (← keyword? "ELSE") (inner.expression 0)
  keyword "END"
  pure (.apply .choose (branches ++ [otherwise.getD (.literal .null)]))

def ofWord (inner : Inner) (word : String) : Reading Expression := do
  let bracket ← next (isSymbol "(")
  match word.map Char.toUpper with
  | "NULL" => pure (.literal .null)
  | "CASE" => choice inner
  | "EXISTS" => existing inner
  | "NOT" => (.apply .not [·]) <$> inner.expression 3
  | "CAST" =>
      if bracket then
        advance
        castTo inner
      else columnNamed word false
  | _ => named inner word false

/-- Words that are reserved and yet start an operand. -/
def operandWords : List String :=
  ["NULL", "CASE", "EXISTS", "NOT"]

def isOperandWord (word : String) : Bool :=
  let upper := word.map Char.toUpper
  operandWords.contains upper || !reserved.contains upper

/-- What has no operators on its right. -/
def operand (inner : Inner) : Reading Expression := fun lexemes =>
  match lexemes with
  | .number written :: rest => number written rest
  | .text content :: .symbol "." :: rest => columnNamed content false (.symbol "." :: rest)
  | .text content :: rest => .ok (.literal (.text (Text.Utf8.encode content)), rest)
  | .blob written :: rest => .ok (.literal (.blob (blobBytes written)), rest)
  | .parameter _ place :: rest => parameter place rest
  | .symbol "(" :: rest => bracketed inner rest
  | .symbol "-" :: .number written :: rest => negated written (.number written :: rest)
  | .symbol "-" :: rest => unary .negate rest
  | .symbol "+" :: rest => unary .plain rest
  | .symbol "~" :: rest => unary .complement rest
  | .quotedName mark name :: rest => named inner name (mark == '"') rest
  | .word word :: rest =>
      if isOperandWord word then ofWord inner word rest else unexpected lexemes
  | _ => unexpected lexemes
where
  unary (operation : Operation) : Reading Expression :=
    (.apply operation [·]) <$> inner.expression 12
  /-- The smallest integer has no opposite, so a sign belongs to its number. -/
  negated (written : String) : Reading Expression :=
    match Binary.Numeral.read? ("-" ++ written).toList with
    | some numeral => do
        advance
        pure (.literal (Stored.ofNumeral ("-" ++ written).toList numeral))
    | none => unary .negate

/-! ## Operators -/

def operators : List (String × Nat × Operation) :=
  [("=", 4, .compare .eq), ("==", 4, .compare .eq), ("<>", 4, .compare .ne),
    ("!=", 4, .compare .ne), ("<", 5, .compare .lt), ("<=", 5, .compare .le),
    (">", 5, .compare .gt), (">=", 5, .compare .ge), ("&", 7, .arithmetic .conjunction),
    ("|", 7, .arithmetic .disjunction), ("<<", 7, .arithmetic .shiftLeft),
    (">>", 7, .arithmetic .shiftRight), ("+", 8, .arithmetic .add),
    ("-", 8, .arithmetic .subtract), ("*", 9, .arithmetic .multiply),
    ("/", 9, .arithmetic .divide), ("%", 9, .arithmetic .remainder), ("||", 10, .concat)]

def operator? : Lexeme → Option (Nat × Operation)
  | .symbol text => operators.lookup text
  | lexeme =>
      if isKeyword "OR" lexeme then some (1, .or)
      else if isKeyword "AND" lexeme then some (2, .and)
      else none

def negatedIf (negated : Bool) (expression : Expression) : Expression :=
  if negated then .apply .not [expression] else expression

/-- A match with a pattern, which is the call of a function. -/
def matching (inner : Inner) (function : String) (left : Expression) : Reading Expression := do
  let pattern ← inner.expression 5
  let escape ← optionally (← keyword? "ESCAPE") (inner.expression 7)
  pure (.call function false (pattern :: left :: escape.toList))

def between (inner : Inner) (left : Expression) : Reading Expression := do
  let low ← inner.expression 3
  keyword "AND"
  let high ← inner.expression 5
  pure (.apply .and
    [.apply (.compare .ge) [left, low], .apply (.compare .le) [left, high]])

def wholeTable (name : String) : Query :=
  .select
    { distinct := false, outputs := [.all]
      sources := [{ table := .named name, label := name, padded := false, on := [] }]
      conditions := [], groups := [], having := [], sorts := [] }

/-- What follows IN: a list, a query or a table. -/
def membership (inner : Inner) (left : Expression) : Reading Expression := do
  if ← symbol? "(" then
    if ← symbol? ")" then pure (.apply .among [left])
    else if ← next fun lexeme => isKeyword "SELECT" lexeme || isKeyword "VALUES" lexeme then
      let query ← inner.query
      symbol ")"
      pure (.query .among [left] query)
    else
      let listed ← commaSeparated (inner.expression 0)
      symbol ")"
      pure (.apply .among (left :: listed))
  else
    let table ← tableName
    pure (.query .among [left] (wholeTable table))

/-- A test that may stand behind NOT. -/
def test? (inner : Inner) (left : Expression) : Reading (Option Expression) := fun lexemes =>
  match lexemes with
  | .word word :: rest =>
      let test : Option (Reading Expression) :=
        match word.map Char.toUpper with
        | "LIKE" => some (matching inner word left)
        | "GLOB" => some (matching inner word left)
        | "REGEXP" => some (matching inner word left)
        | "BETWEEN" => some (between inner left)
        | "IN" => some (membership inner left)
        | _ => none
      match test with
      | some test => (some <$> test) rest
      | none => .ok (none, lexemes)
  | _ => .ok (none, lexemes)

def agreement (inner : Inner) (left : Expression) : Reading Expression := do
  let negated ← keyword? "NOT"
  let distinct ← keyword? "DISTINCT"
  if distinct then keyword "FROM"
  let right ← inner.expression 5
  pure (negatedIf (negated != distinct) (.apply .agrees [left, right]))

def tested? (inner : Inner) (left : Expression) : Reading (Option Expression) := do
  if ← keyword? "ISNULL" then pure (some (.apply .isNull [left]))
  else if ← keyword? "NOTNULL" then pure (some (negatedIf true (.apply .isNull [left])))
  else if ← keyword? "IS" then some <$> agreement inner left
  else if ← keyword? "NOT" then
    if ← keyword? "NULL" then pure (some (negatedIf true (.apply .isNull [left])))
    else
      match ← test? inner left with
      | some test => pure (some (negatedIf true test))
      | none => unexpected
  else test? inner left

def collation : Reading Collation := do
  let name ← plainName
  match name.map Char.toUpper with
  | "BINARY" => pure .binary
  | "NOCASE" => pure .caseless
  | "RTRIM" => pure .trimmed
  | _ => throw (.absent .collation name)

/-- Goes on with an expression by an operator of a level or above. -/
def continued? (inner : Inner) (level : Nat) (left : Expression) :
    Reading (Option Expression) := do
  match (← get).head?.bind operator? with
  | some (own, operation) =>
      if level ≤ own then
        advance
        let right ← inner.expression (own + 1)
        pure (some (.apply operation [left, right]))
      else pure none
  | none =>
      if level ≤ 11 then
        if ← keyword? "COLLATE" then
          let collation ← collation
          pure (some (.apply (.collate collation) [left]))
        else if level ≤ 4 then tested? inner left
        else pure none
      else pure none

def chain (step : Expression → Reading (Option Expression)) :
    Nat → Expression → Reading Expression
  | 0, left => pure left
  | fuel + 1, left => do
      match ← step left with
      | some longer => chain step fuel longer
      | none => pure left

def leveled (inner : Inner) (level : Nat) : Reading Expression := do
  let first ← operand inner
  chain (continued? inner level) (← get).length first

/-! ## Selections -/

def output (inner : Inner) : Reading Output := fun lexemes =>
  match lexemes with
  | .symbol "*" :: rest => .ok (.all, rest)
  | .word table :: .symbol "." :: .symbol "*" :: rest => .ok (.allOf table, rest)
  | .quotedName _ table :: .symbol "." :: .symbol "*" :: rest => .ok (.allOf table, rest)
  | lexemes =>
      (do
        let expression ← inner.expression 0
        pure (Output.value expression (← label?))) lexemes

def source (inner : Inner) (padded : Bool) : Reading Source := do
  let (table, default) ←
    if ← symbol? "(" then
      let query ← inner.query
      symbol ")"
      pure (Table.query query, "")
    else
      let name ← tableName
      pure (Table.named name, name)
  let label := (← label?).getD default
  let on ← behind (keyword? "ON") (alone (inner.expression 0))
  pure { table, label, padded, on }

/-- The words between two tables, if there are any: whether the second is padded. -/
def joining? : Reading (Option Bool) := do
  if ← symbol? "," then pure (some false)
  else if ← keyword? "JOIN" then pure (some false)
  else if ← anyKeyword? ["INNER", "CROSS"] then
    keyword "JOIN"
    pure (some false)
  else if ← keyword? "LEFT" then
    let _ ← keyword? "OUTER"
    keyword "JOIN"
    pure (some true)
  else pure none

/-- Further tables, each behind what joins it. -/
def joins (inner : Inner) : Nat → Reading (List Source)
  | 0 => pure []
  | fuel + 1 => do
      match ← joining? with
      | none => pure []
      | some padded =>
          let first ← source inner padded
          let rest ← joins inner fuel
          pure (first :: rest)

def sources (inner : Inner) : Reading (List Source) := do
  let first ← source inner false
  let rest ← joins inner (← get).length
  pure (first :: rest)

/-- The condition behind a word, if the word is there. -/
def condition (inner : Inner) (word : String) : Reading (List Expression) :=
  behind (keyword? word) (alone (inner.expression 0))

def groups (inner : Inner) : Reading (List Expression) :=
  behind (keyword? "GROUP") do
    keyword "BY"
    commaSeparated (inner.expression 0)

def selection (inner : Inner) : Reading Query := do
  let distinct ← keyword? "DISTINCT"
  if !distinct then let _ ← keyword? "ALL"
  let outputs ← commaSeparated (output inner)
  let sources ← behind (keyword? "FROM") (sources inner)
  let conditions ← condition inner "WHERE"
  let groups ← groups inner
  let having ← condition inner "HAVING"
  pure (.select { distinct, outputs, sources, conditions, groups, having, sorts := [] })

def values (inner : Inner) : Reading Query := do
  let rows ← commaSeparated (inBrackets (commaSeparated (inner.expression 0)))
  if rows.any (·.length != (rows.headD []).length) then throw .unevenRows
  pure (.values rows)

/-! ## Queries -/

def simple (inner : Inner) : Reading Query := do
  if ← keyword? "SELECT" then selection inner
  else if ← keyword? "VALUES" then values inner
  else unexpected

def combination? : Reading (Option Combination) := do
  if ← keyword? "UNION" then
    pure (some (if ← keyword? "ALL" then .unionAll else .union))
  else if ← keyword? "EXCEPT" then pure (some .except)
  else if ← keyword? "INTERSECT" then pure (some .intersect)
  else pure none

/-- Combines a query with further ones; the last of them comes with the whole. -/
def combined (inner : Inner) : Nat → Query → Query → Reading (Query × Query)
  | 0, whole, last => pure (whole, last)
  | fuel + 1, whole, last => do
      match ← combination? with
      | none => pure (whole, last)
      | some combination =>
          let right ← simple inner
          combined inner fuel (.combine combination whole right) right

def sortTerm (inner : Inner) : Reading SortTerm := do
  let expression ← inner.expression 0
  let descending ← keyword? "DESC"
  if !descending then let _ ← keyword? "ASC"
  pure { expression, descending }

def sorts (inner : Inner) : Reading (List SortTerm) :=
  behind (keyword? "ORDER") do
    keyword "BY"
    commaSeparated (sortTerm inner)

/-- A limit, and an offset behind it. With a comma the offset comes first. -/
def bounds (inner : Inner) : Reading (List Expression) :=
  behind (keyword? "LIMIT") do
    let first ← inner.expression 0
    if ← keyword? "OFFSET" then
      let second ← inner.expression 0
      pure [first, second]
    else if ← symbol? "," then
      let second ← inner.expression 0
      pure [second, first]
    else pure [first]

def withSorts (sorts : List SortTerm) : Query → Query
  | .select selection => .select { selection with sorts }
  | query => if sorts.isEmpty then query else .sorted query sorts

def withBounds (bounds : List Expression) (query : Query) : Query :=
  if bounds.isEmpty then query else .bounded query bounds

/-- What sorts and bounds the rows of a whole query stands at its end. -/
def checkEnd (sorts : List SortTerm) (bounds : List Expression) : Reading Unit := do
  if !sorts.isEmpty || !bounds.isEmpty then
    match ← combination? with
    | some combination =>
        throw (.earlyClause (if sorts.isEmpty then "LIMIT" else "ORDER BY") combination.name)
    | none => pure ()

def wholeQuery (inner : Inner) : Reading Query := do
  let first ← simple inner
  let (whole, last) ← combined inner (← get).length first first
  match last with
  | .values _ => pure whole
  | _ =>
      let sorts ← sorts inner
      let bounds ← bounds inner
      checkEnd sorts bounds
      pure (withBounds bounds (withSorts sorts whole))

/-- The readers whose fuel bounds how deep expressions and queries go. -/
def readers : Nat → Inner
  | 0 => { expression := fun _ => unexpected, query := unexpected }
  | fuel + 1 =>
      let inner := readers fuel
      { expression := leveled inner, query := wholeQuery inner }

/-- Each level of depth takes at least one lexeme. -/
def expression : Reading Expression := do
  (readers ((← get).length + 1)).expression 0

def query : Reading Query := do
  (readers ((← get).length + 1)).query

end RecordMapper.Engine.Grammar
