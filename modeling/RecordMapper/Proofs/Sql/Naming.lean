import RecordMapper.Proofs.Sql.Sentence

set_option autoImplicit false

/-!
The names that a text carries. Outside its quotes a statement has only words of a fixed vocabulary,
numbers, operators, marks and placeholders; inside them it has the names of its sentence, in order.
-/

namespace RecordMapper.Sql

/-! ## Vocabulary -/

def keywords : List String :=
  ["SELECT", "DISTINCT", "FROM", "AS", "JOIN", "ON", "WHERE", "AND", "OR", "NOT", "IS", "NULL",
    "ORDER", "BY", "DESC", "LIMIT", "OFFSET", "COUNT", "count", "s1", "UPDATE", "SET", "DELETE",
    "INSERT", "INTO", "VALUES", "DROP", "CREATE", "UNIQUE", "TABLE", "INDEX", "IF", "EXISTS",
    "PRIMARY", "KEY"]

def typeNames : List String :=
  ["INTEGER", "REAL", "TEXT", "BLOB", "BOOLEAN", "SMALLINT", "BIGINT", "NUMERIC", "DOUBLE",
    "PRECISION", "BYTEA", "UUID", "TINYINT", "UNSIGNED", "INT", "FLOAT", "DECIMAL", "VARCHAR",
    "BINARY"]

def isDecimal (word : String) : Bool :=
  match word.toList with
  | '-' :: digits => !digits.isEmpty && digits.all (·.isDigit)
  | digits => !digits.isEmpty && digits.all (·.isDigit)

/-- A token that has nothing of its own to say: no name and no placeholder. -/
def Token.isVocabulary : Token → Bool
  | .name _ => false
  | .word text => decide (text ∈ keywords) || decide (text ∈ typeNames) || isDecimal text
  | .operator sign => decide (sign ∈ ["=", "<>", "<", "<=", ">", ">="])
  | .mark char => decide (char ∈ ['(', ')', ',', '.', '*'])
  | .unclosed => false

def Token.name? : Token → Option String
  | .name text => some text
  | _ => none

def Token.IsFixed (dialect : Dialect) (token : Token) : Prop :=
  token.isVocabulary = true ∨ ∃ index, token = .word (dialect.placeholder index)

/-- The tokens are the names, in their order, with fixed tokens around and between them. -/
inductive Carries (dialect : Dialect) : List Token → List String → Prop where
  | nil : Carries dialect [] []
  | name (text : String) {tokens : List Token} {names : List String} :
      Carries dialect tokens names → Carries dialect (.name text :: tokens) (text :: names)
  | fixed {token : Token} {tokens : List Token} {names : List String} :
      token.IsFixed dialect → Carries dialect tokens names → Carries dialect (token :: tokens) names

variable {dialect : Dialect}

theorem isDecimal_repr (number : Nat) : isDecimal number.repr = true := by
  have digits := repr_digits number
  have nonempty := (repr_plain number).1
  unfold isDecimal
  split
  · rename_i others written
    rw [written] at digits
    exact absurd (digits '-' List.mem_cons_self) (by decide)
  · simpa [nonempty] using digits

namespace Carries

variable {tokens others : List Token} {names otherNames : List String}

/-- Tokens carry one list of names only. -/
theorem names_eq (carries : Carries dialect tokens names) :
    names = tokens.filterMap Token.name? := by
  induction carries with
  | nil => rfl
  | name text _ ih => rw [List.filterMap_cons, ← ih, Token.name?]
  | @fixed token _ _ isFixed _ ih =>
      have unnamed : token.name? = none := by
        rcases isFixed with known | ⟨index, rfl⟩
        · cases token <;> first | rfl | cases known
        · rfl
      rw [List.filterMap_cons, unnamed, ih]

theorem append (carries : Carries dialect tokens names)
    (rest : Carries dialect others otherNames) :
    Carries dialect (tokens ++ others) (names ++ otherNames) := by
  induction carries with
  | nil => exact rest
  | name text _ ih => exact .name text ih
  | fixed isFixed _ ih => exact .fixed isFixed ih

theorem vocabulary (known : tokens.all Token.isVocabulary = true) : Carries dialect tokens [] := by
  induction tokens with
  | nil => exact .nil
  | cons token tokens ih =>
      rw [List.all_cons, Bool.and_eq_true] at known
      exact .fixed (.inl known.1) (ih known.2)

theorem keyword (word : String) (known : (Token.word word).isVocabulary = true)
    (carries : Carries dialect tokens names) : Carries dialect (.word word :: tokens) names :=
  .fixed (.inl known) carries

theorem mark (mark : Char) (known : (Token.mark mark).isVocabulary = true)
    (carries : Carries dialect tokens names) : Carries dialect (.mark mark :: tokens) names :=
  .fixed (.inl known) carries

theorem placeholder (index : Nat) (carries : Carries dialect tokens names) :
    Carries dialect (.word (dialect.placeholder index) :: tokens) names :=
  .fixed (.inr ⟨index, rfl⟩) carries

theorem flatten {Item : Type} {read : Item → List Token} {named : Item → List String}
    (each : ∀ item, Carries dialect (read item) (named item)) (items : List Item) :
    Carries dialect (items.map read).flatten (items.flatMap named) := by
  induction items with
  | nil => exact .nil
  | cons item items ih =>
      rw [List.map_cons, List.flatten_cons, List.flatMap_cons]
      exact (each item).append ih

theorem intercalate {Item : Type} {separator : List Token} {read : Item → List Token}
    {named : Item → List String} (parts : Carries dialect separator [])
    (each : ∀ item, Carries dialect (read item) (named item)) (items : List Item) :
    Carries dialect (separator.intercalate (items.map read)) (items.flatMap named) := by
  induction items with
  | nil => exact .nil
  | cons item items ih =>
      cases items with
      | nil => simpa using each item
      | cons second items =>
          have joined : separator.intercalate ((item :: second :: items).map read) =
              read item ++ separator ++ separator.intercalate ((second :: items).map read) :=
            List.intercalate_cons_cons
          have carries := ((each item).append parts).append ih
          rw [List.append_nil] at carries
          rw [joined]
          exact carries

theorem list {Item : Type} {read : Item → List Token} {named : Item → List String}
    (each : ∀ item, Carries dialect (read item) (named item)) (items : List Item) :
    Carries dialect (listRead (items.map read)) (items.flatMap named) := by
  have closed : Carries dialect [.mark ')'] [] := .mark ')' rfl .nil
  have joined := intercalate (.mark ',' rfl .nil) each items
  have carries := (joined.append closed).mark '(' rfl
  rwa [List.append_nil] at carries

end Carries

/-! ## Parts of statements -/

def ColumnName.names (name : ColumnName) : List String :=
  name.qualifier.toList ++ [name.column]

def Phrase.names (phrase : Phrase) : List String :=
  phrase.columns.flatMap ColumnName.names

def Source.names (source : Source) : List String :=
  [source.table, source.aliasName]

def Link.names (link : Link) : List String :=
  link.source.names ++ link.left.names ++ link.right.names

def Head.names (head : Head) : List String :=
  let key :=
    match head.key with
    | none => []
    | some key => key.names ++ [pivotKeyColumn]
  head.source.aliasName :: key ++ head.source.names

def Select.names (select : Select) : List String :=
  select.head.names ++ select.links.flatMap Link.names ++ select.conditions.flatMap Phrase.names
    ++ select.order.flatMap fun term => term.column.names

def Sentence.names : Sentence → List String
  | .rows select => select.names
  | .count select => select.names
  | .update table assignments conditions =>
      table :: assignments.map (·.column) ++ conditions.flatMap Phrase.names
  | .delete table conditions => table :: conditions.flatMap Phrase.names
  | .insert table assignments => table :: assignments.map (·.column)

theorem ColumnName.carries (name : ColumnName) : Carries dialect name.read name.names := by
  rcases name with ⟨_ | qualifier, column⟩
  · exact .name column .nil
  · exact .name qualifier (.mark '.' rfl (.name column .nil))

theorem Source.carries (source : Source) : Carries dialect source.read source.names :=
  .name _ (.keyword "AS" rfl (.name _ .nil))

theorem Link.carries (link : Link) : Carries dialect link.read link.names := by
  have equals : Carries dialect [.operator "="] [] := .vocabulary rfl
  have columns := (link.left.carries.append equals).append link.right.carries
  have on := link.source.carries.append (.keyword "ON" rfl columns)
  have carries := on.keyword "JOIN" rfl
  simpa [Link.read, Link.names] using carries

theorem Head.carries (head : Head) : Carries dialect head.read head.names := by
  rcases head with ⟨source, _ | key⟩
  · refine .keyword "SELECT" rfl (.keyword "DISTINCT" rfl (.name _ ?_))
    exact .mark '.' rfl (.mark '*' rfl (.keyword "FROM" rfl source.carries))
  · have named :
        Carries dialect [.word "AS", .name pivotKeyColumn, .word "FROM"] [pivotKeyColumn] :=
      .keyword "AS" rfl (.name _ (.keyword "FROM" rfl .nil))
    have keyed := ((key.carries.append named).append source.carries).mark ',' rfl
    have all := (keyed.mark '*' rfl).mark '.' rfl
    simpa [Head.read, Head.names, keyRead] using
      Carries.keyword "SELECT" rfl (.keyword "DISTINCT" rfl (.name source.aliasName all))

theorem carries_operatorToken (operator : Operator) :
    Carries dialect [operatorToken operator] [] := by
  cases operator <;> exact .vocabulary (by decide)

theorem Phrase.carries (phrase : Phrase) :
    Carries dialect (phrase.read dialect) phrase.names := by
  induction phrase with
  | column name => simpa [Phrase.read, Phrase.names, Phrase.columns] using name.carries
  | null => exact .keyword "NULL" rfl .nil
  | parameter index value => exact .placeholder index .nil
  | nullTest negated operand ih =>
      have test : Carries dialect (if negated then [.word "IS", .word "NOT", .word "NULL"]
          else [.word "IS", .word "NULL"]) [] := by
        cases negated <;> exact .vocabulary (by decide)
      simpa [Phrase.read, Phrase.names, Phrase.columns] using ih.append test
  | binary operator left right leftIH rightIH =>
      simpa [Phrase.names, Phrase.columns, Phrase.read] using
        (leftIH.append (carries_operatorToken operator)).append rightIH
  | not operand ih => exact .keyword "NOT" rfl ih

theorem carries_condition (phrases : List Phrase) :
    Carries dialect (conditionRead dialect phrases) (phrases.flatMap Phrase.names) := by
  match phrases with
  | [] => exact .nil
  | [phrase] => simpa [conditionRead] using Carries.keyword "WHERE" rfl phrase.carries
  | first :: second :: others =>
      refine .keyword "WHERE" rfl (.intercalate (.keyword "AND" rfl .nil) (fun phrase => ?_) _)
      have closed : Carries dialect [.mark ')'] [] := .mark ')' rfl .nil
      simpa using (phrase.carries.append closed).mark '(' rfl

theorem carries_order (terms : List OrderTerm) :
    Carries dialect (orderRead terms) (terms.flatMap fun term => term.column.names) := by
  have each (term : OrderTerm) : Carries dialect term.read term.column.names := by
    have direction : Carries dialect (if term.descending then [.word "DESC"] else []) [] := by
      cases term.descending
      · exact .nil
      · exact .keyword "DESC" rfl .nil
    simpa [OrderTerm.read] using term.column.carries.append direction
  unfold orderRead
  split
  · rename_i empty
    rw [List.isEmpty_iff.mp empty]
    exact .nil
  · exact .keyword "ORDER" rfl (.keyword "BY" rfl (.intercalate (.mark ',' rfl .nil) each terms))

theorem carries_limit (limit : Option Limit) : Carries dialect (limitRead dialect limit) [] := by
  cases limit with
  | none => exact .nil
  | some limit =>
      refine .vocabulary (List.all_eq_true.mpr ?_)
      intro token member
      obtain ⟨word, isWord, rfl⟩ := List.mem_map.mp member
      rcases mem_limitWords isWord with fixed | ⟨number, rfl⟩
      · simp only [List.mem_cons, List.not_mem_nil, or_false] at fixed
        rcases fixed with rfl | rfl | rfl | rfl <;> decide
      · simp [Token.isVocabulary, isDecimal_repr]

theorem Select.carries (select : Select) :
    Carries dialect (select.read dialect) select.names := by
  have links : Carries dialect (linksRead select.links) (select.links.flatMap Link.names) :=
    .flatten Link.carries select.links
  have carries := (((select.head.carries.append links).append
    (carries_condition select.conditions)).append (carries_order select.order)).append
      (carries_limit select.limit)
  rwa [List.append_nil] at carries

theorem carries_columns (assignments : List Assignment) :
    Carries dialect (listRead (assignments.map fun assignment => [.name assignment.column]))
      (assignments.map (·.column)) := by
  have each (assignment : Assignment) :
      Carries dialect [.name assignment.column] [assignment.column] := .name _ .nil
  have carries := Carries.list each assignments
  rwa [← List.map_eq_flatMap] at carries

theorem carries_values (assignments : List Assignment) :
    Carries dialect (listRead (assignments.map fun assignment =>
      [.word (dialect.placeholder assignment.parameter.index)])) [] := by
  have each (assignment : Assignment) :
      Carries dialect [.word (dialect.placeholder assignment.parameter.index)] [] :=
    .placeholder _ .nil
  have none : (assignments.flatMap fun _ => ([] : List String)) = [] :=
    List.flatMap_eq_nil_iff.mpr fun _ _ => rfl
  have carries := Carries.list each assignments
  rwa [none] at carries

/-- The names of a sentence are read back from its text, in their order. -/
theorem Sentence.carries (sentence : Sentence) :
    Carries dialect (tokens dialect (sentence.text dialect)) sentence.names := by
  rw [(sentence.spells dialect).tokens_eq]
  cases sentence with
  | rows select => exact select.carries
  | count select =>
      have opened : Carries dialect [.word "SELECT", .word "COUNT", .mark '(', .mark '*', .mark ')',
          .word "AS", .word "count", .word "FROM", .mark '('] [] := .vocabulary (by decide)
      have closed : Carries dialect [.mark ')', .word "AS", .word "s1"] [] :=
        .vocabulary (by decide)
      simpa [Sentence.read, Sentence.names] using opened.append (select.carries.append closed)
  | update table assignments conditions =>
      have each (assignment : Assignment) :
          Carries dialect (assignment.read dialect) [assignment.column] :=
        .name _ (.fixed (.inl (by decide)) (.placeholder _ .nil))
      have assigned := Carries.intercalate (.mark ',' rfl .nil) each assignments
      have set := (assigned.append (carries_condition conditions)).keyword "SET" rfl
      have carries := (Carries.name table set).keyword "UPDATE" rfl
      simpa [Sentence.read, Sentence.names, List.map_eq_flatMap] using carries
  | delete table conditions =>
      exact .keyword "DELETE" rfl (.keyword "FROM" rfl (.name table (carries_condition conditions)))
  | insert table assignments =>
      have values : Carries dialect (.word "VALUES" :: _) [] :=
        .keyword "VALUES" rfl (carries_values assignments)
      have into := Carries.name table ((carries_columns assignments).append values)
      have carries := (into.keyword "INTO" rfl).keyword "INSERT" rfl
      simpa [Sentence.read, Sentence.names] using carries

end RecordMapper.Sql
