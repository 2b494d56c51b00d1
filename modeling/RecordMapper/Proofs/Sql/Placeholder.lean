import RecordMapper.Proofs.Sql.Sentence

set_option autoImplicit false

/-!
The placeholders of a statement as its tokens show them. Read from left to right, those of a
sentence are those of its parameters.
-/

namespace RecordMapper.Sql

def placeholderSign : Dialect → Char
  | .sqlite => '?'
  | .postgres => '$'
  | .mysql => '?'

/-- The placeholder that a token is. A quoted name is none, whatever it contains. -/
def Token.placeholder? (dialect : Dialect) : Token → Option String
  | .word text => if text.toList.head? = some (placeholderSign dialect) then some text else none
  | _ => none

def placeholders (dialect : Dialect) (tokens : List Token) : List String :=
  tokens.filterMap (Token.placeholder? dialect)

variable {dialect : Dialect}

@[simp] theorem placeholders_nil : placeholders dialect [] = [] := rfl

@[simp] theorem placeholders_append (first second : List Token) :
    placeholders dialect (first ++ second) =
      placeholders dialect first ++ placeholders dialect second :=
  List.filterMap_append

@[simp] theorem placeholders_name (text : String) (tokens : List Token) :
    placeholders dialect (.name text :: tokens) = placeholders dialect tokens := rfl

@[simp] theorem placeholders_mark (mark : Char) (tokens : List Token) :
    placeholders dialect (.mark mark :: tokens) = placeholders dialect tokens := rfl

@[simp] theorem placeholders_operator (sign : String) (tokens : List Token) :
    placeholders dialect (.operator sign :: tokens) = placeholders dialect tokens := rfl

theorem placeholders_keyword (word : String)
    (plain : word.toList ≠ [] ∧ word.toList.all isPlain) (tokens : List Token) :
    placeholders dialect (.word word :: tokens) = placeholders dialect tokens := by
  have other : word.toList.head? ≠ some (placeholderSign dialect) := by
    intro begins
    have isSign := List.all_eq_true.mp plain.2 _ (List.mem_of_head? begins)
    cases dialect <;> exact absurd isSign (by decide)
  simp [placeholders, Token.placeholder?, other]

theorem placeholder_begins (dialect : Dialect) (index : Nat) :
    (dialect.placeholder index).toList.head? = some (placeholderSign dialect) := by
  cases dialect with
  | sqlite => exact congrArg List.head? String.toList_append
  | postgres => exact congrArg List.head? String.toList_append
  | mysql => simp [Dialect.placeholder, placeholderSign]

@[simp] theorem placeholders_placeholder (index : Nat) (tokens : List Token) :
    placeholders dialect (.word (dialect.placeholder index) :: tokens) =
      dialect.placeholder index :: placeholders dialect tokens := by
  simp [placeholders, Token.placeholder?, placeholder_begins]

theorem placeholders_intercalate {separator : List Token}
    (none : placeholders dialect separator = []) (reads : List (List Token)) :
    placeholders dialect (separator.intercalate reads) =
      (reads.map (placeholders dialect)).flatten := by
  induction reads with
  | nil => rfl
  | cons first others ih =>
      cases others with
      | nil => simp
      | cons second others =>
          rw [List.intercalate_cons_cons, placeholders_append, placeholders_append, ih, none]
          simp

def parameterPlaceholders (dialect : Dialect) (parameters : List Parameter) : List String :=
  parameters.map fun parameter => dialect.placeholder parameter.index

/-! ## Parts of statements -/

@[simp] theorem placeholders_column (name : ColumnName) :
    placeholders dialect name.read = [] := by
  rcases name with ⟨_ | qualifier, column⟩ <;> rfl

@[simp] theorem placeholders_source (source : Source) :
    placeholders dialect source.read = [] := by
  simp +decide [Source.read, placeholders_keyword]

theorem placeholders_links (links : List Link) : placeholders dialect (linksRead links) = [] := by
  induction links with
  | nil => rfl
  | cons link links ih =>
      change placeholders dialect (link.read ++ linksRead links) = []
      simp +decide [ih, Link.read, placeholders_keyword]

theorem placeholders_head (head : Head) : placeholders dialect head.read = [] := by
  rcases head with ⟨source, _ | key⟩ <;>
    simp +decide [Head.read, Head.keyRead, placeholders_keyword]

@[simp] theorem placeholders_operatorToken (operator : Operator) (tokens : List Token) :
    placeholders dialect (operatorToken operator :: tokens) = placeholders dialect tokens := by
  cases operator with
  | and => exact placeholders_keyword "AND" (by decide) tokens
  | or => exact placeholders_keyword "OR" (by decide) tokens
  | eq | ne | lt | le | gt | ge => rfl

@[simp] theorem placeholders_phrase (phrase : Phrase) :
    placeholders dialect (phrase.read dialect) =
      parameterPlaceholders dialect phrase.parameters := by
  induction phrase with
  | column name => exact placeholders_column name
  | null => exact placeholders_keyword "NULL" (by decide) []
  | parameter index value => exact placeholders_placeholder index []
  | nullTest negated operand ih =>
      cases negated <;>
        simp +decide [Phrase.read, Phrase.parameters, ih, placeholders_keyword]
  | binary operator left right leftIH rightIH =>
      simp [Phrase.read, Phrase.parameters, leftIH, rightIH, parameterPlaceholders]
  | not operand ih => simp +decide [Phrase.read, Phrase.parameters, ih, placeholders_keyword]

theorem placeholders_condition (phrases : List Phrase) :
    placeholders dialect (conditionRead dialect phrases) =
      parameterPlaceholders dialect (conditionParameters phrases) := by
  match phrases with
  | [] => rfl
  | [phrase] => simp +decide [conditionRead, conditionParameters, placeholders_keyword]
  | first :: second :: others =>
      change placeholders dialect (.word "WHERE" :: List.intercalate [.word "AND"]
        ((first :: second :: others).map fun phrase =>
          .mark '(' :: phrase.read dialect ++ [.mark ')'])) = _
      rw [placeholders_keyword "WHERE" (by decide),
        placeholders_intercalate (placeholders_keyword "AND" (by decide) [])]
      simp [conditionParameters, parameterPlaceholders, List.flatMap_def, Function.comp_def,
        List.map_flatten]

theorem placeholders_order (terms : List OrderTerm) :
    placeholders dialect (orderRead terms) = [] := by
  have none : placeholders dialect (List.intercalate [.mark ','] (terms.map (·.read))) = [] := by
    rw [placeholders_intercalate (by simp)]
    induction terms with
    | nil => rfl
    | cons term terms ih =>
        rcases term with ⟨column, _ | _⟩ <;>
          simpa +decide [OrderTerm.read, placeholders_keyword] using ih
  unfold orderRead
  split
  · rfl
  · simp +decide [none, placeholders_keyword]

theorem placeholders_limit (limit : Option Limit) :
    placeholders dialect (limitRead dialect limit) = [] := by
  cases limit with
  | none => rfl
  | some limit =>
      have plain := limitWords_plain dialect limit
      rw [limitRead]
      generalize limitWords dialect limit = words at plain
      induction words with
      | nil => rfl
      | cons word words ih =>
          rw [List.map_cons, placeholders_keyword word (plain word List.mem_cons_self)]
          exact ih fun other member => plain other (List.mem_cons_of_mem _ member)

theorem placeholders_select (select : Select) :
    placeholders dialect (select.read dialect) =
      parameterPlaceholders dialect (conditionParameters select.conditions) := by
  simp [Select.read, placeholders_head, placeholders_links, placeholders_condition,
    placeholders_order, placeholders_limit]

theorem placeholders_assignments (assignments : List Assignment) :
    placeholders dialect (List.intercalate [.mark ','] (assignments.map (·.read dialect))) =
      parameterPlaceholders dialect (assignments.map (·.parameter)) := by
  rw [placeholders_intercalate (by simp)]
  induction assignments with
  | nil => rfl
  | cons assignment assignments ih =>
      simp only [List.map_cons, List.flatten_cons, ih]
      simp [Assignment.read, parameterPlaceholders]

theorem placeholders_list (reads : List (List Token)) :
    placeholders dialect (listRead reads) = (reads.map (placeholders dialect)).flatten := by
  simp [listRead, placeholders_intercalate (placeholders_mark ',' [])]

theorem placeholders_columns (assignments : List Assignment) :
    placeholders dialect (listRead (assignments.map fun assignment => [.name assignment.column])) =
      [] := by
  simp [placeholders_list]

theorem placeholders_values (assignments : List Assignment) :
    placeholders dialect (listRead (assignments.map fun assignment =>
        [.word (dialect.placeholder assignment.parameter.index)])) =
      parameterPlaceholders dialect (assignments.map (·.parameter)) := by
  rw [placeholders_list]
  induction assignments with
  | nil => rfl
  | cons assignment assignments ih => simpa [parameterPlaceholders] using ih

/-- The placeholders of a sentence are those of its parameters, in the same order. -/
theorem placeholders_sentence (sentence : Sentence) :
    placeholders dialect (sentence.read dialect) =
      parameterPlaceholders dialect sentence.parameters := by
  cases sentence with
  | rows select => exact placeholders_select select
  | count select =>
      simp +decide [Sentence.read, Sentence.parameters, placeholders_select, placeholders_keyword]
  | update table assignments conditions =>
      simp +decide [Sentence.read, Sentence.parameters, placeholders_condition,
        placeholders_assignments, placeholders_keyword, parameterPlaceholders]
  | delete table conditions =>
      simp +decide [Sentence.read, Sentence.parameters, placeholders_condition,
        placeholders_keyword]
  | insert table assignments =>
      simp +decide [Sentence.read, Sentence.parameters, placeholders_columns, placeholders_values,
        placeholders_keyword]

end RecordMapper.Sql
