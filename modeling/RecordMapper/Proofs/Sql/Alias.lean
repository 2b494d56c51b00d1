import RecordMapper.Proofs.Sql.OrderTerm

set_option autoImplicit false

/-!
Aliases as the tokens of a statement show them: where one is introduced, where one qualifies a
column, and which of them the condition of a join uses.
-/

namespace RecordMapper.Sql

/-! ## Reading -/

/-- A qualified name. A star has no column. -/
structure Reference where
  qualifier : String
  column : Option String
deriving DecidableEq, Repr

/-- The items that a pattern finds, at any position. -/
def occurrences {Item : Type} (pattern : List Token → Option Item) : List Token → List Item
  | [] => []
  | token :: rest => (pattern (token :: rest)).toList ++ occurrences pattern rest

theorem occurrences_drop {Item : Type} {pattern : List Token → Option Item}
    {front rest : List Token}
    (none : ∀ token ∈ front, ∀ others, pattern (token :: others) = none) :
    occurrences pattern (front ++ rest) = occurrences pattern rest := by
  induction front with
  | nil => rfl
  | cons token front ih =>
      obtain ⟨first, others⟩ := List.forall_mem_cons.mp none
      rw [List.cons_append, occurrences, first]
      exact ih others

def reference? : List Token → Option Reference
  | .name qualifier :: .mark '.' :: .name column :: _ => some ⟨qualifier, some column⟩
  | .name qualifier :: .mark '.' :: .mark '*' :: _ => some ⟨qualifier, none⟩
  | _ => none

def Token.opensSource (token : Token) : Bool :=
  token = .word "FROM" ∨ token = .word "JOIN"

def introduction? : List Token → Option Source
  | opening :: .name table :: .word "AS" :: .name aliasName :: _ =>
      if opening.opensSource then some ⟨table, aliasName⟩ else none
  | _ => none

def references : List Token → List Reference :=
  occurrences reference?

/-- The tables that a statement introduces, each under its alias. -/
def introductions : List Token → List Source :=
  occurrences introduction?

def Token.isComparison : Token → Bool
  | .name _ => true
  | .operator _ => true
  | .mark char => char = '.'
  | _ => false

/-- The condition of a join: what stands after ON, up to the next word. -/
def onCondition (tokens : List Token) : List Token :=
  tokens.takeWhile Token.isComparison

variable {dialect : Dialect} {rest : List Token}

/-! ## Qualified names -/

def Stops (rest : List Token) : Prop :=
  rest.head? ≠ some (.mark '.')

/-- What follows is no part of a comparison. -/
def EndsComparison (rest : List Token) : Prop :=
  ∀ token ∈ rest.head?, token.isComparison = false

theorem EndsComparison.stops (ends : EndsComparison rest) : Stops rest := by
  intro first
  exact absurd (ends _ first) (by decide)

@[simp] theorem references_nil : references [] = [] := rfl

@[simp] theorem references_word (text : String) (rest : List Token) :
    references (.word text :: rest) = references rest := rfl

@[simp] theorem references_operator (sign : String) (rest : List Token) :
    references (.operator sign :: rest) = references rest := rfl

@[simp] theorem references_mark (mark : Char) (rest : List Token) :
    references (.mark mark :: rest) = references rest := rfl

theorem references_name (text : String) (stops : Stops rest) :
    references (.name text :: rest) = references rest := by
  have none : reference? (.name text :: rest) = none := by
    unfold reference?
    split
    · rename_i same
      cases same
      exact absurd rfl stops
    · rename_i same
      cases same
      exact absurd rfl stops
    · rfl
  simp [references, occurrences, none]

def ColumnName.references (name : ColumnName) : List Reference :=
  match name.qualifier with
  | none => []
  | some qualifier => [⟨qualifier, some name.column⟩]

theorem references_column (name : ColumnName) (stops : Stops rest) :
    references (name.read ++ rest) = name.references ++ references rest := by
  rcases name with ⟨_ | qualifier, column⟩
  · exact references_name column stops
  · have last := references_name column stops
    change ⟨qualifier, some column⟩ :: references (.mark '.' :: .name column :: rest) = _
    rw [references_mark, last]
    rfl

theorem references_source (source : Source) (stops : Stops rest) :
    references (source.read ++ rest) = references rest := by
  have first : Stops (.word "AS" :: .name source.aliasName :: rest) := by simp [Stops]
  change references (.name source.table :: .word "AS" :: .name source.aliasName :: rest) = _
  rw [references_name _ first, references_word, references_name _ stops]

def Phrase.references (phrase : Phrase) : List Reference :=
  phrase.columns.flatMap (·.references)

theorem stops_operator (operator : Operator) : Stops (operatorToken operator :: rest) := by
  cases operator <;> simp [Stops, operatorToken]

@[simp] theorem references_operatorToken (operator : Operator) :
    references (operatorToken operator :: rest) = references rest := by
  cases operator <;> rfl

theorem references_phrase (phrase : Phrase) (stops : Stops rest) :
    references (phrase.read dialect ++ rest) = phrase.references ++ references rest := by
  induction phrase generalizing rest with
  | column name =>
      rw [Phrase.read, references_column name stops]
      simp [Phrase.references, Phrase.columns]
  | null => rfl
  | parameter index value => rfl
  | nullTest negated operand ih =>
      rw [Phrase.read, List.append_assoc]
      cases negated <;> exact ih (by simp [Stops])
  | binary operator left right leftIH rightIH =>
      rw [Phrase.read, List.append_assoc, List.append_assoc, List.singleton_append,
        leftIH (stops_operator operator), references_operatorToken, rightIH stops]
      simp [Phrase.references, Phrase.columns]
  | not operand ih => exact ih stops

def Link.references (link : Link) : List Reference :=
  link.left.references ++ link.right.references

theorem endsComparison_links {links : List Link} (ends : EndsComparison rest) :
    EndsComparison (linksRead links ++ rest) := by
  cases links with
  | nil => exact ends
  | cons link links =>
      intro token first
      cases first
      rfl

theorem endsComparison_condition {phrases : List Phrase} (ends : EndsComparison rest) :
    EndsComparison (conditionRead dialect phrases ++ rest) := by
  match phrases with
  | [] => exact ends
  | [phrase] =>
      intro token first
      cases first
      rfl
  | first :: second :: others =>
      intro token first
      cases first
      rfl

theorem endsComparison_order {terms : List OrderTerm} (ends : EndsComparison rest) :
    EndsComparison (orderRead terms ++ rest) := by
  cases terms with
  | nil => exact ends
  | cons term terms =>
      intro token first
      cases first
      rfl

theorem endsComparison_limit {limit : Option Limit} (ends : EndsComparison rest) :
    EndsComparison (limitRead dialect limit ++ rest) := by
  cases limit with
  | none => exact ends
  | some limit =>
      rw [limitRead]
      cases limitWords dialect limit with
      | nil => exact ends
      | cons word words =>
          intro token first
          cases first
          rfl

theorem references_links (links : List Link) (ends : EndsComparison rest) :
    references (linksRead links ++ rest) =
      links.flatMap (·.references) ++ references rest := by
  induction links with
  | nil => rfl
  | cons link links ih =>
      have others : Stops (linksRead links ++ rest) := (endsComparison_links ends).stops
      have written : linksRead (link :: links) ++ rest = .word "JOIN" :: (link.source.read ++
          .word "ON" :: (link.left.read ++ .operator "=" ::
            (link.right.read ++ (linksRead links ++ rest)))) := by
        simp [linksRead, Link.read]
      rw [written, references_word, references_source _ (by simp [Stops]), references_word,
        references_column _ (by simp [Stops]), references_operator, references_column _ others, ih]
      simp [Link.references]

theorem references_conditions (phrases : List Phrase) (rest : List Token) :
    references (List.intercalate [.word "AND"] (phrases.map fun phrase =>
        .mark '(' :: phrase.read dialect ++ [.mark ')']) ++ rest) =
      phrases.flatMap (·.references) ++ references rest := by
  have parenthesized (phrase : Phrase) (rest : List Token) :
      references ((.mark '(' :: phrase.read dialect ++ [.mark ')']) ++ rest) =
        phrase.references ++ references rest := by
    rw [List.append_assoc, List.cons_append, references_mark,
      references_phrase phrase (by simp [Stops])]
    rfl
  induction phrases with
  | nil => rfl
  | cons phrase phrases ih =>
      cases phrases with
      | nil => simpa using parenthesized phrase rest
      | cons second phrases =>
          rw [List.map_cons, List.map_cons, List.intercalate_cons_cons, List.append_assoc,
            List.append_assoc, parenthesized, List.singleton_append, references_word]
          rw [List.map_cons] at ih
          rw [ih]
          simp

theorem references_condition (phrases : List Phrase) (stops : Stops rest) :
    references (conditionRead dialect phrases ++ rest) =
      phrases.flatMap (·.references) ++ references rest := by
  match phrases with
  | [] => rfl
  | [phrase] => simpa [conditionRead] using references_phrase phrase stops
  | first :: second :: others => exact references_conditions (first :: second :: others) rest

def OrderTerm.references (term : OrderTerm) : List Reference :=
  term.column.references

theorem references_term (term : OrderTerm) (stops : Stops rest) :
    references (term.read ++ rest) = term.references ++ references rest := by
  rcases term with ⟨column, _ | _⟩
  · simpa [OrderTerm.read, OrderTerm.references] using references_column column stops
  · simp only [OrderTerm.read, if_true, List.append_assoc, List.singleton_append]
    rw [references_column column (by simp [Stops]), references_word]
    rfl

theorem references_terms (terms : List OrderTerm) (stops : Stops rest) :
    references (List.intercalate [.mark ','] (terms.map (·.read)) ++ rest) =
      terms.flatMap (·.references) ++ references rest := by
  induction terms with
  | nil => rfl
  | cons term terms ih =>
      cases terms with
      | nil => simpa using references_term term stops
      | cons second terms =>
          rw [List.map_cons, List.map_cons, List.intercalate_cons_cons, List.append_assoc,
            List.append_assoc, references_term _ (by simp [Stops]), List.singleton_append,
            references_mark]
          rw [List.map_cons] at ih
          rw [ih]
          simp

theorem references_order (terms : List OrderTerm) (stops : Stops rest) :
    references (orderRead terms ++ rest) = terms.flatMap (·.references) ++ references rest := by
  cases terms with
  | nil => rfl
  | cons term terms => exact references_terms (term :: terms) stops

theorem references_limit (limit : Option Limit) :
    references (limitRead dialect limit ++ rest) = references rest := by
  cases limit with
  | none => rfl
  | some limit =>
      rw [limitRead]
      induction limitWords dialect limit with
      | nil => rfl
      | cons word words ih => exact ih

def Head.references (head : Head) : List Reference :=
  ⟨head.source.aliasName, none⟩ :: (head.key.toList.flatMap (·.references))

theorem references_head (head : Head) (stops : Stops rest) :
    references (head.read ++ rest) = head.references ++ references rest := by
  rcases head with ⟨source, _ | key⟩
  · have written : Head.read ⟨source, none⟩ ++ rest = .word "SELECT" :: .word "DISTINCT" ::
        .name source.aliasName :: .mark '.' :: .mark '*' :: .word "FROM" ::
          (source.read ++ rest) := by
      simp [Head.read, Head.keyRead]
    rw [written, references_word, references_word]
    change ⟨source.aliasName, none⟩ :: references (source.read ++ rest) = _
    rw [references_source source stops]
    rfl
  · have written : Head.read ⟨source, some key⟩ ++ rest = .word "SELECT" :: .word "DISTINCT" ::
        .name source.aliasName :: .mark '.' :: .mark '*' :: .mark ',' :: (key.read ++
          .word "AS" :: .name pivotKeyColumn :: .word "FROM" :: (source.read ++ rest)) := by
      simp [Head.read, Head.keyRead]
    rw [written, references_word, references_word]
    change ⟨source.aliasName, none⟩ :: references (key.read ++ _) = _
    rw [references_column _ (by simp [Stops]), references_word,
      references_name _ (by simp [Stops]), references_word, references_source source stops]
    simp [Head.references]

def Select.references (select : Select) : List Reference :=
  select.head.references ++ select.links.flatMap (·.references)
    ++ select.conditions.flatMap (·.references) ++ select.order.flatMap (·.references)

/-- The qualified names of a select's text are those of its parts. -/
theorem references_select (select : Select) (ends : EndsComparison rest) :
    references (select.read dialect ++ rest) = select.references ++ references rest := by
  have limited : EndsComparison (limitRead dialect select.limit ++ rest) :=
    endsComparison_limit ends
  have ordered : EndsComparison (orderRead select.order ++
      (limitRead dialect select.limit ++ rest)) := endsComparison_order limited
  have filtered : EndsComparison (conditionRead dialect select.conditions ++
      (orderRead select.order ++ (limitRead dialect select.limit ++ rest))) :=
    endsComparison_condition ordered
  simp only [Select.read, List.append_assoc]
  rw [references_head _ (endsComparison_links filtered).stops, references_links _ filtered,
    references_condition _ ordered.stops, references_order _ limited.stops, references_limit]
  simp [Select.references]

/-! ## Introductions -/

theorem introductions_cons (token : Token) (rest : List Token) :
    introductions (token :: rest) =
      (introduction? (token :: rest)).toList ++ introductions rest := rfl

theorem introduction?_eq_none {token : Token} (other : !token.opensSource) (rest : List Token) :
    introduction? (token :: rest) = none := by
  unfold introduction?
  split
  · rename_i same
    cases same
    simp only [Bool.not_eq_true'] at other
    simp [other]
  · rfl

theorem introductions_skip (token : Token) (rest : List Token) (other : !token.opensSource) :
    introductions (token :: rest) = introductions rest := by
  rw [introductions_cons, introduction?_eq_none other]
  rfl

theorem introductions_drop {front : List Token} (others : ∀ token ∈ front, !token.opensSource) :
    introductions (front ++ rest) = introductions rest :=
  occurrences_drop fun token member => introduction?_eq_none (others token member)

theorem introductions_source (opening : Token) (source : Source) (opens : opening.opensSource) :
    introductions (opening :: (source.read ++ rest)) = source :: introductions rest := by
  have found : introduction? (opening :: (source.read ++ rest)) = some source := by
    change (if opening.opensSource then some source else none) = some source
    rw [if_pos opens]
  have others : ∀ token ∈ source.read, !token.opensSource := by
    simp [Source.read, Token.opensSource]
  rw [introductions_cons, found, introductions_drop others]
  rfl

theorem not_opensSource {token : Token} (clauseless : !token.isClauseWord) :
    !token.opensSource := by
  have opens : token.opensSource → token.isClauseWord := by
    simp only [Token.opensSource, decide_eq_true_eq]
    rintro (rfl | rfl) <;> decide
  grind

theorem introductions_column (name : ColumnName) :
    introductions (name.read ++ rest) = introductions rest :=
  introductions_drop fun token member => not_opensSource (column_clauseless name token member)

theorem introductions_links (links : List Link) (rest : List Token) :
    introductions (linksRead links ++ rest) = links.map (·.source) ++ introductions rest := by
  induction links with
  | nil => rfl
  | cons link links ih =>
      have written : linksRead (link :: links) ++ rest = .word "JOIN" :: (link.source.read ++
          .word "ON" :: (link.left.read ++ .operator "=" ::
            (link.right.read ++ (linksRead links ++ rest)))) := by
        simp [linksRead, Link.read]
      rw [written, introductions_source _ _ (by decide), introductions_skip _ _ (by decide),
        introductions_column, introductions_skip _ _ (by decide), introductions_column, ih]
      rfl

theorem introductions_condition (phrases : List Phrase) (rest : List Token) :
    introductions (conditionRead dialect phrases ++ rest) = introductions rest := by
  refine introductions_drop fun token member => ?_
  by_cases isClauseWord : token.isClauseWord
  · rw [condition_clauseWords member isClauseWord]
    decide
  · exact not_opensSource (by simpa using isClauseWord)

theorem order_clauseWords {terms : List OrderTerm} {token : Token}
    (member : token ∈ orderRead terms) (isClauseWord : token.isClauseWord) :
    token = .word "ORDER" ∨ token = .word "BY" := by
  unfold orderRead at member
  split at member
  · cases member
  · rcases List.mem_append.mp member with words | isTerm
    · simpa using words
    · rcases mem_intercalate isTerm with isComma | ⟨read, isRead, inRead⟩
      · obtain rfl := List.mem_singleton.mp isComma
        exact absurd isClauseWord (by decide)
      · obtain ⟨term, -, rfl⟩ := List.mem_map.mp isRead
        have clauseless := (term_clauseless term token inRead).1
        rw [isClauseWord] at clauseless
        cases clauseless

theorem introductions_order (terms : List OrderTerm) (rest : List Token) :
    introductions (orderRead terms ++ rest) = introductions rest := by
  refine introductions_drop fun token member => ?_
  by_cases isClauseWord : token.isClauseWord
  · rcases order_clauseWords member isClauseWord with rfl | rfl <;> decide
  · exact not_opensSource (by simpa using isClauseWord)

theorem introductions_limit (limit : Option Limit) (rest : List Token) :
    introductions (limitRead dialect limit ++ rest) = introductions rest := by
  refine introductions_drop fun token member => ?_
  by_cases isClauseWord : token.isClauseWord
  · have ends := limit_clauseWords member isClauseWord
    simp only [Token.endsOrder, decide_eq_true_eq] at ends
    rcases ends with rfl | rfl <;> decide
  · exact not_opensSource (by simpa using isClauseWord)

theorem introductions_head (head : Head) (rest : List Token) :
    introductions (head.read ++ rest) = head.source :: introductions rest := by
  have front : ∀ token ∈ [Token.word "SELECT", .word "DISTINCT", .name head.source.aliasName,
      .mark '.', .mark '*'] ++ Head.keyRead head.key, !token.opensSource := by
    rcases head with ⟨source, _ | key⟩
    · simp [Head.keyRead, Token.opensSource]
    · have column := fun token member => not_opensSource (column_clauseless key token member)
      intro token member
      simp only [Head.keyRead, List.mem_append, List.mem_cons, List.mem_flatten, List.not_mem_nil,
        or_false, exists_eq_or_imp, exists_eq_left] at member
      rcases member with (rfl | rfl | rfl | rfl | rfl) | rfl | inKey | rfl | rfl
      all_goals first | exact column token inKey | rfl
  have written : head.read ++ rest = ([Token.word "SELECT", .word "DISTINCT",
      .name head.source.aliasName, .mark '.', .mark '*'] ++ Head.keyRead head.key) ++
        .word "FROM" :: (head.source.read ++ rest) := by
    simp [Head.read]
  rw [written, introductions_drop front, introductions_source _ _ (by decide)]

def Select.sources (select : Select) : List Source :=
  select.head.source :: select.links.map (·.source)

theorem introductions_select (select : Select) (rest : List Token) :
    introductions (select.read dialect ++ rest) = select.sources ++ introductions rest := by
  simp only [Select.read, List.append_assoc]
  rw [introductions_head, introductions_links, introductions_condition, introductions_order,
    introductions_limit]
  simp [Select.sources]

/-! ## Conditions of joins -/

theorem split_after {Item : Type} {front rest before after : List Item} {item : Item}
    (absent : item ∉ front) (split : front ++ rest = before ++ item :: after) :
    ∃ between, before = front ++ between ∧ rest = between ++ item :: after := by
  rcases List.append_eq_append_iff.mp split with ⟨between, sameBefore, sameRest⟩ |
      ⟨between, sameFront, sameAfter⟩
  · exact ⟨between, sameBefore, sameRest⟩
  · cases between with
    | nil => exact ⟨[], by simpa using sameFront.symm, by simpa using sameAfter.symm⟩
    | cons other between =>
        obtain ⟨rfl, -⟩ := List.cons.inj sameAfter
        exact absurd (sameFront ▸ List.mem_append_right before List.mem_cons_self) absent

theorem onless_of_clauseless {front : List Token}
    (clauseless : ∀ token ∈ front, !token.isClauseWord) : Token.word "ON" ∉ front :=
  fun member => absurd (clauseless _ member) (by decide)

theorem onCondition_link (link : Link) (ends : EndsComparison rest) :
    onCondition (link.left.read ++ .operator "=" :: (link.right.read ++ rest)) =
      link.left.read ++ .operator "=" :: link.right.read := by
  have comparison (name : ColumnName) : ∀ token ∈ name.read, token.isComparison := by
    rcases name with ⟨_ | qualifier, column⟩ <;> simp [ColumnName.read, Token.isComparison]
  have stops : rest.takeWhile Token.isComparison = [] := by
    cases rest with
    | nil => rfl
    | cons token rest => simp [ends token rfl]
  unfold onCondition
  rw [List.takeWhile_append_of_pos (comparison link.left), List.takeWhile_cons_of_pos (by rfl),
    List.takeWhile_append_of_pos (comparison link.right), stops, List.append_nil]

theorem references_onCondition (link : Link) :
    references (link.left.read ++ .operator "=" :: link.right.read) = link.references := by
  have right : references (link.right.read ++ []) = link.right.references ++ references [] :=
    references_column link.right (by simp [Stops])
  rw [List.append_nil] at right
  rw [references_column _ (by simp [Stops]), references_operator, right]
  simp [Link.references]

theorem introductions_opening (source : Source) (rest : List Token) :
    introductions ((.word "JOIN" :: source.read) ++ rest) = source :: introductions rest :=
  introductions_source (.word "JOIN") source (by decide)

theorem on_links {links : List Link} {before after : List Token} (onless : .word "ON" ∉ rest)
    (ends : EndsComparison rest) (split : linksRead links ++ rest = before ++ .word "ON" :: after) :
    ∃ first link others, links = first ++ link :: others ∧
      introductions before = (first ++ [link]).map (·.source) ∧
      references (onCondition after) = link.references := by
  induction links generalizing before with
  | nil =>
      rw [linksRead, List.map_nil, List.flatten_nil, List.nil_append] at split
      rw [split] at onless
      exact absurd (List.mem_append_right before List.mem_cons_self) onless
  | cons link links ih =>
      have columns (name : ColumnName) : Token.word "ON" ∉ name.read :=
        onless_of_clauseless (column_clauseless name)
      have written : linksRead (link :: links) ++ rest =
          (.word "JOIN" :: link.source.read) ++ .word "ON" :: ((link.left.read ++ .operator "=" ::
            link.right.read) ++ (linksRead links ++ rest)) := by
        simp [linksRead, Link.read]
      rw [written] at split
      have openingOnless : Token.word "ON" ∉ .word "JOIN" :: link.source.read := by
        simp [Source.read]
      obtain ⟨between, rfl, inside⟩ := split_after openingOnless split
      rw [introductions_opening]
      cases between with
      | nil =>
          obtain rfl := (List.cons.inj inside).2
          refine ⟨[], link, links, rfl, rfl, ?_⟩
          have linkEnds : EndsComparison (linksRead links ++ rest) := endsComparison_links ends
          have condition := onCondition_link link linkEnds
          rw [List.append_assoc, List.cons_append, condition, references_onCondition]
      | cons token between =>
          obtain ⟨rfl, within⟩ := List.cons.inj inside
          have conditionOnless : Token.word "ON" ∉
              link.left.read ++ .operator "=" :: link.right.read := by
            simp [columns]
          obtain ⟨between, rfl, further⟩ := split_after conditionOnless within
          obtain ⟨first, later, others, rfl, sources, condition⟩ := ih further
          refine ⟨link :: first, later, others, rfl, ?_, condition⟩
          rw [introductions_skip _ _ (by decide), List.append_assoc, introductions_column,
            List.cons_append, introductions_skip _ _ (by decide), introductions_column, sources]
          rfl

/-- Each ON of a select belongs to one of its joins. -/
theorem on_select {select : Select} {before after : List Token} (onless : .word "ON" ∉ rest)
    (ends : EndsComparison rest)
    (split : select.read dialect ++ rest = before ++ .word "ON" :: after) :
    ∃ first link others, select.links = first ++ link :: others ∧
      introductions before = select.head.source :: (first ++ [link]).map (·.source) ∧
      references (onCondition after) = link.references := by
  have limitOnless : Token.word "ON" ∉ limitRead dialect select.limit :=
    fun member => absurd (limit_clauseWords member (by decide)) (by decide)
  have orderOnless : Token.word "ON" ∉ orderRead select.order :=
    fun member => by simpa using order_clauseWords member (by decide)
  have conditionOnless : Token.word "ON" ∉ conditionRead dialect select.conditions :=
    fun member => absurd (condition_clauseWords member (by decide)) (by decide)
  have tailEnds : EndsComparison (conditionRead dialect select.conditions ++
      (orderRead select.order ++ (limitRead dialect select.limit ++ rest))) :=
    endsComparison_condition (endsComparison_order (endsComparison_limit ends))
  simp only [Select.read, List.append_assoc] at split
  obtain ⟨between, rfl, inside⟩ :=
    split_after (head_without (by decide) (by decide) select.head) split
  have tailOnless : Token.word "ON" ∉ conditionRead dialect select.conditions ++
      (orderRead select.order ++ (limitRead dialect select.limit ++ rest)) := by
    simp [limitOnless, orderOnless, conditionOnless, onless]
  obtain ⟨first, link, others, links, sources, condition⟩ := on_links tailOnless tailEnds inside
  exact ⟨first, link, others, links, by rw [introductions_head, sources], condition⟩

end RecordMapper.Sql
