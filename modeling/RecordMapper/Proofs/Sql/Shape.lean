import RecordMapper.Proofs.Sql.Alias

set_option autoImplicit false

/-!
The clauses of a select as its tokens show them: which alias the rows are taken from, the key that
is projected beside them, what stands after ON and after WHERE, and whether there is a limit. The
clauses of a written select are those of its parts.
-/

namespace RecordMapper.Sql

/-! ## Reading -/

/-- The alias whose columns a select gives. -/
def outputAlias? : List Token → Option String
  | .word "SELECT" :: .word "DISTINCT" :: .name aliasName :: .mark '.' :: .mark '*' :: _ =>
      some aliasName
  | _ => none

/-- A column that a select gives beside those of its alias, under a name of its own. -/
def projection? : List Token → Option (ColumnName × String)
  | .word "SELECT" :: .word "DISTINCT" :: .name _ :: .mark '.' :: .mark '*' :: .mark ',' ::
      .name qualifier :: .mark '.' :: .name column :: .word "AS" :: .name named :: _ =>
      some (⟨some qualifier, column⟩, named)
  | .word "SELECT" :: .word "DISTINCT" :: .name _ :: .mark '.' :: .mark '*' :: .mark ',' ::
      .name column :: .word "AS" :: .name named :: _ =>
      some (⟨none, column⟩, named)
  | _ => none

/-- What stands up to the next clause. -/
def clause (tokens : List Token) : List Token :=
  tokens.takeWhile fun token => !token.isClauseWord

def clause? (keyword : String) : List Token → Option (List Token)
  | token :: rest => if token = .word keyword then some (clause rest) else none
  | [] => none

/-- The clauses that a keyword opens. -/
def clauses (keyword : String) : List Token → List (List Token) :=
  occurrences (clause? keyword)

/-- The conditions that a combination of rows must meet: those of the joins and that of WHERE. -/
def requirements (tokens : List Token) : List (List Token) :=
  clauses "ON" tokens ++ clauses "WHERE" tokens

/-! ## The clauses of a written select -/

variable {dialect : Dialect} {rest : List Token}

theorem clauses_cons (keyword : String) (token : Token) (rest : List Token) :
    clauses keyword (token :: rest) =
      (if token = .word keyword then [clause rest] else []) ++ clauses keyword rest := by
  by_cases same : token = .word keyword
  · simp [clauses, occurrences, clause?, same]
  · simp [clauses, occurrences, clause?, same]

theorem clauses_drop {keyword : String} {front : List Token} (absent : .word keyword ∉ front) :
    clauses keyword (front ++ rest) = clauses keyword rest := by
  refine occurrences_drop fun token member others => if_neg ?_
  rintro rfl
  exact absent member

theorem clauses_none {keyword : String} {tokens : List Token} (absent : .word keyword ∉ tokens) :
    clauses keyword tokens = [] := by
  have dropped : clauses keyword (tokens ++ []) = clauses keyword [] := clauses_drop absent
  rwa [List.append_nil] at dropped

/-- What begins with a clause word, or not at all. -/
def OpensClause (rest : List Token) : Prop :=
  ∀ token ∈ rest.head?, token.isClauseWord = true

theorem clause_append {front : List Token} (clauseless : ∀ token ∈ front, !token.isClauseWord)
    (opens : OpensClause rest) : clause (front ++ rest) = front := by
  have stops : rest.takeWhile (fun token => !token.isClauseWord) = [] := by
    cases rest with
    | nil => rfl
    | cons token rest => simp [opens token rfl]
  unfold clause
  rw [List.takeWhile_append_of_pos clauseless, stops, List.append_nil]

theorem opensClause_limit {limit : Option Limit} (opens : OpensClause rest) :
    OpensClause (limitRead dialect limit ++ rest) := by
  intro token begins
  cases read : limitRead dialect limit with
  | nil =>
      rw [read] at begins
      exact opens token begins
  | cons first others =>
      have ends := limit_begins dialect limit first (by rw [read]; rfl)
      rw [read] at begins
      cases begins
      simp only [Token.endsOrder, decide_eq_true_eq] at ends
      rcases ends with rfl | rfl <;> decide

theorem opensClause_order {terms : List OrderTerm} (opens : OpensClause rest) :
    OpensClause (orderRead terms ++ rest) := by
  cases terms with
  | nil => exact opens
  | cons term terms =>
      intro token begins
      cases begins
      decide

theorem opensClause_condition {phrases : List Phrase} (opens : OpensClause rest) :
    OpensClause (conditionRead dialect phrases ++ rest) := by
  match phrases with
  | [] => exact opens
  | [phrase] =>
      intro token begins
      cases begins
      decide
  | first :: second :: others =>
      intro token begins
      cases begins
      decide

theorem opensClause_links {links : List Link} (opens : OpensClause rest) :
    OpensClause (linksRead links ++ rest) := by
  cases links with
  | nil => exact opens
  | cons link links =>
      intro token begins
      cases begins
      decide

/-- The condition of a join. -/
def Link.condition (link : Link) : List Token :=
  link.left.read ++ .operator "=" :: link.right.read

theorem condition_clauseless (link : Link) : ∀ token ∈ link.condition, !token.isClauseWord := by
  intro token member
  rcases List.mem_append.mp member with inLeft | inRest
  · exact column_clauseless link.left token inLeft
  · rcases List.mem_cons.mp inRest with rfl | inRight
    · decide
    · exact column_clauseless link.right token inRight

theorem clauses_links (links : List Link) (opens : OpensClause rest) :
    clauses "ON" (linksRead links ++ rest) = links.map (·.condition) ++ clauses "ON" rest := by
  induction links with
  | nil => rfl
  | cons link links ih =>
      have written : linksRead (link :: links) ++ rest = (.word "JOIN" :: link.source.read) ++
          .word "ON" :: (link.condition ++ (linksRead links ++ rest)) := by
        simp [linksRead, Link.read, Link.condition]
      have openingOnless : Token.word "ON" ∉ .word "JOIN" :: link.source.read := by
        simp [Source.read]
      have conditionOnless := onless_of_clauseless (condition_clauseless link)
      rw [written, clauses_drop openingOnless, clauses_cons, if_pos rfl,
        clause_append (condition_clauseless link) (opensClause_links opens),
        clauses_drop conditionOnless, ih]
      rfl

/-- The clause of the conditions, none where there is no condition. -/
def conditionClauses (dialect : Dialect) (phrases : List Phrase) : List (List Token) :=
  if phrases.isEmpty then [] else [(conditionRead dialect phrases).tail]

theorem condition_tail (phrases : List Phrase) :
    ∀ token ∈ (conditionRead dialect phrases).tail, !token.isClauseWord := by
  match phrases with
  | [] => simp [conditionRead]
  | [phrase] => exact phrase_clauseless phrase
  | first :: second :: others =>
      intro token member
      rcases mem_intercalate member with inAnd | ⟨list, isList, inList⟩
      · obtain rfl := List.mem_singleton.mp inAnd
        decide
      · obtain ⟨phrase, -, rfl⟩ := List.mem_map.mp isList
        rcases List.mem_cons.mp inList with rfl | inside
        · decide
        · rcases List.mem_append.mp inside with inPhrase | closing
          · exact phrase_clauseless phrase token inPhrase
          · obtain rfl := List.mem_singleton.mp closing
            decide

theorem clauses_condition (phrases : List Phrase) (opens : OpensClause rest) :
    clauses "WHERE" (conditionRead dialect phrases ++ rest) =
      conditionClauses dialect phrases ++ clauses "WHERE" rest := by
  have whereless : Token.word "WHERE" ∉ (conditionRead dialect phrases).tail :=
    fun member => absurd (condition_tail phrases _ member) (by decide)
  cases phrases with
  | nil => rfl
  | cons first others =>
      have written : conditionRead dialect (first :: others) =
          .word "WHERE" :: (conditionRead dialect (first :: others)).tail := by
        cases others <;> rfl
      rw [written, List.cons_append, clauses_cons, if_pos rfl,
        clause_append (condition_tail _) opens, clauses_drop whereless]
      rfl

theorem order_limit_without {keyword : String} (isClauseWord : clauseWords.contains keyword)
    (other : keyword ∉ ["ORDER", "BY", "LIMIT", "OFFSET"]) (terms : List OrderTerm)
    (limit : Option Limit) :
    .word keyword ∉ orderRead terms ++ limitRead dialect limit := by
  simp only [List.mem_cons, List.not_mem_nil, or_false, not_or] at other
  obtain ⟨notOrder, notBy, notLimit, notOffset⟩ := other
  intro member
  rcases List.mem_append.mp member with inOrder | inLimit
  · rcases order_clauseWords inOrder isClauseWord with same | same
    · exact notOrder (Token.word.inj same)
    · exact notBy (Token.word.inj same)
  · have ends := limit_clauseWords inLimit isClauseWord
    simp only [Token.endsOrder, decide_eq_true_eq] at ends
    rcases ends with same | same
    · exact notLimit (Token.word.inj same)
    · exact notOffset (Token.word.inj same)

theorem links_without {keyword : String} (isClauseWord : clauseWords.contains keyword)
    (other : keyword ∉ ["JOIN", "AS", "ON"]) (links : List Link) :
    .word keyword ∉ linksRead links := by
  have column (name : ColumnName) : .word keyword ∉ name.read := by
    intro member
    have clauseless := column_clauseless name _ member
    rw [Token.isClauseWord, isClauseWord] at clauseless
    cases clauseless
  simp only [List.mem_cons, List.not_mem_nil, or_false, not_or] at other
  obtain ⟨notJoin, notAs, notOn⟩ := other
  simp [linksRead, Link.read, Source.read, column, notJoin, notAs, notOn]

/-- What a select requires of a combination of rows. -/
def Select.requirements (dialect : Dialect) (select : Select) : List (List Token) :=
  select.links.map (·.condition) ++ conditionClauses dialect select.conditions

theorem requirements_select (select : Select) :
    requirements (select.read dialect) = select.requirements dialect := by
  have limited : OpensClause (limitRead dialect select.limit) := by
    have opens : OpensClause (limitRead dialect select.limit ++ []) :=
      opensClause_limit fun _ begins => by cases begins
    rwa [List.append_nil] at opens
  have ordered : OpensClause (orderRead select.order ++ limitRead dialect select.limit) :=
    opensClause_order limited
  have filtered : OpensClause (conditionRead dialect select.conditions ++
      (orderRead select.order ++ limitRead dialect select.limit)) :=
    opensClause_condition ordered
  have headOnless : Token.word "ON" ∉ select.head.read :=
    head_without (by decide) (by decide) select.head
  have headWhereless : Token.word "WHERE" ∉ select.head.read :=
    head_without (by decide) (by decide) select.head
  have linksWhereless : Token.word "WHERE" ∉ linksRead select.links :=
    links_without (by decide) (by decide) select.links
  have conditionOnless : Token.word "ON" ∉ conditionRead dialect select.conditions :=
    fun member => absurd (condition_clauseWords member (by decide)) (by decide)
  have restOnless : Token.word "ON" ∉
      orderRead select.order ++ limitRead dialect select.limit :=
    order_limit_without (by decide) (by decide) select.order select.limit
  have restWhereless : Token.word "WHERE" ∉
      orderRead select.order ++ limitRead dialect select.limit :=
    order_limit_without (by decide) (by decide) select.order select.limit
  unfold requirements Select.read
  simp only [List.append_assoc]
  rw [clauses_drop headOnless, clauses_links _ filtered, clauses_drop conditionOnless,
    clauses_none restOnless, clauses_drop headWhereless, clauses_drop linksWhereless,
    clauses_condition _ ordered, clauses_none restWhereless, List.append_nil, List.append_nil]
  rfl

/-- Only a limit has the clauses of one. -/
theorem clauses_limit {keyword : String} (isLimit : keyword = "LIMIT" ∨ keyword = "OFFSET")
    (select : Select) :
    clauses keyword (select.read dialect) = clauses keyword (limitRead dialect select.limit) := by
  have word : clauseWords.contains keyword := by
    rcases isLimit with rfl | rfl <;> decide
  have headless : .word keyword ∉ select.head.read :=
    head_without word (by rcases isLimit with rfl | rfl <;> decide) select.head
  have linkless : .word keyword ∉ linksRead select.links :=
    links_without word (by rcases isLimit with rfl | rfl <;> decide) select.links
  have conditionless : .word keyword ∉ conditionRead dialect select.conditions := by
    intro member
    have same := condition_clauseWords member word
    rcases isLimit with rfl | rfl <;> exact absurd same (by decide)
  have orderless : .word keyword ∉ orderRead select.order := by
    intro member
    rcases order_clauseWords member word with same | same <;>
      rcases isLimit with rfl | rfl <;> exact absurd same (by decide)
  unfold Select.read
  simp only [List.append_assoc]
  rw [clauses_drop headless, clauses_drop linkless, clauses_drop conditionless,
    clauses_drop orderless]

theorem introductions_read (select : Select) :
    introductions (select.read dialect) = select.sources := by
  have read : introductions (select.read dialect ++ []) = select.sources ++ introductions [] :=
    introductions_select select []
  rwa [List.append_nil, show introductions [] = [] from rfl, List.append_nil] at read

theorem outputAlias_select (select : Select) :
    outputAlias? (select.read dialect) = some select.head.source.aliasName := by
  rcases select with ⟨⟨source, key⟩, links, conditions, order, limit⟩
  rfl

/-- What a head projects beside the columns of its alias. -/
def Head.projection? (head : Head) : Option (ColumnName × String) :=
  head.key.map (·, pivotKeyColumn)

theorem projection_select (select : Select) :
    projection? (select.read dialect) = select.head.projection? := by
  rcases select with ⟨⟨source, _ | ⟨_ | qualifier, column⟩⟩, links, conditions, order, limit⟩ <;> rfl

end RecordMapper.Sql
