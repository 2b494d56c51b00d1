import Mathlib.Data.List.TakeWhile
import RecordMapper.Proofs.Sql.Sentence

set_option autoImplicit false

/-!
The terms of a statement's ORDER BY clause as its tokens show them: what stands between the commas,
up to a limit.
-/

namespace RecordMapper.Sql

/-- Words that begin a clause or belong to one. None stands in a phrase. -/
def clauseWords : List String :=
  ["SELECT", "DISTINCT", "FROM", "AS", "JOIN", "ON", "WHERE", "ORDER", "BY", "LIMIT", "OFFSET"]

def Token.isClauseWord : Token → Bool
  | .word text => clauseWords.contains text
  | _ => false

def Token.endsOrder (token : Token) : Bool :=
  token = .word "LIMIT" ∨ token = .word "OFFSET"

/-- The terms of the ORDER BY clause, none where there is no such clause. -/
def orderTerms (tokens : List Token) : List (List Token) :=
  match tokens.dropWhile (· ≠ .word "ORDER") with
  | _ :: _ :: rest => (rest.takeWhile fun token => !token.endsOrder).splitOn (.mark ',')
  | _ => []

variable {dialect : Dialect}

/-! ## Parts without clause words -/

theorem column_clauseless (name : ColumnName) : ∀ token ∈ name.read, !token.isClauseWord := by
  rcases name with ⟨_ | qualifier, column⟩ <;> simp [ColumnName.read, Token.isClauseWord]

theorem placeholder_clauseless (dialect : Dialect) (index : Nat) :
    !(Token.word (dialect.placeholder index)).isClauseWord := by
  have letters : ∀ word ∈ clauseWords, word.toList.head? ∉ [some '?', some '$'] := by decide
  have other : dialect.placeholder index ∉ clauseWords := by
    intro member
    exact placeholder_ne (letters _ member) rfl
  simpa [Token.isClauseWord] using other

theorem operatorToken_clauseless (operator : Operator) :
    !(operatorToken operator).isClauseWord := by
  cases operator <;> decide

theorem phrase_clauseless (phrase : Phrase) :
    ∀ token ∈ phrase.read dialect, !token.isClauseWord := by
  induction phrase with
  | column name => exact column_clauseless name
  | null => simp [Phrase.read, Token.isClauseWord, clauseWords]
  | parameter index value =>
      simpa only [Phrase.read, List.mem_singleton, forall_eq] using
        placeholder_clauseless dialect index
  | nullTest negated operand ih =>
      intro token member
      rcases List.mem_append.mp member with before | test
      · exact ih token before
      · cases negated <;> simp only [List.mem_cons, List.not_mem_nil, or_false, if_true,
          Bool.false_eq_true, if_false] at test <;> rcases test with rfl | rfl | rfl <;> decide
  | binary operator left right leftIH rightIH =>
      simp only [Phrase.read, List.mem_append, List.mem_singleton]
      rintro token ((before | rfl) | after)
      · exact leftIH token before
      · exact operatorToken_clauseless operator
      · exact rightIH token after
  | not operand ih =>
      intro token member
      rcases List.mem_cons.mp member with rfl | rest
      · decide
      · exact ih token rest

theorem mem_intercalate {Item : Type} {separator : List Item} {lists : List (List Item)}
    {item : Item} (member : item ∈ separator.intercalate lists) :
    item ∈ separator ∨ ∃ list ∈ lists, item ∈ list := by
  induction lists with
  | nil => cases member
  | cons first others ih =>
      cases others with
      | nil => exact .inr ⟨first, by simpa using member⟩
      | cons second others =>
          rw [List.intercalate_cons_cons, List.append_assoc] at member
          rcases List.mem_append.mp member with inFirst | rest
          · exact .inr ⟨first, List.mem_cons_self, inFirst⟩
          · rcases List.mem_append.mp rest with inSeparator | inOthers
            · exact .inl inSeparator
            · rcases ih inOthers with inSeparator | ⟨list, isList, inList⟩
              · exact .inl inSeparator
              · exact .inr ⟨list, List.mem_cons_of_mem _ isList, inList⟩

theorem condition_clauseWords {phrases : List Phrase} {token : Token}
    (member : token ∈ conditionRead dialect phrases) (isClauseWord : token.isClauseWord) :
    token = .word "WHERE" := by
  have clauseless (phrase : Phrase) : token ∉ phrase.read dialect := by
    intro inPhrase
    simpa [isClauseWord] using phrase_clauseless phrase token inPhrase
  match phrases with
  | [] => cases member
  | [phrase] =>
      rcases List.mem_cons.mp member with isWhere | inPhrase
      · exact isWhere
      · exact absurd inPhrase (clauseless phrase)
  | first :: second :: others =>
      rcases List.mem_cons.mp member with isWhere | rest
      · exact isWhere
      · rcases mem_intercalate rest with inAnd | ⟨list, isList, inList⟩
        · obtain rfl := List.mem_singleton.mp inAnd
          exact absurd isClauseWord (by decide)
        · obtain ⟨phrase, -, rfl⟩ := List.mem_map.mp isList
          rcases List.mem_cons.mp inList with rfl | rest
          · exact absurd isClauseWord (by decide)
          · rcases List.mem_append.mp rest with inPhrase | closing
            · exact absurd inPhrase (clauseless phrase)
            · obtain rfl := List.mem_singleton.mp closing
              exact absurd isClauseWord (by decide)

theorem head_without {word : String} (isClauseWord : clauseWords.contains word)
    (other : word ∉ ["SELECT", "DISTINCT", "FROM", "AS"]) (head : Head) :
    .word word ∉ head.read := by
  have column (name : ColumnName) : .word word ∉ name.read := by
    intro member
    have clauseless := column_clauseless name _ member
    rw [Token.isClauseWord, isClauseWord] at clauseless
    cases clauseless
  simp only [List.mem_cons, List.not_mem_nil, or_false, not_or] at other
  obtain ⟨notSelect, notDistinct, notFrom, notAs⟩ := other
  rcases head with ⟨source, _ | key⟩ <;>
    simp [Head.read, Head.keyRead, Source.read, column, notSelect, notDistinct, notFrom, notAs]

theorem links_unordered (links : List Link) :
    ∀ token ∈ linksRead links, token ≠ .word "ORDER" := by
  have column (name : ColumnName) : .word "ORDER" ∉ name.read := fun member =>
    absurd (column_clauseless name _ member) (by decide)
  rintro token member rfl
  simp [linksRead, Link.read, Source.read, column] at member

theorem condition_unordered (phrases : List Phrase) :
    ∀ token ∈ conditionRead dialect phrases, token ≠ .word "ORDER" := by
  rintro token member rfl
  exact absurd (condition_clauseWords member (by decide)) (by decide)

/-! ## The terms of a select -/

theorem limit_begins (dialect : Dialect) (limit : Option Limit) :
    ∀ token ∈ (limitRead dialect limit).head?, token.endsOrder := by
  cases limit with
  | none => simp [limitRead]
  | some limit =>
      intro token begins
      simp only [limitRead, limitWords] at begins
      split at begins
      · split at begins
        · cases begins
        · cases begins
          rfl
      · split at begins
        · cases dialect <;> cases begins <;> rfl
        · cases begins
          rfl

theorem number_clauseless (number : Nat) : !(Token.word number.repr).isClauseWord := by
  have letters : ∀ word ∈ clauseWords, word.toList.any fun char => !char.isDigit := by decide
  have other : number.repr ∉ clauseWords := by
    intro member
    obtain ⟨char, inNumber, notDigit⟩ := List.any_eq_true.mp (letters _ member)
    simp [repr_digits number char inNumber] at notDigit
  simpa [Token.isClauseWord] using other

theorem limit_clauseWords {limit : Option Limit} {token : Token}
    (member : token ∈ limitRead dialect limit) (isClauseWord : token.isClauseWord) :
    token.endsOrder := by
  cases limit with
  | none => cases member
  | some limit =>
      obtain ⟨word, isWord, rfl⟩ := List.mem_map.mp member
      rcases mem_limitWords isWord with fixed | ⟨number, rfl⟩
      · simp only [List.mem_cons, List.not_mem_nil, or_false] at fixed
        rcases fixed with rfl | rfl | rfl | rfl
        · rfl
        · rfl
        · exact absurd isClauseWord (by decide)
        · exact absurd isClauseWord (by decide)
      · have clauseless := number_clauseless number
        rw [isClauseWord] at clauseless
        cases clauseless

theorem limit_unordered (limit : Option Limit) :
    ∀ token ∈ limitRead dialect limit, token ≠ .word "ORDER" := by
  rintro token member rfl
  exact absurd (limit_clauseWords member (by decide)) (by decide)

theorem term_clauseless (term : OrderTerm) :
    ∀ token ∈ term.read, !token.isClauseWord ∧ token ≠ .mark ',' := by
  rcases term with ⟨⟨_ | qualifier, column⟩, _ | _⟩ <;>
    simp [OrderTerm.read, ColumnName.read, Token.isClauseWord, clauseWords]

theorem not_endsOrder {token : Token} (clauseless : !token.isClauseWord) : !token.endsOrder := by
  have ends : token.endsOrder → token.isClauseWord := by
    simp only [Token.endsOrder, decide_eq_true_eq]
    rintro (rfl | rfl) <;> decide
  grind

theorem terms_continue (terms : List OrderTerm) :
    ∀ token ∈ List.intercalate [.mark ','] (terms.map (·.read)), !token.endsOrder := by
  intro token member
  rcases mem_intercalate member with isComma | ⟨read, isTerm, inTerm⟩
  · obtain rfl := List.mem_singleton.mp isComma
    decide
  · obtain ⟨term, -, rfl⟩ := List.mem_map.mp isTerm
    exact not_endsOrder (term_clauseless term token inTerm).1

theorem takeWhile_limit (limit : Option Limit) :
    (limitRead dialect limit).takeWhile (fun token => !token.endsOrder) = [] := by
  have begins := limit_begins dialect limit
  cases read : limitRead dialect limit with
  | nil => rfl
  | cons token rest =>
      rw [read] at begins
      simp [begins token rfl]

/-- The terms of a select's text are those of its order. -/
theorem orderTerms_select (select : Select) :
    orderTerms (select.read dialect) = select.order.map (·.read) := by
  have front : ∀ token ∈ select.head.read ++ linksRead select.links
      ++ conditionRead dialect select.conditions, decide (token ≠ .word "ORDER") := by
    simp only [List.mem_append, decide_eq_true_eq]
    rintro token ((inHead | inLinks) | inCondition)
    · rintro rfl
      exact head_without (by decide) (by decide) select.head inHead
    · exact links_unordered select.links token inLinks
    · exact condition_unordered select.conditions token inCondition
  unfold orderTerms Select.read
  rw [List.append_assoc, List.dropWhile_append_of_pos front]
  cases order : select.order with
  | nil =>
      have none : (limitRead dialect select.limit).dropWhile
          (fun token => decide (token ≠ .word "ORDER")) = [] := by
        rw [List.dropWhile_eq_nil_iff]
        simpa using limit_unordered select.limit
      simp only [orderRead, List.isEmpty_nil, if_true, List.nil_append, none, List.map_nil]
  | cons first others =>
      have commaless : ∀ read ∈ (first :: others).map (·.read), Token.mark ',' ∉ read := by
        intro read isTerm comma
        obtain ⟨term, -, rfl⟩ := List.mem_map.mp isTerm
        exact (term_clauseless term _ comma).2 rfl
      have written : orderRead (first :: others) =
          .word "ORDER" :: .word "BY" ::
            List.intercalate [.mark ','] ((first :: others).map (·.read)) := rfl
      rw [written, List.cons_append, List.dropWhile_cons_of_neg (by simp)]
      simp only [List.cons_append]
      rw [List.takeWhile_append_of_pos (terms_continue _), takeWhile_limit, List.append_nil]
      exact List.splitOn_intercalate _ commaless (by simp)

end RecordMapper.Sql
