import RecordMapper.Proofs.Sql.Alias

set_option autoImplicit false

/-!
Statements without aliases. No name in them is qualified and no table is introduced under another
name; the names that stand in them are known.
-/

namespace RecordMapper.Sql

/-- A token of a statement that has no alias and no name but the known ones. -/
def Token.IsBare (known : String → Prop) : Token → Prop
  | .name text => known text
  | .word text => text ≠ "AS"
  | .operator _ => True
  | .mark char => char ≠ '.'
  | .unclosed => False

variable {dialect : Dialect} {known : String → Prop} {tokens : List Token}

theorem references_bare (bare : ∀ token ∈ tokens, token.IsBare known) : references tokens = [] := by
  induction tokens with
  | nil => rfl
  | cons token rest ih =>
      obtain ⟨-, others⟩ := List.forall_mem_cons.mp bare
      have stops : Stops rest := by
        intro dotted
        exact others (.mark '.') (List.mem_of_mem_head? dotted) rfl
      cases token with
      | name text => rw [references_name text stops, ih others]
      | word | operator | mark => exact ih others
      | unclosed => exact ih others

theorem introductions_bare (bare : ∀ token ∈ tokens, token.IsBare known) :
    introductions tokens = [] := by
  induction tokens with
  | nil => rfl
  | cons token rest ih =>
      obtain ⟨-, others⟩ := List.forall_mem_cons.mp bare
      have unnamed : introduction? (token :: rest) = none := by
        unfold introduction?
        split
        · rename_i same
          cases same
          exact absurd rfl (others (.word "AS") (by simp))
        · rfl
      rw [introductions_cons, unnamed, ih others]
      rfl

theorem bare_append {first second : List Token} (bare : ∀ token ∈ first, token.IsBare known)
    (others : ∀ token ∈ second, token.IsBare known) :
    ∀ token ∈ first ++ second, token.IsBare known :=
  List.forall_mem_append.mpr ⟨bare, others⟩

theorem bare_intercalate {separator : List Token} {lists : List (List Token)}
    (parted : ∀ token ∈ separator, token.IsBare known)
    (bare : ∀ list ∈ lists, ∀ token ∈ list, token.IsBare known) :
    ∀ token ∈ separator.intercalate lists, token.IsBare known := by
  intro token member
  rcases mem_intercalate member with inSeparator | ⟨list, isList, inList⟩
  · exact parted token inSeparator
  · exact bare list isList token inList

theorem placeholder_bare (known : String → Prop) (dialect : Dialect) (index : Nat) :
    Token.IsBare known (.word (dialect.placeholder index)) :=
  placeholder_ne (by decide)

def ColumnName.IsBare (known : String → Prop) (name : ColumnName) : Prop :=
  name.qualifier = none ∧ known name.column

theorem operatorToken_bare (operator : Operator) : (operatorToken operator).IsBare known := by
  cases operator with
  | and | or => simp [operatorToken, Token.IsBare]
  | eq | ne | lt | le | gt | ge => trivial

theorem phrase_bare {phrase : Phrase} (columns : ∀ name ∈ phrase.columns, name.IsBare known) :
    ∀ token ∈ phrase.read dialect, token.IsBare known := by
  induction phrase with
  | column name =>
      obtain ⟨unqualified, isKnown⟩ := columns name (List.mem_singleton_self name)
      simp [Phrase.read, ColumnName.read, unqualified, Token.IsBare, isKnown]
  | null => simp [Phrase.read, Token.IsBare]
  | parameter index value =>
      simpa [Phrase.read] using placeholder_bare known dialect index
  | nullTest negated operand ih =>
      refine bare_append (ih columns) ?_
      cases negated <;> simp [Token.IsBare]
  | binary operator left right leftIH rightIH =>
      obtain ⟨leftColumns, rightColumns⟩ := List.forall_mem_append.mp columns
      refine bare_append (bare_append (leftIH leftColumns) ?_) (rightIH rightColumns)
      simpa using operatorToken_bare operator
  | not operand ih =>
      refine List.forall_mem_cons.mpr ⟨?_, ih columns⟩
      simp [Token.IsBare]

theorem condition_bare {phrases : List Phrase}
    (columns : ∀ name ∈ phrases.flatMap (·.columns), name.IsBare known) :
    ∀ token ∈ conditionRead dialect phrases, token.IsBare known := by
  have each : ∀ phrase ∈ phrases, ∀ token ∈ phrase.read dialect, token.IsBare known :=
    fun phrase member => phrase_bare fun name inPhrase =>
      columns name (List.mem_flatMap.mpr ⟨phrase, member, inPhrase⟩)
  match phrases with
  | [] => simp [conditionRead]
  | [phrase] =>
      refine List.forall_mem_cons.mpr ⟨by simp [Token.IsBare], ?_⟩
      exact each phrase (List.mem_singleton_self phrase)
  | first :: second :: others =>
      refine List.forall_mem_cons.mpr ⟨by simp [Token.IsBare], ?_⟩
      refine bare_intercalate (by simp [Token.IsBare]) fun list isList => ?_
      obtain ⟨phrase, isPhrase, rfl⟩ := List.mem_map.mp isList
      have parenthesis (char : Char) (other : char ≠ '.') :
          ∀ token ∈ [Token.mark char], token.IsBare known := by simpa [Token.IsBare] using other
      exact bare_append (bare_append (parenthesis '(' (by decide)) (each phrase isPhrase))
        (parenthesis ')' (by decide))

/-- The names of a sentence that writes: its table, the columns that it sets, and those of its
conditions. -/
inductive Sentence.Knows (known : String → Prop) : Sentence → Prop where
  | update {table : String} {assignments : List Assignment} {conditions : List Phrase} :
      known table → (∀ assignment ∈ assignments, known assignment.column) →
      (∀ name ∈ conditions.flatMap (·.columns), name.IsBare known) →
      Knows known (.update table assignments conditions)
  | delete {table : String} {conditions : List Phrase} :
      known table → (∀ name ∈ conditions.flatMap (·.columns), name.IsBare known) →
      Knows known (.delete table conditions)
  | insert {table : String} {assignments : List Assignment} :
      known table → (∀ assignment ∈ assignments, known assignment.column) →
      Knows known (.insert table assignments)

theorem list_bare {reads : List (List Token)}
    (bare : ∀ read ∈ reads, ∀ token ∈ read, token.IsBare known) :
    ∀ token ∈ listRead reads, token.IsBare known := by
  refine List.forall_mem_cons.mpr ⟨by simp [Token.IsBare], bare_append ?_ (by simp [Token.IsBare])⟩
  exact bare_intercalate (by simp [Token.IsBare]) bare

theorem sentence_bare (dialect : Dialect) {sentence : Sentence} (knows : sentence.Knows known) :
    ∀ token ∈ sentence.read dialect, token.IsBare known := by
  cases knows with
  | update table assigned columns =>
      refine bare_append ?_ (condition_bare columns)
      simp only [List.flatten_cons, List.flatten_nil, List.append_nil, List.singleton_append,
        List.forall_mem_cons]
      refine ⟨by simp [Token.IsBare], table, by simp [Token.IsBare], ?_⟩
      refine bare_intercalate (by simp [Token.IsBare]) fun read isRead => ?_
      obtain ⟨assignment, isAssignment, rfl⟩ := List.mem_map.mp isRead
      have placeholder := placeholder_bare known dialect assignment.parameter.index
      simpa [Assignment.read, Token.IsBare] using ⟨assigned assignment isAssignment, placeholder⟩
  | delete table columns =>
      refine bare_append ?_ (condition_bare columns)
      simpa [Token.IsBare] using table
  | insert table assigned =>
      simp only [Sentence.read, List.flatten_cons, List.flatten_nil, List.append_nil,
        List.nil_append, List.forall_mem_cons, List.cons_append]
      refine ⟨by simp [Token.IsBare], by simp [Token.IsBare], table, bare_append ?_ ?_⟩
      · refine list_bare fun read isRead => ?_
        obtain ⟨assignment, isAssignment, rfl⟩ := List.mem_map.mp isRead
        simpa [Token.IsBare] using assigned assignment isAssignment
      · refine List.forall_mem_cons.mpr ⟨by simp [Token.IsBare], list_bare fun read isRead => ?_⟩
        obtain ⟨assignment, -, rfl⟩ := List.mem_map.mp isRead
        simpa using placeholder_bare known dialect assignment.parameter.index

end RecordMapper.Sql
