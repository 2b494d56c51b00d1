import RecordMapper.Proofs.Sql.Shape

set_option autoImplicit false

/-!
The joins of a statement as its tokens show them. Each brings in a table under an alias and compares
two columns; those of a written select are its links, and nothing else in it reads as a join.
-/

namespace RecordMapper.Sql

/-! ## Reading -/

/-- A column name, and what stands behind it. -/
def columnName? : List Token → Option (ColumnName × List Token)
  | .name qualifier :: .mark '.' :: .name column :: rest => some (⟨some qualifier, column⟩, rest)
  | .name column :: rest => some (⟨none, column⟩, rest)
  | _ => none

def comparison? (source : Source) (tokens : List Token) : Option Link :=
  match columnName? tokens with
  | some (left, .operator "=" :: rest) => (columnName? rest).map fun right => ⟨source, left, right.1⟩
  | _ => none

def link? : List Token → Option Link
  | .word "JOIN" :: .name table :: .word "AS" :: .name aliasName :: .word "ON" :: rest =>
      comparison? ⟨table, aliasName⟩ rest
  | _ => none

def joins : List Token → List Link :=
  occurrences link?

/-! ## The joins of a written statement -/

variable {dialect : Dialect} {rest : List Token}

theorem columnName?_read (name : ColumnName) (stops : Stops rest) :
    columnName? (name.read ++ rest) = some (name, rest) := by
  rcases name with ⟨_ | qualifier, column⟩
  · change columnName? (.name column :: rest) = _
    unfold columnName?
    split
    · rename_i same
      cases same
      exact absurd rfl stops
    · rename_i same
      cases same
      rfl
    · rename_i unnamed
      exact absurd rfl (unnamed column rest)
  · rfl

theorem link?_read (link : Link) (stops : Stops rest) :
    link? (link.read ++ rest) = some link := by
  have written : link.read ++ rest = .word "JOIN" :: .name link.source.table :: .word "AS" ::
      .name link.source.aliasName :: .word "ON" ::
        (link.left.read ++ .operator "=" :: (link.right.read ++ rest)) := by
    simp [Link.read, Source.read]
  have leftStops : Stops (.operator "=" :: (link.right.read ++ rest)) := by simp [Stops]
  rw [written, link?, comparison?, columnName?_read _ leftStops]
  simp [columnName?_read _ stops]

theorem joins_drop {front : List Token} (absent : .word "JOIN" ∉ front) :
    joins (front ++ rest) = joins rest := by
  refine occurrences_drop fun token member others => ?_
  unfold link?
  split
  · rename_i same
    obtain ⟨rfl, -⟩ := List.cons.inj same
    exact absurd member absent
  · rfl

theorem joins_links (links : List Link) (ends : EndsComparison rest) :
    joins (linksRead links ++ rest) = links ++ joins rest := by
  induction links with
  | nil => rfl
  | cons link links ih =>
      have inside : Token.word "JOIN" ∉ link.source.read ++ .word "ON" :: link.condition := by
        have conditionless : Token.word "JOIN" ∉ link.condition := by
          intro member
          exact absurd (condition_clauseless link _ member) (by decide)
        simp [Source.read, conditionless]
      have written : linksRead (link :: links) ++ rest =
          link.read ++ (linksRead links ++ rest) := by
        simp [linksRead]
      have opened : link.read ++ (linksRead links ++ rest) = .word "JOIN" ::
          ((link.source.read ++ .word "ON" :: link.condition) ++ (linksRead links ++ rest)) := by
        simp [Link.read, Link.condition]
      have linked : EndsComparison (linksRead links ++ rest) := endsComparison_links ends
      have found := link?_read link linked.stops
      rw [written]
      rw [opened] at found ⊢
      rw [joins, occurrences, found, ← joins, joins_drop inside, ih]
      rfl

theorem joins_select (select : Select) (ends : EndsComparison rest) :
    joins (select.read dialect ++ rest) = select.links ++ joins rest := by
  have headless : Token.word "JOIN" ∉ select.head.read :=
    head_without (by decide) (by decide) select.head
  have conditionless : Token.word "JOIN" ∉ conditionRead dialect select.conditions := by
    intro member
    exact absurd (condition_clauseWords member (by decide)) (by decide)
  have orderless : Token.word "JOIN" ∉ orderRead select.order ++ limitRead dialect select.limit :=
    order_limit_without (by decide) (by decide) select.order select.limit
  have tailEnds : EndsComparison (conditionRead dialect select.conditions ++
      (orderRead select.order ++ (limitRead dialect select.limit ++ rest))) :=
    endsComparison_condition (endsComparison_order (endsComparison_limit ends))
  simp only [Select.read, List.append_assoc]
  rw [joins_drop headless, joins_links _ tailEnds, joins_drop conditionless, ← List.append_assoc,
    joins_drop orderless]

theorem joins_rows (select : Select) :
    joins (tokens dialect ((Sentence.rows select).text dialect)) = select.links := by
  have read : joins (select.read dialect ++ []) = select.links ++ joins [] :=
    joins_select select (by simp [EndsComparison])
  rw [((Sentence.rows select).spells dialect).tokens_eq]
  simpa [Sentence.read, joins, occurrences] using read

theorem joins_count (select : Select) :
    joins (tokens dialect ((Sentence.count select).text dialect)) = select.links := by
  have front : Token.word "JOIN" ∉ [Token.word "SELECT", .word "COUNT", .mark '(', .mark '*',
      .mark ')', .word "AS", .word "count", .word "FROM", .mark '('] := by decide
  have ends : EndsComparison [.mark ')', .word "AS", .word "s1"] := by
    intro token first
    cases first
    decide
  rw [((Sentence.count select).spells dialect).tokens_eq, Sentence.read, joins_drop front,
    joins_select select ends]
  exact List.append_nil _

end RecordMapper.Sql
