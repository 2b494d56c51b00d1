import RecordMapper.Proofs.Sql.Sentence
import RecordMapper.Proofs.Sql.Symbol

set_option autoImplicit false

/-!
One sentence in every dialect. Its texts are written for the same symbols, up to the clause that
bounds the rows.
-/

namespace RecordMapper.Sql

/-- Each dialect writes its tokens for the same symbols, whose parameters are those of the
indices. -/
def Translates (read : Dialect → List Token) (indices : List Nat) : Prop :=
  ∃ template : List Symbol, (∀ symbol ∈ template, symbol.isShared = true) ∧
    positions template = indices ∧ ∀ dialect, read dialect = template.map (Symbol.write dialect)

namespace Translates

variable {read other : Dialect → List Token} {indices otherIndices : List Nat}

theorem fixed {tokens : List Token}
    (shared : tokens.all (fun token => (Symbol.fixed token).isShared) = true) :
    Translates (fun _ => tokens) [] := by
  refine ⟨tokens.map .fixed, ?_, ?_, fun dialect => ?_⟩
  · intro symbol member
    obtain ⟨token, isToken, rfl⟩ := List.mem_map.mp member
    exact List.all_eq_true.mp shared token isToken
  · simp [positions, Symbol.position?, List.filterMap_map, Function.comp_def]
  · simp [Symbol.write, Function.comp_def]

theorem placeholder (index : Nat) :
    Translates (fun dialect => [.word (dialect.placeholder index)]) [index] :=
  ⟨[.parameter index], by simp [Symbol.isShared], rfl, fun _ => rfl⟩

theorem append (translates : Translates read indices) (rest : Translates other otherIndices) :
    Translates (fun dialect => read dialect ++ other dialect) (indices ++ otherIndices) := by
  obtain ⟨template, shared, rfl, written⟩ := translates
  obtain ⟨others, othersShared, rfl, othersWritten⟩ := rest
  refine ⟨template ++ others, ?_, List.filterMap_append, fun dialect => ?_⟩
  · exact List.forall_mem_append.mpr ⟨shared, othersShared⟩
  · dsimp only
    rw [written, othersWritten, List.map_append]

theorem of_eq (translates : Translates read indices)
    (same : ∀ dialect, other dialect = read dialect) (sameIndices : otherIndices = indices) :
    Translates other otherIndices := by
  rwa [funext same, sameIndices]

theorem led (translates : Translates read indices) (tokens : List Token)
    (shared : tokens.all (fun token => (Symbol.fixed token).isShared) = true) :
    Translates (fun dialect => tokens ++ read dialect) indices :=
  (fixed shared).append translates

variable {Item : Type} {readItem : Item → Dialect → List Token} {indicesOf : Item → List Nat}

theorem flatten (each : ∀ item, Translates (readItem item) (indicesOf item))
    (items : List Item) :
    Translates (fun dialect => (items.map (readItem · dialect)).flatten)
      (items.flatMap indicesOf) := by
  induction items with
  | nil => exact fixed rfl
  | cons item items ih => exact (each item).append ih

theorem intercalate {separator : List Token} (parts : Translates (fun _ => separator) [])
    (each : ∀ item, Translates (readItem item) (indicesOf item)) (items : List Item) :
    Translates (fun dialect => separator.intercalate (items.map (readItem · dialect)))
      (items.flatMap indicesOf) := by
  induction items with
  | nil => exact fixed rfl
  | cons item items ih =>
      cases items with
      | nil => simpa using each item
      | cons second items =>
          have joined (dialect : Dialect) :
              separator.intercalate ((item :: second :: items).map (readItem · dialect)) =
                readItem item dialect ++ separator
                  ++ separator.intercalate ((second :: items).map (readItem · dialect)) :=
            List.intercalate_cons_cons
          exact (((each item).append parts).append ih).of_eq joined (by simp)

theorem list (each : ∀ item, Translates (readItem item) (indicesOf item)) (items : List Item) :
    Translates (fun dialect => listRead (items.map (readItem · dialect)))
      (items.flatMap indicesOf) := by
  have joined := intercalate (fixed rfl : Translates (fun _ => [.mark ',']) []) each items
  have closed : Translates (fun _ => [.mark ')']) [] := fixed rfl
  exact ((joined.led [.mark '('] rfl).append closed).of_eq (fun _ => rfl)
    (List.append_nil _).symm

/-- Symbols hold no limit, so that the limits are those of what comes after. -/
theorem unlimited_append (translates : Translates read indices) (dialect : Dialect)
    (rest : List Token) :
    unlimited (read dialect ++ rest) = read dialect ++ unlimited rest := by
  obtain ⟨template, shared, -, written⟩ := translates
  rw [written, unlimited_template shared]

theorem unlimit (translates : Translates read indices) :
    Translates (fun dialect => unlimited (read dialect)) indices := by
  refine translates.of_eq (fun dialect => ?_) rfl
  simpa [unlimited] using translates.unlimited_append dialect []

/-- Where the parameters are numbered, the symbols are what every dialect is read as. -/
theorem symbols_eq {next count : Nat}
    (translates : Translates read (List.range' next count)) :
    ∃ template, ∀ dialect, symbols dialect next (read dialect) = template := by
  obtain ⟨template, shared, numbered, written⟩ := translates
  refine ⟨template, fun dialect => ?_⟩
  rw [written, symbols_template shared numbered]

end Translates

/-! ## Parts of statements -/

theorem ColumnName.translates (name : ColumnName) : Translates (fun _ => name.read) [] := by
  rcases name with ⟨_ | qualifier, column⟩ <;> exact .fixed rfl

theorem Link.translates (link : Link) : Translates (fun _ => link.read) [] := by
  rcases link with ⟨source, ⟨_ | qualifier, left⟩, ⟨_ | otherQualifier, right⟩⟩ <;>
    exact .fixed rfl

theorem Head.translates (head : Head) : Translates (fun _ => head.read) [] := by
  rcases head with ⟨source, _ | ⟨_ | qualifier, key⟩⟩ <;> exact .fixed rfl

theorem Phrase.translates (phrase : Phrase) :
    Translates (fun dialect => phrase.read dialect) (phrase.parameters.map (·.index)) := by
  induction phrase with
  | column name => exact name.translates
  | null => exact .fixed rfl
  | parameter index value => exact .placeholder index
  | nullTest negated operand ih =>
      have test : Translates (fun _ => if negated then [.word "IS", .word "NOT", .word "NULL"]
          else [.word "IS", .word "NULL"]) [] := by
        cases negated <;> exact .fixed rfl
      have translates := ih.append test
      rwa [List.append_nil] at translates
  | binary operator left right leftIH rightIH =>
      have sign : Translates (fun _ => [operatorToken operator]) [] := by
        cases operator <;> exact .fixed rfl
      have translates := (leftIH.append sign).append rightIH
      rwa [List.append_nil, ← List.map_append] at translates
  | not operand ih => exact ih.led [.word "NOT"] rfl

theorem translates_condition (phrases : List Phrase) :
    Translates (fun dialect => conditionRead dialect phrases)
      ((conditionParameters phrases).map (·.index)) := by
  have indices : (conditionParameters phrases).map (·.index) =
      phrases.flatMap fun phrase => phrase.parameters.map (·.index) := by
    rw [conditionParameters, List.map_flatMap]
  rw [indices]
  rcases phrases with _ | ⟨first, _ | ⟨second, others⟩⟩
  · exact .fixed rfl
  · exact (first.translates.led [.word "WHERE"] rfl).of_eq (fun _ => rfl) (by simp)
  · have closed (phrase : Phrase) :
        Translates (fun dialect => .mark '(' :: phrase.read dialect ++ [.mark ')'])
          (phrase.parameters.map (·.index)) := by
      simpa using (phrase.translates.led [.mark '('] rfl).append
        (.fixed rfl : Translates (fun _ => [.mark ')']) [])
    exact (Translates.intercalate (.fixed rfl) closed _).led [.word "WHERE"] rfl

theorem translates_order (terms : List OrderTerm) : Translates (fun _ => orderRead terms) [] := by
  have each (term : OrderTerm) : Translates (fun _ => term.read) [] := by
    rcases term with ⟨⟨_ | qualifier, column⟩, _ | _⟩ <;> exact .fixed rfl
  have none : (terms.flatMap fun _ => ([] : List Nat)) = [] :=
    List.flatMap_eq_nil_iff.mpr fun _ _ => rfl
  have joined : Translates (fun _ => List.intercalate [.mark ','] (terms.map (·.read))) [] := by
    rw [← none]
    exact .intercalate (.fixed rfl) each terms
  unfold orderRead
  split
  · exact .fixed rfl
  · exact joined.led [.word "ORDER", .word "BY"] rfl

/-- A select is the same in every dialect up to its limit. -/
theorem Select.translates (select : Select) (rest : List Token)
    (others : Translates (fun _ => unlimited rest) []) :
    Translates (fun dialect => unlimited (select.read dialect ++ rest))
      ((conditionParameters select.conditions).map (·.index)) := by
  have none : (select.links.flatMap fun _ => ([] : List Nat)) = [] :=
    List.flatMap_eq_nil_iff.mpr fun _ _ => rfl
  have links : Translates (fun _ => linksRead select.links) [] := by
    rw [← none]
    exact .flatten Link.translates select.links
  have front := ((select.head.translates.append links).append
    (translates_condition select.conditions)).append (translates_order select.order)
  have bounded (dialect : Dialect) : unlimited (select.read dialect ++ rest) =
      (select.head.read ++ linksRead select.links ++ conditionRead dialect select.conditions
        ++ orderRead select.order) ++ unlimited rest := by
    rw [Select.read, List.append_assoc _ (limitRead dialect select.limit),
      front.unlimited_append dialect, unlimited_limit]
  simpa [bounded] using front.append others

/-- The texts of a sentence differ only in their limits, their quotes and their placeholders. -/
theorem Sentence.translates (sentence : Sentence) :
    Translates (fun dialect => unlimited (tokens dialect (sentence.text dialect)))
      (sentence.parameters.map (·.index)) := by
  simp only [fun dialect => (sentence.spells dialect).tokens_eq]
  cases sentence with
  | rows select =>
      exact (select.translates [] (.fixed rfl)).of_eq (fun _ => by simp [read]) rfl
  | count select =>
      have inner := select.translates [.mark ')', .word "AS", .word "s1"] (.fixed rfl)
      exact inner.led [.word "SELECT", .word "COUNT", .mark '(', .mark '*', .mark ')',
        .word "AS", .word "count", .word "FROM", .mark '('] rfl
  | update table assignments conditions =>
      have each (assignment : Assignment) :
          Translates (fun dialect => assignment.read dialect) [assignment.parameter.index] :=
        (Translates.placeholder _).led [.name assignment.column, .operator "="] rfl
      have assigned := Translates.intercalate (.fixed rfl : Translates (fun _ => [.mark ',']) [])
        each assignments
      have all := (assigned.append (translates_condition conditions)).led
        [.word "UPDATE", .name table, .word "SET"] rfl
      refine (all.of_eq (fun dialect => ?_) ?_).unlimit
      · simp [read]
      · simp [parameters, List.map_eq_flatMap, List.flatMap_assoc]
  | delete table conditions =>
      exact ((translates_condition conditions).led
        [.word "DELETE", .word "FROM", .name table] rfl).unlimit
  | insert table assignments =>
      have name (assignment : Assignment) : Translates (fun _ => [.name assignment.column]) [] :=
        .fixed rfl
      have value (assignment : Assignment) :
          Translates (fun dialect => [.word (dialect.placeholder assignment.parameter.index)])
            [assignment.parameter.index] := .placeholder _
      have columns := Translates.list name assignments
      have values := Translates.list value assignments
      have all := (columns.append (values.led [.word "VALUES"] rfl)).led
        [.word "INSERT", .word "INTO", .name table] rfl
      refine (all.of_eq (fun dialect => ?_) ?_).unlimit
      · simp [read]
      · simp [parameters, List.map_eq_flatMap, List.flatMap_assoc]

end RecordMapper.Sql
