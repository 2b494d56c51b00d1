import Mathlib.Data.List.Dedup
import RecordMapper.Binding
import RecordMapper.Proofs.Sql.Condition
import RecordMapper.Proofs.Sql.Shape

set_option autoImplicit false

/-!
What the rows of a select are. Every combination of one row from each source that meets the
conditions of the joins and of WHERE gives a row; equal rows are given once, and a limit cuts what
there is in an order that is not told.
-/

namespace RecordMapper.Sql

/-- How values compare and which rows the tables have. -/
structure Dataset where
  compare : Comparison
  rows : String → List Row

namespace Dataset

variable {dataset : Dataset} {dialect : Dialect} {bindings : List Binding}

/-! ## Combinations -/

/-- An alias with a row of its table. -/
def Gives (dataset : Dataset) (source : Source) (entry : String × Row) : Prop :=
  entry.1 = source.aliasName ∧ entry.2 ∈ dataset.rows source.table

def combinations (dataset : Dataset) : List Source → List Environment
  | [] => [[]]
  | source :: others =>
      (dataset.rows source.table).flatMap fun row =>
        (dataset.combinations others).map ((source.aliasName, row) :: ·)

theorem mem_combinations {sources : List Source} {environment : Environment} :
    environment ∈ dataset.combinations sources ↔
      List.Forall₂ dataset.Gives sources environment := by
  induction sources generalizing environment with
  | nil => simp [combinations]
  | cons source others ih =>
      simp only [combinations, List.mem_flatMap, List.mem_map, List.forall₂_cons_left_iff, ih]
      constructor
      · rintro ⟨row, isRow, rest, gives, rfl⟩
        exact ⟨_, rest, ⟨rfl, isRow⟩, gives, rfl⟩
      · rintro ⟨⟨aliasName, row⟩, rest, ⟨isAlias, isRow⟩, gives, rfl⟩
        cases isAlias
        exact ⟨row, isRow, rest, gives, rfl⟩

def admitted (dataset : Dataset) (tokens : List Token) (bindings : List Binding) :
    List Environment :=
  (dataset.combinations (introductions tokens)).filter fun environment =>
    (requirements tokens).all (holds dataset.compare bindings environment)

/-! ## Rows -/

/-- The row that a combination gives: that of the alias, and the projected key beside it. -/
def output? (tokens : List Token) (environment : Environment) : Option Row :=
  match (outputAlias? tokens).bind environment.row?, projection? tokens with
  | none, _ => none
  | some row, none => some row
  | some row, some (name, column) =>
      some ⟨row.columns ++ [column], row.values ++ [environment.value name]⟩

def outputs (dataset : Dataset) (tokens : List Token) (bindings : List Binding) : List Row :=
  (dataset.admitted tokens bindings).filterMap (output? tokens)

/-- The number of a limit or an offset. What is no number bounds nothing. -/
def bound? (keyword : String) (tokens : List Token) : Option Nat :=
  match clauses keyword tokens with
  | [.word digits] :: _ =>
      if digits.toList.all Char.isDigit then some (Nat.ofDigitChars 10 digits.toList 0) else none
  | _ => none

def window (tokens : List Token) (rows : List Row) : List Row :=
  let remaining := rows.drop ((bound? "OFFSET" tokens).getD 0)
  match bound? "LIMIT" tokens with
  | none => remaining
  | some count => remaining.take count

/-- The rows of a select, in some order. -/
def Evaluates (dataset : Dataset) (tokens : List Token) (bindings : List Binding)
    (rows : List Row) : Prop :=
  ∃ distinct : List Row, distinct.Nodup ∧
    (∀ row, row ∈ distinct ↔ row ∈ dataset.outputs tokens bindings) ∧
    rows = window tokens distinct

/-! ## The rows of a written select -/

theorem window_select (select : Select) (rows : List Row) :
    window (select.read dialect) rows = window (limitRead dialect select.limit) rows := by
  unfold window bound?
  rw [clauses_limit (.inl rfl), clauses_limit (.inr rfl)]

/-- A combination that meets the conditions of joins and of WHERE. -/
structure Admits (dataset : Dataset) (dialect : Dialect) (bindings : List Binding)
    (links : List Link) (conditions : List Phrase) (environment : Environment) : Prop where
  joined : ∀ link ∈ links,
    dataset.compare (environment.value link.left) (environment.value link.right) = some .eq
  filtered : ∀ clause ∈ conditionClauses dialect conditions,
    holds dataset.compare bindings environment clause = true

theorem holds_condition {compare : Comparison} {environment : Environment} (link : Link) :
    holds compare bindings environment link.condition = true ↔
      compare (environment.value link.left) (environment.value link.right) = some .eq := by
  unfold holds Link.condition
  rw [grouping_link]
  simp only [Phrase.value, Comparison.apply]
  cases compare (environment.value link.left) (environment.value link.right) with
  | none => decide
  | some ordering => cases ordering <;> decide

theorem mem_admitted {select : Select} {environment : Environment} :
    environment ∈ dataset.admitted (select.read dialect) bindings ↔
      List.Forall₂ dataset.Gives select.sources environment ∧
        dataset.Admits dialect bindings select.links select.conditions environment := by
  unfold admitted
  rw [introductions_read, requirements_select, List.mem_filter, mem_combinations, List.all_eq_true]
  refine and_congr_right fun _ => ?_
  unfold Select.requirements
  rw [List.forall_mem_append, List.forall_mem_map]
  constructor
  · rintro ⟨joined, filtered⟩
    exact ⟨fun link member => (holds_condition link).mp (joined link member), filtered⟩
  · rintro ⟨joined, filtered⟩
    exact ⟨fun link member => (holds_condition link).mpr (joined link member), filtered⟩

/-- Without a projected key, the rows are those of the alias for which the other sources have rows
that meet the conditions. -/
theorem mem_outputs {select : Select} (direct : select.head.key = none) {row : Row} :
    row ∈ dataset.outputs (select.read dialect) bindings ↔
      row ∈ dataset.rows select.head.source.table ∧
        ∃ others, List.Forall₂ dataset.Gives (select.links.map (·.source)) others ∧
          dataset.Admits dialect bindings select.links select.conditions
            ((select.head.source.aliasName, row) :: others) := by
  have gives (entry : String × Row) (others : Environment)
      (isAlias : entry.1 = select.head.source.aliasName) :
      output? (select.read dialect) (entry :: others) = some entry.2 := by
    have found : Environment.row? (entry :: others) select.head.source.aliasName =
        some entry.2 := by
      simp [Environment.row?, isAlias]
    unfold output?
    rw [outputAlias_select, projection_select, Head.projection?, direct]
    simp [found]
  unfold outputs
  rw [List.mem_filterMap]
  constructor
  · rintro ⟨environment, isAdmitted, given⟩
    obtain ⟨chosen, admits⟩ := mem_admitted.mp isAdmitted
    obtain ⟨⟨aliasName, first⟩, others, ⟨isAlias, isRow⟩, rest, rfl⟩ :=
      List.forall₂_cons_left_iff.mp chosen
    rw [gives _ _ isAlias] at given
    cases isAlias
    cases given
    exact ⟨isRow, others, rest, admits⟩
  · rintro ⟨isRow, others, rest, admits⟩
    exact ⟨_, mem_admitted.mpr ⟨.cons ⟨rfl, isRow⟩ rest, admits⟩, gives _ _ rfl⟩

theorem Evaluates.subset {tokens : List Token} {rows : List Row}
    (evaluates : dataset.Evaluates tokens bindings rows) :
    rows ⊆ dataset.outputs tokens bindings := by
  obtain ⟨distinct, -, members, rfl⟩ := evaluates
  intro row member
  rw [← members]
  unfold window at member
  split at member
  · exact List.mem_of_mem_drop member
  · exact List.mem_of_mem_drop (List.mem_of_mem_take member)

/-- Without a limit, every row is given once. -/
theorem Evaluates.unlimited {select : Select} {rows : List Row}
    (evaluates : dataset.Evaluates (select.read dialect) bindings rows)
    (unlimited : select.limit = none) :
    rows.Nodup ∧ ∀ row, row ∈ rows ↔ row ∈ dataset.outputs (select.read dialect) bindings := by
  obtain ⟨distinct, nodup, members, rfl⟩ := evaluates
  rw [window_select, unlimited]
  exact ⟨nodup, members⟩

/-! ## An engine -/

/-- The rows of a select in the order in which they are found. -/
def selected (dataset : Dataset) (tokens : List Token) (bindings : List Binding) : List Row :=
  window tokens (dataset.outputs tokens bindings).dedup

theorem evaluates_selected (dataset : Dataset) (tokens : List Token) (bindings : List Binding) :
    dataset.Evaluates tokens bindings (dataset.selected tokens bindings) :=
  ⟨_, List.nodup_dedup _, fun _ => List.mem_dedup, rfl⟩

/-- An order changes neither which rows there are nor how many. -/
theorem selected_unordered (dataset : Dataset) (select : Select) (bindings : List Binding) :
    dataset.selected (Select.read dialect { select with order := [] }) bindings =
      dataset.selected (select.read dialect) bindings := by
  have sameOutput : output? (Select.read dialect { select with order := [] }) =
      output? (select.read dialect) := by
    funext environment
    unfold output?
    rw [outputAlias_select, outputAlias_select, projection_select, projection_select]
  unfold selected outputs admitted
  rw [window_select, window_select, introductions_read, introductions_read, requirements_select,
    requirements_select, sameOutput]
  rfl

/-- The select whose rows are counted. -/
def counted? : List Token → Option (List Token)
  | .word "SELECT" :: .word "COUNT" :: .mark '(' :: .mark '*' :: .mark ')' :: .word "AS" ::
      .word "count" :: .word "FROM" :: .mark '(' :: rest => some (rest.take (rest.length - 3))
  | _ => none

def tooMany : Error :=
  .query ⟨.misuse, "more rows than can be counted", none, none⟩

def countable (rows : List Row) : Except Error (List Row) :=
  if Value.signedBound ≤ rows.length then .error tooMany else .ok rows

theorem countable_ok {rows counted : List Row} (isOk : countable rows = .ok counted) :
    counted = rows ∧ rows.length < Value.signedBound := by
  unfold countable at isOk
  split at isOk
  · cases isOk
  · rename_i few
    cases isOk
    exact ⟨rfl, Nat.lt_of_not_le few⟩

def countRow (number : Nat) : Row :=
  ⟨["count"], [.bigInt (.ofNat number)]⟩

/-- What an engine answers that evaluates selects and counts of selects. -/
def answer (dataset : Dataset) (dialect : Dialect) (statement : Statement) :
    Except Error (List Row) :=
  let tokens := tokens dialect statement.sql
  match counted? tokens with
  | none => countable (dataset.selected tokens statement.bindings)
  | some inner =>
      (countable (dataset.selected inner statement.bindings)).map fun rows =>
        [countRow rows.length]

theorem answer_select (dataset : Dataset) (select : Select) (bindings : List Binding) :
    dataset.answer dialect ⟨select.text dialect, bindings⟩ =
      countable (dataset.selected (select.read dialect) bindings) := by
  have uncounted : counted? (select.read dialect) = none := by
    rcases select with ⟨⟨source, key⟩, links, conditions, order, limit⟩
    rfl
  unfold answer
  simp only [(select.spells dialect).tokens_eq, uncounted]

theorem answer_count (dataset : Dataset) (select : Select) (bindings : List Binding) :
    dataset.answer dialect ⟨Sentence.text dialect (.count select), bindings⟩ =
      (countable (dataset.selected (select.read dialect) bindings)).map fun rows =>
        [countRow rows.length] := by
  have inner : counted? (Sentence.read dialect (.count select)) =
      some (select.read dialect) := by
    change some (List.take _ (select.read dialect ++ _)) = _
    simp
  unfold answer
  simp only [((Sentence.count select).spells dialect).tokens_eq, inner]

theorem answer_evaluates {select : Select} {rows : List Row}
    (answered : dataset.answer dialect ⟨select.text dialect, bindings⟩ = .ok rows) :
    dataset.Evaluates (tokens dialect (select.text dialect)) bindings rows := by
  rw [answer_select] at answered
  obtain ⟨rfl, -⟩ := countable_ok answered
  rw [(select.spells dialect).tokens_eq]
  exact dataset.evaluates_selected _ _

end Dataset

end RecordMapper.Sql
