import RecordMapper.Proofs.Query.Sample
import RecordMapper.Proofs.Query.Sentences
import RecordMapper.Proofs.Sql.Placeholder

set_option autoImplicit false

/-!
Which values a statement binds. They are numbered from one in the order in which they are written,
and the placeholders of the text are those of the bindings.
-/

namespace RecordMapper

/-! ## Values -/

/-- The values that an expression binds, from left to right. A deferred expression counts as what
its producer gives at this call. -/
def Expr.literals : Expr → StateM Calls (List Value)
  | .field _ => pure []
  | .column _ => pure []
  | .literal value => pure (if value.isNull then [] else [value])
  | .binary _ left right => do
      let leftValues ← left.literals
      let rightValues ← right.literals
      pure (leftValues ++ rightValues)
  | .not operand => operand.literals
  | .deferred producer produce => do
      let call ← Calls.next producer
      (produce call).literals

def Expr.literalsAll : List Expr → StateM Calls (List Value)
  | [] => pure []
  | filter :: rest => do
      let values ← filter.literals
      let others ← literalsAll rest
      pure (values ++ others)

namespace QueryState

def selectValues (state : QueryState) : StateM Calls (List Value) := do
  let _ ← state.search
  Expr.literalsAll state.filters

/-- The values of the chosen columns, NULL where the instance has none. -/
def chosenValues (state : QueryState) : List Value :=
  match state.root? with
  | none => []
  | some root =>
      match state.columnFilter.columns root.record with
      | .error _ => []
      | .ok columns => columns.map fun column => state.values.valueOrNull column.name

def commandValues (state : QueryState) : Command → List Value
  | .update => state.chosenValues
  | .insert => state.chosenValues
  | _ => []

def changeValues (state : QueryState) (chosen : List Value) : StateM Calls (List Value) := do
  let _ ← state.filters.mapM Expr.referencedTypes
  let values ← Expr.literalsAll state.filters
  pure (chosen ++ values)

/-- The values of each statement of the command. -/
def boundValues (state : QueryState) : StateM Calls (List (List Value)) :=
  match state.command with
  | .unset => pure []
  | .select => do
      let rootValues ← state.selectValues
      let joinedValues ← state.joinedTables.mapM fun _ => state.selectValues
      pure (rootValues :: joinedValues)
  | .count => do
      let values ← state.selectValues
      pure [values]
  | command => do
      let values ← state.changeValues (state.commandValues command)
      pure [values]

end QueryState

/-! ## Numbers -/

namespace Sql

def numbered : Nat → List Value → List Parameter
  | _, [] => []
  | bound, value :: values => ⟨bound + 1, value⟩ :: numbered (bound + 1) values

@[simp] theorem numbered_length (bound : Nat) (values : List Value) :
    (numbered bound values).length = values.length := by
  induction values generalizing bound with
  | nil => rfl
  | cons value values ih => simp [numbered, ih]

theorem numbered_append (bound : Nat) (first second : List Value) :
    numbered bound (first ++ second) =
      numbered bound first ++ numbered (bound + first.length) second := by
  induction first generalizing bound with
  | nil => rfl
  | cons value first ih =>
      simp only [List.cons_append, numbered, ih, List.length_cons]
      rw [show bound + 1 + first.length = bound + (first.length + 1) by omega]

theorem numbered_values (bound : Nat) (values : List Value) :
    (numbered bound values).map (·.value) = values := by
  induction values generalizing bound with
  | nil => rfl
  | cons value values ih => simp [numbered, ih]

theorem numbered_indices (bound : Nat) (values : List Value) :
    (numbered bound values).map (·.index) = List.range' (bound + 1) values.length := by
  induction values generalizing bound with
  | nil => rfl
  | cons value values ih => simp [numbered, ih, List.range'_succ]

end Sql

theorem Instance.assignments_parameters (values : Instance) (bound : Nat)
    (columns : List Column) :
    (values.assignments bound columns).map (·.parameter) =
      Sql.numbered bound (columns.map fun column => values.valueOrNull column.name) := by
  induction columns generalizing bound with
  | nil => rfl
  | cons column columns ih => simp [Instance.assignments, Sql.numbered, ih]

/-- A run that yields values for which parameters are written, numbered on from those bound
before. -/
structure Progress.Binds (before : Progress) (values : StateM Calls (List Value))
    (parameters : List Sql.Parameter) (after : Progress) : Prop where
  parameters : parameters = Sql.numbered before.bound (values.run before.calls).1
  bound : after.bound = before.bound + (values.run before.calls).1.length
  calls : after.calls = (values.run before.calls).2

theorem Progress.binds_none (progress : Progress) : progress.Binds (pure []) [] progress :=
  ⟨rfl, rfl, rfl⟩

theorem Progress.Binds.append {before middle after : Progress}
    {first second : StateM Calls (List Value)} {firstParameters secondParameters}
    (binds : before.Binds first firstParameters middle)
    (others : middle.Binds second secondParameters after) :
    before.Binds (do
        let firstValues ← first
        let secondValues ← second
        pure (firstValues ++ secondValues))
      (firstParameters ++ secondParameters) after := by
  have run : (do
      let firstValues ← first
      let secondValues ← second
      pure (firstValues ++ secondValues)).run before.calls =
      ((first.run before.calls).1 ++ (second.run middle.calls).1, after.calls) := by
    rw [others.calls, binds.calls]
    rfl
  constructor
  · rw [run, Sql.numbered_append, binds.parameters, others.parameters, binds.bound]
  · rw [run, others.bound, binds.bound, List.length_append, Nat.add_assoc]
  · rw [run]

theorem Expr.Writes.binds {scope : Scope} {expr : Expr} {before after : Progress}
    {phrase : Sql.Phrase} (writes : Writes scope expr before phrase after) :
    before.Binds expr.literals phrase.parameters after := by
  induction writes with
  | field | column | null => exact Progress.binds_none _
  | @literal value progress notNull =>
      have run : (Expr.literal value).literals.run progress.calls = ([value], progress.calls) := by
        rw [literals, notNull]
        rfl
      constructor <;> rw [run] <;> rfl
  | isNull _ ih | isNotNull _ ih =>
      have both := ih.append (Progress.binds_none _)
      rw [List.append_nil] at both
      exact both
  | binary _ _ _ leftIH rightIH => exact leftIH.append rightIH
  | not _ ih => exact ih
  | deferred _ ih => exact ⟨ih.parameters, ih.bound, ih.calls⟩

theorem Scope.WritesAll.binds {scope : Scope} {filters : List Expr} {before after : Progress}
    {phrases : List Sql.Phrase} (writes : scope.WritesAll filters before phrases after) :
    before.Binds (Expr.literalsAll filters) (Sql.conditionParameters phrases) after := by
  induction writes with
  | nil => exact Progress.binds_none _
  | cons first _ ih => exact first.binds.append ih

namespace QueryState

variable {state : QueryState} {before after : Progress}

theorem Joins.calls {root : Table} {current : RecordType} {calls after : Calls}
    {links : List Sql.Link} (joins : state.Joins root current calls links after) :
    after = (state.search.run calls).2 := by
  obtain ⟨searched, -, -⟩ := joins
  rw [searched]

theorem Single.calls {root : Table} {calls after : Calls} (single : state.Single root calls after) :
    after = ((state.filters.mapM Expr.referencedTypes).run calls).2 := by
  obtain ⟨-, searched, -⟩ := single
  rw [searched]

theorem SelectsRoot.binds {keys : List SortKey} {limit : Option Limit} {root : Table}
    {select : Sql.Select} (selects : state.SelectsRoot keys limit root before select after) :
    before.Binds state.selectValues (Sql.conditionParameters select.conditions) after := by
  obtain ⟨calls, joins, writes⟩ := selects.body
  obtain rfl := joins.calls
  exact ⟨writes.binds.parameters, writes.binds.bound, writes.binds.calls⟩

theorem SelectsJoined.binds {keys : List SortKey} {root table : Table} {select : Sql.Select}
    (selects : state.SelectsJoined keys root table before select after) :
    before.Binds state.selectValues (Sql.conditionParameters select.conditions) after := by
  obtain ⟨own, forced, calls, returns, joins, links, writes⟩ := selects.body
  obtain rfl := joins.calls
  exact ⟨writes.binds.parameters, writes.binds.bound, writes.binds.calls⟩

theorem Single.binds {root : Table} {calls : Calls} {chosen : List Value}
    {parameters : List Sql.Parameter} (single : state.Single root before.calls calls)
    (binds : Progress.Binds ⟨calls, before.bound + chosen.length⟩
      (Expr.literalsAll state.filters) parameters after) :
    before.Binds (state.changeValues chosen) (Sql.numbered before.bound chosen ++ parameters)
      after := by
  obtain rfl := single.calls
  have run : (state.changeValues chosen).run before.calls =
      (chosen ++ ((Expr.literalsAll state.filters).run
        ((state.filters.mapM Expr.referencedTypes).run before.calls).2).1, after.calls) := by
    rw [binds.calls]
    rfl
  constructor
  · rw [run, Sql.numbered_append, binds.parameters]
  · rw [run, binds.bound, List.length_append, Nat.add_assoc]
  · rw [run]

theorem chosenValues_eq {root : Table} {columns : List Column} (tables : state.tables = [root])
    (chosen : state.columnFilter.columns root.record = .ok columns) :
    state.chosenValues = columns.map fun column => state.values.valueOrNull column.name := by
  simp [chosenValues, root?, tables, chosen]

theorem Changes.binds {command : Command} {sentence : Sql.Sentence}
    (changes : state.Changes before command sentence after) :
    before.Binds (state.changeValues (state.commandValues command)) sentence.parameters after := by
  cases changes with
  | update single isChosen writes =>
      have chosen := chosenValues_eq single.tables_eq isChosen
      rw [Sql.Sentence.parameters, Instance.assignments_parameters, ← chosen]
      apply single.binds
      rw [commandValues, chosen, List.length_map]
      exact writes.binds
  | delete single writes => exact single.binds writes.binds
  | @insert root calls columns single unfiltered isChosen =>
      have chosen := chosenValues_eq single.tables_eq isChosen
      have sameLength : columns.length = state.chosenValues.length := by
        rw [chosen, List.length_map]
      rw [Sql.Sentence.parameters, Instance.assignments_parameters, ← chosen, sameLength,
        ← List.append_nil (Sql.numbered _ _)]
      apply single.binds
      rw [unfiltered]
      exact Progress.binds_none _

end QueryState

/-! ## Statements -/

theorem Progress.Binds.run_eq {calls : Calls} {values : StateM Calls (List Value)}
    {parameters : List Sql.Parameter} {after : Progress}
    (binds : Progress.Binds ⟨calls, 0⟩ values parameters after) :
    values.run calls = (parameters.map (·.value), after.calls) := by
  rw [binds.parameters, Sql.numbered_values, binds.calls]
  rfl

def Sql.Sentence.IsNumbered (sentence : Sql.Sentence) : Prop :=
  sentence.parameters = Sql.numbered 0 (sentence.parameters.map (·.value))

theorem Progress.Binds.isNumbered {calls : Calls} {values : StateM Calls (List Value)}
    {sentence : Sql.Sentence} {after : Progress}
    (binds : Progress.Binds ⟨calls, 0⟩ values sentence.parameters after) :
    sentence.IsNumbered := by
  unfold Sql.Sentence.IsNumbered
  rw [binds.parameters, Sql.numbered_values]

namespace QueryState

variable {state : QueryState}

theorem joinedSelects_bind {keys : List SortKey} {root : Table} {tables : List Table}
    {calls after : Calls} {selects : List Sql.Select}
    (joined : Threaded (fun table before select after =>
      ∃ bound, state.SelectsJoined keys root table ⟨before, 0⟩ select ⟨after, bound⟩)
      tables calls selects after) :
    (tables.mapM fun _ => state.selectValues).run calls =
        ((selects.map Sql.Sentence.rows).map (·.parameters.map (·.value)), after) ∧
      ∀ sentence ∈ selects.map Sql.Sentence.rows, sentence.IsNumbered := by
  induction joined with
  | nil => exact ⟨rfl, by simp⟩
  | @cons table tables select selects before middle after taken _ ih =>
      obtain ⟨bound, selected⟩ := taken
      obtain ⟨others, numbered⟩ := ih
      have binds : Progress.Binds ⟨before, 0⟩ state.selectValues
          (Sql.Sentence.rows select).parameters ⟨middle, bound⟩ := selected.binds
      refine ⟨?_, List.forall_mem_cons.mpr ⟨binds.isNumbered, numbered⟩⟩
      rw [List.mapM_cons, StateT.run_bind, binds.run_eq]
      change StateT.run ((tables.mapM fun _ => state.selectValues) >>= _) middle = _
      rw [StateT.run_bind, others]
      rfl

theorem Sentences.bind {calls after : Calls} {sentences : List Sql.Sentence}
    (written : state.Sentences calls sentences after) :
    state.boundValues.run calls = (sentences.map (·.parameters.map (·.value)), after) ∧
      ∀ sentence ∈ sentences, sentence.IsNumbered := by
  cases written with
  | @select root select middle selects after command selected joined =>
      have binds : Progress.Binds ⟨calls, 0⟩ state.selectValues
          (Sql.Sentence.rows select).parameters middle := selected.binds
      obtain ⟨others, numbered⟩ := joinedSelects_bind joined
      refine ⟨?_, List.forall_mem_cons.mpr ⟨binds.isNumbered, numbered⟩⟩
      rw [boundValues, command, StateT.run_bind, binds.run_eq]
      change StateT.run ((state.joinedTables.mapM fun _ => state.selectValues) >>= _)
        middle.calls = _
      rw [StateT.run_bind, others]
      rfl
  | @count root select after command selected =>
      have binds : Progress.Binds ⟨calls, 0⟩ state.selectValues
          (Sql.Sentence.count select).parameters after := selected.binds
      refine ⟨?_, by simpa using binds.isNumbered⟩
      rw [boundValues, command, StateT.run_bind, binds.run_eq]
      rfl
  | @change sentence after changes =>
      have binds := changes.binds
      refine ⟨?_, by simpa using binds.isNumbered⟩
      cases command : state.command with
      | unset | select | count =>
          rw [command] at changes
          cases changes
      | update | delete | insert =>
          rw [command] at binds
          simp only [boundValues, command]
          rw [StateT.run_bind, binds.run_eq]
          rfl

end QueryState

namespace Generation

variable {dialect : Dialect}

theorem bindings_placeholders (parameters : List Sql.Parameter) :
    (Sql.bindings dialect parameters).map (·.placeholder) =
      Sql.parameterPlaceholders dialect parameters := by
  simp [Sql.bindings, Sql.parameterPlaceholders, Sql.Parameter.binding, Function.comp_def]

theorem bindings_values (parameters : List Sql.Parameter) :
    (Sql.bindings dialect parameters).map (·.value) = parameters.map (·.value) := by
  simp [Sql.bindings, Sql.Parameter.binding, Function.comp_def]

theorem statement_placeholders {sentence : Sql.Sentence} (numbered : sentence.IsNumbered) :
    Sql.placeholders dialect (Sql.tokens dialect (sentence.statement dialect).sql) =
        (sentence.statement dialect).bindings.map (·.placeholder) ∧
      (sentence.statement dialect).bindings.map (·.placeholder) =
        (List.range (sentence.statement dialect).bindings.length).map fun index =>
          dialect.placeholder (index + 1) := by
  refine ⟨?_, ?_⟩
  · rw [Sql.Sentence.statement, (sentence.spells dialect).tokens_eq, Sql.placeholders_sentence,
      bindings_placeholders]
  · have indices : sentence.parameters.map (·.index) =
        (List.range sentence.parameters.length).map (· + 1) := by
      rw [numbered, Sql.numbered_indices, Sql.numbered_length, List.range'_eq_map_range]
      simp [Nat.add_comm]
    calc (sentence.statement dialect).bindings.map (·.placeholder)
        = (sentence.parameters.map (·.index)).map dialect.placeholder := by
          simp [Sql.Sentence.statement, bindings_placeholders, Sql.parameterPlaceholders,
            Function.comp_def]
      _ = (List.range sentence.parameters.length).map fun index =>
            dialect.placeholder (index + 1) := by
          rw [indices, List.map_map]
          rfl
      _ = _ := by simp [Sql.Sentence.statement, Sql.bindings]

/-- In every statement that a generation emits, the placeholders are those of the bindings, numbered
from one; the bindings carry the values of the command, and none is left in the buffer. -/
theorem generate_binds {before after : Workspace (List Binding)}
    (succeeded : (generate dialect.delegate).runOn before = (.ok (), after)) :
    after.draft.buffer = [] ∧ ∃ emitted,
      after.query.statements = before.query.statements ++ emitted ∧
      (∀ statement ∈ emitted,
        Sql.placeholders dialect (Sql.tokens dialect statement.sql) =
          statement.bindings.map (·.placeholder) ∧
        statement.bindings.map (·.placeholder) =
          (List.range statement.bindings.length).map fun index =>
            dialect.placeholder (index + 1)) ∧
      before.query.boundValues.run before.draft.calls =
        (emitted.map (·.bindings.map (·.value)), after.draft.calls) := by
  obtain ⟨sentences, written, -, sameQuery, emptied⟩ := generate_sentences succeeded
  obtain ⟨values, numbered⟩ := written.bind
  refine ⟨emptied, sentences.map (·.statement dialect), ?_, ?_, ?_⟩
  · rw [sameQuery]
    rfl
  · intro statement member
    obtain ⟨sentence, isSentence, rfl⟩ := List.mem_map.mp member
    exact statement_placeholders (numbered sentence isSentence)
  · rw [values, List.map_map]
    congr 2
    funext sentence
    exact (bindings_values sentence.parameters).symm

theorem generate_binds_sample :
    ∃ after, (generate Dialect.postgres.delegate).runOn
        ⟨Sample.retitled, ⟨[⟨"$1", .text "Sanditon"⟩], .zero⟩⟩ = (.ok (), after) ∧
      after.draft.buffer = [] ∧ ∃ emitted, after.query.statements = emitted ∧
        (∀ statement ∈ emitted,
          Sql.placeholders .postgres (Sql.tokens .postgres statement.sql) =
            statement.bindings.map (·.placeholder)) ∧
        emitted.map (·.bindings.map (·.value)) =
          [[.null, .text "Persuasion", .text "Emma"]] := by
  have ran : (generate Dialect.postgres.delegate).runOn
      ⟨Sample.retitled, ⟨[⟨"$1", .text "Sanditon"⟩], .zero⟩⟩ = _ :=
    generate_of_isOk (by decide)
  obtain ⟨emptied, emitted, added, placeholders, values⟩ := generate_binds ran
  refine ⟨_, ran, emptied, emitted, added, fun statement member => (placeholders statement member).1,
    ?_⟩
  exact (congrArg Prod.fst values).symm

end Generation

end RecordMapper
