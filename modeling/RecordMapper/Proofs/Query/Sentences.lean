import RecordMapper.Proofs.Query.Changing
import RecordMapper.Proofs.Query.Generating

set_option autoImplicit false

/-!
What a successful generation emits for a dialect: sentences, each as the statement of its text with
the bindings of its own parameters.
-/

namespace RecordMapper

def QueryState.keys (state : QueryState) : List SortKey :=
  state.sorts.map (·.key)

/-- The sentences of a state's command, one for each statement. -/
inductive QueryState.Sentences (state : QueryState) (calls : Calls) :
    List Sql.Sentence → Calls → Prop where
  | select {root : Table} {select : Sql.Select} {middle : Progress} {selects : List Sql.Select}
      {after : Calls} :
      state.command = .select →
      state.SelectsRoot state.keys state.limit root ⟨calls, 0⟩ select middle →
      Threaded (fun table before select after =>
        ∃ bound, state.SelectsJoined state.keys root table ⟨before, 0⟩ select ⟨after, bound⟩)
        state.joinedTables middle.calls selects after →
      Sentences state calls (.rows select :: selects.map .rows) after
  | count {root : Table} {select : Sql.Select} {after : Progress} :
      state.command = .count →
      state.SelectsRoot state.keys state.limit root ⟨calls, 0⟩ select after →
      Sentences state calls [.count select] after.calls
  | change {sentence : Sql.Sentence} {after : Progress} :
      state.Changes ⟨calls, 0⟩ state.command sentence after →
      Sentences state calls [sentence] after.calls

namespace Generation

variable {dialect : Dialect} {state : QueryState} {calls : Calls}

theorem Emits.sentence {rendering : Rendering (List Binding) String} {statement : Statement}
    {after : Draft (List Binding)} (writes : Sql.Sentence → Progress → Prop)
    (render_ok : ∀ text rendered, rendering.runOn ⟨[], calls⟩ = (.ok text, rendered) →
      ∃ sentence, writes sentence rendered.progress ∧ text = sentence.text dialect ∧
        rendered.buffer = [] ++ Sql.bindings dialect sentence.parameters)
    (emits : Emits dialect.delegate rendering ⟨[], calls⟩ statement after) :
    ∃ sentence progress, writes sentence progress ∧ statement = sentence.statement dialect ∧
      after = ⟨[], progress.calls⟩ := by
  obtain ⟨ran, taken, sameCalls⟩ := emits
  rename_i rendered
  obtain ⟨sentence, written, sameText, bound⟩ := render_ok _ _ ran
  obtain ⟨sameBindings, emptied⟩ := Prod.mk.inj taken
  refine ⟨sentence, rendered.progress, written, ?_, ?_⟩
  · rcases statement with ⟨sql, bindings⟩
    rw [Sql.Sentence.statement, ← sameText]
    congr 1
    exact sameBindings.symm.trans bound
  · rcases after with ⟨buffer, afterCalls⟩
    rw [show buffer = [] from emptied.symm, show afterCalls = rendered.calls from sameCalls]
    rfl

/-- A rendering that writes a select is emitted as the sentence in which the select stands. -/
theorem Emits.selected {rendering : Rendering (List Binding) String} {statement : Statement}
    {after : Draft (List Binding)} (sentence : Sql.Select → Sql.Sentence)
    (selects : Table → Sql.Select → Progress → Prop)
    (render_ok : ∀ text rendered, rendering.runOn ⟨[], calls⟩ = (.ok text, rendered) →
      ∃ root select, selects root select rendered.progress ∧
        text = (sentence select).text dialect ∧
        rendered.buffer = [] ++ Sql.bindings dialect (sentence select).parameters)
    (emits : Emits dialect.delegate rendering ⟨[], calls⟩ statement after) :
    ∃ root select progress, selects root select progress ∧
      statement = (sentence select).statement dialect ∧ after = ⟨[], progress.calls⟩ := by
  have written := Emits.sentence (fun written progress => ∃ root select,
    written = sentence select ∧ selects root select progress) ?_ emits
  · obtain ⟨_, progress, ⟨root, select, rfl, isSelect⟩, same, ended⟩ := written
    exact ⟨root, select, progress, isSelect, same, ended⟩
  · intro text rendered ran
    obtain ⟨root, select, isSelect, rfl, bound⟩ := render_ok text rendered ran
    exact ⟨sentence select, ⟨root, select, rfl, isSelect⟩, rfl, bound⟩

theorem countSelect_ok {keys : List SortKey} {limit : Option Limit} {text : String}
    {draft after : Draft (List Binding)}
    (ran : (countSelect dialect.delegate keys limit state).runOn draft = (.ok text, after)) :
    ∃ root select, state.SelectsRoot keys limit root draft.progress select after.progress ∧
      text = (Sql.Sentence.count select).text dialect ∧
      after.buffer =
        draft.buffer ++ Sql.bindings dialect (Sql.Sentence.count select).parameters := by
  unfold countSelect at ran
  obtain ⟨_, _, selected, finished⟩ := Action.bind_ok ran
  obtain ⟨root, select, selects, rfl, bound⟩ := rootSelect_ok selected
  obtain ⟨rfl, rfl⟩ := Action.pure_ok finished
  exact ⟨root, select, selects, rfl, bound⟩

theorem joinedSelects_sentences {keys : List SortKey} {root : Table}
    (first : state.root? = some root) {tables : List Table} {statements : List Statement}
    {draft after : Draft (List Binding)} (empty : draft.buffer = [])
    (emitted : Threaded (Emits dialect.delegate)
      (tables.map (joinedSelect dialect.delegate keys · state)) draft statements after) :
    ∃ selects, Threaded (fun table before select after => ∃ bound,
        state.SelectsJoined keys root table ⟨before, 0⟩ select ⟨after, bound⟩)
        tables draft.calls selects after.calls ∧
      statements = (selects.map Sql.Sentence.rows).map (·.statement dialect) ∧
      after.buffer = [] := by
  induction tables generalizing draft statements with
  | nil =>
      cases emitted
      exact ⟨[], .nil, rfl, empty⟩
  | cons table tables ih =>
      cases emitted with
      | @cons _ _ statement statements _ middle _ emits others =>
          rcases draft with ⟨buffer, calls⟩
          obtain rfl : buffer = [] := empty
          obtain ⟨found, select, progress, selects, rfl, rfl⟩ := Emits.selected .rows
            (fun root => state.SelectsJoined keys root table ⟨calls, 0⟩)
            (fun _ _ ran => joinedSelect_ok ran) emits
          obtain rfl : found = root := Option.some.inj (selects.first.symm.trans first)
          obtain ⟨rest, restSelects, rfl, ended⟩ := ih rfl others
          exact ⟨select :: rest, .cons ⟨progress.bound, selects⟩ restSelects, rfl, ended⟩

theorem change_sentences {rendering : Rendering (List Binding) String}
    {statements : List Statement} {after : Draft (List Binding)}
    (render_ok : ∀ text rendered, rendering.runOn ⟨[], calls⟩ = (.ok text, rendered) →
      ∃ sentence, state.Changes ⟨calls, 0⟩ state.command sentence rendered.progress ∧
        text = sentence.text dialect ∧
        rendered.buffer = [] ++ Sql.bindings dialect sentence.parameters)
    (emitted : Threaded (Emits dialect.delegate) [rendering] ⟨[], calls⟩ statements after) :
    ∃ sentences, state.Sentences calls sentences after.calls ∧
      statements = sentences.map (·.statement dialect) ∧ after.buffer = [] := by
  cases emitted with
  | cons emits none =>
      cases none
      obtain ⟨sentence, progress, changes, rfl, rfl⟩ := Emits.sentence _ render_ok emits
      exact ⟨[sentence], .change changes, rfl, rfl⟩

theorem renderings_sentences {statements : List Statement} {after : Draft (List Binding)}
    (isSet : state.command ≠ .unset)
    (emitted : Threaded (Emits dialect.delegate) (renderings dialect.delegate state)
      ⟨[], calls⟩ statements after) :
    ∃ sentences, state.Sentences calls sentences after.calls ∧
      statements = sentences.map (·.statement dialect) ∧ after.buffer = [] := by
  unfold renderings at emitted
  cases command : state.command with
  | unset => exact absurd command isSet
  | select =>
      simp only [command] at emitted
      cases emitted with
      | cons emits others =>
          obtain ⟨root, select, progress, selects, rfl, rfl⟩ := Emits.selected .rows
            (fun root => state.SelectsRoot state.keys state.limit root ⟨calls, 0⟩)
            (fun _ _ ran => rootSelect_ok ran) emits
          obtain ⟨joined, joinedSelects, rfl, ended⟩ :=
            joinedSelects_sentences selects.first rfl others
          exact ⟨.rows select :: joined.map .rows, .select command selects joinedSelects, rfl,
            ended⟩
  | count =>
      simp only [command] at emitted
      cases emitted with
      | cons emits none =>
          cases none
          obtain ⟨root, select, progress, selects, rfl, rfl⟩ := Emits.selected .count
            (fun root => state.SelectsRoot state.keys state.limit root ⟨calls, 0⟩)
            (fun _ _ ran => countSelect_ok ran) emits
          exact ⟨[.count select], .count command selects, rfl, rfl⟩
  | update =>
      simp only [command] at emitted
      refine change_sentences (fun text rendered ran => ?_) emitted
      rw [command]
      exact updateStatement_ok ran
  | delete =>
      simp only [command] at emitted
      refine change_sentences (fun text rendered ran => ?_) emitted
      rw [command]
      exact deleteStatement_ok ran
  | insert =>
      simp only [command] at emitted
      refine change_sentences (fun text rendered ran => ?_) emitted
      rw [command]
      exact insertStatement_ok ran

/-- A successful generation emits the sentences of its command and nothing else, whatever was in
the buffer. -/
theorem generate_sentences {before after : Workspace (List Binding)}
    (succeeded : (generate dialect.delegate).runOn before = (.ok (), after)) :
    ∃ sentences, before.query.Sentences before.draft.calls sentences after.draft.calls ∧
      SortsUsed before.query ∧
      after.query = generated before.query (sentences.map (·.statement dialect)) ∧
      after.draft.buffer = [] := by
  obtain ⟨statements, made⟩ := generate_ok succeeded
  obtain ⟨sentences, written, rfl, emptied⟩ := renderings_sentences made.command made.emitted
  exact ⟨sentences, written, made.sorts, made.query, emptied⟩

end Generation

end RecordMapper
