import RecordMapper.Proofs.Query.Calling
import RecordMapper.Proofs.Query.Stages

set_option autoImplicit false

/-!
How often a generation calls a producer. Its statements search and render one after another, and
each the same number of times, so that a statement's calls follow from how many precede it.
-/

namespace RecordMapper

/-! ## Commands -/

namespace QueryState

/-- How often each statement of the command searches the filters. -/
def searches (state : QueryState) : Nat :=
  match state.command with
  | .select => state.joinSearches
  | .count => state.joinSearches
  | .update => 1
  | .delete => 1
  | .insert => 1
  | .unset => 0

/-- How often the command calls the producer of a deferred expression that the filters have once. -/
inductive Productions (state : QueryState) : Nat → Prop where
  | alone :
      state.command = .select ∨ state.command = .count → state.tables.length < 2 →
      Productions state 1
  | joined :
      state.command = .select → 2 ≤ state.tables.length →
      Productions state (2 * (1 + state.joinedTables.length))
  | counted : state.command = .count → 2 ≤ state.tables.length → Productions state 2
  | changed : state.command = .update ∨ state.command = .delete → Productions state 2

end QueryState

namespace Generation

variable {Buffer : Type} {delegate : Delegate Buffer} {state : QueryState} {producer : ProducerId}
  {produce : Nat → Expr} {searches : Nat}

theorem rendering_paced (once : Expr.OnceAmong producer produce state.filters)
    {rendering : Rendering Buffer String} (member : rendering ∈ renderings delegate state)
    {before after : Draft Buffer} {sql : String}
    (ran : rendering.runOn before = (.ok sql, after)) :
    Paced delegate state producer state.searches before.calls sql after.calls := by
  unfold renderings at member
  unfold QueryState.searches
  cases command : state.command with
  | unset =>
      rw [command] at member
      cases member
  | select =>
      rw [command] at member
      rcases List.mem_cons.mp member with rfl | joined
      · exact rootSelect_paced once ran
      · obtain ⟨table, -, rfl⟩ := List.mem_map.mp joined
        exact joinedSelect_paced once ran
  | count =>
      rw [command] at member
      obtain rfl := List.mem_singleton.mp member
      exact countSelect_paced once ran
  | update =>
      rw [command] at member
      obtain rfl := List.mem_singleton.mp member
      exact updateStatement_paced once ran
  | delete =>
      rw [command] at member
      obtain rfl := List.mem_singleton.mp member
      exact deleteStatement_paced once ran
  | insert =>
      rw [command] at member
      obtain rfl := List.mem_singleton.mp member
      rw [insertStatement_unfiltered ran] at once
      cases once

/-- Statements that are paced alike are staged at even distances. -/
theorem threaded_staged {renderings : List (Rendering Buffer String)}
    (paced : ∀ rendering ∈ renderings, ∀ {before after : Draft Buffer} {sql : String},
      rendering.runOn before = (.ok sql, after) →
      Paced delegate state producer searches before.calls sql after.calls)
    {before after : Draft Buffer} {statements : List Statement}
    (emitted : Threaded (Emits delegate) renderings before statements after) :
    after.calls.count producer =
        before.calls.count producer + statements.length * (searches + 1) ∧
      ∀ index statement, statements[index]? = some statement → ∃ opened closed,
        Staged delegate state producer
          (before.calls.count producer + index * (searches + 1))
          (before.calls.count producer + index * (searches + 1) + searches) opened statement.sql
          closed := by
  induction emitted with
  | nil => exact ⟨by simp, nofun⟩
  | @cons rendering renderings statement statements before middle after taken _ ih =>
      obtain ⟨first, others⟩ := List.forall_mem_cons.mp paced
      obtain ⟨ran, -, sameCalls⟩ := taken
      obtain ⟨staged, called⟩ := first ran
      rw [← sameCalls] at called
      obtain ⟨counted, stagedOthers⟩ := ih others
      have further (count : Nat) : middle.calls.count producer + count * (searches + 1) =
          before.calls.count producer + (count + 1) * (searches + 1) := by
        rw [called, Nat.succ_mul]
        omega
      constructor
      · rw [counted, List.length_cons, further]
      · intro index other found
        cases index with
        | zero =>
            cases found
            rw [Nat.zero_mul, Nat.add_zero]
            exact ⟨_, _, staged⟩
        | succ index =>
            rw [← further]
            exact stagedOthers index other found

theorem produces_of_renderings (rooted : state.tables.length < 2 → state.joinedTables = [])
    (set : state.command ≠ .unset) (notInsert : state.command ≠ .insert) :
    state.Productions ((renderings delegate state).length * (state.searches + 1)) := by
  unfold renderings QueryState.searches QueryState.joinSearches
  cases command : state.command with
  | unset => exact absurd command set
  | insert => exact absurd command notInsert
  | update => exact .changed (.inl command)
  | delete => exact .changed (.inr command)
  | select =>
      by_cases several : 2 ≤ state.tables.length
      · rw [if_pos several, List.length_cons, List.length_map, Nat.add_comm _ 1, Nat.mul_comm]
        exact .joined command several
      · rw [if_neg several, rooted (Nat.lt_of_not_le several)]
        exact .alone (.inl command) (Nat.lt_of_not_le several)
  | count =>
      by_cases several : 2 ≤ state.tables.length
      · rw [if_pos several]
        exact .counted command several
      · rw [if_neg several]
        exact .alone (.inr command) (Nat.lt_of_not_le several)

end Generation

/-! ## Values -/

namespace QueryState

variable {state : QueryState} {producer : ProducerId} {produce : Nat → Expr} {searches : Nat}

/-- The values of a statement if the producer gives at every call what it gives at this one: those
of the command, then those of the filters. -/
def ValuesAt (state : QueryState) (producer : ProducerId) (call : Nat) (values : List Value) :
    Prop :=
  ∃ calls : Calls, calls.count producer = call ∧
    values = state.commandValues state.command ++
      ((Expr.literalsAll (state.atCall producer call).filters).run calls).1

/-- A run that calls the producer a number of times, then once more for the values. -/
def ValuedAfter (state : QueryState) (producer : ProducerId) (searches : Nat)
    (run : StateM Calls (List Value)) : Prop :=
  ∀ calls : Calls,
    state.ValuesAt producer (calls.count producer + searches) (run.run calls).1 ∧
      (run.run calls).2.count producer = calls.count producer + (searches + 1)

/-- A run for the values of statements, each after as many calls. -/
def ValuedEach (state : QueryState) (producer : ProducerId) (searches : Nat)
    (run : StateM Calls (List (List Value))) : Prop :=
  ∀ calls : Calls, ∀ index values, (run.run calls).1[index]? = some values →
    state.ValuesAt producer (calls.count producer + index * (searches + 1) + searches) values

namespace ValuedEach

theorem none : state.ValuedEach producer searches (pure []) :=
  fun _ _ _ found => nomatch found

theorem cons {first : StateM Calls (List Value)} {others : StateM Calls (List (List Value))}
    (valued : state.ValuedAfter producer searches first)
    (valuedOthers : state.ValuedEach producer searches others) :
    state.ValuedEach producer searches (do
      let values ← first
      let rest ← others
      pure (values :: rest)) := by
  intro calls index values found
  obtain ⟨valuesAt, called⟩ := valued calls
  cases index with
  | zero =>
      obtain rfl := Option.some.inj found
      rw [Nat.zero_mul, Nat.add_zero]
      exact valuesAt
  | succ index =>
      have further := valuedOthers (first.run calls).2 index values found
      rw [called] at further
      rwa [Nat.succ_mul, Nat.add_comm (index * _), ← Nat.add_assoc]

theorem mapM {Item : Type} {run : StateM Calls (List Value)}
    (valued : state.ValuedAfter producer searches run) (items : List Item) :
    state.ValuedEach producer searches (items.mapM fun _ => run) := by
  induction items with
  | nil =>
      rw [List.mapM_nil]
      exact none
  | cons item items ih =>
      rw [List.mapM_cons]
      exact cons valued ih

end ValuedEach

theorem search_takes (once : Expr.OnceAmong producer produce state.filters) :
    Calls.Takes producer state.joinSearches state.search
      fun call => (state.atCall producer call).search := by
  obtain ⟨condition, isCondition, onceCondition, isFixed⟩ := condition_once once
  unfold search joinSearches
  simp only [isCondition, isFixed, atCall_tables]
  match state.tables with
  | [] | [_] => exact .pure _
  | _ :: _ :: _ => exact onceCondition.walk Expr.referencedTypes_walks

theorem searched_valued (once : Expr.OnceAmong producer produce state.filters) {Result : Type}
    {search : StateM Calls Result} {fixed : Nat → StateM Calls Result}
    (takes : Calls.Takes producer searches search fixed) :
    state.ValuedAfter producer searches (do
      let _ ← search
      let values ← Expr.literalsAll state.filters
      pure (state.commandValues state.command ++ values)) := by
  intro calls
  have searched := (takes calls).2
  obtain ⟨same, called⟩ := once.literalsAll (search.run calls).2
  rw [searched] at same called
  refine ⟨⟨(search.run calls).2, searched, ?_⟩, called⟩
  exact congrArg (fun ran => state.commandValues state.command ++ ran.1) same

theorem selectValues_valued (once : Expr.OnceAmong producer produce state.filters)
    (unchosen : state.commandValues state.command = []) :
    state.ValuedAfter producer state.joinSearches state.selectValues := by
  have valued := searched_valued once (search_takes once)
  simp only [unchosen, List.nil_append, bind_pure] at valued
  exact valued

theorem changeValues_valued (once : Expr.OnceAmong producer produce state.filters)
    {command : Command} (isCommand : state.command = command) :
    state.ValuedAfter producer 1 (state.changeValues (state.commandValues command)) := by
  rw [← isCommand]
  exact searched_valued once (once.walk Expr.referencedTypes_walks)

theorem boundValues_valued (once : Expr.OnceAmong producer produce state.filters) :
    state.ValuedEach producer state.searches state.boundValues := by
  unfold boundValues searches
  cases command : state.command with
  | unset => exact .none
  | select =>
      have valued := selectValues_valued once (command ▸ rfl)
      exact .cons valued (.mapM valued _)
  | count =>
      have valued := selectValues_valued once (command ▸ rfl)
      exact .cons valued .none
  | update => exact .cons (changeValues_valued once command) .none
  | delete => exact .cons (changeValues_valued once command) .none
  | insert => exact .cons (changeValues_valued once command) .none

end QueryState

/-! ## Generations -/

/-- The root is not joined, so that it alone leaves no joined tables. -/
theorem QueryState.Holds.joinedTables_of_alone {state : QueryState} {query : Query}
    {command : Command} (holds : state.Holds query command) (alone : state.tables.length < 2) :
    state.joinedTables = [] := by
  have root := holds.root
  unfold QueryState.root? at root
  unfold QueryState.joinedTables
  match tables : state.tables with
  | [] => rfl
  | [table] =>
      rw [tables] at root
      obtain rfl := Option.some.inj root
      rfl
  | _ :: _ :: _ =>
      rw [tables] at alone
      exact absurd alone (by simp)

namespace Generation

theorem not_insert_of_filters {Buffer : Type} {delegate : Delegate Buffer}
    {before after : Workspace Buffer} {statements : List Statement}
    (made : Generated delegate before after statements) (filtered : before.query.filters ≠ []) :
    before.query.command ≠ .insert := by
  intro command
  have isOne : renderings delegate before.query = [insertStatement delegate before.query] := by
    rw [renderings, command]
  have emitted := made.emitted
  rw [isOne] at emitted
  cases emitted with
  | cons taken _ =>
      obtain ⟨ran, -, -⟩ := taken
      exact filtered (insertStatement_unfiltered ran)

/-- On the tables of a builder, each statement searches its filters with one production of a
deferred expression and renders the next. With one table, a select or a count has nothing to search
for, and renders the first. In any dialect a statement binds the values of the production that it
renders. -/
theorem generate_produces {query : Query} {command : Command} {built state : QueryState}
    (builds : query.toState command = .ok built) (sameTables : state.tables = built.tables)
    {producer : ProducerId} {produce : Nat → Expr}
    (once : Expr.OnceAmong producer produce state.filters) :
    (∀ {Buffer : Type} {delegate : Delegate Buffer} {draft : Draft Buffer}
        {after : Workspace Buffer},
      (generate delegate).runOn ⟨state, draft⟩ = (.ok (), after) →
      ∃ emitted number, after.query.statements = state.statements ++ emitted ∧
        state.Productions number ∧ number = emitted.length * (state.searches + 1) ∧
        after.draft.calls.count producer = draft.calls.count producer + number ∧
        ∀ index statement, emitted[index]? = some statement → ∃ opened closed,
          Staged delegate state producer
            (draft.calls.count producer + index * (state.searches + 1))
            (draft.calls.count producer + index * (state.searches + 1) + state.searches)
            opened statement.sql closed) ∧
    ∀ {dialect : Dialect} {draft : Draft (List Binding)} {after : Workspace (List Binding)},
      (generate dialect.delegate).runOn ⟨state, draft⟩ = (.ok (), after) →
      ∃ emitted, after.query.statements = state.statements ++ emitted ∧
        ∀ index statement, emitted[index]? = some statement →
          state.ValuesAt producer
            (draft.calls.count producer + index * (state.searches + 1) + state.searches)
            (statement.bindings.map (·.value)) := by
  have rooted : state.tables.length < 2 → state.joinedTables = [] := by
    intro alone
    unfold QueryState.joinedTables
    rw [sameTables] at alone ⊢
    exact (Query.toState_holds builds).joinedTables_of_alone alone
  constructor
  · intro Buffer delegate draft after ran
    obtain ⟨emitted, made⟩ := generate_ok ran
    obtain ⟨counted, staged⟩ := threaded_staged
      (fun rendering member => rendering_paced once member) made.emitted
    have filtered : state.filters ≠ [] := by
      intro none
      rw [none] at once
      cases once
    refine ⟨emitted, _, ?_, ?_, rfl, counted, staged⟩
    · rw [made.query]
      rfl
    · rw [made.emitted.length_eq]
      exact produces_of_renderings rooted made.command (not_insert_of_filters made filtered)
  · intro dialect draft after ran
    obtain ⟨-, emitted, added, -, values⟩ := generate_binds ran
    refine ⟨emitted, added, ?_⟩
    intro index statement found
    refine QueryState.boundValues_valued once draft.calls index _ ?_
    rw [values, List.getElem?_map, found]
    rfl

/-- Genres of a label that is the number of the call. -/
def labelOfCall (call : Nat) : Expr :=
  .binary .eq (.field ⟨Sample.genre, "label"⟩) (.literal (.bigInt (.ofNat call)))

theorem generate_produces_sample :
    let state := { Sample.state .select with filters := [.deferred 0 labelOfCall] }
    Sample.query.toState .select = .ok (Sample.state .select) ∧
      Expr.OnceAmong 0 labelOfCall state.filters ∧
      ∃ after emitted, (generate Dialect.sqlite.delegate).runOn ⟨state, ⟨[], .zero⟩⟩ =
          (.ok (), after) ∧
        after.query.statements = emitted ∧ after.draft.calls.count 0 = 6 ∧
        ∀ (index : Nat) (statement : Statement), emitted[index]? = some statement →
          statement.bindings.map (·.value) = [.bigInt (.ofNat (2 * index + 1))] := by
  intro state
  have once : Expr.OnceAmong 0 labelOfCall state.filters :=
    .head (.here fun call => .binary (.field _) (.literal _)) nofun
  have ran : (generate Dialect.sqlite.delegate).runOn ⟨state, ⟨[], .zero⟩⟩ = _ :=
    generate_of_isOk (by decide +kernel)
  have builds : Sample.query.toState .select = .ok (Sample.state .select) := rfl
  have sameTables : state.tables = (Sample.state .select).tables := rfl
  obtain ⟨produces, showing⟩ := generate_produces builds sameTables once
  obtain ⟨_, number, -, isNumber, -, called, -⟩ := produces ran
  obtain ⟨emitted, added, shown⟩ := showing ran
  refine ⟨builds, once, _, emitted, ran, added, ?_, ?_⟩
  · rw [called]
    cases isNumber with
    | joined => rfl
    | alone _ alone => exact absurd alone (by decide)
    | counted command => cases command
    | changed command => rcases command with command | command <;> cases command
  · intro index statement found
    obtain ⟨calls, -, written⟩ := shown index statement found
    have isCall : Calls.count .zero 0 + index * (state.searches + 1) + state.searches =
        2 * index + 1 := by
      change 0 + index * 2 + 1 = _
      omega
    rw [isCall] at written
    exact written

end Generation

end RecordMapper
