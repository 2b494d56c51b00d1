import RecordMapper.Connection
import RecordMapper.Proofs.Action

set_option autoImplicit false

/-!
Connections to engines that answer statements. What an engine makes of a statement is a list of
rows or an error. Between opening a statement and giving it up the engine owes the rows that have
not been stepped to, and nothing that is done with one statement changes what it owes for another.
-/

namespace RecordMapper

/-! ## Repeated steps -/

namespace Action

variable {State Result : Type} {measure : State → Nat} {step : Action State (Option Result)}
  {decreases : ∀ state item next,
    step.runOn state = (.ok (some item), next) → measure next < measure state}
  {state next : State}

theorem collect_error {error : Error} (failed : step.runOn state = (.error error, next)) :
    collect measure step decreases state = (.error error, next) := by
  rw [collect]
  split <;> rename_i outcome <;> rw [failed] at outcome <;> cases outcome
  rfl

theorem collect_none (ended : step.runOn state = (.ok none, next)) :
    collect measure step decreases state = (.ok [], next) := by
  rw [collect]
  split <;> rename_i outcome <;> rw [ended] at outcome <;> cases outcome
  rfl

theorem collect_some {item : Result} (yields : step.runOn state = (.ok (some item), next)) :
    collect measure step decreases state =
      (((collect measure step decreases next).1.map (item :: ·)),
        (collect measure step decreases next).2) := by
  rw [collect]
  split <;> rename_i outcome <;> rw [yields] at outcome <;> cases outcome
  rfl

end Action

namespace Connection

variable {World Handle Result : Type} {connection : Connection World Handle}

/-! ## Open statements -/

/-- A statement that is prepared and has all of its values. -/
inductive Opens (connection : Connection World Handle) (statement : Statement) (before : World)
    (handle : Handle) (after : World) : Prop where
  | bound {prepared : World} :
      (connection.prepare statement.sql).runOn before = (.ok handle, prepared) →
      (connection.bind handle statement.bindings 0).runOn prepared = (.ok (), after) →
      Opens connection statement before handle after

theorem withStatement_eq {statement : Statement} {before opened : World} {handle : Handle}
    (opens : connection.Opens statement before handle opened)
    (body : Handle → Action World Result) :
    (connection.withStatement statement body).runOn before =
      (((body handle).runOn opened).1,
        connection.release handle ((body handle).runOn opened).2) := by
  obtain ⟨prepares, binds⟩ := opens
  unfold withStatement withPrepared
  rw [Action.runOn_bind_of_ok prepares]
  have bodyRan := Action.runOn_bind_of_ok binds fun _ => body handle
  change (fun ran : Except Error Result × World => (ran.1, connection.release handle ran.2))
    (Action.runOn (do connection.bind handle statement.bindings 0; body handle) _) = _
  rw [bodyRan]

theorem withStatement_ok {statement : Statement} {body : Handle → Action World Result}
    {before after : World} {result : Result}
    (succeeded : (connection.withStatement statement body).runOn before = (.ok result, after)) :
    ∃ handle opened closing, connection.Opens statement before handle opened ∧
      (body handle).runOn opened = (.ok result, closing) ∧
      after = connection.release handle closing := by
  unfold withStatement withPrepared at succeeded
  obtain ⟨handle, prepared, prepares, closing⟩ := Action.bind_ok succeeded
  obtain ⟨ran, released⟩ := Prod.mk.inj closing
  let bound := do
    connection.bind handle statement.bindings 0
    body handle
  have bodyRan : bound.runOn prepared = (.ok result, (bound.runOn prepared).2) :=
    Prod.ext ran rfl
  obtain ⟨_, opened, binds, finished⟩ := Action.bind_ok bodyRan
  exact ⟨handle, opened, _, ⟨prepares, binds⟩, finished, released.symm⟩

theorem step_eq (handle : Handle) (read : Row → Except Error Result) (world : World) :
    (connection.step handle read).runOn world =
      match (connection.hasNext handle).runOn world with
      | (.error error, next) => (.error error, next)
      | (.ok false, next) => (.ok none, next)
      | (.ok true, next) =>
          let (row, final) := (connection.decodeRow handle).runOn next
          ((row.bind read).map some, final) := rfl

/-! ## Answers -/

/-- An engine that answers statements. What it owes for an open statement is the rows that are left
of the answer, or the error that the next step fails with. -/
structure Answers (connection : Connection World Handle) (answer : Statement → Except Error (List Row))
    (owes : Handle → World → Option (Except Error (List Row))) : Prop where
  opened : ∀ {statement before handle after}, connection.Opens statement before handle after →
    owes handle after = some (answer statement) ∧
      ∀ other, (owes other before).isSome → other ≠ handle ∧ owes other after = owes other before
  opens : ∀ {statement rows} (before : World), answer statement = .ok rows →
    ∃ handle after, connection.Opens statement before handle after
  fails : ∀ {handle world error}, owes handle world = some (.error error) →
    ∃ next, (connection.hasNext handle).runOn world = (.error error, next)
  ends : ∀ {handle world}, owes handle world = some (.ok []) →
    ∃ next, (connection.hasNext handle).runOn world = (.ok false, next) ∧
      ∀ other, other ≠ handle → owes other next = owes other world
  yields : ∀ {handle world row rows}, owes handle world = some (.ok (row :: rows)) →
    ∃ stepped next, (connection.hasNext handle).runOn world = (.ok true, stepped) ∧
      (connection.decodeRow handle).runOn stepped = (.ok row, next) ∧
      owes handle next = some (.ok rows) ∧
      ∀ other, other ≠ handle → owes other next = owes other world
  released : ∀ {handle other world}, other ≠ handle →
    owes other (connection.release handle world) = owes other world

namespace Answers

variable {answer : Statement → Except Error (List Row)}
  {owes : Handle → World → Option (Except Error (List Row))}

theorem step_yields (answers : connection.Answers answer owes) {handle : Handle} {world : World}
    {row : Row} {rows : List Row} (isOwed : owes handle world = some (.ok (row :: rows)))
    (read : Row → Except Error Result) :
    ∃ next, (connection.step handle read).runOn world = ((read row).map some, next) ∧
      owes handle next = some (.ok rows) ∧
      ∀ other, other ≠ handle → owes other next = owes other world := by
  obtain ⟨stepped, next, steps, decodes, left, kept⟩ := answers.yields isOwed
  refine ⟨next, ?_, left, kept⟩
  rw [step_eq, steps]
  dsimp only
  rw [decodes]
  rfl

theorem step_ends (answers : connection.Answers answer owes) {handle : Handle} {world : World}
    (isOwed : owes handle world = some (.ok [])) (read : Row → Except Error Result) :
    ∃ next, (connection.step handle read).runOn world = (.ok none, next) ∧
      ∀ other, other ≠ handle → owes other next = owes other world := by
  obtain ⟨next, steps, kept⟩ := answers.ends isOwed
  refine ⟨next, ?_, kept⟩
  rw [step_eq, steps]

variable [connection.Finite]

/-- Reading to the end reads the rows that are owed, up to the first that cannot be read. -/
theorem readToEnd_eq (answers : connection.Answers answer owes) {handle : Handle} {world : World}
    {rows : List Row} (isOwed : owes handle world = some (.ok rows))
    (read : Row → Except Error Result) :
    ∃ next, (connection.readToEnd handle read).runOn world = (rows.mapM read, next) ∧
      ∀ other, other ≠ handle → owes other next = owes other world := by
  induction rows generalizing world with
  | nil =>
      obtain ⟨next, steps, kept⟩ := answers.step_ends isOwed read
      exact ⟨next, Action.collect_none steps, kept⟩
  | cons row rows ih =>
      obtain ⟨stepped, steps, left, kept⟩ := answers.step_yields isOwed read
      cases outcome : read row with
      | error error =>
          rw [outcome] at steps
          refine ⟨stepped, ?_, kept⟩
          rw [List.mapM_cons, outcome]
          exact Action.collect_error steps
      | ok item =>
          rw [outcome] at steps
          obtain ⟨next, reads, others⟩ := ih left
          refine ⟨next, ?_, fun other differs => (others other differs).trans (kept other differs)⟩
          refine (Action.collect_some steps).trans ?_
          change (fun ran : Except Error (List Result) × World => (ran.1.map (item :: ·), ran.2))
            ((connection.readToEnd handle read).runOn stepped) = _
          rw [reads, List.mapM_cons, outcome]
          cases rows.mapM read <;> rfl

theorem readToEnd_error (answers : connection.Answers answer owes) {handle : Handle}
    {world : World} {error : Error} (isOwed : owes handle world = some (.error error))
    (read : Row → Except Error Result) :
    ∃ next, (connection.readToEnd handle read).runOn world = (.error error, next) := by
  obtain ⟨next, steps⟩ := answers.fails isOwed
  refine ⟨next, Action.collect_error ?_⟩
  rw [step_eq, steps]

/-- The rows that are read from an open statement are those that it still owes. -/
theorem readToEnd_ok (answers : connection.Answers answer owes) {handle : Handle}
    {before after : World} {owed : Except Error (List Row)}
    (isOwed : owes handle before = some owed) {read : Row → Except Error Result}
    {results : List Result}
    (succeeded : (connection.readToEnd handle read).runOn before = (.ok results, after)) :
    ∃ rows, owed = .ok rows ∧ rows.mapM read = .ok results ∧
      ∀ other, other ≠ handle → owes other after = owes other before := by
  cases owed with
  | error error =>
      obtain ⟨next, failed⟩ := answers.readToEnd_error isOwed read
      rw [failed] at succeeded
      cases succeeded
  | ok rows =>
      obtain ⟨next, reads, kept⟩ := answers.readToEnd_eq isOwed read
      rw [reads] at succeeded
      obtain ⟨same, rfl⟩ := Prod.mk.inj succeeded
      exact ⟨rows, rfl, same, kept⟩

theorem mapM_self (rows : List Row) : rows.mapM (.ok : Row → Except Error Row) = .ok rows :=
  mapM_ok_iff.mpr (List.forall₂_same.mpr fun _ _ => rfl)

/-- Fetching gives the answer and leaves what is owed for other statements. -/
theorem fetchAll_ok (answers : connection.Answers answer owes) {statement : Statement}
    {before after : World} {rows : List Row}
    (succeeded : (connection.fetchAll statement).runOn before = (.ok rows, after)) :
    answer statement = .ok rows ∧
      ∀ other, (owes other before).isSome → owes other after = owes other before := by
  obtain ⟨handle, opened, closing, opens, reads, rfl⟩ := withStatement_ok succeeded
  obtain ⟨isOwed, others⟩ := answers.opened opens
  obtain ⟨owed, isAnswer, same, kept⟩ := answers.readToEnd_ok isOwed reads
  rw [mapM_self] at same
  cases same
  refine ⟨isAnswer, fun other isOpen => ?_⟩
  obtain ⟨differs, keptOpen⟩ := others other isOpen
  rw [answers.released differs, kept other differs, keptOpen]

theorem fetchAll_of_answer (answers : connection.Answers answer owes) {statement : Statement}
    {rows : List Row} (isAnswer : answer statement = .ok rows) (before : World) :
    ∃ after, (connection.fetchAll statement).runOn before = (.ok rows, after) := by
  obtain ⟨handle, opened, opens⟩ := answers.opens before isAnswer
  obtain ⟨isOwed, -⟩ := answers.opened opens
  rw [isAnswer] at isOwed
  obtain ⟨next, reads, -⟩ := answers.readToEnd_eq isOwed .ok
  rw [mapM_self] at reads
  refine ⟨connection.release handle next, ?_⟩
  unfold fetchAll
  rw [withStatement_eq opens, reads]

end Answers

end Connection

end RecordMapper
