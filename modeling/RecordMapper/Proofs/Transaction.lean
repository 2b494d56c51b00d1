import RecordMapper.Delegate.Standard
import RecordMapper.Proofs.Connection.Performing
import RecordMapper.Proofs.Query.Opening
import RecordMapper.Transaction

set_option autoImplicit false

/-!
How a transaction goes, and when it is left open. A connection marks in its world whether a
transaction is open: BEGIN sets the mark, COMMIT and ROLLBACK clear it, and one of them that fails
leaves it alone. A transaction stays open exactly when the statement that should have ended it
fails, be that the rollback or the commit: a commit that fails is not rolled back.
-/

namespace RecordMapper

namespace Transaction

variable {State Result : Type} {run : String → Action State Unit} {body : Action State Result}
  {before after : State} {outcome : Except Error Result}

/-! ## Ways -/

/-- The statement that ends a transaction after its body. -/
def ending : Except Error Result → String
  | .ok _ => "COMMIT"
  | .error _ => "ROLLBACK"

/-- What is reported of a body and of the statement that ended the transaction after it. -/
def report : Except Error Result → Except Error Unit → Except Error Result
  | .ok result, .ok () => .ok result
  | .ok _, .error error => .error (failure .commit error.message)
  | .error error, .ok () => .error error
  | .error error, .error rollback =>
      .error (failure .rollbackFailed s!"{error.message}; rollback failed: {rollback.message}")

/-- A transaction is refused, or its body runs and one more statement ends it. -/
inductive Goes (run : String → Action State Unit) (body : Action State Result) (before : State) :
    Except Error Result → State → Prop where
  | refused {error : Error} {after : State} :
      (run "BEGIN").runOn before = (.error error, after) →
      Goes run body before (.error (failure .begin error.message)) after
  | ended {bodyOutcome : Except Error Result} {closing : Except Error Unit}
      {begun last after : State} :
      (run "BEGIN").runOn before = (.ok (), begun) →
      body.runOn begun = (bodyOutcome, last) →
      (run (ending bodyOutcome)).runOn last = (closing, after) →
      Goes run body before (report bodyOutcome closing) after

theorem around_goes (run : String → Action State Unit) (body : Action State Result)
    (before : State) :
    let ran := Action.runOn (around (m := StateM State) run body) before
    Goes run body before ran.1 ran.2 := by
  dsimp only [around, Action.runOn, ExceptT.run, bind, StateT.bind]
  rcases begins : run "BEGIN" before with ⟨error | _, begun⟩
  · exact .refused begins
  dsimp only [StateT.bind]
  rcases bodyRan : body begun with ⟨error | result, last⟩
  · dsimp only [bind, StateT.bind]
    rcases rolls : run "ROLLBACK" last with ⟨rollback | _, after⟩
    · exact .ended begins bodyRan rolls
    · exact .ended begins bodyRan rolls
  · dsimp only [bind, StateT.bind]
    rcases commits : run "COMMIT" last with ⟨error | _, after⟩
    · exact .ended begins bodyRan commits
    · exact .ended begins bodyRan commits

/-! ## What is left open -/

/-- Control statements as they set and clear a mark of the state. -/
structure Marks (run : String → Action State Unit) (isOpen : State → Bool) : Prop where
  begins : ∀ {before after}, (run "BEGIN").runOn before = (.ok (), after) →
    isOpen before = false ∧ isOpen after = true
  ends : ∀ {text before after}, text ∈ ["COMMIT", "ROLLBACK"] →
    (run text).runOn before = (.ok (), after) → isOpen after = false
  fails : ∀ {text before after error}, text ∈ ["BEGIN", "COMMIT", "ROLLBACK"] →
    (run text).runOn before = (.error error, after) → isOpen after = isOpen before

/-- The transaction begins, and the statement that should end it fails. -/
def EndFails (run : String → Action State Unit) (body : Action State Result)
    (before after : State) : Prop :=
  ∃ begun error, (run "BEGIN").runOn before = (.ok (), begun) ∧
    (run (ending (body.runOn begun).1)).runOn (body.runOn begun).2 = (.error error, after)

theorem ending_mem (bodyOutcome : Except Error Result) :
    ending bodyOutcome ∈ ["COMMIT", "ROLLBACK"] := by
  cases bodyOutcome <;> simp [ending]

namespace Goes

variable {isOpen : State → Bool}

theorem open_iff (goes : Goes run body before outcome after) (marks : Marks run isOpen)
    (kept : ∀ begun, (run "BEGIN").runOn before = (.ok (), begun) →
      isOpen (body.runOn begun).2 = isOpen begun)
    (closed : isOpen before = false) :
    isOpen after = true ↔ EndFails run body before after := by
  cases goes with
  | refused begins =>
      have still : isOpen after = false := (marks.fails (by simp) begins).trans closed
      refine iff_of_false (by simp [still]) ?_
      rintro ⟨begun, _, begins', -⟩
      cases begins.symm.trans begins'
  | @ended bodyOutcome closing begun last _ begins bodyRan closes =>
      have ending := ending_mem bodyOutcome
      cases closing with
      | ok =>
          refine iff_of_false (by simp [marks.ends ending closes]) ?_
          rintro ⟨begun', error, begins', fails⟩
          cases begins.symm.trans begins'
          rw [bodyRan] at fails
          cases closes.symm.trans fails
      | error error =>
          have lastOpen : isOpen last = true := by
            have same := kept begun begins
            rw [bodyRan] at same
            exact same.trans (marks.begins begins).2
          have still := marks.fails (List.mem_cons_of_mem _ ending) closes
          refine iff_of_true (still.trans lastOpen) ⟨begun, error, begins, ?_⟩
          rw [bodyRan]
          exact closes

/-- A transaction whose end fails says so: the commit failed, or the rollback did. -/
theorem outcome_of_endFails (goes : Goes run body before outcome after)
    (fails : EndFails run body before after) :
    ∃ message, outcome = .error (failure .commit message) ∨
      outcome = .error (failure .rollbackFailed message) := by
  obtain ⟨begun, error, begins, closes⟩ := fails
  cases goes with
  | refused begins' => cases begins.symm.trans begins'
  | @ended bodyOutcome closing _ last _ begins' bodyRan closes' =>
      cases begins.symm.trans begins'
      rw [bodyRan] at closes
      cases closes.symm.trans closes'
      cases bodyOutcome with
      | ok result => exact ⟨_, .inl rfl⟩
      | error bodyError => exact ⟨_, .inr rfl⟩

end Goes

end Transaction

/-! ## A database that can refuse to commit -/

/-- A connection that knows nothing but whether a transaction is open. While it is busy it refuses
to commit. -/
structure Latch where
  isOpen : Bool := false
  busy : Bool := false
deriving DecidableEq, Repr

namespace Latch

def refusal (message : String) : Error :=
  .query { kind := .busy, message }

def run (text : String) (latch : Latch) : Except Error Unit × Latch :=
  if text = "BEGIN" then
    if latch.isOpen then
      (.error (refusal "cannot start a transaction within a transaction"), latch)
    else (.ok (), { latch with isOpen := true })
  else if text = "COMMIT" then
    if latch.busy then (.error (refusal "database is locked"), latch)
    else (.ok (), { latch with isOpen := false })
  else if text = "ROLLBACK" then (.ok (), { latch with isOpen := false })
  else (.ok (), latch)

def hasNext (text : String) : Action Latch Bool :=
  fun latch => ((run text latch).1.map fun _ => false, (run text latch).2)

def connection : Connection Latch String where
  prepare := pure
  bind _ _ _ := pure ()
  hasNext := hasNext
  decodeRow _ := throw (refusal "no row")
  release _ latch := latch

/-- There are no rows to step to. -/
instance : connection.Finite where
  rowsLeft _ _ := 0
  rowsLeft_lt {text _ latch} passes := by
    obtain ⟨middle, stepped, -⟩ := passes
    have outcome := congrArg Prod.fst stepped
    change (run text latch).1.map (fun _ => false) = .ok true at outcome
    obtain ⟨_, -, impossible⟩ := map_ok outcome
    cases impossible

def database : Database (List Binding) Latch String :=
  ⟨Dialect.sqlite.delegate, connection, []⟩

instance : database.connection.Finite := inferInstanceAs connection.Finite

theorem runToEnd_run (text : String) (before : Latch) :
    (connection.runToEnd text).runOn before = run text before := by
  have stepped : (connection.hasNext text).runOn before =
      ((run text before).1.map fun _ => false, (run text before).2) := rfl
  rw [Connection.runToEnd_of_hasNext stepped]

theorem runOn_sql (text : String) (before : Session Latch) :
    (database.sql text []).runOn before =
      ((run text before.world).1, { before with world := (run text before.world).2 }) := by
  have opens : connection.Opens ⟨text, []⟩ before.world text before.world := .bound rfl rfl
  have executed : (connection.execute ⟨text, []⟩).runOn before.world = run text before.world := by
    unfold Connection.execute
    rw [Connection.withStatement_eq opens, runToEnd_run]
    rfl
  change (fun ran : Except Error Unit × Latch => (ran.1, { before with world := ran.2 }))
    ((connection.execute ⟨text, []⟩).runOn before.world) = _
  rw [executed]

/-- The latch is a mark as control statements set and clear it. -/
theorem marks : Transaction.Marks (fun text => database.sql text [])
    (fun session : Session Latch => session.world.isOpen) where
  begins := by
    intro before after begins
    rw [runOn_sql] at begins
    unfold run at begins
    by_cases isOpen : before.world.isOpen = true
    · simp [isOpen] at begins
    · simp only [isOpen] at begins
      cases begins
      exact ⟨by simpa using isOpen, rfl⟩
  ends := by
    intro text before after isEnding ends
    simp only [List.mem_cons, List.not_mem_nil, or_false] at isEnding
    rw [runOn_sql] at ends
    unfold run at ends
    rcases isEnding with rfl | rfl
    · by_cases busy : before.world.busy = true
      · simp [busy] at ends
      · simp only [busy] at ends
        cases ends
        rfl
    · cases ends
      rfl
  fails := by
    intro text before after error _ fails
    rw [runOn_sql] at fails
    unfold run at fails
    split at fails
    · split at fails <;> cases fails
      rfl
    split at fails
    · split at fails <;> cases fails
      rfl
    split at fails <;> cases fails

end Latch

namespace Database

variable {Buffer World Handle Result : Type}

/-- A transaction that finds none open leaves one open exactly when it begins and the statement that
should end it fails, and then its error is that the commit or the rollback failed. -/
theorem transaction_open_iff (database : Database Buffer World Handle)
    [database.connection.Finite] {isOpen : World → Bool}
    (marks : Transaction.Marks (fun text => database.sql text [])
      fun session => isOpen session.world)
    {body : Action (Session World) Result} {before : Session World}
    (kept : ∀ begun, (database.sql "BEGIN" []).runOn before = (.ok (), begun) →
      isOpen (body.runOn begun).2.world = isOpen begun.world)
    (closed : isOpen before.world = false) :
    let ran := (database.transaction body).runOn before
    (isOpen ran.2.world = true ↔
        Transaction.EndFails (fun text => database.sql text []) body before ran.2) ∧
      (isOpen ran.2.world = true → ∃ message,
        ran.1 = .error (Transaction.failure .commit message) ∨
          ran.1 = .error (Transaction.failure .rollbackFailed message)) := by
  have goes := Transaction.around_goes (fun text => database.sql text []) body before
  have exactly := goes.open_iff marks kept closed
  exact ⟨exactly, fun left => goes.outcome_of_endFails (exactly.mp left)⟩

theorem transaction_open_iff_sample :
    let before : Session Latch := { world := { busy := true } }
    let body : Action (Session Latch) Unit := throw (.custom "boom")
    let ran := (Latch.database.transaction body).runOn before
    Transaction.Marks (fun text => Latch.database.sql text [])
        (fun session : Session Latch => session.world.isOpen) ∧
      (∀ session, (body.runOn session).2.world.isOpen = session.world.isOpen) ∧
      before.world.isOpen = false ∧ ran.1 = .error (.custom "boom") ∧
      ran.2.world.isOpen = false ∧
      ¬Transaction.EndFails (fun text => Latch.database.sql text []) body before ran.2 := by
  intro before body ran
  have kept : ∀ begun, (Latch.database.sql "BEGIN" []).runOn before = (.ok (), begun) →
      (body.runOn begun).2.world.isOpen = begun.world.isOpen := fun _ _ => rfl
  obtain ⟨exactly, -⟩ := Latch.database.transaction_open_iff Latch.marks kept rfl
  have rolledBack : ran.1 = .error (.custom "boom") ∧ ran.2.world.isOpen = false := by
    decide +kernel
  have closed : ¬ran.2.world.isOpen = true := by simp [rolledBack.2]
  exact ⟨Latch.marks, fun _ => rfl, rfl, rolledBack.1, rolledBack.2, fun fails =>
    closed (exactly.mpr fails)⟩

/-- A body that succeeds on a database that is too busy to commit: the transaction stays open, and
nothing tries to roll it back. -/
theorem transaction_left_open :
    let before : Session Latch := { world := { busy := true } }
    let body : Action (Session Latch) Unit := pure ()
    let ran := (Latch.database.transaction body).runOn before
    Transaction.Marks (fun text => Latch.database.sql text [])
        (fun session : Session Latch => session.world.isOpen) ∧
      (∀ session, (body.runOn session).2.world.isOpen = session.world.isOpen) ∧
      before.world.isOpen = false ∧ ran.2.world.isOpen = true ∧
      ∀ message, ran.1 ≠ .error (Transaction.failure .rollbackFailed message) := by
  intro before body ran
  have uncommitted :
      ran.1 = .error (Transaction.failure .commit "Query error: database is locked") ∧
        ran.2.world.isOpen = true := by
    decide +kernel
  refine ⟨Latch.marks, fun _ => rfl, rfl, uncommitted.2, fun message rolls => ?_⟩
  rw [uncommitted.1] at rolls
  cases rolls

end Database

end RecordMapper
