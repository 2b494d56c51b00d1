import RecordMapper.Connection
import RecordMapper.Engine.Grammar
import RecordMapper.Engine.Program
import RecordMapper.Engine.Statement

set_option autoImplicit false

/-!
Connections to the engine. Preparing a statement reads and resolves its first instruction, so
faults of the text and names that do not exist show before anything is bound. A statement is
resolved anew for every run. What it answers is fixed when it runs; its rows are then handed out
one at a time.
-/

namespace RecordMapper.Engine

structure Opened where
  statement : Statement
  instruction : Instruction
  /-- The rows of the present run that no step has reached. -/
  pending : Option (List (List Stored)) := none
  current : List Stored := []

structure World where
  /-- The path under which the database was opened. -/
  path : String := ":memory:"
  state : State := {}
  /-- Prepared statements; a handle is a place in this list. -/
  opened : List Opened := []

namespace World

/-- Whether a statement other than one's own stands on a row. -/
def isReading (world : World) (handle : Nat) : Bool :=
  world.opened.zipIdx.any fun (opened, place) =>
    place != handle && opened.statement.position == .row

def change (world : World) (handle : Nat) (update : Opened → Opened) : World :=
  { world with opened := world.opened.modify handle update }

def runInstruction (instruction : Instruction) (parameters : List Stored) (reading : Bool)
    (state : State) : Outcome :=
  match instruction.resolve state.content with
  | .error failure => (.error failure, state)
  | .ok program => (program.run parameters reading).run state

/-- The rows a statement has still to hand out, after running it if it has not run. -/
def fetch (world : World) (handle : Nat) (opened : Opened) : Outcome :=
  match opened.pending with
  | some rows => (.ok rows, world.state)
  | none =>
      runInstruction opened.instruction opened.statement.parameters (world.isReading handle)
        world.state

def rowsLeft (handle : Nat) (world : World) : Nat :=
  match world.opened[handle]? with
  | none => 0
  | some opened =>
      if opened.statement.position = .done then 0
      else
        match world.fetch handle opened with
        | (.ok rows, _) => rows.length
        | (.error _, _) => 0

end World

def unprepared : Error :=
  Failure.unprepared.toError ""

/-! ## Statements -/

/-- Refuses text with a null byte, else reads its first instruction. -/
def readFirst (sql : String) : Except Failure (Instruction × Nat) :=
  if sql.toList.contains '\x00' then .error .nullByte
  else
    match Grammar.first? (Lexeme.ofText sql) with
    | .error failure => .error failure
    | .ok none => .error .emptyStatement
    | .ok (some (instruction, parameters, _)) => .ok (instruction, parameters)

/-- A statement that is ready to be bound. -/
def openStatement (content : Content) (sql : String) : Except Failure Opened := do
  let (instruction, parameters) ← readFirst sql
  let program ← instruction.resolve content
  pure { statement := .prepared sql program.columns parameters, instruction }

def prepare (sql : String) : Action World Nat :=
  fun world =>
    match openStatement world.state.content sql with
    | .error failure => (.error (failure.toError sql), world)
    | .ok opened => (.ok world.opened.length, { world with opened := world.opened ++ [opened] })

def bind (handle : Nat) (bindings : List Binding) (skip : Nat) : Action World Unit :=
  fun world =>
    match world.opened[handle]? with
    | none => (.error unprepared, world)
    | some opened =>
        let (outcome, statement) := opened.statement.bind bindings skip
        (outcome, world.change handle fun opened => { opened with statement, pending := none })

def step (handle : Nat) : StateM World StepAnswer :=
  fun world =>
    match world.opened[handle]? with
    | none => (.failed unprepared, world)
    | some opened =>
        match world.fetch handle opened with
        | (.error failure, state) =>
            (.failed (failure.toError opened.statement.sql),
              { world with state }.change handle fun opened => { opened with pending := none })
        | (.ok [], state) =>
            (.done, { world with state }.change handle fun opened =>
              { opened with pending := none })
        | (.ok (row :: rest), state) =>
            (.row, { world with state }.change handle fun opened =>
              { opened with pending := some rest, current := row })

def hasNext (handle : Nat) : Action World Bool :=
  fun world =>
    match world.opened[handle]? with
    | none => (.error unprepared, world)
    | some opened =>
        let ((answer, statement), next) := opened.statement.hasNext (step handle) world
        (answer, next.change handle fun opened => { opened with statement })

def decodeRow (handle : Nat) : Action World Row :=
  fun world =>
    match world.opened[handle]? with
    | none => (.error unprepared, world)
    | some opened => (opened.statement.decodeRow opened.current, world)

def release (handle : Nat) (world : World) : World :=
  world.change handle fun opened =>
    { opened with
      statement := { opened.statement with position := .done }, pending := none, current := [] }

def columnNames (handle : Nat) (world : World) : List String :=
  match world.opened[handle]? with
  | some opened => opened.statement.columns
  | none => []

theorem change_get {world : World} {handle : Nat} {opened : Opened} (update : Opened → Opened)
    (found : world.opened[handle]? = some opened) :
    (world.change handle update).opened[handle]? = some (update opened) := by
  simp [World.change, found]

theorem bind_eq {handle : Nat} {world : World} {opened : Opened}
    (found : world.opened[handle]? = some opened) (bindings : List Binding) (skip : Nat) :
    (bind handle bindings skip).runOn world =
      ((opened.statement.bind bindings skip).1,
        world.change handle fun current => { current with
          statement := (opened.statement.bind bindings skip).2, pending := none }) := by
  unfold bind Action.runOn ExceptT.run
  dsimp only
  rw [found]

/-- A step that answers a row takes it from the rows still to be handed out. -/
theorem step_row {handle : Nat} {world next : World} {opened : Opened}
    (found : world.opened[handle]? = some opened)
    (stepped : step handle world = (.row, next)) :
    ∃ row rest state, world.fetch handle opened = (.ok (row :: rest), state) ∧
      next.opened[handle]? = some { opened with pending := some rest, current := row } := by
  unfold step at stepped
  rw [found] at stepped
  dsimp only at stepped
  split at stepped
  · cases stepped
  · cases stepped
  · rename_i row rest state fetched
    cases stepped
    exact ⟨row, rest, state, fetched, change_get _ found⟩

theorem hasNext_lt (handle : Nat) (world next : World)
    (stepped : (hasNext handle).runOn world = (.ok true, next)) :
    next.rowsLeft handle < world.rowsLeft handle := by
  unfold hasNext Action.runOn ExceptT.run Statement.hasNext at stepped
  dsimp only at stepped
  split at stepped
  · cases stepped
  · rename_i opened found
    by_cases atEnd : opened.statement.position = .done
    · simp [atEnd] at stepped
    · rw [if_neg atEnd] at stepped
      cases answer : step handle world with
      | mk answered middle =>
        rw [answer] at stepped
        cases answered with
        | done => cases stepped
        | failed => cases stepped
        | row =>
          obtain ⟨row, rest, state, fetched, moved⟩ := step_row found answer
          cases stepped
          have before : world.rowsLeft handle = rest.length + 1 := by
            simp [World.rowsLeft, found, atEnd, fetched]
          have after := change_get (fun current : Opened =>
            { current with statement := { opened.statement with position := .row } }) moved
          rw [before]
          simp only [World.rowsLeft, after, World.fetch]
          simp

theorem decodeRow_le (handle : Nat) (world : World) :
    ((decodeRow handle).runOn world).2.rowsLeft handle ≤ world.rowsLeft handle := by
  unfold decodeRow Action.runOn ExceptT.run
  dsimp only
  split <;> exact Nat.le_refl _

def connection : RecordMapper.Connection World Nat where
  prepare := prepare
  bind := bind
  hasNext := hasNext
  decodeRow := decodeRow
  release := release

instance : connection.Finite := .ofRowsLeft World.rowsLeft hasNext_lt decodeRow_le

/-! ## Scripts -/

/-- Runs instruction after instruction; the first failure ends the script, and what ran before
it stays. -/
def runScript : Nat → List Lexeme → State → Except Failure Unit × State
  | 0, _, state => (.ok (), state)
  | fuel + 1, lexemes, state =>
      match Grammar.first? lexemes with
      | .error failure => (.error failure, state)
      | .ok none => (.ok (), state)
      | .ok (some (instruction, parameters, rest)) =>
          match World.runInstruction instruction (List.replicate parameters .null) false state with
          | (.error failure, next) => (.error failure, next)
          | (.ok _, next) => runScript fuel rest next

/-- Runs every instruction of a text. -/
def execute (sql : String) : Action World Unit :=
  fun world =>
    if sql.toList.contains '\x00' then (.error (Failure.nullByte.toError sql), world)
    else
      let lexemes := Lexeme.ofText sql
      let (outcome, state) := runScript (lexemes.length + 1) lexemes world.state
      (outcome.mapError (·.toError sql), { world with state })

end RecordMapper.Engine
