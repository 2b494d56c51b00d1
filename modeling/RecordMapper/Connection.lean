import RecordMapper.Action
import RecordMapper.Binding
import RecordMapper.Row

set_option autoImplicit false

/-!
Connections to a database engine. A connection prepares statements, binds their values and steps
through their rows. What the engine remembers is an abstract world. Reading a statement to its end
asks that its rows come to an end; stepping through them does not.
-/

namespace RecordMapper

structure Connection (World Handle : Type) where
  prepare : String → Action World Handle
  /-- Binds the values from a position on and rewinds the statement. -/
  bind : Handle → List Binding → Nat → Action World Unit
  /-- Steps to the next row. A statement without rows runs at the first step. -/
  hasNext : Handle → Action World Bool
  decodeRow : Handle → Action World Row
  /-- Gives a statement up. -/
  release : Handle → World → World

namespace Connection

variable {World Handle Result : Type}

/-- A step to a row, which may then be read, leads from a world to the next one. -/
def Passes (connection : Connection World Handle) (handle : Handle) (next world : World) : Prop :=
  ∃ middle, (connection.hasNext handle).runOn world = (.ok true, middle) ∧
    (next = middle ∨ next = ((connection.decodeRow handle).runOn middle).2)

/-- The rows of every statement come to an end: each step to one leaves fewer of them. -/
class Finite (connection : Connection World Handle) where
  /-- A bound on the rows that stepping still yields. -/
  rowsLeft : Handle → World → Nat
  rowsLeft_lt {handle : Handle} {next world : World} :
    connection.Passes handle next world → rowsLeft handle next < rowsLeft handle world

/-- Stepping takes a row from those that are left, and reading the row puts none back. -/
abbrev Finite.ofRowsLeft {connection : Connection World Handle} (rowsLeft : Handle → World → Nat)
    (hasNext_lt : ∀ handle world next, (connection.hasNext handle).runOn world = (.ok true, next) →
      rowsLeft handle next < rowsLeft handle world)
    (decodeRow_le : ∀ handle world,
      rowsLeft handle ((connection.decodeRow handle).runOn world).2 ≤ rowsLeft handle world) :
    connection.Finite where
  rowsLeft := rowsLeft
  rowsLeft_lt := by
    intro handle next world passes
    obtain ⟨middle, stepped, isNext⟩ := passes
    have fewer := hasNext_lt handle world middle stepped
    cases isNext with
    | inl same => rwa [same]
    | inr same =>
        rw [same]
        exact Nat.lt_of_le_of_lt (decodeRow_le handle middle) fewer

def step (connection : Connection World Handle) (handle : Handle)
    (read : Row → Except Error Result) : Action World (Option Result) :=
  fun world =>
    match (connection.hasNext handle).runOn world with
    | (.error error, next) => (.error error, next)
    | (.ok false, next) => (.ok none, next)
    | (.ok true, next) =>
        let (row, final) := (connection.decodeRow handle).runOn next
        ((row.bind read).map some, final)

theorem step_passes {connection : Connection World Handle} {handle : Handle}
    {read : Row → Except Error Result} {item : Result} {next world : World}
    (yields : (connection.step handle read).runOn world = (.ok (some item), next)) :
    connection.Passes handle next world := by
  unfold step Action.runOn ExceptT.run at yields
  dsimp only at yields
  split at yields
  · cases yields
  · cases yields
  · rename_i middle stepped
    exact ⟨middle, stepped, .inr (congrArg Prod.snd yields).symm⟩

/-- Steps without reading. -/
def advance (connection : Connection World Handle) (handle : Handle) :
    Action World (Option Unit) :=
  fun world =>
    match (connection.hasNext handle).runOn world with
    | (.error error, next) => (.error error, next)
    | (.ok false, next) => (.ok none, next)
    | (.ok true, next) => (.ok (some ()), next)

theorem advance_passes {connection : Connection World Handle} {handle : Handle} {item : Unit}
    {next world : World}
    (yields : (connection.advance handle).runOn world = (.ok (some item), next)) :
    connection.Passes handle next world := by
  unfold advance Action.runOn ExceptT.run at yields
  dsimp only at yields
  split at yields
  · cases yields
  · cases yields
  · rename_i stepped
    cases yields
    exact ⟨next, stepped, .inl rfl⟩

variable (connection : Connection World Handle)

def runToEnd [connection.Finite] (handle : Handle) : Action World Unit :=
  fun world =>
    let (outcome, next) := Action.collect (Finite.rowsLeft connection handle)
      (connection.advance handle) (fun _ _ _ yields => Finite.rowsLeft_lt (advance_passes yields))
      world
    (outcome.map fun _ => (), next)

/-- Steps to the end and reads every row. -/
def readToEnd [connection.Finite] (handle : Handle) (read : Row → Except Error Result) :
    Action World (List Result) :=
  Action.collect (Finite.rowsLeft connection handle) (connection.step handle read)
    fun _ _ _ yields => Finite.rowsLeft_lt (step_passes yields)

def withPrepared (sql : String) (body : Handle → Action World Result) : Action World Result := do
  let handle ← connection.prepare sql
  fun world =>
    let (outcome, next) := (body handle).runOn world
    (outcome, connection.release handle next)

/-- Prepares a statement with all of its values for the time of an action. -/
def withStatement (statement : Statement) (body : Handle → Action World Result) :
    Action World Result :=
  connection.withPrepared statement.sql fun handle => do
    connection.bind handle statement.bindings 0
    body handle

def execute [connection.Finite] (statement : Statement) : Action World Unit :=
  connection.withStatement statement connection.runToEnd

def fetchAll [connection.Finite] (statement : Statement) : Action World (List Row) :=
  connection.withStatement statement fun handle => connection.readToEnd handle .ok

end Connection

end RecordMapper
