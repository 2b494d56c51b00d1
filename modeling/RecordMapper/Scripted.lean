import RecordMapper.Connection

set_option autoImplicit false

/-!
A connection that plays back responses written down in advance, for trying queries without an
engine. Each prepared statement takes the next response, which may fail at one of its stages.
Every call is recorded before it fails or succeeds.
-/

namespace RecordMapper.Scripted

/-- Where a response fails. -/
inductive Failure where
  | prepare
  | bind
  /-- Each time as many rows as this have been stepped to since the last bind. -/
  | next (after : Nat)
  /-- Each time the row of this index is read. -/
  | row (index : Nat)
deriving DecidableEq, Repr

structure Response where
  columns : List String := []
  rows : List (List Value) := []
  failure : Option Failure := none
  error : Error := .query ⟨.database, "scripted", none, none⟩

inductive Call where
  | prepare (sql : String)
  | bind (bindings : List Binding) (skip : Nat)
  | next
  | row
deriving DecidableEq, Repr

/-- A prepared statement: its response and the rows stepped to since the last bind. -/
structure Running where
  response : Response
  position : Nat := 0

def Running.rowsLeft (running : Running) : Nat :=
  running.response.rows.length - running.position

structure World where
  /-- Responses that no statement has taken. -/
  responses : List Response
  /-- Prepared statements; a handle is a place in this list. -/
  statements : List Running := []
  /-- The calls since the record was last cleared, newest first. -/
  calls : List Call := []

namespace World

def record (world : World) (call : Call) : World :=
  { world with calls := call :: world.calls }

def setPosition (world : World) (handle position : Nat) : World :=
  { world with
    statements := world.statements.modify handle fun running => { running with position } }

def rowsLeft (handle : Nat) (world : World) : Nat :=
  match world.statements[handle]? with
  | some running => running.rowsLeft
  | none => 0

end World

def prepare (sql : String) : Action World Nat :=
  fun world =>
    let response := world.responses.headD {}
    let taken := { world.record (.prepare sql) with responses := world.responses.tail }
    if response.failure = some .prepare then (.error response.error, taken)
    else
      (.ok taken.statements.length,
        { taken with statements := taken.statements ++ [{ response }] })

def missing : Error :=
  .query ⟨.misuse, "statement is not prepared", none, none⟩

def bind (handle : Nat) (bindings : List Binding) (skip : Nat) : Action World Unit :=
  fun world =>
    let recorded := world.record (.bind bindings skip)
    match world.statements[handle]? with
    | none => (.error missing, recorded)
    | some running =>
        let rewound := recorded.setPosition handle 0
        if running.response.failure = some .bind then (.error running.response.error, rewound)
        else (.ok (), rewound)

def hasNext (handle : Nat) : Action World Bool :=
  fun world =>
    let recorded := world.record .next
    match world.statements[handle]? with
    | none => (.error missing, recorded)
    | some running =>
        if running.response.failure = some (.next running.position) then
          (.error running.response.error, recorded)
        else if running.position < running.response.rows.length then
          (.ok true, recorded.setPosition handle (running.position + 1))
        else (.ok false, recorded)

def decodeRow (handle : Nat) : Action World Row :=
  fun world =>
    let recorded := world.record .row
    match world.statements[handle]? with
    | none => (.error missing, recorded)
    | some running =>
        let index := running.position - 1
        if running.response.failure = some (.row index) then
          (.error running.response.error, recorded)
        else
          match running.response.rows[index]? with
          | some values => (.ok ⟨running.response.columns, values⟩, recorded)
          | none => (.error missing, recorded)

theorem rowsLeft_record (handle : Nat) (world : World) (call : Call) :
    (world.record call).rowsLeft handle = world.rowsLeft handle := rfl

theorem hasNext_lt (handle : Nat) (world next : World)
    (stepped : (hasNext handle).runOn world = (.ok true, next)) :
    next.rowsLeft handle < world.rowsLeft handle := by
  unfold hasNext Action.runOn ExceptT.run at stepped
  dsimp only at stepped
  split at stepped
  · cases stepped
  · rename_i running found
    split at stepped
    · cases stepped
    · split at stepped
      · rename_i inside
        cases stepped
        simp only [World.rowsLeft, World.setPosition, World.record, found,
          List.getElem?_modify_eq, Option.map_eq_map, Option.map_some, Running.rowsLeft]
        omega
      · cases stepped

theorem decodeRow_le (handle : Nat) (world : World) :
    ((decodeRow handle).runOn world).2.rowsLeft handle ≤ world.rowsLeft handle := by
  have kept : ((decodeRow handle).runOn world).2 = world.record .row := by
    unfold decodeRow Action.runOn ExceptT.run
    dsimp only
    split
    · rfl
    · split
      · rfl
      · split <;> rfl
  exact Nat.le_of_eq (by rw [kept, rowsLeft_record])

def connection : Connection World Nat where
  prepare := prepare
  bind := bind
  hasNext := hasNext
  decodeRow := decodeRow
  release _ world := world

instance : connection.Finite := .ofRowsLeft World.rowsLeft hasNext_lt decodeRow_le

end RecordMapper.Scripted
