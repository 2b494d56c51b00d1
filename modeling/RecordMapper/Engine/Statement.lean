import RecordMapper.Binding
import RecordMapper.Engine.Storage
import RecordMapper.Row

set_option autoImplicit false

/-!
Prepared statements: their parameters and where they stand. A statement runs at its first step
and stands on a row while there is one; once a step finds no row or fails it stays at its end
until it is bound again, so one binding runs it at most once. What a step does is up to the
engine; here it is any computation that answers with a row, the end or a failure.
-/

namespace RecordMapper.Engine

/-- Where a statement stands. -/
inductive Position where
  | ready
  | row
  | done
deriving DecidableEq, Repr

inductive StepAnswer where
  | row
  | done
  | failed (error : Error)
deriving DecidableEq, Repr

structure Statement where
  sql : String
  columns : List String
  parameters : List Stored
  position : Position := .ready
deriving DecidableEq, Repr

namespace Statement

/-- A new statement; parameters that are not bound are NULL. -/
def prepared (sql : String) (columns : List String) (count : Nat) : Statement :=
  { sql, columns, parameters := List.replicate count .null }

def bindError (statement : Statement) (message : String) : Error :=
  .query { kind := .bind, message, sql := some statement.sql }

def overflow (statement : Statement) (index : Nat) (binding : Binding) : Error :=
  let number := (binding.value.signedOverflow?).getD 0
  statement.bindError <|
    s!"Failed to bind parameter {index + 1} ({binding.placeholder}): u64 value {number} " ++
      "exceeds the SQLite INTEGER range (max 9223372036854775807)"

def outOfRange (statement : Statement) (index : Nat) (binding : Binding) : Error :=
  let storageClass := (StorageClass.ofValue binding.value).name
  statement.bindError <|
    s!"Failed to bind {storageClass} to parameter {index + 1} ({binding.placeholder}): " ++
      "column index out of range"

/-- Sets one parameter; positions count from zero. The engine's own positions are signed 32-bit
numbers, so positions below 2^31 are meant. -/
def bindOne (statement : Statement) (index : Nat) (binding : Binding) :
    Except Error Statement :=
  match Stored.ofValue? binding.value with
  | none => .error (statement.overflow index binding)
  | some stored =>
      if index < statement.parameters.length then
        .ok { statement with parameters := statement.parameters.set index stored }
      else .error (statement.outOfRange index binding)

/-- Sets one parameter after the other. Those set before a failure stay. -/
def bindFrom (statement : Statement) (index : Nat) : List Binding → Except Error Unit × Statement
  | [] => (.ok (), statement)
  | binding :: rest =>
      match statement.bindOne index binding with
      | .ok next => next.bindFrom (index + 1) rest
      | .error error => (.error error, statement)

def rewind (statement : Statement) : Statement :=
  { statement with position := .ready }

def clear (statement : Statement) : Statement :=
  { statement with parameters := statement.parameters.map fun _ => .null }

/-- Binds the values from a position on. From the first position on, the parameters are cleared
before; otherwise those that are not set keep their values. -/
def bind (statement : Statement) (bindings : List Binding) (skip : Nat) :
    Except Error Unit × Statement :=
  let rewound := statement.rewind
  let start := if skip = 0 then rewound.clear else rewound
  start.bindFrom skip (bindings.drop skip)

/-- Moves to the next row. A statement at its end is not stepped. -/
def hasNext {World : Type} (step : StateM World StepAnswer) (statement : Statement) :
    StateM World (Except Error Bool × Statement) :=
  fun world =>
    if statement.position = .done then ((.ok false, statement), world)
    else
      match step world with
      | (.row, next) => ((.ok true, { statement with position := .row }), next)
      | (.done, next) => ((.ok false, { statement with position := .done }), next)
      | (.failed error, next) => ((.error error, { statement with position := .done }), next)

/-- Text that is not UTF-8 cannot be read. -/
def unreadable (column : String) (fault : Text.Utf8.Fault) : Error :=
  .conversion ⟨"UTF-8 text", s!"TEXT with invalid UTF-8: {fault.message}", some column⟩

/-- Reads the stored columns of a row; the first that cannot be read decides the failure. -/
def readColumns : List String → List Stored → Except Error (List Value)
  | column :: columns, stored :: rest =>
      match stored.toValue with
      | .error fault => .error (unreadable column fault)
      | .ok value => (readColumns columns rest).map (value :: ·)
  | _, _ => .ok []

def decodeRow (statement : Statement) (row : List Stored) : Except Error Row :=
  if statement.position = .row then
    (readColumns statement.columns row).map fun values => ⟨statement.columns, values⟩
  else
    .error (.query
      { kind := .misuse, message := "decode_row called while not positioned on a row"
        sql := some statement.sql })

end Statement

end RecordMapper.Engine
