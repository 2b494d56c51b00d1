import RecordMapper.Connection
import RecordMapper.Query.Merge

set_option autoImplicit false

/-!
Reading the records of a select. The statements of the joined tables are read to their end first;
the root's rows are then stepped through one at a time, each becoming a record with its
collections filled. The end or the first failure closes the cursor for good.
-/

namespace RecordMapper

structure Cursor (Handle : Type) where
  root : Handle
  merge : MergeContext
  done : Bool := false

namespace Cursor

variable {World Handle Result : Type} (connection : Connection World Handle)

/-- Reads the rows of every joined table into a merge context. -/
def buffer [connection.Finite] (context : MergeContext) :
    List (Table × Statement) → Action World MergeContext
  | [] => pure context
  | (table, statement) :: rest =>
      match table.join with
      | none => buffer context rest
      | some join => do
          let rows ← connection.fetchAll statement
          let joined : JoinedRows :=
            { rootKey := join.rootKey.name
              joinedKey := MergeContext.joinedKeyColumn join
              keyKind := join.keyKind
              rows }
          buffer (context.insert join.collection joined) rest

/-- Opens a cursor on the statements of a select for the time of an action. -/
def withOpen [connection.Finite] (record : RecordType) (state : QueryState)
    (body : Cursor Handle → Action World Result) : Action World Result :=
  match state.statements with
  | [] => throw (.custom "select produced no statements")
  | root :: joined =>
      connection.withStatement root fun handle => do
        let merge ← buffer connection { root := record } (state.joinedTables.zip joined)
        body { root := handle, merge }

def step (schema : Schema) (cursor : Cursor Handle) :
    Action World (Option HydratedRecord) :=
  connection.step cursor.root fun row =>
    cursor.merge.root.hydrate schema cursor.merge.relatedRows row

/-- The next record or failure, and the cursor after it. A closed cursor does not touch the
statement. -/
def next (schema : Schema) (cursor : Cursor Handle) :
    StateM World (Option (Except Error HydratedRecord) × Cursor Handle) :=
  fun world =>
    if cursor.done then ((none, cursor), world)
    else
      match (cursor.step connection schema).runOn world with
      | (.ok (some record), after) => ((some (.ok record), cursor), after)
      | (.ok none, after) => ((none, { cursor with done := true }), after)
      | (.error error, after) => ((some (.error error), { cursor with done := true }), after)

/-- The next `count` items. -/
def take (schema : Schema) :
    Nat → Cursor Handle → StateM World (List (Option (Except Error HydratedRecord)))
  | 0, _ => pure []
  | count + 1, cursor => do
      let (item, after) ← cursor.next connection schema
      let rest ← take schema count after
      pure (item :: rest)

def all [connection.Finite] (schema : Schema) (cursor : Cursor Handle) :
    Action World (List HydratedRecord) :=
  if cursor.done then pure []
  else
    connection.readToEnd cursor.root fun row =>
      cursor.merge.root.hydrate schema cursor.merge.relatedRows row

/-- The first item, without looking at later rows. -/
def first (schema : Schema) (cursor : Cursor Handle) :
    Action World (Option HydratedRecord) :=
  fun world =>
    match cursor.next connection schema world with
    | ((none, _), after) => (.ok none, after)
    | ((some (.ok record), _), after) => (.ok (some record), after)
    | ((some (.error error), _), after) => (.error error, after)

end Cursor

end RecordMapper
