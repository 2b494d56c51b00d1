import RecordMapper.Query.State

set_option autoImplicit false

/-!
Joins of a select. The root's statement joins only the tables that its filters name. Every table
that a join brought in has a statement of its own, which starts from that table and joins back to
the root.
-/

namespace RecordMapper

/-- The column that carries the root's key where a joined table is reached through a pivot. -/
def pivotKeyColumn : String :=
  "__sqlcrud_pivot_key__"

namespace JoinClause

variable {Buffer : Type}

def tableReference (delegate : Delegate Buffer) (table : Table) : Rendering Buffer String := do
  let name ← Rendering.quote delegate table.record.table
  let quotedAlias ← Rendering.quote delegate table.aliasName
  pure (name ++ " AS " ++ quotedAlias)

def on (delegate : Delegate Buffer) (scope : Scope) (record : RecordType)
    (left right : FieldRef) : Rendering Buffer String := do
  let table ← Action.ofOutcome (scope.lookup record)
  let reference ← tableReference delegate table
  let leftText ← Expr.renderField delegate scope left
  let rightText ← Expr.renderField delegate scope right
  pure ("JOIN " ++ reference ++ " ON " ++ leftText ++ " = " ++ rightText)

/-- The clauses that reach a record's table from the root, through its pivot if it has one. -/
def fromRoot (delegate : Delegate Buffer) (scope : Scope) (record : RecordType) :
    Rendering Buffer (List String) := do
  let join ← Action.ofOutcome (scope.lookupJoin record)
  match join.pivot with
  | none =>
      let clause ← on delegate scope record join.rootKey join.rootMatch
      pure [clause]
  | some pivot =>
      let pivotClause ← on delegate scope pivot.record join.rootKey join.rootMatch
      let clause ← on delegate scope record pivot.joinedKey pivot.joinedMatch
      pure [pivotClause, clause]

/-- The start of a joined table's own statement, up to the join with the root. Through a pivot
the rows also carry the root's key. -/
def joinedHead (delegate : Delegate Buffer) (scope : Scope) (table : Table) :
    Rendering Buffer String := do
  let join ← Action.ofOutcome (scope.lookupJoin table.record)
  match scope.tables.head? with
  | none => throw (.generation .noTables)
  | some root =>
      let quotedAlias ← Rendering.quote delegate table.aliasName
      let source ← tableReference delegate table
      match join.pivot with
      | none =>
          let rootClause ← on delegate scope root.record join.rootKey join.rootMatch
          pure ("SELECT DISTINCT " ++ quotedAlias ++ ".* FROM " ++ source ++ " " ++ rootClause)
      | some pivot =>
          let key ← Expr.renderField delegate scope join.rootKey
          let pivotClause ← on delegate scope pivot.record pivot.joinedKey pivot.joinedMatch
          let rootClause ← on delegate scope root.record join.rootKey join.rootMatch
          let keyName ← Rendering.quote delegate pivotKeyColumn
          pure ("SELECT DISTINCT " ++ quotedAlias ++ ".*, " ++ key ++ " AS " ++ keyName
            ++ " FROM " ++ source ++ " " ++ pivotClause ++ " " ++ rootClause)

/-- Checks that every record type an expression names has a table. -/
def checkReferenced (scope : Scope) : List RecordType → Except Error Unit
  | [] => .ok ()
  | record :: rest =>
      match scope.lookup record with
      | .ok _ => checkReferenced scope rest
      | .error error => .error error

/-- Of the tables, those to be joined into a statement on `current`: named by an expression, and
neither the root nor `current`. Each must have been brought in by a join. -/
def selectForced (scope : Scope) (root current : RecordType) (referenced : List RecordType) :
    List Table → Except Error (List RecordType)
  | [] => .ok []
  | table :: rest =>
      if table.record = root ∨ table.record = current ∨ table.record ∉ referenced then
        selectForced scope root current referenced rest
      else
        match scope.lookupJoin table.record with
        | .error error => .error error
        | .ok _ =>
            match selectForced scope root current referenced rest with
            | .error error => .error error
            | .ok forced => .ok (table.record :: forced)

/-- The record types that a statement on `current` must join because the filters name them, in
the order of the tables. A root alone forces nothing. -/
def forced (state : QueryState) (current : RecordType) :
    Rendering Buffer (List RecordType) := do
  match state.tables, state.condition? with
  | root :: _ :: _, some condition =>
      let referenced ← Rendering.counting condition.referencedTypes
      Action.ofOutcome do
        checkReferenced state.scope referenced
        selectForced state.scope root.record current referenced state.tables
  | _, _ => pure []

/-- The clauses of all forced joins, each after a blank. -/
def forcedClauses (delegate : Delegate Buffer) (state : QueryState) (current : RecordType) :
    Rendering Buffer String := do
  let records ← forced state current
  let clauses ← records.mapM (fromRoot delegate state.scope)
  pure (String.join (clauses.flatten.map (" " ++ ·)))

end JoinClause

end RecordMapper
