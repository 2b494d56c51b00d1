import RecordMapper.Query.Draft
import RecordMapper.Query.Table

set_option autoImplicit false

/-!
Expressions of WHERE clauses and their SQL text. Values never enter the text: a literal other
than NULL becomes a placeholder of the delegate. A deferred expression is produced anew each
time it is needed; its producer sees how often it has been called before, and copies of an
expression share their producers.
-/

namespace RecordMapper

inductive Operator where
  | and
  | or
  | eq
  | ne
  | lt
  | le
  | gt
  | ge
deriving DecidableEq, Repr

namespace Operator

def all : List Operator :=
  [.and, .or, .eq, .ne, .lt, .le, .gt, .ge]

def name : Operator → String
  | .and => "and"
  | .or => "or"
  | .eq => "eq"
  | .ne => "ne"
  | .lt => "lt"
  | .le => "le"
  | .gt => "gt"
  | .ge => "ge"

instance : Named Operator := ⟨all, name, by intro operator; cases operator <;> rfl⟩

def text : Operator → String
  | .and => "AND"
  | .or => "OR"
  | .eq => "="
  | .ne => "<>"
  | .lt => "<"
  | .le => "<="
  | .gt => ">"
  | .ge => ">="

/-- How the operator is written against a literal NULL, where it tests for NULL. -/
def nullTest? : Operator → Option String
  | .eq => some "IS NULL"
  | .ne => some "IS NOT NULL"
  | _ => none

end Operator

inductive Expr where
  | field (reference : FieldRef)
  /-- A column name, quoted but never qualified. -/
  | column (name : String)
  | literal (value : Value)
  | binary (operator : Operator) (left right : Expr)
  | not (operand : Expr)
  /-- An expression that is produced when it is needed. -/
  | deferred (producer : ProducerId) (produce : Nat → Expr)

namespace Expr

def isNullLiteral : Expr → Bool
  | .literal .null => true
  | _ => false

def notTimes (operand : Expr) : Nat → Expr
  | 0 => operand
  | count + 1 => .not (operand.notTimes count)

def fold? (operator : Operator) : List Expr → Option Expr
  | [] => none
  | first :: rest => some (rest.foldl (.binary operator) first)

/-- The record types that field references name, in order and with repetitions. -/
def referencedTypes : Expr → StateM Calls (List RecordType)
  | .field reference => pure [reference.record]
  | .column _ => pure []
  | .literal _ => pure []
  | .binary _ left right => do
      let leftTypes ← left.referencedTypes
      let rightTypes ← right.referencedTypes
      pure (leftTypes ++ rightTypes)
  | .not operand => operand.referencedTypes
  | .deferred producer produce => do
      let call ← Calls.next producer
      (produce call).referencedTypes

variable {Buffer : Type}

/-- A field reference: its column, qualified where the scope asks for it. -/
def renderField (delegate : Delegate Buffer) (scope : Scope) (reference : FieldRef) :
    Rendering Buffer String := do
  match reference.column? with
  | none => throw (.generation (.unresolvedField reference.record.name reference.name))
  | some columnName =>
      let quoted ← Rendering.quote delegate columnName
      if scope.qualified then
        let table ← Action.ofOutcome (scope.lookup reference.record)
        let quotedAlias ← Rendering.quote delegate table.aliasName
        pure (quotedAlias ++ "." ++ quoted)
      else pure quoted

def render (delegate : Delegate Buffer) (scope : Scope) : Expr → Rendering Buffer String
  | .field reference => renderField delegate scope reference
  | .column name => Rendering.quote delegate name
  | .literal value =>
      if value.isNull then pure "NULL" else Rendering.bind delegate value
  | .binary operator left right => do
      let leftText ← left.render delegate scope
      match operator.nullTest?, right.isNullLiteral with
      | some test, true => pure (leftText ++ " " ++ test)
      | _, _ =>
          let rightText ← right.render delegate scope
          pure (leftText ++ " " ++ operator.text ++ " " ++ rightText)
  | .not operand => do
      let text ← operand.render delegate scope
      pure ("NOT " ++ text)
  | .deferred producer produce => do
      let call ← Rendering.counting (Calls.next producer)
      (produce call).render delegate scope

end Expr

end RecordMapper
