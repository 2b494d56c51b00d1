import RecordMapper.Named
import RecordMapper.Record.Basic
import RecordMapper.Record.Key

set_option autoImplicit false

/-!
The tables of a query. The first is the root; the others follow in the order in which joins
brought them in, each under an alias of its own.
-/

namespace RecordMapper

inductive Command where
  | unset
  | select
  | insert
  | update
  | delete
  | count
deriving DecidableEq, Repr

namespace Command

def all : List Command :=
  [.unset, .select, .insert, .update, .delete, .count]

def name : Command → String
  | .unset => "Unset"
  | .select => "Select"
  | .insert => "Insert"
  | .update => "Update"
  | .delete => "Delete"
  | .count => "Count"

instance : Named Command := ⟨all, name, by intro command; cases command <;> rfl⟩

end Command

/-- The second hop of a join through a table of pairs. -/
structure Pivot where
  record : RecordType
  /-- Key of the joined record. -/
  joinedKey : FieldRef
  /-- The field of the pivot that matches it. -/
  joinedMatch : FieldRef
deriving DecidableEq, Repr

structure Join where
  /-- The collection of the root that receives the rows. -/
  collection : String
  /-- Key of the root. -/
  rootKey : FieldRef
  /-- The field that matches it, of the joined record or of the pivot. -/
  rootMatch : FieldRef
  keyKind : KeyKind
  pivot : Option Pivot := none
deriving DecidableEq, Repr

structure Table where
  record : RecordType
  aliasName : String
  join : Option Join
deriving DecidableEq, Repr

/-- What field references of an expression are resolved against. They are qualified with the
alias of their table where a statement may have several tables. -/
structure Scope where
  tables : List Table
  qualified : Bool
deriving DecidableEq, Repr

namespace Scope

def table? (scope : Scope) (record : RecordType) : Option Table :=
  scope.tables.find? (·.record == record)

def lookup (scope : Scope) (record : RecordType) : Except Error Table :=
  match scope.table? record with
  | some table => .ok table
  | none => .error (.generation (.unknownType record.name))

def lookupJoin (scope : Scope) (record : RecordType) : Except Error Join :=
  match scope.lookup record with
  | .error error => .error error
  | .ok table =>
      match table.join with
      | some join => .ok join
      | none => .error (.generation (.joinWithoutClause record.name))

end Scope

end RecordMapper
