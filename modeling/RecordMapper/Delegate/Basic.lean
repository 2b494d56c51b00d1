import RecordMapper.Action
import RecordMapper.Binding
import RecordMapper.Record.Structure

set_option autoImplicit false

/-!
What a database driver decides while statements are rendered: the placeholders of bound values,
how names are quoted, how limits are written and how tables are created. A delegate works on a
buffer of its own, which holds at least the values bound since they were last taken.
-/

namespace RecordMapper

structure Delegate (Buffer : Type) where
  /-- The buffer of a new delegate. -/
  empty : Buffer
  /-- Registers a value and gives its placeholder. -/
  bind : Value → Action Buffer String
  /-- Hands the bound values over, in the order they were bound, and forgets them. -/
  takeBindings : Buffer → List Binding × Buffer
  quoteIdentifier : Buffer → String → Except Error String
  limitClause : UInt64 → UInt64 → StateM Buffer String
  createTable : TableStructure → CreatePolicy → Action Buffer (List String)
  /-- Creates an index of columns of a table, unique or not. -/
  createIndex : String → List String → Bool → Action Buffer (List String)

/-- The limit clause of a dialect without special cases. -/
def plainLimitClause (max skip : UInt64) : String :=
  if skip = 0 then
    if max = 0 then "" else s!"LIMIT {max}"
  else if max = 0 then s!"OFFSET {skip}"
  else s!"LIMIT {max} OFFSET {skip}"

end RecordMapper
