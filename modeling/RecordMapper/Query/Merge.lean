import RecordMapper.Query.JoinClause
import RecordMapper.Record.Hydration

set_option autoImplicit false

/-!
Joined rows beside the root's. The rows of every joined table are kept under the collection they
fill, and while a root row is read its collections get the rows whose key equals its own.
-/

namespace RecordMapper

structure JoinedRows where
  rootKey : String
  joinedKey : String
  keyKind : KeyKind
  rows : List Row
deriving DecidableEq, Repr

namespace JoinedRows

def matching (joined : JoinedRows) (record : RecordType) (field : String) (key : KeyValue) :
    List Row → Except Error (List Row)
  | [] => .ok []
  | row :: rest =>
      match row.getByName? joined.joinedKey with
      | none => .error (record.decodeError field (.missingJoinedKey joined.joinedKey))
      | some value =>
          match KeyValue.read joined.keyKind value with
          | .error error => .error error
          | .ok other =>
              (joined.matching record field key rest).map fun related =>
                if other.any key.joins then row :: related else related

/-- The rows that join with a root row. A root row without a key joins with none, and the joined
rows are not looked at. -/
def relatedTo (joined : JoinedRows) (record : RecordType) (field : String) (root : Row) :
    Except Error (List Row) :=
  match root.getByName? joined.rootKey with
  | none => .error (record.decodeError field (.missingRootKey joined.rootKey))
  | some value =>
      match KeyValue.read joined.keyKind value with
      | .error error => .error error
      | .ok none => .ok []
      | .ok (some key) => joined.matching record field key joined.rows

end JoinedRows

/-- The joined rows of a query, newest first, by the collection of the root that they fill. -/
structure MergeContext where
  root : RecordType
  joins : List (String × JoinedRows) := []
deriving DecidableEq, Repr

namespace MergeContext

/-- Keeps rows under a collection, in place of those kept there before. -/
def insert (context : MergeContext) (collection : String) (joined : JoinedRows) : MergeContext :=
  { context with joins := (collection, joined) :: context.joins }

def joined? (context : MergeContext) (collection : String) : Option JoinedRows :=
  (context.joins.find? (·.1 == collection)).map (·.2)

/-- Only collections of the root are filled. -/
def relatedRows (context : MergeContext) : RelatedRows :=
  fun record field root =>
    if record ≠ context.root then .ok none
    else
      match context.joined? field with
      | none => .ok none
      | some joined => (joined.relatedTo record field root).map some

/-- The column of a joined table's statement that holds the key of the root. -/
def joinedKeyColumn (join : Join) : String :=
  if join.pivot.isSome then pivotKeyColumn else join.rootMatch.name

end MergeContext

end RecordMapper
