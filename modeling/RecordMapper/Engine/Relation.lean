import RecordMapper.Engine.Instruction

set_option autoImplicit false

/-!
Stored tables. Every row has an id, and rows are kept in the order of their ids. A column that is
declared as an integer primary key is the row id itself; other keys are indexes whose values may
not repeat.
-/

namespace RecordMapper.Engine

structure StoredColumn where
  name : String
  affinity : Affinity
  notNull : Bool := false
  /-- What a row gets that gives no value. -/
  default : Stored := .null
deriving DecidableEq, Repr

structure StoredRow where
  id : Int64
  values : List Stored
deriving DecidableEq, Repr

/-- Columns by their places. An index without a name belongs to the table's declaration. -/
structure Index where
  name : Option String
  columns : List Nat
  unique : Bool
deriving DecidableEq, Repr

structure Relation where
  name : String
  columns : List StoredColumn
  /-- The place of the column that is the row id. -/
  idColumn : Option Nat
  /-- The latest index stands first. -/
  indexes : List Index := []
  /-- The largest id given so far, where no id is given twice. -/
  lastId : Option Int64 := none
  rows : List StoredRow := []
deriving DecidableEq, Repr

/-- Names are told without regard to the case of ASCII letters. -/
def sameName (left right : String) : Bool :=
  left.map Char.toLower == right.map Char.toLower

/-- Whether a name stands for the row id, unless a column has that name. -/
def isIdName (name : String) : Bool :=
  ["rowid", "oid", "_rowid_"].any (sameName name)

namespace StoredRow

/-- The values of a row, and its id behind them. -/
def withId (row : StoredRow) : List Stored :=
  row.values ++ [.integer row.id]

end StoredRow

namespace Relation

/-! ## Columns -/

def columnIndex? (relation : Relation) (name : String) : Option Nat :=
  relation.columns.findIdx? fun column => sameName column.name name

/-- The place of the row id: the column that is it, or the place behind all columns. -/
def idPlace (relation : Relation) : Nat :=
  relation.idColumn.getD relation.columns.length

/-- The place of a column that is set, or of the row id. -/
def place? (relation : Relation) (name : String) : Option Nat :=
  match relation.columnIndex? name with
  | some index => some index
  | none => if isIdName name then some relation.idPlace else none

def idColumnName (relation : Relation) : String :=
  match relation.idColumn.bind (relation.columns[·]?) with
  | some column => column.name
  | none => "rowid"

def columnNames (relation : Relation) (places : List Nat) : List String :=
  places.filterMap fun place => relation.columns[place]?.map (·.name)

/-! ## Row ids -/

/-- The smallest id that no row has. -/
def freeId (relation : Relation) : Int64 :=
  let ids := (List.range (relation.rows.length + 1)).map fun count => Int64.ofNat (count + 1)
  (ids.find? fun id => relation.rows.all (·.id != id)).getD 1

/-- The id after the largest. Where that was the last one, a free id is taken, unless no id is
given twice. -/
def nextId (relation : Relation) : Except Failure Int64 :=
  let ids := (relation.rows.getLast?.map (·.id)).toList ++ relation.lastId.toList
  match ids.max? with
  | none => .ok 1
  | some largest =>
      if largest < Int64.maxValue then .ok (largest + 1)
      else if relation.lastId.isSome then .error .full
      else .ok relation.freeId

/-- The row id that a value asks for. NULL asks for none. -/
def askedId (stored : Stored) : Except Failure (Option Int64) :=
  match stored.keptBy .integer with
  | .null => .ok none
  | .integer id => .ok (some id)
  | _ => .error .mismatch

/-- The values as their columns keep them, with the row id in its place. -/
def kept (relation : Relation) (id : Int64) (values : List Stored) : List Stored :=
  relation.columns.zipWith (fun column stored => stored.keptBy column.affinity)
    (values.set relation.idPlace (.integer id))

/-! ## Constraints -/

/-- Whether two rows agree in the columns of an index. NULL agrees with nothing. -/
def agree (columns : List Nat) (left right : StoredRow) : Bool :=
  columns.all fun place =>
    let stored := left.values.getD place .null
    !stored.isNull && stored.order (right.values.getD place .null) == .eq

def repeatedKey? (relation : Relation) (others : List StoredRow) (row : StoredRow) :
    Option (List String) :=
  if others.any (·.id == row.id) then some [relation.idColumnName]
  else
    (relation.indexes.find? fun index =>
      index.unique && others.any (agree index.columns row)).map fun index =>
        relation.columnNames index.columns

def isInTheWay (relation : Relation) (row other : StoredRow) : Bool :=
  row.id == other.id
    || relation.indexes.any fun index => index.unique && agree index.columns row other

/-- The first column that takes no NULL but gets one. -/
def nullColumn? (relation : Relation) (values : List Stored) : Option StoredColumn :=
  ((relation.columns.zip values).find? fun (column, stored) =>
    column.notNull && stored.isNull).map (·.1)

/-- Puts defaults where NULL is not taken. -/
def withDefaults (relation : Relation) (values : List Stored) : List Stored :=
  relation.columns.zipWith (fun column stored =>
    if column.notNull && stored.isNull then column.default else stored) values

/-! ## Changes -/

def place (row : StoredRow) : List StoredRow → List StoredRow
  | [] => [row]
  | first :: rest =>
      if row.id.toInt < first.id.toInt then row :: first :: rest else first :: place row rest

/-- Adds a row among others. NULLs are found before repetitions. A row that is left out gives
nothing. -/
def addAmong (relation : Relation) (onConflict : OnConflict) (others : List StoredRow)
    (row : StoredRow) : Except Failure (Option (List StoredRow)) :=
  let values := if onConflict = .replace then relation.withDefaults row.values else row.values
  let row := { row with values }
  match relation.nullColumn? values, relation.repeatedKey? others row with
  | some column, _ =>
      if onConflict = .ignore then .ok none
      else .error (.nullColumn relation.name column.name)
  | none, none => .ok (some (place row others))
  | none, some columns =>
      match onConflict with
      | .ignore => .ok none
      | .replace => .ok (some (place row (others.filter fun other =>
          !relation.isInTheWay row other)))
      | _ => .error (.notUnique relation.name columns)

def newRow (relation : Relation) (values : List Stored) : Except Failure StoredRow := do
  let id ←
    match ← askedId (values.getD relation.idPlace .null) with
    | some asked => pure asked
    | none => relation.nextId
  pure ⟨id, relation.kept id values⟩

/-- Adds a new row, unless it is left out. -/
def insert (relation : Relation) (onConflict : OnConflict) (row : StoredRow) :
    Except Failure (Option Relation) := do
  let rows ← relation.addAmong onConflict relation.rows row
  pure (rows.map fun rows => { relation with rows, lastId := relation.lastId.map (max row.id) })

/-- Gives a row new values, with an id behind them that may be new, unless it is left out. -/
def replace (relation : Relation) (onConflict : OnConflict) (old : StoredRow)
    (values : List Stored) : Except Failure (Option Relation) := do
  match ← askedId (values.getD relation.idPlace .null) with
  | none => throw .mismatch
  | some id =>
      let others := relation.rows.filter (·.id != old.id)
      let rows ← relation.addAmong onConflict others ⟨id, relation.kept id values⟩
      pure (rows.map fun rows => { relation with rows })

/-! ## Keys -/

/-- Whether the values of columns may not repeat. -/
def isKey (relation : Relation) (places : List Nat) : Bool :=
  places == relation.idColumn.toList
    || relation.indexes.any fun index =>
      index.unique && index.columns.all places.contains && places.all index.columns.contains

/-- The row that repeats the key of columns, or any key when there are no columns. -/
def rowInTheWay? (relation : Relation) (places : List Nat) (row : StoredRow) :
    Option StoredRow :=
  relation.rows.find? fun other =>
    if places.isEmpty then relation.isInTheWay row other else agree places row other

/-! ## Indexes -/

/-- Adds an index, whose keys may not repeat if it is unique. -/
def withIndex (relation : Relation) (index : Index) : Except Failure Relation :=
  let grown := { relation with indexes := index :: relation.indexes }
  let repeated := relation.rows.any fun row =>
    relation.rows.any fun other => row.id != other.id && agree index.columns row other
  if index.unique && repeated then
    .error (.notUnique relation.name (relation.columnNames index.columns))
  else .ok grown

def hasIndex (name : String) (relation : Relation) : Bool :=
  relation.indexes.any fun index => index.name.any (sameName name)

def withoutIndex (name : String) (relation : Relation) : Relation :=
  { relation with
    indexes := relation.indexes.filter fun index => !index.name.any (sameName name) }

end Relation

/-! ## Content -/

abbrev Content := List Relation

namespace Content

def find? (content : Content) (name : String) : Option Relation :=
  List.find? (fun relation => sameName relation.name name) content

def find (content : Content) (name : String) : Except Failure Relation :=
  match content.find? name with
  | some relation => .ok relation
  | none => .error (.absent .table name)

def update (content : Content) (relation : Relation) : Content :=
  content.map fun old => if sameName old.name relation.name then relation else old

def remove (content : Content) (name : String) : Content :=
  content.filter fun relation => !sameName relation.name name

def hasIndex (content : Content) (name : String) : Bool :=
  content.any (Relation.hasIndex name)

end Content

end RecordMapper.Engine
