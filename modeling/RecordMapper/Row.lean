import RecordMapper.Error
import RecordMapper.Value.Native

set_option autoImplicit false

/-!
Result rows. Values are addressed by position or by column name; of several columns with one
name the last is meant. A row may hold fewer or more values than its result set has columns.
-/

namespace RecordMapper

structure Row where
  columns : List String
  values : List Value
deriving DecidableEq, Repr

namespace Row

def indexOf? (row : Row) (name : String) : Option Nat :=
  (row.columns.reverse.findIdx? (· == name)).map fun fromEnd => row.columns.length - 1 - fromEnd

def get? (row : Row) (index : Nat) : Option Value :=
  row.values[index]?

def getByName? (row : Row) (name : String) : Option Value :=
  (row.indexOf? name).bind row.get?

def containsColumn (row : Row) (name : String) : Bool :=
  (row.indexOf? name).isSome

def pairs (row : Row) : List (String × Value) :=
  row.columns.zip row.values

def mismatch (type : NativeType) (column : Option String) (reason : Mismatch) : Error :=
  .conversion ⟨type.expected, reason.found, column⟩

def getNamed (row : Row) (type : NativeType) (name : String) : Except Error type.Carrier :=
  match row.getByName? name with
  | none => .error (.conversion ⟨type.pathName, s!"column '{name}' not found", some name⟩)
  | some value => (type.decode value).mapError (mismatch type (some name))

end Row

/-- Reads a value outside any row as a native type. -/
def Value.read (type : NativeType) (value : Value) : Except Error type.Carrier :=
  (type.decode value).mapError (Row.mismatch type none)

end RecordMapper
