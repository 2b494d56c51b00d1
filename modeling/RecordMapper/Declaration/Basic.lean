import RecordMapper.Declaration.FieldShape
import RecordMapper.Declaration.TableName
import RecordMapper.Named

set_option autoImplicit false

/-!
Declarations of records. A declaration is read into a table name and fields with their shapes;
attributes of the `crud` family set the table name and mark the primary key. The first thing that
cannot be read decides the failure.
-/

namespace RecordMapper.Declaration

inductive Literal where
  | text (value : String)
  | other
deriving DecidableEq, Repr

inductive AttributeItem where
  /-- `table` with a value. -/
  | table (value : Literal)
  | word (name : String)
deriving DecidableEq, Repr

inductive Attribute where
  /-- An attribute of another family. -/
  | foreign
  /-- Without parentheses. -/
  | bare
  | items (items : List AttributeItem)
deriving DecidableEq, Repr

inductive ItemForm where
  | namedFields
  | tuple
  | unit
  | enumeration
  | union
deriving DecidableEq, Repr

namespace ItemForm

def all : List ItemForm :=
  [.namedFields, .tuple, .unit, .enumeration, .union]

def name : ItemForm → String
  | .namedFields => "struct"
  | .tuple => "tuple"
  | .unit => "unit"
  | .enumeration => "enum"
  | .union => "union"

instance : Named ItemForm := ⟨all, name, by intro form; cases form <;> rfl⟩

end ItemForm

structure FieldSource where
  name : String
  type : TypeExpr
  attributes : List Attribute

structure Source where
  name : String
  generic : Bool
  attributes : List Attribute
  form : ItemForm
  fields : List FieldSource

/-- Why a declaration cannot be read. -/
inductive Failure where
  | generic
  | duplicateTable
  | tableWithoutValue
  | tableNotText
  | unknownOnRecord
  | unknownOnField
  | bareAttribute
  | enumeration
  | union
  | tuple
  | unit
  | shape (error : ShapeError)
  | collectionKey
deriving DecidableEq, Repr

def Failure.message : Failure → String
  | .generic => "Record cannot be derived for generic structs"
  | .duplicateTable => "duplicate crud attribute: table"
  | .tableWithoutValue => "expected `=`"
  | .tableNotText => "expected string literal for table name"
  | .unknownOnRecord => "unknown crud attribute on struct"
  | .unknownOnField => "unknown crud attribute on field"
  | .bareAttribute => "expected attribute arguments in parentheses: #[crud(...)]"
  | .enumeration => "Record can only be derived for structs, not enums"
  | .union => "Record can only be derived for structs, not unions"
  | .tuple => "Record requires a struct with named fields, not a tuple struct"
  | .unit => "Record requires a struct with fields, not a unit struct"
  | .shape error => error.message
  | .collectionKey => "a collection field cannot be the primary key"

structure FieldEntry where
  name : String
  /-- The name without the mark of a raw name. -/
  columnName : String
  shape : FieldShape
  primaryKey : Bool

structure Entry where
  name : String
  table : String
  fields : List FieldEntry

def plainName (name : String) : String :=
  match name.toList with
  | 'r' :: '#' :: rest => String.ofList rest
  | _ => name

/-! ## Attributes -/

/-- Reads one item after another, over all attributes in order. -/
def foldItems {State : Type} (step : State → AttributeItem → Except Failure State) :
    State → List Attribute → Except Failure State
  | state, [] => .ok state
  | state, .foreign :: rest => foldItems step state rest
  | _, .bare :: _ => .error .bareAttribute
  | state, .items items :: rest =>
      match items.foldlM step state with
      | .ok next => foldItems step next rest
      | .error failure => .error failure

def readTableItem (table : Option String) : AttributeItem → Except Failure (Option String)
  | .table value =>
      match table, value with
      | some _, _ => .error .duplicateTable
      | none, .text name => .ok (some name)
      | none, .other => .error .tableNotText
  | .word name =>
      if name = "table" then
        .error (if table.isSome then .duplicateTable else .tableWithoutValue)
      else .error .unknownOnRecord

def readTable (attributes : List Attribute) : Except Failure (Option String) :=
  foldItems readTableItem none attributes

def readFieldItem (_ : Bool) : AttributeItem → Except Failure Bool
  | .word "primary_key" => .ok true
  | _ => .error .unknownOnField

def readPrimaryKey (attributes : List Attribute) : Except Failure Bool :=
  foldItems readFieldItem false attributes

/-! ## Records -/

def readField (source : FieldSource) : Except Failure FieldEntry := do
  let shape ← source.type.shape.mapError .shape
  let primaryKey ← readPrimaryKey source.attributes
  if primaryKey && shape.column?.isNone then .error .collectionKey
  else
    .ok { name := source.name, columnName := plainName source.name, shape, primaryKey }

def readFields (form : ItemForm) (fields : List FieldSource) : Except Failure (List FieldEntry) :=
  match form with
  | .namedFields => fields.mapM readField
  | .tuple => .error .tuple
  | .unit => .error .unit
  | .enumeration => .error .enumeration
  | .union => .error .union

/-- Reads a declaration. Generics come before attributes, and these before the fields. -/
def Source.read (source : Source) : Except Failure Entry := do
  if source.generic then .error .generic
  else
    let table ← readTable source.attributes
    let fields ← readFields source.form source.fields
    .ok { name := source.name, table := table.getD (TableName.ofRecordName source.name), fields }

/-- Whether generics have parameters. Conditions behind `where` are none. -/
def hasParameters (generics : String) : Bool :=
  match Token.ofText generics with
  | .mark '<' _ :: .mark '>' _ :: _ => false
  | .mark '<' _ :: _ => true
  | _ => false

end RecordMapper.Declaration
