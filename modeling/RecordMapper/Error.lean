set_option autoImplicit false

/-!
What can go wrong. Every failure of the library itself is a constructor that carries its cause;
`message` is the one place where a cause is put into words. Drivers report failures of their own
with a kind and words of their choice.
-/

namespace RecordMapper

inductive GenerationError.Kind where
  | commandUnset
  | noTables
  | unknownType
  | joinWithoutClause
  | orderingsNotConsumed
  | unresolvedField
  | duplicateTable
  | invalidStage
  | unsupportedValue
deriving DecidableEq, Repr

/-- A statement could not be rendered; nothing has reached the database. -/
inductive GenerationError where
  | commandUnset
  | noTables
  /-- An expression names a record type without a table in the query. -/
  | unknownType (record : String)
  /-- An ordering names a record type whose rows no statement selects. -/
  | unsortable (record : String)
  | joinWithoutClause (record : String)
  | orderingsNotConsumed
  | unresolvedField (owner field : String)
  | duplicateTable (record : String)
  | afterJoin (command : String)
  | nothingToUpdate
  | nothingToInsert
  | filteredInsert
  | reported (kind : GenerationError.Kind) (message : String)
deriving DecidableEq, Repr

namespace GenerationError

def kind : GenerationError → Kind
  | .commandUnset => .commandUnset
  | .noTables => .noTables
  | .unknownType _ => .unknownType
  | .unsortable _ => .unknownType
  | .joinWithoutClause _ => .joinWithoutClause
  | .orderingsNotConsumed => .orderingsNotConsumed
  | .unresolvedField _ _ => .unresolvedField
  | .duplicateTable _ => .duplicateTable
  | .afterJoin _ => .invalidStage
  | .nothingToUpdate => .invalidStage
  | .nothingToInsert => .invalidStage
  | .filteredInsert => .invalidStage
  | .reported kind _ => kind

def message : GenerationError → String
  | .commandUnset => "no command was set on the query"
  | .noTables => "no tables registered"
  | .unknownType record => s!"unknown type in where clause: {record}"
  | .unsortable record => s!"cannot order by a field of {record}"
  | .joinWithoutClause record => s!"join without a clause: {record}"
  | .orderingsNotConsumed => "orderings were not consumed; declare them after the last join"
  | .unresolvedField owner field => s!"{owner} has no column named '{field}'"
  | .duplicateTable record => s!"{record} is already part of this query"
  | .afterJoin command => s!"{command} cannot follow a join"
  | .nothingToUpdate => "update has no columns to set"
  | .nothingToInsert => "insert has no columns"
  | .filteredInsert => "insert does not take a where clause"
  | .reported _ message => message

end GenerationError

inductive QueryError.Kind where
  | syntaxError
  | constraint
  | notFound
  | permission
  | busy
  | bind
  | misuse
  | database
deriving DecidableEq, Repr

/-- A statement could not be prepared, bound or run. -/
structure QueryError where
  kind : QueryError.Kind
  message : String
  sql : Option String := none
  source : Option String := none
deriving DecidableEq, Repr

def QueryError.describe (error : QueryError) : String :=
  match error.sql with
  | some sql => s!"{error.message} (in `{sql}`)"
  | none => error.message

/-- A value is not of the expected type. -/
structure ConversionError where
  expected : String
  found : String
  column : Option String := none
deriving DecidableEq, Repr

def ConversionError.message (error : ConversionError) : String :=
  match error.column with
  | some column => s!"expected {error.expected} for column '{column}', found {error.found}"
  | none => s!"expected {error.expected}, found {error.found}"

inductive DecodeError.Kind where
  | missingColumn
  | missingJoin
  | missingKey
  | unsupportedKind
deriving DecidableEq, Repr

inductive DecodeError.Cause where
  | missingColumn
  | missingCount
  | missingJoin
  | missingRootKey (column : String)
  | missingJoinedKey (column : String)
  /-- A collection names a record type that the schema does not declare. -/
  | undeclaredRecord (name : String)
  | reported (kind : DecodeError.Kind) (message : String)
deriving DecidableEq, Repr

namespace DecodeError.Cause

def kind : DecodeError.Cause → Kind
  | .missingColumn => .missingColumn
  | .missingCount => .missingColumn
  | .missingJoin => .missingJoin
  | .missingRootKey _ => .missingKey
  | .missingJoinedKey _ => .missingKey
  | .undeclaredRecord _ => .unsupportedKind
  | .reported kind _ => kind

def message : DecodeError.Cause → String
  | .missingColumn => "row has no such column"
  | .missingCount => "count statement returned no count column"
  | .missingJoin => "collection field has no matching join"
  | .missingRootKey column => s!"root row has no '{column}' column to join on"
  | .missingJoinedKey column => s!"joined row has no '{column}' column"
  | .undeclaredRecord name => s!"record type '{name}' is not declared"
  | .reported _ message => message

end DecodeError.Cause

/-- One field of a record could not be read. -/
structure DecodeError where
  record : String
  field : String
  cause : DecodeError.Cause
deriving DecidableEq, Repr

def DecodeError.message (error : DecodeError) : String :=
  s!"{error.record}.{error.field}: {error.cause.message}"

inductive ConnectionError.Kind where
  | connect
  | close
deriving DecidableEq, Repr

structure ConnectionError where
  kind : ConnectionError.Kind
  message : String
  source : Option String := none
deriving DecidableEq, Repr

inductive TransactionError.Kind where
  | begin
  | commit
  /-- The body failed and so did the rollback that followed. -/
  | rollbackFailed
deriving DecidableEq, Repr

structure TransactionError where
  kind : TransactionError.Kind
  message : String
deriving DecidableEq, Repr

inductive SchemaError.Kind where
  | invalidIdentifier
  | missingPrimaryKey
  | columnNotFound
  | invalid
deriving DecidableEq, Repr

/-- A declared table cannot be described to the database. -/
inductive SchemaError where
  | invalidIdentifier (name : String)
  | primaryKeyNotFound (column table : String)
  | collectionColumn
  | emptyIndex (table : String)
  | reported (kind : SchemaError.Kind) (message : String)
deriving DecidableEq, Repr

namespace SchemaError

def kind : SchemaError → Kind
  | .invalidIdentifier _ => .invalidIdentifier
  | .primaryKeyNotFound _ _ => .columnNotFound
  | .collectionColumn => .invalid
  | .emptyIndex _ => .invalid
  | .reported kind _ => kind

def message : SchemaError → String
  | .invalidIdentifier name => s!"'{name}' is not a valid table or column name"
  | .primaryKeyNotFound column table => s!"primary key '{column}' is not a column of {table}"
  | .collectionColumn => "collection fields have no column type"
  | .emptyIndex table => s!"index on {table} needs at least one column"
  | .reported _ message => message

end SchemaError

structure ConfigurationError where
  message : String
  source : Option String := none
deriving DecidableEq, Repr

inductive Error where
  | generation (error : GenerationError)
  | query (error : QueryError)
  | conversion (error : ConversionError)
  | decode (error : DecodeError)
  | connection (error : ConnectionError)
  | transaction (error : TransactionError)
  | schema (error : SchemaError)
  | configuration (error : ConfigurationError)
  | custom (message : String)
deriving DecidableEq, Repr

namespace Error

/-- The words of an error without the name of its family. -/
def detail : Error → String
  | .generation error => error.message
  | .query error => error.describe
  | .conversion error => error.message
  | .decode error => error.message
  | .connection error => error.message
  | .transaction error => error.message
  | .schema error => error.message
  | .configuration error => error.message
  | .custom message => message

def family : Error → Option String
  | .generation _ => some "SQL generation error"
  | .query _ => some "Query error"
  | .conversion _ => some "Type error"
  | .decode _ => some "Decode error"
  | .connection _ => some "Connection error"
  | .transaction _ => some "Transaction error"
  | .schema _ => some "Schema error"
  | .configuration _ => some "Configuration error"
  | .custom _ => none

def message (error : Error) : String :=
  match error.family with
  | some family => s!"{family}: {error.detail}"
  | none => error.detail

def generationKind? : Error → Option GenerationError.Kind
  | .generation error => some error.kind
  | _ => none

def decodeKind? : Error → Option DecodeError.Kind
  | .decode error => some error.cause.kind
  | _ => none

def sql? : Error → Option String
  | .query error => error.sql
  | _ => none

def isConstraintViolation : Error → Bool
  | .query error => error.kind == .constraint
  | _ => false

/-- The words of the underlying failure, for the families that keep one. -/
def source? : Error → Option String
  | .connection error => error.source
  | .query error => error.source
  | .configuration error => error.source
  | _ => none

end Error

end RecordMapper
