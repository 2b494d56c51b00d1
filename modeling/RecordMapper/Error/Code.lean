import RecordMapper.Error
import RecordMapper.Named

set_option autoImplicit false

/-!
Codes of errors: the family, and the kind within it where the family has kinds. A program may
branch on a code, whatever the words of the error are, and rebuild an error from its code and words.
-/

namespace RecordMapper

namespace GenerationError.Kind

def all : List GenerationError.Kind :=
  [.commandUnset, .noTables, .unknownType, .joinWithoutClause, .orderingsNotConsumed,
    .unresolvedField, .duplicateTable, .invalidStage, .unsupportedValue]

def name : GenerationError.Kind → String
  | .commandUnset => "CommandUnset"
  | .noTables => "NoTables"
  | .unknownType => "UnknownType"
  | .joinWithoutClause => "JoinWithoutClause"
  | .orderingsNotConsumed => "OrderingsNotConsumed"
  | .unresolvedField => "UnresolvedField"
  | .duplicateTable => "DuplicateTable"
  | .invalidStage => "InvalidStage"
  | .unsupportedValue => "UnsupportedValue"

instance : Named GenerationError.Kind := ⟨all, name, by intro kind; cases kind <;> rfl⟩

end GenerationError.Kind

namespace QueryError.Kind

def all : List QueryError.Kind :=
  [.syntaxError, .constraint, .notFound, .permission, .busy, .bind, .misuse, .database]

def name : QueryError.Kind → String
  | .syntaxError => "Syntax"
  | .constraint => "Constraint"
  | .notFound => "NotFound"
  | .permission => "Permission"
  | .busy => "Busy"
  | .bind => "Bind"
  | .misuse => "Misuse"
  | .database => "Database"

instance : Named QueryError.Kind := ⟨all, name, by intro kind; cases kind <;> rfl⟩

end QueryError.Kind

namespace DecodeError.Kind

def all : List DecodeError.Kind :=
  [.missingColumn, .missingJoin, .missingKey, .unsupportedKind]

def name : DecodeError.Kind → String
  | .missingColumn => "MissingColumn"
  | .missingJoin => "MissingJoin"
  | .missingKey => "MissingKey"
  | .unsupportedKind => "UnsupportedKind"

instance : Named DecodeError.Kind := ⟨all, name, by intro kind; cases kind <;> rfl⟩

end DecodeError.Kind

namespace ConnectionError.Kind

def all : List ConnectionError.Kind :=
  [.connect, .close]

def name : ConnectionError.Kind → String
  | .connect => "Connect"
  | .close => "Close"

instance : Named ConnectionError.Kind := ⟨all, name, by intro kind; cases kind <;> rfl⟩

end ConnectionError.Kind

namespace TransactionError.Kind

def all : List TransactionError.Kind :=
  [.begin, .commit, .rollbackFailed]

def name : TransactionError.Kind → String
  | .begin => "Begin"
  | .commit => "Commit"
  | .rollbackFailed => "RollbackFailed"

instance : Named TransactionError.Kind := ⟨all, name, by intro kind; cases kind <;> rfl⟩

end TransactionError.Kind

namespace SchemaError.Kind

def all : List SchemaError.Kind :=
  [.invalidIdentifier, .missingPrimaryKey, .columnNotFound, .invalid]

def name : SchemaError.Kind → String
  | .invalidIdentifier => "InvalidIdentifier"
  | .missingPrimaryKey => "MissingPrimaryKey"
  | .columnNotFound => "ColumnNotFound"
  | .invalid => "Invalid"

instance : Named SchemaError.Kind := ⟨all, name, by intro kind; cases kind <;> rfl⟩

end SchemaError.Kind

namespace Error

def code : Error → String
  | .generation error => "Generation." ++ error.kind.name
  | .query error => "Query." ++ error.kind.name
  | .conversion _ => "Type"
  | .decode error => "Decode." ++ error.cause.kind.name
  | .connection error => "Connection." ++ error.kind.name
  | .transaction error => "Transaction." ++ error.kind.name
  | .schema error => "Schema." ++ error.kind.name
  | .configuration _ => "Config"
  | .custom _ => "Custom"

structure Report where
  message : String := ""
  sql : Option String := none
  source : Option String := none
  expected : String := ""
  column : Option String := none
  record : String := ""
  field : String := ""

/-- The error of a family and a kind within it, in the words of a report. A family without kinds
takes no notice of the kind. -/
def ofReport? (family kind : String) (report : Report) : Option Error :=
  let message := report.message
  let source := report.source
  match family with
  | "Generation" => (Named.ofName? kind).map fun kind => .generation (.reported kind message)
  | "Query" =>
      (Named.ofName? kind).map fun kind => .query { kind, message, sql := report.sql, source }
  | "Type" =>
      some (.conversion
        { expected := report.expected, found := message, column := report.column })
  | "Decode" =>
      (Named.ofName? kind).map fun kind => .decode
        { record := report.record, field := report.field, cause := .reported kind message }
  | "Connection" => (Named.ofName? kind).map fun kind => .connection { kind, message, source }
  | "Transaction" => (Named.ofName? kind).map fun kind => .transaction { kind, message }
  | "Schema" => (Named.ofName? kind).map fun kind => .schema (.reported kind message)
  | "Config" => some (.configuration { message, source })
  | "Custom" => some (.custom message)
  | _ => none

end Error

end RecordMapper
