import RecordMapper.Proofs.Sql.Token
import RecordMapper.Query.Expr

set_option autoImplicit false

/-!
What an expression is written as: columns under their qualifiers, values as numbered parameters and
no parentheses. Every phrase has a text and the tokens that the text reads as.
-/

namespace RecordMapper.Sql

/-- A column as it is written, under an alias where names are qualified. -/
structure ColumnName where
  qualifier : Option String
  column : String
deriving DecidableEq, Repr

namespace ColumnName

def text (dialect : Dialect) (name : ColumnName) : String :=
  match name.qualifier with
  | none => dialect.quoteIdentifier name.column
  | some qualifier =>
      dialect.quoteIdentifier qualifier ++ "." ++ dialect.quoteIdentifier name.column

def read (name : ColumnName) : List Token :=
  match name.qualifier with
  | none => [.name name.column]
  | some qualifier => [.name qualifier, .mark '.', .name name.column]

theorem spells (dialect : Dialect) (name : ColumnName) :
    Spells dialect (name.text dialect) name.read := by
  rcases name with ⟨_ | qualifier, column⟩
  · exact spells_name dialect column
  · have dotted : Follows dialect ("." ++ dialect.quoteIdentifier column)
        [.mark '.', .name column] := (spells_name dialect column).marked '.' (by decide)
    change Spells dialect (_ ++ "." ++ _) ([_] ++ _)
    rw [String.append_assoc]
    exact (spells_name dialect qualifier).append dotted

end ColumnName

def operatorToken : Operator → Token
  | .and => .word "AND"
  | .or => .word "OR"
  | .eq => .operator "="
  | .ne => .operator "<>"
  | .lt => .operator "<"
  | .le => .operator "<="
  | .gt => .operator ">"
  | .ge => .operator ">="

theorem spells_operatorToken (dialect : Dialect) (operator : Operator) :
    Spells dialect operator.text [operatorToken operator] := by
  cases operator with
  | and => exact spells_keyword dialect "AND" (by decide)
  | or => exact spells_keyword dialect "OR" (by decide)
  | eq | ne | lt | le | gt | ge => exact spells_operator (by decide) (by cases dialect <;> decide)

/-- A bound value and its number among those of the statement. -/
structure Parameter where
  index : Nat
  value : Value

def Parameter.binding (dialect : Dialect) (parameter : Parameter) : Binding :=
  ⟨dialect.placeholder parameter.index, parameter.value⟩

inductive Phrase where
  | column (name : ColumnName)
  | null
  | parameter (index : Nat) (value : Value)
  | nullTest (negated : Bool) (operand : Phrase)
  | binary (operator : Operator) (left right : Phrase)
  | not (operand : Phrase)

namespace Phrase

def text (dialect : Dialect) : Phrase → String
  | .column name => name.text dialect
  | .null => "NULL"
  | .parameter index _ => dialect.placeholder index
  | .nullTest negated operand =>
      operand.text dialect ++ " " ++ (if negated then "IS NOT NULL" else "IS NULL")
  | .binary operator left right =>
      left.text dialect ++ " " ++ operator.text ++ " " ++ right.text dialect
  | .not operand => "NOT " ++ operand.text dialect

def read (dialect : Dialect) : Phrase → List Token
  | .column name => name.read
  | .null => [.word "NULL"]
  | .parameter index _ => [.word (dialect.placeholder index)]
  | .nullTest negated operand =>
      operand.read dialect ++
        (if negated then [.word "IS", .word "NOT", .word "NULL"] else [.word "IS", .word "NULL"])
  | .binary operator left right =>
      left.read dialect ++ [operatorToken operator] ++ right.read dialect
  | .not operand => .word "NOT" :: operand.read dialect

theorem spells (dialect : Dialect) (phrase : Phrase) :
    Spells dialect (phrase.text dialect) (phrase.read dialect) := by
  induction phrase with
  | column name => exact name.spells dialect
  | null => exact spells_keyword dialect "NULL" (by decide)
  | parameter index value => exact spells_placeholder dialect index
  | nullTest negated operand ih =>
      have nullWord := spells_keyword dialect "NULL" (by decide)
      cases negated with
      | false => exact ih.spaced ((spells_keyword dialect "IS" (by decide)).spaced nullWord)
      | true =>
          have notWord := spells_keyword dialect "NOT" (by decide)
          have isWord := spells_keyword dialect "IS" (by decide)
          exact ih.spaced ((isWord.spaced notWord).spaced nullWord)
  | binary operator left right leftIH rightIH =>
      exact (leftIH.spaced (spells_operatorToken dialect operator)).spaced rightIH
  | not operand ih => exact (spells_keyword dialect "NOT" (by decide)).spaced ih

def parameters : Phrase → List Parameter
  | .column _ => []
  | .null => []
  | .parameter index value => [⟨index, value⟩]
  | .nullTest _ operand => operand.parameters
  | .binary _ left right => left.parameters ++ right.parameters
  | .not operand => operand.parameters

def columns : Phrase → List ColumnName
  | .column name => [name]
  | .null => []
  | .parameter _ _ => []
  | .nullTest _ operand => operand.columns
  | .binary _ left right => left.columns ++ right.columns
  | .not operand => operand.columns

end Phrase

def bindings (dialect : Dialect) (parameters : List Parameter) : List Binding :=
  parameters.map (·.binding dialect)

@[simp] theorem bindings_nil (dialect : Dialect) : bindings dialect [] = [] := rfl

@[simp] theorem bindings_append (dialect : Dialect) (first second : List Parameter) :
    bindings dialect (first ++ second) = bindings dialect first ++ bindings dialect second :=
  List.map_append

end RecordMapper.Sql
