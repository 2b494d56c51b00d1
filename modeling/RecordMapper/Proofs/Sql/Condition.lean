import RecordMapper.Engine.Formula
import RecordMapper.Proofs.Sql.Clause
import RecordMapper.Proofs.Sql.Precedence
import RecordMapper.Row

set_option autoImplicit false

/-!
What a condition means for a combination of rows. Its tokens are grouped by the levels of their
operators, and its truth has three values: a comparison with NULL is neither true nor false.
-/

namespace RecordMapper.Sql

/-! ## Grouping -/

/-- What waits for its last operand. -/
inductive Frame where
  | group
  | not
  | binary (operator : Operator) (left : Phrase)

namespace Frame

def finish (operand : Phrase) : Frame → Phrase
  | .group => operand
  | .not => .not operand
  | .binary operator left => .binary operator left operand

/-- Whether a frame takes an operand before an operator of a level does. -/
def binds (level : Level) : Frame → Bool
  | .group => false
  | .not => level.rank ≤ Level.negation.rank
  | .binary operator _ => level.rank ≤ (operatorLevel operator).rank

/-- Finishes the frames that bind before a level. -/
def close (level : Level) : List Frame → Phrase → List Frame × Phrase
  | [], operand => ([], operand)
  | frame :: frames, operand =>
      if frame.binds level then close level frames (frame.finish operand)
      else (frame :: frames, operand)

end Frame

def operator? (token : Token) : Option Operator :=
  Operator.all.find? fun operator => operatorToken operator = token

/-- The value that a placeholder stands for: that of its number, else that of its position. -/
def parameter? (bindings : List Binding) (position : Nat) (text : String) : Option Phrase :=
  let digits := text.toList.tail
  let index := if digits.isEmpty then position else Nat.ofDigitChars 10 digits 0
  bindings[index - 1]?.map fun binding => .parameter index binding.value

/-- Groups the tokens of a condition, which may have parentheses. The position is that of the next
placeholder. -/
def grouping? (bindings : List Binding) :
    Nat → List Frame → Option Phrase → List Token → Option Phrase
  | _, _, none, [] => none
  | _, frames, some operand, [] =>
      match Frame.close .disjunction frames operand with
      | ([], phrase) => some phrase
      | _ => none
  | position, frames, none, .name qualifier :: .mark '.' :: .name column :: rest =>
      grouping? bindings position frames (some (.column ⟨some qualifier, column⟩)) rest
  | position, frames, none, .name column :: rest =>
      grouping? bindings position frames (some (.column ⟨none, column⟩)) rest
  | position, frames, none, .word "NULL" :: rest =>
      grouping? bindings position frames (some .null) rest
  | position, frames, none, .word "NOT" :: rest =>
      grouping? bindings position (.not :: frames) none rest
  | position, frames, none, .mark '(' :: rest =>
      grouping? bindings position (.group :: frames) none rest
  | position, frames, none, .word text :: rest =>
      match parameter? bindings position text with
      | some parameter => grouping? bindings (position + 1) frames (some parameter) rest
      | none => none
  | _, _, none, _ :: _ => none
  | position, frames, some operand, .mark ')' :: rest =>
      match Frame.close .disjunction frames operand with
      | (.group :: outer, phrase) => grouping? bindings position outer (some phrase) rest
      | _ => none
  | position, frames, some operand, .word "IS" :: .word "NOT" :: .word "NULL" :: rest =>
      let (outer, tested) := Frame.close .comparison frames operand
      grouping? bindings position outer (some (.nullTest true tested)) rest
  | position, frames, some operand, .word "IS" :: .word "NULL" :: rest =>
      let (outer, tested) := Frame.close .comparison frames operand
      grouping? bindings position outer (some (.nullTest false tested)) rest
  | position, frames, some operand, token :: rest =>
      match operator? token with
      | some operator =>
          let (outer, left) := Frame.close (operatorLevel operator) frames operand
          grouping? bindings position (.binary operator left :: outer) none rest
      | none => none

/-! ## Truth -/

/-- A row for every alias. -/
abbrev Environment := List (String × Row)

namespace Environment

def row? (environment : Environment) (aliasName : String) : Option Row :=
  (environment.find? (·.1 == aliasName)).map (·.2)

/-- The value of a column. A bare name means the one row that has such a column. -/
def value (environment : Environment) (name : ColumnName) : Value :=
  match name.qualifier with
  | some qualifier =>
      ((environment.row? qualifier).bind (·.getByName? name.column)).getD .null
  | none =>
      match environment.filterMap fun (_, row) => row.getByName? name.column with
      | [value] => value
      | _ => .null

end Environment

/-- How values compare, if they do. -/
abbrev Comparison := Value → Value → Option Ordering

variable {compare : Comparison}

namespace Comparison

/-- The integer that a value is, in whatever width. -/
def integer? : Value → Option Int
  | .tinyInt number => some number.toInt
  | .smallInt number => some number.toInt
  | .int number => some number.toInt
  | .bigInt number => some number.toInt
  | .unsigned number => some number.toNat
  | _ => none

/-- NULL compares with nothing, integers are equal as numbers and texts letter by letter. -/
structure Usual (compare : Comparison) : Prop where
  null : ∀ value, compare .null value = none ∧ compare value .null = none
  integers : ∀ {left right : Value} {first second : Int}, integer? left = some first →
    integer? right = some second → (compare left right = some .eq ↔ first = second)
  texts : ∀ left right : String, compare (.text left) (.text right) = some .eq ↔ left = right

/-- Compares integers and texts, and nothing else. -/
def plain : Comparison := fun left right =>
  match integer? left, integer? right with
  | some first, some second => some (Ord.compare first second)
  | _, _ =>
      match left, right with
      | .text first, .text second => some (Ord.compare first second)
      | _, _ => none

theorem plain_usual : plain.Usual where
  null value := by
    constructor
    · rfl
    · cases value <;> rfl
  integers := by
    intro left right first second isFirst isSecond
    unfold plain
    simp only [isFirst, isSecond, Option.some.injEq, Std.compare_eq_iff_eq]
  texts := by
    intro left right
    change some (Ord.compare left right) = some .eq ↔ _
    rw [Option.some.injEq, Std.compare_eq_iff_eq]

end Comparison

def ofTruth : Option Bool → Value
  | some truth => .bool truth
  | none => .null

def Comparison.apply (compare : Comparison) (operator : Operator) (left right : Value) : Value :=
  ofTruth <|
    match operator with
    | .and => Engine.conjunction left.toBool? right.toBool?
    | .or => Engine.disjunction left.toBool? right.toBool?
    | .eq => (compare left right).map Ordering.isEq
    | .ne => (compare left right).map Ordering.isNe
    | .lt => (compare left right).map Ordering.isLT
    | .le => (compare left right).map Ordering.isLE
    | .gt => (compare left right).map Ordering.isGT
    | .ge => (compare left right).map Ordering.isGE

def Phrase.value (compare : Comparison) (environment : Environment) : Phrase → Value
  | .column name => environment.value name
  | .null => .null
  | .parameter _ value => value
  | .nullTest negated operand => .bool ((operand.value compare environment).isNull != negated)
  | .binary operator left right =>
      compare.apply operator (left.value compare environment) (right.value compare environment)
  | .not operand => ofTruth ((operand.value compare environment).toBool?.map (!·))

/-- Whether a condition holds. What is neither true nor false does not. -/
def holds (compare : Comparison) (bindings : List Binding) (environment : Environment)
    (tokens : List Token) : Bool :=
  match grouping? bindings 1 [] none tokens with
  | some phrase => (phrase.value compare environment).toBool? == some true
  | none => false

theorem grouping_link (bindings : List Binding) (link : Link) :
    grouping? bindings 1 [] none (link.left.read ++ .operator "=" :: link.right.read) =
      some (.binary .eq (.column link.left) (.column link.right)) := by
  rcases link with ⟨source, ⟨_ | leftQualifier, leftColumn⟩, ⟨_ | rightQualifier, rightColumn⟩⟩ <;>
    rfl

end RecordMapper.Sql
