import RecordMapper.Engine.Function
import RecordMapper.Engine.Scope

set_option autoImplicit false

/-!
Operations and functions on resolved expressions. What an operation computes follows from the
values of its operands and, where it compares, from their affinities and collations.
-/

namespace RecordMapper.Engine

/-! ## Truth -/

def conjunction (left right : Option Bool) : Option Bool :=
  match left, right with
  | some false, _ => some false
  | _, some false => some false
  | some true, some true => some true
  | _, _ => none

def disjunction (left right : Option Bool) : Option Bool :=
  (conjunction (left.map (!·)) (right.map (!·))).map (!·)

/-- Whether some of the outcomes is true, if that is known. -/
def someTrue (outcomes : List (Option Bool)) : Option Bool :=
  outcomes.foldl disjunction (some false)

/-! ## Comparisons -/

def Collation.fold (collation : Collation) (stored : Stored) : Stored :=
  match collation, stored with
  | .caseless, .text bytes => .text (bytes.map Glyph.lowerByte)
  | .trimmed, .text bytes => .text (bytes.reverse.dropWhile (· == 32)).reverse
  | _, stored => stored

namespace Formula

/-- How the values of two operands compare, if neither is NULL. -/
def compareValues (left right : Formula) (first second : Stored) : Option Ordering :=
  let collation := (left.collation.or right.collation).getD .binary
  Stored.compareWith left.affinity right.affinity (collation.fold first) (collation.fold second)

/-- Whether two values agree, NULL agreeing with itself only. -/
def agree (left right : Formula) (first second : Stored) : Bool :=
  if first.isNull || second.isNull then first.isNull && second.isNull
  else compareValues left right first second == some .eq

/-- An operand of a list, which has no affinity of its own. -/
def listed (formula : Formula) : Formula :=
  { formula with affinity := .none }

/-- Whether a value is among others. -/
def isAmong (operand : Formula) (stored : Stored) (others : List (Formula × Stored)) :
    Option Bool :=
  someTrue (others.map fun (other, candidate) =>
    (compareValues operand (listed other) stored candidate).map (· == .eq))

/-- The operand behind the first condition that holds, else the last. -/
def chosen : List Stored → Stored
  | condition :: result :: rest => if condition.truth == some true then result else chosen rest
  | [otherwise] => otherwise
  | [] => .null

/-! ## Operations -/

def unaryValue (operation : Operation) (stored : Stored) : Stored :=
  match operation with
  | .negate => stored.opposite
  | .complement => stored.complement
  | .isNull => .ofTruth (some stored.isNull)
  | .not => .ofTruth (stored.truth.map (!·))
  | .cast affinity => stored.cast affinity
  | _ => stored

def binaryValue (operation : Operation) (left right : Formula) (first second : Stored) :
    Stored :=
  match operation with
  | .arithmetic operator => operator.evaluate first second
  | .concat => first.concat second
  | .compare comparison => .ofTruth ((compareValues left right first second).map comparison.holds)
  | .agrees => .ofTruth (some (agree left right first second))
  | .and => .ofTruth (conjunction first.truth second.truth)
  | .or => .ofTruth (disjunction first.truth second.truth)
  | _ => .null

def operate (operation : Operation) (operands : List Formula) (values : List Stored) : Stored :=
  match operation, operands, values with
  | .choose, _, _ => chosen values
  | .among, operand :: others, stored :: candidates =>
      .ofTruth (isAmong operand stored (others.zip candidates))
  | _, [_], [stored] => unaryValue operation stored
  | _, [left, right], [first, second] => binaryValue operation left right first second
  | _, _, _ => .null

def condition (formula : Formula) (environment : Environment) : Except Failure (Option Bool) :=
  match formula.sought with
  | some truth => truth environment
  | none => (formula.value environment).map Stored.truth

/-- Looks a row up by a constant id. A value that is no integer finds nothing. -/
def lookUp (id constant : Formula) (environment : Environment) :
    Except Failure (Option Bool) := do
  let present ← id.value environment
  let wanted := (← constant.value environment).keptBy .integer
  match wanted with
  | .null => pure none
  | .integer _ => pure (some (present == wanted))
  | _ => pure (some false)

/-- How an operation finds the truth of a condition on rows, where it looks an id up. -/
def soughtBy (operation : Operation) (operands : List Formula) :
    Option (Environment → Except Failure (Option Bool)) :=
  match operation, operands with
  | .compare .eq, [left, right] =>
      if left.isId && right.isConstant then some (lookUp left right)
      else if right.isId && left.isConstant then some (lookUp right left)
      else none
  | .and, [left, right] =>
      if left.sought.isSome || right.sought.isSome then
        some fun environment => do
          pure (conjunction (← left.condition environment) (← right.condition environment))
      else none
  | _, _ => none

/-- Casts have an affinity, and a collation stays with its operand. -/
def ofOperation (operation : Operation) (operands : List Formula) : Formula where
  affinity :=
    match operation, operands with
    | .cast affinity, _ => affinity
    | .collate _, [operand] => operand.affinity
    | _, _ => .none
  collation :=
    match operation with
    | .collate collation => some collation
    | _ => none
  isConstant := operands.all (·.isConstant)
  aggregate := operands.findSome? (·.aggregate)
  value := fun environment => do
    pure (operate operation operands (← operands.mapM fun operand => operand.value environment))
  sought := soughtBy operation operands

/-! ## Functions -/

/-- The functions that tell what the connection did. -/
def ofSession? (name : String) : Option (Environment → Stored) :=
  match name.map Char.toLower with
  | "last_insert_rowid" => some fun environment => .integer environment.lastRowId
  | "changes" => some fun environment => .ofNat environment.changes
  | _ => none

def ofScalar (function : ScalarFunction) (operands : List Formula) : Formula where
  isConstant := operands.all (·.isConstant)
  aggregate := operands.findSome? (·.aggregate)
  value := fun environment => do
    function.evaluate (← operands.mapM fun operand => operand.value environment)

/-- The values of an expression over the rows of a group, NULL left out. Without an expression
every row counts. -/
def overGroup (operands : List Formula) (environment : Environment) :
    Except Failure (List Stored) :=
  match operands.head? with
  | none => .ok (environment.group.map fun _ => .integer 1)
  | some operand => do
      let values ← environment.group.mapM fun row => operand.value (environment.withRow row)
      pure (values.filter fun stored => !stored.isNull)

/-- The first of all values that repeat each other. -/
def withoutRepetitions : List Stored → List Stored → List Stored
  | seen, [] => seen.reverse
  | seen, stored :: rest =>
      if seen.any fun old => old.order stored == .eq then withoutRepetitions seen rest
      else withoutRepetitions (stored :: seen) rest

/-- What stands between joined texts: the second operand, or a comma. -/
def separator (operands : List Formula) (environment : Environment) :
    Except Failure (List UInt8) :=
  match operands[1]? with
  | none => .ok (Text.Utf8.encode ",")
  | some operand => (operand.value environment).map Stored.textBytes

def ofAggregate (name : String) (aggregate : Aggregate) (distinct : Bool)
    (operands : List Formula) : Formula where
  aggregate := some name
  value := fun environment => do
    let values ← overGroup operands environment
    let separator ← separator operands environment
    aggregate.evaluate separator (if distinct then withoutRepetitions [] values else values)

/-! ## Conditions -/

/-- Whether all conditions hold; what is unknown does not. -/
def allHold (formulas : List Formula) (environment : Environment) : Except Failure Bool :=
  formulas.allM fun formula => do
    pure ((← formula.condition environment) == some true)

end Formula

end RecordMapper.Engine
