import RecordMapper.Engine.Formula

set_option autoImplicit false

/-!
Queries against the content of a database. Tables are joined in the order in which they are named,
rows that repeat are dropped, and what is left is sorted and cut. Expressions and queries are
resolved first, each within the scopes around it; values and rows then follow from an environment.
-/

namespace RecordMapper.Engine

/-! ## Tables -/

structure Product where
  columns : List ScopeColumn := []
  rows : Environment → Except Failure (List (List Stored))

namespace Product

/-- The product of no tables has one row. -/
def empty : Product :=
  { rows := fun _ => .ok [[]] }

def ofRelation (label : String) (relation : Relation) : Product :=
  { columns := Scope.ofRelation label relation
    rows := fun _ => .ok (relation.rows.map StoredRow.withId) }

/-- Joins every row with each further one that meets the conditions. A padded table gives NULLs
to a row that nothing joins. -/
def join (product further : Product) (padded : Bool) (conditions : List Formula) : Product :=
  { columns := product.columns ++ further.columns
    rows := fun environment => do
      let lefts ← product.rows environment
      let rights ← further.rows environment
      let joined ← lefts.mapM fun left => do
        let met ← (rights.map (left ++ ·)).filterM fun row =>
          Formula.allHold conditions (environment.enter row)
        pure (if padded && met.isEmpty then [left ++ further.columns.map fun _ => .null] else met)
      pure joined.flatten }

end Product

/-- The columns in which the tables of a database are listed. -/
def catalogColumns : List StoredColumn :=
  [("type", .text), ("name", .text), ("tbl_name", .text), ("rootpage", .integer), ("sql", .text)].map
    fun (name, affinity) => { name, affinity }

/-- The list of tables, which is itself read as a table. The text of declarations is not kept. -/
def Content.catalog (content : Content) (name : String) : Relation :=
  { name, columns := catalogColumns, idColumn := none
    rows := content.zipIdx.map fun (relation, place) =>
      let name := Stored.ofString relation.name
      ⟨.ofNat (place + 1), [.ofString "table", name, name, .ofNat (place + 2), .null]⟩ }

/-- A table that is read. -/
def Content.findReadable (content : Content) (name : String) : Except Failure Relation :=
  if ["sqlite_master", "sqlite_schema"].any (sameName name) then .ok (content.catalog name)
  else content.find name

/-! ## Answers -/

structure AnswerColumn where
  name : String
  affinity : Affinity := .none

structure Resolved where
  columns : List AnswerColumn
  rows : Environment → Except Failure (List (List Stored))

namespace Answered

def ofColumns (columns : List ScopeColumn) (keep : ScopeColumn → Bool) : List Answered :=
  (columns.zipIdx.filter fun (column, _) => !column.hidden && keep column).map
    fun (column, place) => ⟨column.name, Scope.formula 0 place column⟩

/-- The name of a column that has no name of its own. -/
def defaultName : Expression → String
  | .column _ name _ => name
  | .parameter number => s!"?{number}"
  | .call function _ [] => s!"{function}(*)"
  | _ => "column"

def allColumns (columns : List ScopeColumn) : Except Failure (List Answered) :=
  if columns.isEmpty then .error .noTables else .ok (ofColumns columns fun _ => true)

def columnsOf (columns : List ScopeColumn) (table : String) : Except Failure (List Answered) :=
  match ofColumns columns fun column => sameName column.label table with
  | [] => .error (.absent .table table)
  | found => .ok found

def column (answered : Answered) : AnswerColumn :=
  ⟨answered.name, answered.formula.affinity⟩

end Answered

/-! ## Repetitions and order -/

def sameRow (left right : List Stored) : Bool :=
  left.length == right.length && (left.zip right).all fun (first, second) =>
    first.order second == .eq

def hasRow (rows : List (List Stored)) (row : List Stored) : Bool :=
  rows.any (sameRow row)

/-- A row of the answer with the values it is sorted by. -/
structure SortedRow where
  values : List Stored
  keys : List Stored

/-- The first of all rows that repeat each other. -/
def dropRepetitions : List SortedRow → List SortedRow → List SortedRow
  | seen, [] => seen.reverse
  | seen, row :: rest =>
      if seen.any fun old => sameRow old.values row.values then dropRepetitions seen rest
      else dropRepetitions (row :: seen) rest

/-- What rows are sorted by. -/
structure SortKey where
  formula : Formula
  descending : Bool := false

/-- Whether the first keys do not come after the second. -/
def inOrder : List SortKey → List Stored → List Stored → Bool
  | key :: keys, left :: lefts, right :: rights =>
      let collation := key.formula.collation.getD .binary
      let (first, second) := (collation.fold left, collation.fold right)
      match if key.descending then second.order first else first.order second with
      | .lt => true
      | .gt => false
      | .eq => inOrder keys lefts rights
  | _, _, _ => true

def sortRows (keys : List SortKey) (rows : List SortedRow) : List SortedRow :=
  rows.mergeSort fun left right => inOrder keys left.keys right.keys

/-! ## Bounds -/

/-- A bound on rows, which must be a whole number. -/
def boundOf (formula : Formula) (environment : Environment) : Except Failure Int := do
  match (← formula.value environment).keptBy .numeric with
  | .integer bound => pure bound.toInt
  | _ => throw .mismatch

/-- Keeps at most a limit of rows after an offset. A negative limit bounds nothing. -/
def cut {Item : Type} (bounds : List Int) (rows : List Item) : List Item :=
  let rest := rows.drop (bounds.getD 1 0).toNat
  match bounds.head? with
  | none => rest
  | some limit => if limit < 0 then rest else rest.take limit.toNat

def Resolved.bounded (resolved : Resolved) (bounds : List Formula) : Resolved :=
  { resolved with
    rows := fun environment => do
      let bounds ← bounds.mapM fun bound => boundOf bound environment
      pure (cut bounds (← resolved.rows environment)) }

/-! ## Combinations -/

def distinctRows (rows : List (List Stored)) : List (List Stored) :=
  (dropRepetitions [] (rows.map fun values => ⟨values, []⟩)).map (·.values)

/-- The rows of a combination. Only one of them all keeps repetitions. -/
def Combination.rows (combination : Combination) (left right : List (List Stored)) :
    List (List Stored) :=
  match combination with
  | .unionAll => left ++ right
  | .union => distinctRows (left ++ right)
  | .except => distinctRows (left.filter fun row => !hasRow right row)
  | .intersect => distinctRows (left.filter (hasRow right))

def Resolved.combine (combination : Combination) (left right : Resolved) :
    Except Failure Resolved :=
  if left.columns.length = right.columns.length then
    .ok
      { columns := left.columns
        rows := fun environment => do
          pure (combination.rows (← left.rows environment) (← right.rows environment)) }
  else .error (.unevenQueries combination.name)

/-! ## Sorting by columns -/

/-- The column that a term of a sorted combination names, by its place or its name. -/
def columnOfTerm? (columns : List AnswerColumn) : Expression → Option Nat
  | .literal (.integer place) =>
      if 0 < place.toInt && place.toInt ≤ columns.length then some (place.toInt.toNat - 1)
      else none
  | .column none name _ => columns.findIdx? fun column => sameName column.name name
  | _ => none

/-- Refuses a place that no column has. -/
def checkPlace (clause : String) (columns index : Nat) (expression : Expression) :
    Except Failure Unit :=
  match expression with
  | .literal (.integer place) =>
      if 0 < place.toInt && place.toInt ≤ columns then .ok ()
      else .error (.termOutOfRange index clause columns)
  | _ => .ok ()

def Resolved.sorted (resolved : Resolved) (terms : List SortTerm) : Except Failure Resolved := do
  let keys ← terms.zipIdx.mapM fun (term, index) => do
    checkPlace "ORDER" resolved.columns.length (index + 1) term.expression
    match columnOfTerm? resolved.columns term.expression with
    | some place => pure (place, term.descending)
    | none => throw (.unmatchedTerm (index + 1))
  let sortKeys : List SortKey := keys.map fun (_, descending) =>
    ⟨Scope.constant .null, descending⟩
  pure
    { resolved with
      rows := fun environment => do
        let rows := (← resolved.rows environment).map fun values =>
          ⟨values, keys.map fun (place, _) => values.getD place .null⟩
        pure ((sortRows sortKeys rows).map (·.values)) }

/-! ## Groups -/

def groupRows (keys : List SortKey) (rows : List SortedRow) : List (List (List Stored)) :=
  ((sortRows keys rows).splitBy fun left right => sameRow left.keys right.keys).map
    fun group => group.map (·.values)

structure SelectionParts where
  product : Product
  conditions : List Formula
  outputs : List Answered
  groups : List Formula
  having : List Formula
  sorts : List SortKey
  distinct : Bool
  /-- Whether rows are taken together. -/
  isGrouped : Bool

namespace SelectionParts

def contexts (parts : SelectionParts) (environment : Environment) :
    Except Failure (List Environment) := do
  let rows ← (← parts.product.rows environment).filterM fun row =>
    Formula.allHold parts.conditions (environment.enter row)
  if !parts.isGrouped then pure (rows.map environment.enter)
  else if parts.groups.isEmpty then pure [environment.enterGroup rows]
  else
    let keyed ← rows.mapM fun row => do
      let keys ← parts.groups.mapM fun group => group.value (environment.enter row)
      pure (SortedRow.mk row keys)
    let keys := parts.groups.map fun formula => SortKey.mk formula false
    pure ((groupRows keys keyed).map environment.enterGroup)

def sortedRow (parts : SelectionParts) (environment : Environment) :
    Except Failure SortedRow := do
  let values ← parts.outputs.mapM fun output => output.formula.value environment
  let keys ← parts.sorts.mapM fun key => key.formula.value environment
  pure ⟨values, keys⟩

def rows (parts : SelectionParts) (environment : Environment) :
    Except Failure (List (List Stored)) := do
  let contexts ← parts.contexts environment
  let kept ← contexts.filterM fun context => Formula.allHold parts.having context
  let found ← kept.mapM parts.sortedRow
  let distinct := if parts.distinct then dropRepetitions [] found else found
  pure ((sortRows parts.sorts distinct).map (·.values))

def resolved (parts : SelectionParts) : Resolved :=
  { columns := parts.outputs.map Answered.column, rows := parts.rows }

end SelectionParts

/-! ## Queries inside of expressions -/

def checkColumns (resolved : Resolved) (wanted : Nat) : Except Failure Unit :=
  if resolved.columns.length = wanted then .ok ()
  else .error (.columnCount resolved.columns.length wanted)

def QueryUse.formula (use : QueryUse) (operands : List Formula) (resolved : Resolved) :
    Except Failure Formula :=
  match use with
  | .presence =>
      .ok { value := fun environment => do
              pure (.ofTruth (some (!(← resolved.rows environment).isEmpty))) }
  | .value => do
      checkColumns resolved 1
      pure
        { affinity := (resolved.columns.head?.map (·.affinity)).getD .none
          value := fun environment => do
            pure (((← resolved.rows environment).headD []).headD .null) }
  | .among => do
      checkColumns resolved 1
      let column : Formula := Scope.constant .null
      let operand := operands.headD column
      pure
        { aggregate := operand.aggregate
          value := fun environment => do
            let stored ← operand.value environment
            let candidates := (← resolved.rows environment).map fun row =>
              (column, row.headD .null)
            pure (.ofTruth (Formula.isAmong operand stored candidates)) }

/-! ## Resolution -/

/-- The scopes without groups, as an aggregate sees them. -/
def ungrouped : List Scope → List Scope
  | [] => []
  | scope :: outer => { scope with grouping := false } :: outer

def isGrouping (scopes : List Scope) : Bool :=
  scopes.head?.any (·.grouping)

def checkConditions (conditions : List Formula) : Except Failure Unit :=
  match conditions.findSome? (·.aggregate) with
  | some function => .error (.aggregateInCondition function)
  | none => .ok ()

/-- The output that a term names by its place. -/
def outputOfPlace? (outputs : List Answered) : Expression → Option Formula
  | .literal (.integer place) => (outputs[place.toInt.toNat - 1]?).map (·.formula)
  | _ => none

/-- The output that a term names by its place or its name. -/
def outputOfTerm? (outputs : List Answered) : Expression → Option Formula
  | .column none name _ =>
      (outputs.find? fun output => sameName output.name name).map (·.formula)
  | expression => outputOfPlace? outputs expression

mutual

def Expression.resolve (content : Content) (scopes : List Scope) :
    Expression → Except Failure Formula
  | .literal stored => .ok (Scope.constant stored)
  | .parameter number =>
      .ok
        { isConstant := true
          value := fun environment => .ok (environment.parameters.getD (number - 1) .null) }
  | .column table name quoted => Scope.resolve scopes table name quoted
  | .apply operation operands => do
      pure (.ofOperation operation (← resolveAll content scopes operands))
  | .call function distinct operands =>
      match Aggregate.find? function operands.length, Formula.ofSession? function with
      | some aggregate, _ => do
          if !aggregate.takes operands.length then throw (.argumentCount function)
          if !isGrouping scopes then throw (.misusedAggregate function)
          pure (.ofAggregate function aggregate distinct
            (← resolveAll content (ungrouped scopes) operands))
      | none, some value =>
          if operands.isEmpty then .ok { value := fun environment => .ok (value environment) }
          else .error (.argumentCount function)
      | none, none =>
          match ScalarFunction.find? function with
          | none => .error (.absent .function function)
          | some scalar => do
              if !scalar.takes operands.length then throw (.argumentCount function)
              pure (.ofScalar scalar (← resolveAll content scopes operands))
  | .query use operands query => do
      let operands ← resolveAll content scopes operands
      use.formula operands (← query.resolve content (ungrouped scopes))

def resolveAll (content : Content) (scopes : List Scope) :
    List Expression → Except Failure (List Formula)
  | [] => .ok []
  | expression :: rest => do
      let formula ← expression.resolve content scopes
      let formulas ← resolveAll content scopes rest
      pure (formula :: formulas)

def resolveRows (content : Content) (scopes : List Scope) :
    List (List Expression) → Except Failure (List (List Formula))
  | [] => .ok []
  | row :: rest => do
      let formulas ← resolveAll content scopes row
      let others ← resolveRows content scopes rest
      pure (formulas :: others)

def Output.resolve (content : Content) (scopes : List Scope) (columns : List ScopeColumn) :
    Output → Except Failure (List Answered)
  | .all => Answered.allColumns columns
  | .allOf table => Answered.columnsOf columns table
  | .value expression name => do
      let formula ← expression.resolve content scopes
      pure [⟨name.getD (Answered.defaultName expression), formula⟩]

def resolveOutputs (content : Content) (scopes : List Scope) (columns : List ScopeColumn) :
    List Output → Except Failure (List Answered)
  | [] => .ok []
  | output :: rest => do
      let first ← output.resolve content scopes columns
      let others ← resolveOutputs content scopes columns rest
      pure (first ++ others)

def Table.resolve (content : Content) (scopes : List Scope) (label : String) :
    Table → Except Failure Product
  | .named name => (content.findReadable name).map (Product.ofRelation label)
  | .query query => do
      let resolved ← query.resolve content scopes
      pure
        { columns := resolved.columns.map fun column =>
            { label, name := column.name, affinity := column.affinity }
          rows := resolved.rows }

def resolveSources (content : Content) (scopes : List Scope) (product : Product) :
    List Source → Except Failure Product
  | [] => .ok product
  | ⟨table, label, padded, on⟩ :: rest => do
      let further ← table.resolve content scopes label
      let columns := product.columns ++ further.columns
      let conditions ← resolveAll content ({ columns } :: scopes) on
      resolveSources content scopes (product.join further padded conditions) rest

/-- What a selection is sorted by. A term may name an output by its place or its name. -/
def resolveSorts (content : Content) (scopes : List Scope) (outputs : List Answered)
    (index : Nat) : List SortTerm → Except Failure (List SortKey)
  | [] => .ok []
  | ⟨expression, descending⟩ :: rest => do
      checkPlace "ORDER" outputs.length index expression
      let formula ←
        match outputOfTerm? outputs expression with
        | some formula => pure formula
        | none => expression.resolve content scopes
      let others ← resolveSorts content scopes outputs (index + 1) rest
      pure (⟨formula, descending⟩ :: others)

/-- What the rows of a selection are grouped by. A term may name an output by its place. -/
def resolveGroups (content : Content) (scopes : List Scope) (outputs : List Answered)
    (index : Nat) : List Expression → Except Failure (List Formula)
  | [] => .ok []
  | expression :: rest => do
      checkPlace "GROUP" outputs.length index expression
      let formula ←
        match outputOfPlace? outputs expression with
        | some formula => pure formula
        | none => expression.resolve content scopes
      if formula.aggregate.isSome then throw .groupedAggregate
      let others ← resolveGroups content scopes outputs (index + 1) rest
      pure (formula :: others)

def Selection.resolve (content : Content) (scopes : List Scope) :
    Selection → Except Failure Resolved
  | ⟨distinct, outputs, sources, conditions, groups, having, sorts⟩ => do
      let product ← resolveSources content scopes .empty sources
      let scope : Scope := { columns := product.columns, grouping := true }
      let answered ← resolveOutputs content (scope :: scopes) product.columns outputs
      let isGrouped := !groups.isEmpty || answered.any (·.formula.aggregate.isSome)
      if !having.isEmpty && !isGrouped then throw .plainHaving
      let scopes := { scope with outputs := answered, grouping := isGrouped } :: scopes
      let having ← resolveAll content scopes having
      let conditions ← resolveAll content scopes conditions
      checkConditions conditions
      let sorts ← resolveSorts content scopes answered 1 sorts
      let groups ← resolveGroups content scopes answered 1 groups
      pure (SelectionParts.resolved
        { product, conditions, outputs := answered, groups, having, sorts, distinct, isGrouped })

def Query.resolve (content : Content) (scopes : List Scope) : Query → Except Failure Resolved
  | .select selection => selection.resolve content scopes
  | .values rows => do
      let formulas ← resolveRows content ({} :: scopes) rows
      let width := (formulas.headD []).length
      pure
        { columns := (List.range width).map fun place => { name := s!"column{place + 1}" }
          rows := fun environment =>
            formulas.mapM fun row => row.mapM fun formula =>
              formula.value (environment.enter []) }
  | .combine combination left right => do
      let first ← left.resolve content scopes
      let second ← right.resolve content scopes
      first.combine combination second
  | .sorted query terms => do
      (← query.resolve content scopes).sorted terms
  | .bounded query bounds => do
      let resolved ← query.resolve content scopes
      let bounds ← resolveAll content [] bounds
      pure (resolved.bounded bounds)

end

end RecordMapper.Engine
