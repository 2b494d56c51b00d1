import RecordMapper.Proofs.Query.Bindings

set_option autoImplicit false

/-!
One deferred expression among the filters of a query. The search for record types and the renderer
each reach it once, and its producer is called then and at no other time. So each of them does what
it would do if the producer gave at every call what it gives at that one.
-/

namespace RecordMapper

namespace Expr

/-- The producer occurs nowhere in the expression, nor in one that it produces. -/
inductive Avoids (producer : ProducerId) : Expr → Prop where
  | field (reference : FieldRef) : Avoids producer (.field reference)
  | column (name : String) : Avoids producer (.column name)
  | literal (value : Value) : Avoids producer (.literal value)
  | binary {operator : Operator} {left right : Expr} :
      Avoids producer left → Avoids producer right → Avoids producer (.binary operator left right)
  | not {operand : Expr} : Avoids producer operand → Avoids producer (.not operand)
  | deferred {other : ProducerId} {produce : Nat → Expr} :
      other ≠ producer → (∀ call, Avoids producer (produce call)) →
      Avoids producer (.deferred other produce)

/-- A deferred expression occurs once, outside of other deferred ones, and its producer nowhere
else. -/
inductive Once (producer : ProducerId) (produce : Nat → Expr) : Expr → Prop where
  | here : (∀ call, (produce call).Avoids producer) →
      Once producer produce (.deferred producer produce)
  | left {operator : Operator} {left right : Expr} :
      Once producer produce left → right.Avoids producer →
      Once producer produce (.binary operator left right)
  | right {operator : Operator} {left right : Expr} :
      left.Avoids producer → Once producer produce right →
      Once producer produce (.binary operator left right)
  | not {operand : Expr} : Once producer produce operand → Once producer produce (.not operand)

/-- A deferred expression as `Once`, in one of the filters. -/
inductive OnceAmong (producer : ProducerId) (produce : Nat → Expr) : List Expr → Prop where
  | head {filter : Expr} {filters : List Expr} :
      Once producer produce filter → (∀ other ∈ filters, other.Avoids producer) →
      OnceAmong producer produce (filter :: filters)
  | tail {filter : Expr} {filters : List Expr} :
      filter.Avoids producer → OnceAmong producer produce filters →
      OnceAmong producer produce (filter :: filters)

/-- The expression whose producer gives at every call what it gives at one. -/
def atCall (producer : ProducerId) (call : Nat) : Expr → Expr
  | .field reference => .field reference
  | .column name => .column name
  | .literal value => .literal value
  | .binary operator left right =>
      .binary operator (left.atCall producer call) (right.atCall producer call)
  | .not operand => .not (operand.atCall producer call)
  | .deferred other produce =>
      .deferred other (if other = producer then fun _ => produce call else produce)

variable {producer : ProducerId} {produce : Nat → Expr}

theorem Avoids.atCall_eq {expr : Expr} (avoids : expr.Avoids producer) (call : Nat) :
    expr.atCall producer call = expr := by
  induction avoids with
  | field | column | literal => rfl
  | binary _ _ leftIH rightIH => rw [atCall, leftIH, rightIH]
  | not _ ih => rw [atCall, ih]
  | deferred other _ _ => rw [atCall, if_neg other]

theorem Avoids.map_atCall {filters : List Expr} (avoid : ∀ filter ∈ filters, filter.Avoids producer)
    (call : Nat) : filters.map (·.atCall producer call) = filters :=
  (List.map_congr_left fun filter member => (avoid filter member).atCall_eq call).trans
    (List.map_id filters)

theorem atCall_here (call : Nat) :
    (Expr.deferred producer produce).atCall producer call =
      .deferred producer fun _ => produce call := by
  rw [atCall, if_pos rfl]

theorem Once.isNullLiteral {expr : Expr} (once : Once producer produce expr) :
    expr.isNullLiteral = false := by
  cases once <;> rfl

theorem Once.isNullLiteral_atCall {expr : Expr} (once : Once producer produce expr) (call : Nat) :
    (expr.atCall producer call).isNullLiteral = false := by
  cases once <;> rfl

end Expr

/-! ## Runs that call a producer -/

section

variable {producer : ProducerId} {Value Result Item : Type}

/-- A run calls the producer a number of times, and does what the fixed run for the number of the
first of these calls does. -/
def Calls.Takes (producer : ProducerId) (count : Nat) (action : StateM Calls Result)
    (fixed : Nat → StateM Calls Result) : Prop :=
  ∀ calls : Calls, action.run calls = (fixed (calls.count producer)).run calls ∧
    (action.run calls).2.count producer = calls.count producer + count

namespace Calls.Takes

theorem pure (value : Result) :
    Takes producer 0 (Pure.pure value : StateM Calls Result) fun _ => Pure.pure value :=
  fun _ => ⟨rfl, rfl⟩

theorem bind {firstCount secondCount : Nat} {action : StateM Calls Value}
    {fixed : Nat → StateM Calls Value} {next : Value → StateM Calls Result}
    {fixedNext : Value → Nat → StateM Calls Result} (first : Takes producer firstCount action fixed)
    (second : ∀ value, Takes producer secondCount (next value) (fixedNext value)) :
    Takes producer (firstCount + secondCount) (action >>= next)
      fun call => fixed call >>= fun value => fixedNext value (call + firstCount) := by
  intro calls
  obtain ⟨same, counted⟩ := first calls
  obtain ⟨sameNext, countedNext⟩ := second (action.run calls).1 (action.run calls).2
  rw [StateT.run_bind, StateT.run_bind, ← same]
  constructor
  · rw [← counted]
    exact sameNext
  · rw [← Nat.add_assoc, ← counted]
    exact countedNext

theorem next_of_ne {other : ProducerId} (differs : other ≠ producer) :
    Takes producer 0 (Calls.next other) fun _ => Calls.next other := by
  intro calls
  refine ⟨rfl, ?_⟩
  change (calls.add other).count producer = _
  simp [Calls.add, Ne.symm differs]

theorem mapM {step : Item → StateM Calls Result} {items : List Item}
    (each : ∀ item ∈ items, Takes producer 0 (step item) fun _ => step item) :
    Takes producer 0 (items.mapM step) fun _ => items.mapM step := by
  induction items with
  | nil =>
      rw [List.mapM_nil]
      exact pure _
  | cons item items ih =>
      obtain ⟨first, others⟩ := List.forall_mem_cons.mp each
      rw [List.mapM_cons]
      exact bind first fun _ => bind (ih others) fun _ => pure _

end Calls.Takes

end

namespace Expr

variable {producer : ProducerId} {produce : Nat → Expr}

/-- A walk through expressions, from left to right, that asks a producer where it comes to it. -/
structure IsWalk {Item : Type} (visit : Expr → StateM Calls (List Item)) : Prop where
  field : ∀ reference, ∃ items, visit (.field reference) = pure items
  column : ∀ name, ∃ items, visit (.column name) = pure items
  literal : ∀ value, ∃ items, visit (.literal value) = pure items
  binary : ∀ operator left right, visit (.binary operator left right) = do
    let items ← visit left
    let others ← visit right
    pure (items ++ others)
  not : ∀ operand, visit (.not operand) = visit operand
  deferred : ∀ producer produce, visit (.deferred producer produce) = do
    let call ← Calls.next producer
    visit (produce call)

theorem referencedTypes_walks : IsWalk referencedTypes where
  field := fun _ => ⟨_, rfl⟩
  column := fun _ => ⟨_, rfl⟩
  literal := fun _ => ⟨_, rfl⟩
  binary := fun _ _ _ => rfl
  not := fun _ => rfl
  deferred := fun _ _ => rfl

theorem literals_walks : IsWalk literals where
  field := fun _ => ⟨_, rfl⟩
  column := fun _ => ⟨_, rfl⟩
  literal := fun _ => ⟨_, rfl⟩
  binary := fun _ _ _ => rfl
  not := fun _ => rfl
  deferred := fun _ _ => rfl

section

variable {Item : Type} {visit : Expr → StateM Calls (List Item)}

theorem Avoids.walk (walks : IsWalk visit) {expr : Expr} (avoids : expr.Avoids producer) :
    Calls.Takes producer 0 (visit expr) fun _ => visit expr := by
  induction avoids with
  | field reference =>
      obtain ⟨items, visited⟩ := walks.field reference
      rw [visited]
      exact .pure items
  | column name =>
      obtain ⟨items, visited⟩ := walks.column name
      rw [visited]
      exact .pure items
  | literal value =>
      obtain ⟨items, visited⟩ := walks.literal value
      rw [visited]
      exact .pure items
  | binary _ _ leftIH rightIH =>
      rw [walks.binary]
      exact .bind leftIH fun _ => .bind rightIH fun _ => .pure _
  | not _ ih =>
      rw [walks.not]
      exact ih
  | deferred differs _ ih =>
      rw [walks.deferred]
      exact .bind (.next_of_ne differs) fun call => ih call

theorem Once.walk (walks : IsWalk visit) {expr : Expr} (once : Once producer produce expr) :
    Calls.Takes producer 1 (visit expr) fun call => visit (expr.atCall producer call) := by
  induction once with
  | here avoids =>
      intro calls
      simp only [atCall_here, walks.deferred]
      refine ⟨rfl, ?_⟩
      have produced := ((avoids (calls.count producer)).walk walks (calls.add producer)).2
      refine produced.trans ?_
      simp [Calls.add]
  | left _ avoids ih =>
      simp only [atCall, avoids.atCall_eq, walks.binary]
      exact .bind ih fun _ => .bind (avoids.walk walks) fun _ => .pure _
  | right avoids _ ih =>
      simp only [atCall, avoids.atCall_eq, walks.binary]
      exact .bind (avoids.walk walks) fun _ => .bind ih fun _ => .pure _
  | not _ ih =>
      simp only [atCall, walks.not]
      exact ih

/-! ## Filters -/

theorem OnceAmong.walk (walks : IsWalk visit) {filters : List Expr}
    (once : OnceAmong producer produce filters) :
    Calls.Takes producer 1 (filters.mapM visit)
      fun call => (filters.map (·.atCall producer call)).mapM visit := by
  induction once with
  | head once avoid =>
      simp only [List.map_cons, Avoids.map_atCall avoid, List.mapM_cons]
      have others := Calls.Takes.mapM fun filter member => (avoid filter member).walk walks
      exact .bind (once.walk walks) fun _ => .bind others fun _ => .pure _
  | tail avoids _ ih =>
      simp only [List.map_cons, avoids.atCall_eq, List.mapM_cons]
      exact .bind (avoids.walk walks) fun _ => .bind ih fun _ => .pure _

end

theorem literalsAll_eq (filters : List Expr) :
    literalsAll filters = filters.mapM literals >>= fun lists => pure lists.flatten := by
  induction filters with
  | nil => rfl
  | cons filter filters ih =>
      rw [literalsAll, ih, List.mapM_cons]
      rfl

theorem OnceAmong.literalsAll {filters : List Expr} (once : OnceAmong producer produce filters) :
    Calls.Takes producer 1 (Expr.literalsAll filters)
      fun call => Expr.literalsAll (filters.map (·.atCall producer call)) := by
  simp only [literalsAll_eq]
  exact .bind (once.walk literals_walks) fun _ => .pure _

theorem foldl_atCall (operator : Operator) (filters : List Expr) (first : Expr) (call : Nat) :
    (filters.foldl (.binary operator) first).atCall producer call =
      (filters.map (·.atCall producer call)).foldl (.binary operator)
        (first.atCall producer call) := by
  induction filters generalizing first with
  | nil => rfl
  | cons filter filters ih => exact ih (.binary operator first filter)

theorem Once.foldl {operator : Operator} {filters : List Expr} {first : Expr}
    (once : Once producer produce first) (avoid : ∀ filter ∈ filters, filter.Avoids producer) :
    Once producer produce (filters.foldl (.binary operator) first) := by
  induction filters generalizing first with
  | nil => exact once
  | cons filter filters ih =>
      obtain ⟨avoids, others⟩ := List.forall_mem_cons.mp avoid
      exact ih (.left once avoids) others

theorem OnceAmong.foldl {operator : Operator} {filters : List Expr} {first : Expr}
    (once : OnceAmong producer produce filters) (avoids : first.Avoids producer) :
    Once producer produce (filters.foldl (.binary operator) first) := by
  induction once generalizing first with
  | head once avoid =>
      rw [List.foldl_cons]
      exact Once.foldl (.right avoids once) avoid
  | tail others _ ih => exact ih (.binary avoids others)

/-- The conjunction of the filters has the deferred expression once, too. -/
theorem OnceAmong.fold? {operator : Operator} {filters : List Expr}
    (once : OnceAmong producer produce filters) :
    ∃ condition, Expr.fold? operator filters = some condition ∧ Once producer produce condition ∧
      ∀ call, Expr.fold? operator (filters.map (·.atCall producer call)) =
        some (condition.atCall producer call) := by
  have folded : ∀ first rest, filters = first :: rest →
      Once producer produce (rest.foldl (.binary operator) first) →
      ∃ condition, Expr.fold? operator filters = some condition ∧
        Once producer produce condition ∧
        ∀ call, Expr.fold? operator (filters.map (·.atCall producer call)) =
          some (condition.atCall producer call) := by
    intro first rest written onceFolded
    subst written
    refine ⟨_, rfl, onceFolded, fun call => ?_⟩
    exact congrArg some (foldl_atCall operator rest first call).symm
  cases once with
  | head once avoid => exact folded _ _ rfl (once.foldl avoid)
  | tail avoids once => exact folded _ _ rfl (once.foldl avoids)

end Expr

/-! ## Renderings that call a producer -/

/-- Like `Calls.Takes` for a rendering. The calls are counted when it succeeds. -/
def Rendering.Takes {Buffer Result : Type} (producer : ProducerId) (count : Nat)
    (rendering : Rendering Buffer Result) (fixed : Nat → Rendering Buffer Result) : Prop :=
  ∀ draft, rendering.runOn draft = (fixed (draft.calls.count producer)).runOn draft ∧
    ∀ result after, rendering.runOn draft = (.ok result, after) →
      after.calls.count producer = draft.calls.count producer + count

/-- A rendering that does not call the producer. -/
abbrev Rendering.Spares {Buffer Result : Type} (producer : ProducerId)
    (rendering : Rendering Buffer Result) : Prop :=
  Rendering.Takes producer 0 rendering fun _ => rendering

namespace Rendering.Takes

variable {Buffer Value Result Item : Type} {producer : ProducerId}

theorem unchanged {rendering : Rendering Buffer Result}
    (same : ∀ draft, (rendering.runOn draft).2.calls = draft.calls) :
    Rendering.Spares producer rendering := by
  intro draft
  refine ⟨rfl, ?_⟩
  intro result after ran
  have kept := same draft
  rw [ran] at kept
  exact congrArg (·.count producer) kept

theorem ofOutcome (outcome : Except Error Result) :
    Rendering.Spares producer (Action.ofOutcome outcome : Rendering Buffer Result) :=
  unchanged fun _ => rfl

theorem pure (value : Result) :
    Rendering.Spares producer (Pure.pure value : Rendering Buffer Result) :=
  unchanged fun _ => rfl

theorem throw (count : Nat) (error : Error) :
    Rendering.Takes producer count (MonadExcept.throw error : Rendering Buffer Result)
      fun _ => MonadExcept.throw error :=
  fun _ => ⟨rfl, fun _ _ ran => (Action.throw_ok ran).elim⟩

theorem quote (delegate : Delegate Buffer) (name : String) :
    Rendering.Spares producer (Rendering.quote delegate name) :=
  unchanged fun _ => rfl

theorem bindValue (delegate : Delegate Buffer) (value : RecordMapper.Value) :
    Rendering.Spares producer (Rendering.bind delegate value) :=
  unchanged fun _ => rfl

theorem limitClause (delegate : Delegate Buffer) (max skip : UInt64) :
    Rendering.Spares producer (Rendering.limitClause delegate max skip) :=
  unchanged fun _ => rfl

theorem counting {count : Nat} {run : StateM Calls Result} {fixed : Nat → StateM Calls Result}
    (takes : Calls.Takes producer count run fixed) :
    Rendering.Takes producer count (Rendering.counting run : Rendering Buffer Result)
      fun call => Rendering.counting (fixed call) := by
  intro draft
  obtain ⟨same, counted⟩ := takes draft.calls
  constructor
  · change (Except.ok (run.run draft.calls).1,
      ({ draft with calls := (run.run draft.calls).2 } : Draft Buffer)) = _
    rw [same]
    rfl
  · intro result after ran
    cases ran
    exact counted

theorem bind {firstCount secondCount : Nat} {rendering : Rendering Buffer Value}
    {fixed : Nat → Rendering Buffer Value} {next : Value → Rendering Buffer Result}
    {fixedNext : Value → Nat → Rendering Buffer Result}
    (first : Rendering.Takes producer firstCount rendering fixed)
    (second : ∀ value, Rendering.Takes producer secondCount (next value) (fixedNext value)) :
    Rendering.Takes producer (firstCount + secondCount) (rendering >>= next)
      fun call => fixed call >>= fun value => fixedNext value (call + firstCount) := by
  intro draft
  obtain ⟨same, counted⟩ := first draft
  rw [Action.runOn_bind, Action.runOn_bind, ← same]
  rcases ran : rendering.runOn draft with ⟨error | value, middle⟩
  · exact ⟨rfl, nofun⟩
  · obtain ⟨sameNext, countedNext⟩ := second value middle
    have calls := counted value middle ran
    rw [calls] at sameNext
    refine ⟨sameNext, ?_⟩
    intro result after finished
    rw [countedNext result after finished, calls, Nat.add_assoc]

theorem spared {count : Nat} {rendering : Rendering Buffer Value}
    {next : Value → Rendering Buffer Result} {fixedNext : Value → Nat → Rendering Buffer Result}
    (first : Rendering.Spares producer rendering)
    (second : ∀ value, Rendering.Takes producer count (next value) (fixedNext value)) :
    Rendering.Takes producer count (rendering >>= next)
      fun call => rendering >>= fun value => fixedNext value call := by
  have both := bind first second
  rwa [Nat.zero_add] at both

theorem sparing {count : Nat} {rendering : Rendering Buffer Value}
    {fixed : Nat → Rendering Buffer Value} {next : Value → Rendering Buffer Result}
    (first : Rendering.Takes producer count rendering fixed)
    (second : ∀ value, Rendering.Spares producer (next value)) :
    Rendering.Takes producer count (rendering >>= next) fun call => fixed call >>= next :=
  bind first second

theorem mapM {step : Item → Rendering Buffer Result} {items : List Item}
    (each : ∀ item ∈ items, Rendering.Spares producer (step item)) :
    Rendering.Spares producer (items.mapM step) := by
  induction items with
  | nil =>
      rw [List.mapM_nil]
      exact pure _
  | cons item items ih =>
      obtain ⟨first, others⟩ := List.forall_mem_cons.mp each
      rw [List.mapM_cons]
      exact spared first fun _ => spared (ih others) fun _ => pure _

end Rendering.Takes

namespace Expr

variable {Buffer : Type} {delegate : Delegate Buffer} {scope : Scope} {producer : ProducerId}
  {produce : Nat → Expr}

theorem spares_renderField (reference : FieldRef) :
    Rendering.Spares producer (renderField delegate scope reference) := by
  unfold renderField
  split
  · exact .throw _ _
  · refine .spared (.quote _ _) fun quoted => ?_
    split
    · exact .spared (.ofOutcome _) fun _ => .spared (.quote _ _) fun _ => .pure _
    · exact .pure _

theorem Avoids.render {expr : Expr} (avoids : expr.Avoids producer) :
    Rendering.Spares producer (expr.render delegate scope) := by
  induction avoids with
  | field reference => exact spares_renderField reference
  | column name => exact .quote _ _
  | literal value =>
      unfold Expr.render
      split
      · exact .pure _
      · exact .bindValue _ _
  | binary _ _ leftIH rightIH =>
      unfold Expr.render
      refine .spared leftIH fun _ => ?_
      split
      · exact .pure _
      · exact .spared rightIH fun _ => .pure _
  | not _ ih =>
      unfold Expr.render
      exact .spared ih fun _ => .pure _
  | deferred differs _ ih =>
      unfold Expr.render
      exact .spared (.counting (.next_of_ne differs)) fun call => ih call

theorem Once.render {expr : Expr} (once : Once producer produce expr) :
    Rendering.Takes producer 1 (expr.render delegate scope)
      fun call => (expr.atCall producer call).render delegate scope := by
  induction once with
  | here avoids =>
      intro draft
      simp only [atCall_here]
      refine ⟨rfl, ?_⟩
      intro text after ran
      have produced := ((avoids (draft.calls.count producer)).render
        { draft with calls := draft.calls.add producer }).2 text after ran
      refine produced.trans ?_
      simp [Calls.add]
  | left _ avoids ih =>
      simp only [atCall, avoids.atCall_eq]
      unfold Expr.render
      refine .sparing ih fun _ => ?_
      split
      · exact .pure _
      · exact .spared avoids.render fun _ => .pure _
  | @right operator _ _ avoids once ih =>
      -- The right side is no NULL literal, so that no test takes its place.
      simp only [atCall, avoids.atCall_eq]
      unfold Expr.render
      simp only [once.isNullLiteral, once.isNullLiteral_atCall]
      refine .spared avoids.render fun _ => ?_
      cases operator.nullTest? <;> exact .sparing ih fun _ => .pure _
  | not _ ih =>
      unfold Expr.render
      exact .sparing ih fun _ => .pure _

end Expr

end RecordMapper
