import Mathlib.Data.List.Forall2
import RecordMapper.Action

set_option autoImplicit false

/-!
Successful runs taken apart. A run of a sequence succeeds exactly when each of its actions does, in
the state that the one before has left. What holds of a state before every action and is kept by
each holds afterwards, whether the run succeeds or fails.
-/

namespace RecordMapper

/-- Items of a list that take a state on, one after another, each with a result of its own. -/
inductive Threaded {State Item Result : Type} (step : Item → State → Result → State → Prop) :
    List Item → State → List Result → State → Prop where
  | nil {state : State} : Threaded step [] state [] state
  | cons {item : Item} {items : List Item} {result : Result} {results : List Result}
      {before middle after : State} :
      step item before result middle → Threaded step items middle results after →
      Threaded step (item :: items) before (result :: results) after

namespace Threaded

variable {State Other Item Result : Type} {step : Item → State → Result → State → Prop}

theorem length_eq {items : List Item} {before after : State} {results : List Result}
    (threaded : Threaded step items before results after) : results.length = items.length := by
  induction threaded with
  | nil => rfl
  | cons _ _ ih => simp [ih]

theorem forall₂ {related : Item → Result → Prop} {items : List Item} {before after : State}
    {results : List Result}
    (each : ∀ item before result after, step item before result after → related item result)
    (threaded : Threaded step items before results after) :
    List.Forall₂ related items results := by
  induction threaded with
  | nil => exact .nil
  | cons taken _ ih => exact .cons (each _ _ _ _ taken) ih

theorem unchanged {related : Item → Result → Prop} {items : List Item} {before after : State}
    {results : List Result}
    (kept : ∀ item before result after,
      step item before result after → after = before ∧ related item result)
    (threaded : Threaded step items before results after) :
    after = before ∧ List.Forall₂ related items results := by
  induction threaded with
  | nil => exact ⟨rfl, .nil⟩
  | cons taken _ ih =>
      obtain ⟨rfl, holds⟩ := kept _ _ _ _ taken
      exact ⟨ih.1, .cons holds ih.2⟩

end Threaded

theorem forall₂_images {Item Value Result : Type} {related : Item → Value → Prop}
    {image : Value → Result} {items : List Item} {results : List Result}
    (each : List.Forall₂ (fun item result => ∃ value, related item value ∧ result = image value)
      items results) :
    ∃ values, List.Forall₂ related items values ∧ results = values.map image := by
  induction each with
  | nil => exact ⟨[], .nil, rfl⟩
  | cons first _ ih =>
      obtain ⟨value, holds, rfl⟩ := first
      obtain ⟨values, others, rfl⟩ := ih
      exact ⟨value :: values, .cons holds others, rfl⟩

theorem map_ok {First Second : Type} {outcome : Except Error First} {image : First → Second}
    {result : Second} (succeeded : outcome.map image = .ok result) :
    ∃ value, outcome = .ok value ∧ image value = result := by
  cases outcome with
  | error error => cases succeeded
  | ok value =>
      cases succeeded
      exact ⟨value, rfl, rfl⟩

theorem bind_ok {Fault First Second : Type} {computation : Except Fault First}
    {next : First → Except Fault Second} {result : Second}
    (succeeded : computation >>= next = .ok result) :
    ∃ value, computation = .ok value ∧ next value = .ok result := by
  cases computation with
  | error error => cases succeeded
  | ok value => exact ⟨value, rfl, succeeded⟩

theorem mapM_ok_iff {Fault Item Result : Type} {step : Item → Except Fault Result}
    {items : List Item} {results : List Result} :
    items.mapM step = .ok results ↔
      List.Forall₂ (fun item result => step item = .ok result) items results := by
  induction items generalizing results with
  | nil =>
      rw [List.mapM_nil, List.forall₂_nil_left_iff]
      constructor
      · intro same
        cases same
        rfl
      · rintro rfl
        rfl
  | cons item items ih =>
      rw [List.mapM_cons, List.forall₂_cons_left_iff]
      constructor
      · intro same
        cases first : step item with
        | error error =>
            rw [first] at same
            cases same
        | ok result =>
            cases rest : items.mapM step with
            | error error =>
                rw [first, rest] at same
                cases same
            | ok others =>
                rw [first, rest] at same
                cases same
                exact ⟨result, others, rfl, ih.mp rest, rfl⟩
      · rintro ⟨result, others, first, rest, rfl⟩
        rw [first, ih.mpr rest]
        rfl

namespace Action

variable {State Item Value Result : Type}

/-! ## Successful runs -/

theorem pure_ok {value result : Result} {before after : State}
    (succeeded : (pure value : Action State Result).runOn before = (.ok result, after)) :
    after = before ∧ result = value := by
  cases succeeded
  exact ⟨rfl, rfl⟩

theorem throw_ok {error : Error} {result : Result} {before after : State}
    (succeeded : (throw error : Action State Result).runOn before = (.ok result, after)) :
    False := by
  cases succeeded

theorem ofOutcome_ok {outcome : Except Error Result} {result : Result} {before after : State}
    (succeeded : (ofOutcome outcome : Action State Result).runOn before = (.ok result, after)) :
    after = before ∧ outcome = .ok result := by
  cases succeeded
  exact ⟨rfl, rfl⟩

theorem runOn_bind (action : Action State Value) (next : Value → Action State Result)
    (state : State) :
    (action >>= next).runOn state =
      match action.runOn state with
      | (.ok value, middle) => (next value).runOn middle
      | (.error error, middle) => (.error error, middle) := by
  change (match action state with
    | (outcome, middle) => ExceptT.bindCont next outcome middle) = _
  rcases outcome : action state with ⟨error | value, middle⟩ <;>
    simp only [runOn, ExceptT.run, outcome] <;> rfl

theorem runOn_bind_of_ok {action : Action State Value} {value : Value} {before middle : State}
    (ran : action.runOn before = (.ok value, middle)) (next : Value → Action State Result) :
    (action >>= next).runOn before = (next value).runOn middle := by
  rw [runOn_bind, ran]

theorem bind_ok {action : Action State Value} {next : Value → Action State Result}
    {before after : State} {result : Result}
    (succeeded : (action >>= next).runOn before = (.ok result, after)) :
    ∃ value middle, action.runOn before = (.ok value, middle) ∧
      (next value).runOn middle = (.ok result, after) := by
  rw [runOn_bind] at succeeded
  rcases outcome : action.runOn before with ⟨error | value, middle⟩
  · rw [outcome] at succeeded
    cases succeeded
  · rw [outcome] at succeeded
    exact ⟨value, middle, rfl, succeeded⟩

theorem exists_ok {action : Action State Result} {before : State}
    (succeeded : (action.runOn before).1.isOk = true) :
    ∃ result after, action.runOn before = (.ok result, after) := by
  rcases outcome : action.runOn before with ⟨error | result, after⟩
  · rw [outcome] at succeeded
    cases succeeded
  · exact ⟨result, after, rfl⟩

theorem mapM_ok {step : Item → Action State Result} {items : List Item} {before after : State}
    {results : List Result}
    (succeeded : (items.mapM step).runOn before = (.ok results, after)) :
    Threaded (fun item before result after => (step item).runOn before = (.ok result, after))
      items before results after := by
  induction items generalizing before results with
  | nil =>
      rw [List.mapM_nil] at succeeded
      obtain ⟨rfl, rfl⟩ := pure_ok succeeded
      exact .nil
  | cons item items ih =>
      rw [List.mapM_cons] at succeeded
      obtain ⟨result, middle, taken, succeeded⟩ := bind_ok succeeded
      obtain ⟨rest, last, others, succeeded⟩ := bind_ok succeeded
      obtain ⟨rfl, rfl⟩ := pure_ok succeeded
      exact .cons taken (ih others)

theorem mapM_total {step : Item → Action State Result} {items : List Item}
    (each : ∀ item ∈ items, ∀ before, ∃ result after,
      (step item).runOn before = (.ok result, after)) (before : State) :
    ∃ results after, (items.mapM step).runOn before = (.ok results, after) := by
  induction items generalizing before with
  | nil => exact ⟨[], before, by rw [List.mapM_nil]; rfl⟩
  | cons item items ih =>
      obtain ⟨first, rest⟩ := List.forall_mem_cons.mp each
      obtain ⟨result, middle, taken⟩ := first before
      obtain ⟨results, after, others⟩ := ih rest middle
      refine ⟨result :: results, after, ?_⟩
      rw [List.mapM_cons, runOn_bind_of_ok taken, runOn_bind_of_ok others]
      rfl

/-! ## What every run keeps -/

/-- A property of the state that a run keeps, even when it fails. -/
def Keeps (kept : State → Prop) (action : Action State Result) : Prop :=
  ∀ state, kept state → kept (action.runOn state).2

namespace Keeps

variable {kept : State → Prop}

theorem ofOutcome (outcome : Except Error Result) :
    Keeps kept (Action.ofOutcome outcome : Action State Result) :=
  fun _ holds => holds

theorem pure (value : Result) : Keeps kept (Pure.pure value : Action State Result) :=
  fun _ holds => holds

theorem throw (error : Error) : Keeps kept (MonadExcept.throw error : Action State Result) :=
  fun _ holds => holds

/-- What follows a first action may use how that action ran. -/
theorem bindOk {action : Action State Value} {next : Value → Action State Result}
    (first : Keeps kept action)
    (second : ∀ before value middle, kept before → action.runOn before = (.ok value, middle) →
      kept ((next value).runOn middle).2) :
    Keeps kept (action >>= next) := by
  intro state holds
  have middleHolds := first state holds
  rw [runOn_bind]
  rcases outcome : action.runOn state with ⟨error | value, middle⟩
  · rw [outcome] at middleHolds
    exact middleHolds
  · exact second state value middle holds outcome

theorem bind {action : Action State Value} {next : Value → Action State Result}
    (first : Keeps kept action) (second : ∀ value, Keeps kept (next value)) :
    Keeps kept (action >>= next) := by
  refine bindOk first fun before value middle holds ran => second value middle ?_
  have middleHolds := first before holds
  rwa [ran] at middleHolds

theorem forM {step : Item → Action State PUnit} (each : ∀ item, Keeps kept (step item))
    (items : List Item) : Keeps kept (items.forM step) := by
  induction items with
  | nil => exact pure _
  | cons item items ih =>
      change Keeps kept (step item >>= fun _ => items.forM step)
      exact bind (each item) fun _ => ih

end Keeps

end Action

end RecordMapper
