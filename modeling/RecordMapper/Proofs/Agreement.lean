import RecordMapper.Proofs.Action

set_option autoImplicit false

/-!
Two runs side by side. Outcomes agree when both are results that match or both are the same error.
Actions agree when, started in related states, they end with outcomes that agree and in related
states, whether they succeed or fail.
-/

namespace RecordMapper

inductive Agreed {First Second : Type} (matched : First → Second → Prop) :
    Except Error First → Except Error Second → Prop where
  | ok {first : First} {second : Second} :
      matched first second → Agreed matched (.ok first) (.ok second)
  | error (error : Error) : Agreed matched (.error error) (.error error)

theorem Agreed.refl {Result : Type} (outcome : Except Error Result) :
    Agreed Eq outcome outcome := by
  cases outcome with
  | error error => exact .error error
  | ok result => exact .ok rfl

theorem Agreed.eq {Result : Type} {first second : Except Error Result}
    (agreed : Agreed Eq first second) : first = second := by
  cases agreed with
  | ok same => rw [same]
  | error => rfl

theorem Agreed.mono {First Second : Type} {matched wider : First → Second → Prop}
    {first : Except Error First} {second : Except Error Second}
    (agreed : Agreed matched first second)
    (widens : ∀ first second, matched first second → wider first second) :
    Agreed wider first second := by
  cases agreed with
  | ok isMatched => exact .ok (widens _ _ isMatched)
  | error error => exact .error error

namespace Action

variable {State Other First Second : Type}

def Agrees (related : State → Other → Prop) (matched : First → Second → Prop)
    (action : Action State First) (other : Action Other Second) : Prop :=
  ∀ before otherBefore, related before otherBefore →
    Agreed matched (action.runOn before).1 (other.runOn otherBefore).1 ∧
      related (action.runOn before).2 (other.runOn otherBefore).2

namespace Agrees

variable {related : State → Other → Prop} {matched : First → Second → Prop}

theorem ofOutcome {first : Except Error First} {second : Except Error Second}
    (agreed : Agreed matched first second) :
    Agrees related matched (Action.ofOutcome first) (Action.ofOutcome second) :=
  fun _ _ isRelated => ⟨agreed, isRelated⟩

theorem pure {first : First} {second : Second} (isMatched : matched first second) :
    Agrees related matched (Pure.pure first) (Pure.pure second) :=
  fun _ _ isRelated => ⟨.ok isMatched, isRelated⟩

theorem throw (error : Error) :
    Agrees related matched (MonadExcept.throw error) (MonadExcept.throw error) :=
  fun _ _ isRelated => ⟨.error error, isRelated⟩

variable {FirstNext SecondNext : Type} {continued : FirstNext → SecondNext → Prop}

theorem bind {action : Action State First} {other : Action Other Second}
    {next : First → Action State FirstNext} {otherNext : Second → Action Other SecondNext}
    (agrees : Agrees related matched action other)
    (others : ∀ first second, matched first second →
      Agrees related continued (next first) (otherNext second)) :
    Agrees related continued (action >>= next) (other >>= otherNext) := by
  intro before otherBefore isRelated
  obtain ⟨agreed, stillRelated⟩ := agrees before otherBefore isRelated
  rw [runOn_bind, runOn_bind]
  rcases ran : action.runOn before with ⟨outcome, after⟩
  rcases otherRan : other.runOn otherBefore with ⟨otherOutcome, otherAfter⟩
  rw [ran, otherRan] at agreed stillRelated
  cases agreed with
  | ok isMatched => exact others _ _ isMatched after otherAfter stillRelated
  | error error => exact ⟨.error error, stillRelated⟩

/-- Agreement up to equal results is enough where both sides go on alike. -/
theorem bindEq {Result : Type} {action : Action State Result} {other : Action Other Result}
    {next : Result → Action State FirstNext} {otherNext : Result → Action Other SecondNext}
    (agrees : Agrees related Eq action other)
    (others : ∀ result, Agrees related continued (next result) (otherNext result)) :
    Agrees related continued (action >>= next) (other >>= otherNext) := by
  refine bind agrees ?_
  rintro result _ rfl
  exact others result

variable {Item OtherItem : Type} {paired : Item → OtherItem → Prop} {items : List Item}
  {otherItems : List OtherItem}

theorem mapM {step : Item → Action State First} {otherStep : OtherItem → Action Other Second}
    (each : ∀ item other, paired item other →
      Agrees related matched (step item) (otherStep other))
    (pairs : List.Forall₂ paired items otherItems) :
    Agrees related (List.Forall₂ matched) (items.mapM step) (otherItems.mapM otherStep) := by
  induction pairs with
  | nil =>
      rw [List.mapM_nil, List.mapM_nil]
      exact pure .nil
  | cons isPaired _ ih =>
      rw [List.mapM_cons, List.mapM_cons]
      exact bind (each _ _ isPaired) fun _ _ first =>
        bind ih fun _ _ others => pure (.cons first others)

theorem mapMSame {step : Item → Action State First} {otherStep : Item → Action Other Second}
    (each : ∀ item ∈ items, Agrees related matched (step item) (otherStep item)) :
    Agrees related (List.Forall₂ matched) (items.mapM step) (items.mapM otherStep) := by
  have pairs : List.Forall₂ (fun item other => item ∈ items ∧ item = other) items items :=
    List.forall₂_same.mpr fun item member => ⟨member, rfl⟩
  refine mapM ?_ pairs
  rintro item _ ⟨member, rfl⟩
  exact each item member

theorem forM {step : Item → Action State PUnit} {otherStep : Item → Action Other PUnit}
    (each : ∀ item ∈ items, Agrees related Eq (step item) (otherStep item)) :
    Agrees related Eq (items.forM step) (items.forM otherStep) := by
  induction items with
  | nil => exact pure rfl
  | cons item items ih =>
      obtain ⟨first, others⟩ := List.forall_mem_cons.mp each
      change Agrees related Eq (step item >>= fun _ => items.forM step)
        (otherStep item >>= fun _ => items.forM otherStep)
      exact bindEq first fun _ => ih others

end Agrees

end Action

end RecordMapper
