import RecordMapper.Error

set_option autoImplicit false

/-!
Computations that may fail and that change a state. A failure keeps the changes made before it.
-/

namespace RecordMapper

abbrev Action (State : Type) : Type → Type :=
  ExceptT Error (StateM State)

namespace Action

variable {State Part Result : Type}

def runOn (action : Action State Result) (state : State) : Except Error Result × State :=
  action.run state

def ofOutcome (outcome : Except Error Result) : Action State Result :=
  fun state => (outcome, state)

def zoom (get : State → Part) (set : Part → State → State) (action : Action Part Result) :
    Action State Result :=
  fun state =>
    let (outcome, part) := action.runOn (get state)
    (outcome, set part state)

/-- Repeats a step that yields an item for as long as it does. Each item must use up some of a
measure of the state. -/
def collect (measure : State → Nat) (step : Action State (Option Result))
    (decreases : ∀ state item next,
      step.runOn state = (.ok (some item), next) → measure next < measure state)
    (state : State) : Except Error (List Result) × State :=
  match outcome : step.runOn state with
  | (.error error, next) => (.error error, next)
  | (.ok none, next) => (.ok [], next)
  | (.ok (some item), next) =>
      have := decreases state item next outcome
      let (rest, final) := collect measure step decreases next
      (rest.map (item :: ·), final)
termination_by measure state

end Action

end RecordMapper
