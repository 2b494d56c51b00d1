import Mathlib.Data.List.Induction
import RecordMapper.Proofs.Engine.Stepping
import RecordMapper.Proofs.Record.Recovering

set_option autoImplicit false

/-!
Statements that are bound again and again. A bind that leaves out the first values keeps what those
parameters were set to before; one that starts from the first value forgets everything. So after any
number of binds each parameter has what the latest of them that reaches it has set, as far back as
the last one that forgot.
-/

namespace RecordMapper.Engine

/-! ## What binds leave in the parameters -/

/-- One bind of a statement: its values, and how many of the first ones it leaves out. -/
structure Rebind where
  bindings : List Binding
  skip : Nat
deriving DecidableEq, Repr

namespace Rebind

def ofCall? : Call → Option Rebind
  | .bind bindings skip => some ⟨bindings, skip⟩
  | .hasNext | .decodeRow => none

/-- What a parameter is set to, if it is reached. Parameters are counted from zero. -/
def sets? (rebind : Rebind) (index : Nat) : Option Value :=
  if rebind.skip ≤ index then rebind.bindings[index]?.map (·.value) else none

/-- The binds since the last one that starts from the first value, and that one. -/
def current : List Rebind → List Rebind
  | [] => []
  | rebind :: later => if later.any (·.skip == 0) then current later else rebind :: later

/-- What a parameter is after some binds: what the latest of the current ones that reaches it has
set, and NULL when none reaches it. -/
def value (rebinds : List Rebind) (index : Nat) : Value :=
  ((current rebinds).reverse.findSome? (·.sets? index)).getD .null

theorem current_append_singleton (rebinds : List Rebind) (rebind : Rebind) :
    current (rebinds ++ [rebind]) =
      if rebind.skip = 0 then [rebind] else current rebinds ++ [rebind] := by
  induction rebinds with
  | nil => simp [current]
  | cons first rebinds ih =>
      rw [List.cons_append, current, ih]
      by_cases clears : rebind.skip = 0
      · simp [clears]
      · by_cases cleared : rebinds.any (·.skip == 0)
        · simp [current, clears, cleared]
        · simp [current, clears, cleared]

theorem value_append_singleton (rebinds : List Rebind) (rebind : Rebind) (index : Nat) :
    value (rebinds ++ [rebind]) index =
      match rebind.sets? index with
      | some found => found
      | none => if rebind.skip = 0 then .null else value rebinds index := by
  unfold value
  rw [current_append_singleton]
  by_cases clears : rebind.skip = 0
  · rw [if_pos clears, if_pos clears]
    cases found : rebind.sets? index <;> simp [found]
  · rw [if_neg clears, if_neg clears, List.reverse_append]
    cases found : rebind.sets? index <;> simp [found]

end Rebind

/-! ## One bind -/

namespace Statement

variable {statement : Statement} {index : Nat} {bindings : List Binding}

theorem bindOne_cases (statement : Statement) (index : Nat) (binding : Binding) :
    (∃ stored, Stored.ofValue? binding.value = some stored ∧
        index < statement.parameters.length ∧ statement.bindOne index binding =
          .ok (statement.withParameters (statement.parameters.set index stored))) ∨
      ((∃ number, binding.Exceeds number) ∨ statement.parameters.length ≤ index) ∧
        ∃ message, statement.bindOne index binding = .error (statement.bindError message) := by
  unfold bindOne
  cases isStored : Stored.ofValue? binding.value with
  | none => exact .inr ⟨.inl (Stored.ofValue?_eq_none_iff.mp isStored), _, rfl⟩
  | some stored =>
      dsimp only
      by_cases inside : index < statement.parameters.length
      · rw [if_pos inside]
        exact .inl ⟨stored, rfl, inside, rfl⟩
      · rw [if_neg inside]
        exact .inr ⟨.inr (Nat.le_of_not_lt inside), _, rfl⟩

theorem bindFrom_length (statement : Statement) (index : Nat) (bindings : List Binding) :
    (statement.bindFrom index bindings).2.parameters.length = statement.parameters.length := by
  induction bindings generalizing statement index with
  | nil => rfl
  | cons binding bindings ih =>
      rw [bindFrom]
      rcases bindOne_cases statement index binding with ⟨stored, -, -, set⟩ | ⟨-, message, failed⟩
      · rw [set]
        exact (ih _ _).trans List.length_set
      · rw [failed]

/-- A successful bind sets the parameters that it reaches and no others. -/
theorem bindFrom_get (succeeded : (statement.bindFrom index bindings).1 = .ok ()) {place : Nat}
    (inside : place < statement.parameters.length) :
    (statement.bindFrom index bindings).2.parameters[place]? =
      match if index ≤ place then bindings[place - index]? else none with
      | some binding => Stored.ofValue? binding.value
      | none => statement.parameters[place]? := by
  induction bindings generalizing statement index with
  | nil => simp [bindFrom]
  | cons binding bindings ih =>
      rcases bindOne_cases statement index binding with
        ⟨stored, isStored, first, set⟩ | ⟨-, message, failed⟩
      · rw [bindFrom, set] at succeeded ⊢
        rw [ih succeeded (by simpa [withParameters] using inside)]
        -- The first value is set here, and the others do not reach it again.
        rcases Nat.lt_trichotomy place index with before | rfl | behind
        · have apart : index ≠ place := by omega
          have unreached : ¬index ≤ place := by omega
          have notNext : ¬index + 1 ≤ place := by omega
          rw [if_neg unreached, if_neg notNext]
          simp [withParameters, apart]
        · rw [if_neg (Nat.not_succ_le_self place), if_pos (Nat.le_refl place), Nat.sub_self]
          simp [withParameters, isStored, inside]
        · have apart : index ≠ place := by omega
          have offset : place - index = place - (index + 1) + 1 := by omega
          have reached : index ≤ place := by omega
          rw [if_pos (Nat.succ_le_of_lt behind), if_pos reached, offset, List.getElem?_cons_succ]
          simp [withParameters, apart]
      · rw [bindFrom, failed] at succeeded
        cases succeeded

/-- A bind fails at the first value that is too large or has no parameter, and at nothing else. -/
theorem bindFrom_cases (statement : Statement) (index : Nat) (bindings : List Binding) :
    let outcome := (statement.bindFrom index bindings).1
    let refused := ∃ offset binding, bindings[offset]? = some binding ∧
      ((∃ number, binding.Exceeds number) ∨ statement.parameters.length ≤ index + offset)
    outcome = .ok () ∧ ¬refused ∨
      (∃ message, outcome = .error (statement.bindError message)) ∧ refused := by
  induction bindings generalizing statement index with
  | nil => exact .inl ⟨rfl, by simp⟩
  | cons binding bindings ih =>
      rcases bindOne_cases statement index binding with
        ⟨stored, isStored, inside, set⟩ | ⟨refused, message, failed⟩
      · have small : ∀ number, ¬binding.Exceeds number := by
          intro number exceeds
          have unstorable := Stored.ofValue?_eq_none_iff.mpr ⟨number, exceeds⟩
          rw [isStored] at unstorable
          cases unstorable
        rw [bindFrom, set]
        dsimp only
        rcases ih (statement.withParameters (statement.parameters.set index stored))
            (index + 1) with
          ⟨succeeded, others⟩ | ⟨failed, offset, other, isOther, refused⟩
        · refine .inl ⟨succeeded, ?_⟩
          intro found
          obtain ⟨offset, other, isOther, refused⟩ := found
          cases offset with
          | zero =>
              cases isOther
              rcases refused with ⟨number, exceeds⟩ | outside
              · exact small number exceeds
              · omega
          | succ offset =>
              refine others ⟨offset, other, isOther, refused.imp_right fun outside => ?_⟩
              rw [withParameters, List.length_set]
              omega
        · refine .inr ⟨failed, offset + 1, other, isOther, refused.imp_right fun outside => ?_⟩
          rw [withParameters, List.length_set] at outside
          omega
      · rw [bindFrom, failed]
        exact .inr ⟨⟨message, rfl⟩, 0, binding, rfl, refused⟩

/-! ### From the first value that is not left out -/

/-- A statement as a bind finds it when it sets the first parameter. -/
def started (statement : Statement) (skip : Nat) : Statement :=
  if skip = 0 then statement.rewind.clear else statement.rewind

theorem bind_eq (statement : Statement) (bindings : List Binding) (skip : Nat) :
    statement.bind bindings skip =
      (statement.started skip).bindFrom skip (bindings.drop skip) := rfl

theorem started_sql (statement : Statement) (skip : Nat) :
    (statement.started skip).sql = statement.sql := by
  unfold started
  split <;> rfl

theorem started_length (statement : Statement) (skip : Nat) :
    (statement.started skip).parameters.length = statement.parameters.length := by
  unfold started
  split
  · exact List.length_map _
  · rfl

theorem started_get {place : Nat} (inside : place < statement.parameters.length) (skip : Nat) :
    (statement.started skip).parameters[place]? =
      if skip = 0 then some .null else statement.parameters[place]? := by
  unfold started
  split
  · simp [clear, rewind, inside]
  · rfl

theorem bind_length (statement : Statement) (bindings : List Binding) (skip : Nat) :
    (statement.bind bindings skip).2.parameters.length = statement.parameters.length := by
  rw [bind_eq, bindFrom_length, started_length]

theorem bind_get {skip : Nat} (succeeded : (statement.bind bindings skip).1 = .ok ()) {place : Nat}
    (inside : place < statement.parameters.length) :
    (statement.bind bindings skip).2.parameters[place]? =
      match (Rebind.mk bindings skip).sets? place with
      | some found => Stored.ofValue? found
      | none => if skip = 0 then some .null else statement.parameters[place]? := by
  rw [bind_eq] at succeeded ⊢
  rw [bindFrom_get succeeded (by rwa [started_length]), started_get inside]
  unfold Rebind.sets?
  by_cases below : skip ≤ place
  · rw [if_pos below, if_pos below, List.getElem?_drop, Nat.add_sub_cancel' below]
    cases bindings[place]? <;> rfl
  · rw [if_neg below, if_neg below]

theorem bind_cases (statement : Statement) (bindings : List Binding) (skip : Nat) :
    let outcome := (statement.bind bindings skip).1
    let refused := ∃ position binding, skip ≤ position ∧ bindings[position]? = some binding ∧
      ((∃ number, binding.Exceeds number) ∨ statement.parameters.length ≤ position)
    outcome = .ok () ∧ ¬refused ∨
      (∃ message, outcome = .error (statement.bindError message)) ∧ refused := by
  intro outcome refused
  have same : refused ↔ ∃ offset binding, (bindings.drop skip)[offset]? = some binding ∧
      ((∃ number, binding.Exceeds number) ∨
        (statement.started skip).parameters.length ≤ skip + offset) := by
    rw [started_length]
    constructor
    · intro found
      obtain ⟨position, binding, below, isBinding, unbindable⟩ := found
      obtain ⟨offset, rfl⟩ := Nat.exists_eq_add_of_le below
      exact ⟨offset, binding, by rwa [List.getElem?_drop], unbindable⟩
    · intro found
      obtain ⟨offset, binding, isBinding, unbindable⟩ := found
      rw [List.getElem?_drop] at isBinding
      exact ⟨skip + offset, binding, Nat.le_add_right _ _, isBinding, unbindable⟩
  have sameError (message : String) :
      (statement.started skip).bindError message = statement.bindError message := by
    rw [bindError, bindError, started_sql]
  rw [same]
  simp only [← sameError]
  exact bindFrom_cases (statement.started skip) skip (bindings.drop skip)

theorem hasNext_parameters {World : Type} (step : StateM World StepAnswer)
    (statement : Statement) (world : World) :
    (statement.hasNext step world).1.2.parameters = statement.parameters := by
  unfold hasNext
  split
  · rfl
  split <;> rfl

end Statement

/-! ## Any number of binds -/

namespace Prepared

variable {behaviour : Nat → Execution} {prepared : Prepared}

theorem run_length (behaviour : Nat → Execution) (prepared : Prepared) (call : Call) :
    (prepared.run behaviour call).2.statement.parameters.length =
      prepared.statement.parameters.length := by
  cases call with
  | bind bindings skip => exact prepared.statement.bind_length bindings skip
  | hasNext => exact congrArg List.length (prepared.statement.hasNext_parameters _ _)
  | decodeRow => rfl

theorem runAll_length (behaviour : Nat → Execution) (prepared : Prepared) (calls : List Call) :
    (prepared.runAll behaviour calls).2.statement.parameters.length =
      prepared.statement.parameters.length := by
  induction calls generalizing prepared with
  | nil => rfl
  | cons call calls ih => exact (ih _).trans (prepared.run_length behaviour call)

/-- Every parameter is what the binds so far have made it. -/
def Sees (prepared : Prepared) (rebinds : List Rebind) : Prop :=
  ∀ index < prepared.statement.parameters.length,
    prepared.statement.parameters[index]? = Stored.ofValue? (Rebind.value rebinds index)

theorem run_sees {rebinds : List Rebind} (sees : prepared.Sees rebinds) {call : Call}
    (bound : ∀ outcome, (prepared.run behaviour call).1 = .bound outcome → outcome = .ok ()) :
    (prepared.run behaviour call).2.Sees (rebinds ++ (Rebind.ofCall? call).toList) := by
  intro index inside
  rw [run_length] at inside
  cases call with
  | bind bindings skip =>
      have succeeded : (prepared.statement.bind bindings skip).1 = .ok () := bound _ rfl
      have set := Statement.bind_get succeeded inside
      rw [Rebind.ofCall?, Option.toList_some, Rebind.value_append_singleton]
      change (prepared.statement.bind bindings skip).2.parameters[index]? = _
      rw [set]
      cases (Rebind.mk bindings skip).sets? index with
      | some found => rfl
      | none =>
          dsimp only
          split
          · rfl
          · exact sees index inside
  | hasNext =>
      have same := prepared.statement.hasNext_parameters (Machine.step behaviour) prepared.machine
      change (prepared.statement.hasNext (Machine.step behaviour)
        prepared.machine).1.2.parameters[index]? = _
      rw [same, sees index inside, Rebind.ofCall?, Option.toList_none, List.append_nil]
  | decodeRow =>
      rw [Rebind.ofCall?, Option.toList_none, List.append_nil]
      exact sees index inside

theorem runAll_sees {rebinds : List Rebind} (sees : prepared.Sees rebinds) {calls : List Call}
    (bound : ∀ outcome, .bound outcome ∈ (prepared.runAll behaviour calls).1 → outcome = .ok ()) :
    (prepared.runAll behaviour calls).2.Sees (rebinds ++ calls.filterMap Rebind.ofCall?) := by
  induction calls generalizing prepared rebinds with
  | nil => simpa [runAll] using sees
  | cons call calls ih =>
      have first : (prepared.run behaviour call).2.Sees
          (rebinds ++ (Rebind.ofCall? call).toList) :=
        run_sees sees fun outcome same => bound outcome (List.mem_cons.mpr (.inl same.symm))
      have others := ih first fun outcome member => bound outcome (List.mem_cons_of_mem _ member)
      have split : (call :: calls).filterMap Rebind.ofCall? =
          (Rebind.ofCall? call).toList ++ calls.filterMap Rebind.ofCall? := by
        rw [List.filterMap_cons]
        cases Rebind.ofCall? call <;> rfl
      rw [split, ← List.append_assoc]
      exact others

theorem new_sees (sql : String) (columns : List String) (count : Nat) :
    (new sql columns count).Sees [] := by
  intro index inside
  have inCount : index < count := by simpa [new, Statement.prepared] using inside
  simp [new, Statement.prepared, inCount, Rebind.value, Rebind.current, Stored.ofValue?]

/-- However a statement is bound, stepped and read: where every bind has succeeded, a parameter has
what the latest of the current binds that reaches it has set, and NULL if none does. A bind fails
exactly when one of the values that it does not leave out is too large or has no parameter. -/
theorem runAll_rebinds (behaviour : Nat → Execution) (sql : String) (columns : List String)
    (count : Nat) (calls : List Call) :
    let ran := (new sql columns count).runAll behaviour calls
    let statement := ran.2.statement
    statement.parameters.length = count ∧
    ((∀ outcome, .bound outcome ∈ ran.1 → outcome = .ok ()) → ∀ index < count,
      statement.parameters[index]? =
        Stored.ofValue? (Rebind.value (calls.filterMap Rebind.ofCall?) index)) ∧
    ∀ bindings skip,
      let outcome := (statement.bind bindings skip).1
      (outcome = .ok () ∨ ∃ message,
        outcome = .error (.query { kind := .bind, message, sql := some sql })) ∧
      (outcome ≠ .ok () ↔ ∃ position binding, skip ≤ position ∧
        bindings[position]? = some binding ∧
          ((∃ number, binding.Exceeds number) ∨ count ≤ position)) := by
  intro ran statement
  have length : statement.parameters.length = count := by
    have kept : statement.parameters.length =
        (new sql columns count).statement.parameters.length := runAll_length behaviour _ calls
    rw [kept]
    exact List.length_replicate
  refine ⟨length, ?values, ?failures⟩
  case values =>
    intro bound index inside
    have sees : ran.2.Sees ([] ++ calls.filterMap Rebind.ofCall?) :=
      runAll_sees (new_sees sql columns count) bound
    exact sees index (length.symm ▸ inside)
  case failures =>
    intro bindings skip outcome
    have cases := statement.bind_cases bindings skip
    have sameSql : statement.sql = sql := (runAll_sql behaviour _ calls).1
    simp only [length, Statement.bindError, sameSql] at cases
    rcases cases with ⟨succeeded, bindable⟩ | ⟨⟨message, failed⟩, refused⟩
    · exact ⟨.inl succeeded, iff_of_false (absurd succeeded) bindable⟩
    · refine ⟨.inr ⟨message, failed⟩, iff_of_true ?_ refused⟩
      rw [show outcome = _ from failed]
      simp

def sampleBindings (numbers : List Int64) : List Binding :=
  numbers.map fun number => ⟨"?", .bigInt number⟩

/-- The second bind forgets the first one, the third leaves out one value and the last leaves out
more than it has. -/
def sampleRebinds : List Call :=
  [.bind (sampleBindings [6, 6, 6]) 0, .bind (sampleBindings [1, 2]) 0, .hasNext,
    .bind (sampleBindings [9, 5]) 1, .bind (sampleBindings [8]) 4]

theorem runAll_rebinds_sample :
    let ran := (new "VALUES (?1, ?2, ?3)" ["a", "b", "c"] 3).runAll sampleBehaviour sampleRebinds
    (∀ outcome, .bound outcome ∈ ran.1 → outcome = .ok ()) ∧
    ran.2.statement.parameters = [.integer 1, .integer 5, .null] ∧
    (ran.2.statement.bind (sampleBindings [4, 4, 4, 4]) 3).1 ≠ .ok () := by
  intro ran
  obtain ⟨length, values, failures⟩ :=
    runAll_rebinds sampleBehaviour "VALUES (?1, ?2, ?3)" ["a", "b", "c"] 3 sampleRebinds
  have events : ran.1 = [.bound (.ok ()), .bound (.ok ()), .stepped (.ok true) [.integer 7],
      .bound (.ok ()), .bound (.ok ())] := by
    decide +kernel
  have succeeded : ∀ outcome, .bound outcome ∈ ran.1 → outcome = .ok () := by
    intro outcome member
    rw [events] at member
    simpa using member
  have parameters : ran.2.statement.parameters = [.integer 1, .integer 5, .null] := by
    refine List.ext_getElem? fun index => ?_
    by_cases inside : index < 3
    · rw [values succeeded index inside]
      obtain rfl | rfl | rfl : index = 0 ∨ index = 1 ∨ index = 2 := by omega
      · decide +kernel
      · decide +kernel
      · decide +kernel
    · have beyond : 3 ≤ index := by omega
      rw [List.getElem?_eq_none (Nat.le_trans (Nat.le_of_eq length) beyond),
        List.getElem?_eq_none beyond]
  exact ⟨succeeded, parameters, (failures _ 3).2.mpr
    ⟨3, ⟨"?", .bigInt 4⟩, Nat.le_refl 3, by decide, .inr (Nat.le_refl 3)⟩⟩

end Prepared

end RecordMapper.Engine
