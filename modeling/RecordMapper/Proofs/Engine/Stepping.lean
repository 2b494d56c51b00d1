import Mathlib.Data.List.Induction
import RecordMapper.Engine.Statement

set_option autoImplicit false

/-!
What stepping a prepared statement can do. The engine runs a statement once more when it is stepped
behind its end; a statement that remembers where it stands never does that, whatever it is asked.
So one binding starts at most one execution, whose rows are announced in order, and a row can be
read only while it is the one that was announced last.
-/

namespace RecordMapper.Engine

/-! ## The engine's side -/

/-- One execution of a statement: the rows it yields, and the failure it ends with, if any. -/
structure Execution where
  rows : List (List Stored)
  failure : Option Error := none
deriving DecidableEq, Repr

def Execution.ending (execution : Execution) : StepAnswer :=
  match execution.failure with
  | none => .done
  | some error => .failed error

/-- What the engine keeps of a statement. An execution that has ended is forgotten, so a step behind
its end starts another one. The row that was yielded last stays in memory. -/
structure Machine where
  started : Nat := 0
  underWay : Option Execution := none
  row : List Stored := []
deriving DecidableEq, Repr

namespace Machine

/-- What the next step has before it, and how many executions are started then. -/
def next (behaviour : Nat → Execution) (machine : Machine) : Execution × Nat :=
  match machine.underWay with
  | some execution => (execution, machine.started)
  | none => (behaviour machine.started, machine.started + 1)

/-- Steps through executions of which the n-th does what `behaviour` says. -/
def step (behaviour : Nat → Execution) : StateM Machine StepAnswer :=
  fun machine =>
    let (execution, started) := machine.next behaviour
    match execution.rows with
    | row :: rows => (.row, { started, underWay := some { execution with rows }, row })
    | [] => (execution.ending, { machine with started, underWay := none })

def reset (machine : Machine) : Machine :=
  { machine with underWay := none }

end Machine

/-! ## Calls -/

/-- A statement together with what the engine keeps of it. -/
structure Prepared where
  statement : Statement
  machine : Machine := {}
deriving DecidableEq, Repr

inductive Call where
  | bind (bindings : List Binding) (skip : Nat)
  | hasNext
  | decodeRow
deriving DecidableEq, Repr

def Call.isBind : Call → Bool
  | .bind _ _ => true
  | .hasNext | .decodeRow => false

inductive Event where
  | bound (outcome : Except Error Unit)
  /-- An answer about the next row, and the row that is in memory then. -/
  | stepped (answer : Except Error Bool) (row : List Stored)
  | decoded (outcome : Except Error Row)
deriving DecidableEq

namespace Event

def isMove : Event → Bool
  | .bound _ | .stepped _ _ => true
  | .decoded _ => false

def row? : Event → Option (List Stored)
  | .stepped (.ok true) row => some row
  | _ => none

/-- Whether there is said to be no further row. -/
def isEnd : Event → Bool
  | .stepped (.ok false) _ | .stepped (.error _) _ => true
  | _ => false

def announced (events : List Event) : List (List Stored) :=
  events.filterMap row?

theorem announced_cons (event : Event) (events : List Event) :
    announced (event :: events) = event.row?.toList ++ announced events := by
  unfold announced
  rw [List.filterMap_cons]
  cases event.row? <;> rfl

/-- The row that the latest move announced. -/
def shown (events : List Event) : Option (List Stored) :=
  (events.filter isMove).getLast?.bind row?

theorem shown_append_singleton (events : List Event) (event : Event) :
    shown (events ++ [event]) = if event.isMove then event.row? else shown events := by
  unfold shown
  rw [List.filter_append]
  split
  · rename_i moves
    simp [moves]
  · rename_i rests
    simp [rests]

end Event

namespace Prepared

def run (behaviour : Nat → Execution) (prepared : Prepared) : Call → Event × Prepared
  | .bind bindings skip =>
      let (outcome, statement) := prepared.statement.bind bindings skip
      (.bound outcome, { statement, machine := prepared.machine.reset })
  | .hasNext =>
      let ((answer, statement), machine) :=
        prepared.statement.hasNext (Machine.step behaviour) prepared.machine
      (.stepped answer machine.row, { statement, machine })
  | .decodeRow => (.decoded (prepared.statement.decodeRow prepared.machine.row), prepared)

def runAll (behaviour : Nat → Execution) (prepared : Prepared) :
    List Call → List Event × Prepared
  | [] => ([], prepared)
  | call :: calls =>
      let (event, next) := prepared.run behaviour call
      let (events, last) := next.runAll behaviour calls
      (event :: events, last)

variable {behaviour : Nat → Execution} {prepared : Prepared}

theorem runAll_append (behaviour : Nat → Execution) (prepared : Prepared)
    (first second : List Call) :
    prepared.runAll behaviour (first ++ second) =
      let (events, middle) := prepared.runAll behaviour first
      let (others, last) := middle.runAll behaviour second
      (events ++ others, last) := by
  induction first generalizing prepared with
  | nil => rfl
  | cons call first ih => simp only [List.cons_append, runAll, ih]

end Prepared

/-! ## What stays of a statement -/

namespace Statement

def misuse (sql : String) : Error :=
  .query
    { kind := .misuse, message := "decode_row called while not positioned on a row",
      sql := some sql }

/-- What reading gives of a row, or of none. -/
def read (sql : String) (columns : List String) : Option (List Stored) → Except Error Row
  | some row => (readColumns columns row).map fun values => ⟨columns, values⟩
  | none => .error (misuse sql)

/-- Statements that differ in their parameters only. -/
structure Alike (statement other : Statement) : Prop where
  sql : statement.sql = other.sql
  columns : statement.columns = other.columns
  position : statement.position = other.position

theorem Alike.trans {first second third : Statement} (left : first.Alike second)
    (right : second.Alike third) : first.Alike third :=
  ⟨left.sql.trans right.sql, left.columns.trans right.columns, left.position.trans right.position⟩

theorem bindOne_alike {statement next : Statement} {index : Nat} {binding : Binding}
    (bound : statement.bindOne index binding = .ok next) : next.Alike statement := by
  unfold bindOne at bound
  split at bound
  · cases bound
  split at bound <;> cases bound
  exact ⟨rfl, rfl, rfl⟩

theorem bindFrom_alike (statement : Statement) (index : Nat) (bindings : List Binding) :
    (statement.bindFrom index bindings).2.Alike statement := by
  induction bindings generalizing statement index with
  | nil => exact ⟨rfl, rfl, rfl⟩
  | cons binding bindings ih =>
      rw [bindFrom]
      cases bound : statement.bindOne index binding with
      | error => exact ⟨rfl, rfl, rfl⟩
      | ok next => exact (ih next (index + 1)).trans (bindOne_alike bound)

/-- A statement is rewound even if its values cannot be bound. -/
theorem bind_alike (statement : Statement) (bindings : List Binding) (skip : Nat) :
    (statement.bind bindings skip).2.Alike statement.rewind := by
  have cleared : statement.rewind.clear.Alike statement.rewind := ⟨rfl, rfl, rfl⟩
  unfold bind
  dsimp only
  split
  · exact (bindFrom_alike _ _ _).trans cleared
  · exact bindFrom_alike _ _ _

theorem hasNext_sql {World : Type} (step : StateM World StepAnswer) (statement : Statement)
    (world : World) :
    (statement.hasNext step world).1.2.sql = statement.sql ∧
      (statement.hasNext step world).1.2.columns = statement.columns := by
  unfold hasNext
  split
  · exact ⟨rfl, rfl⟩
  split <;> exact ⟨rfl, rfl⟩

end Statement

namespace Prepared

variable {behaviour : Nat → Execution} {prepared : Prepared}

theorem run_sql (behaviour : Nat → Execution) (prepared : Prepared) (call : Call) :
    (prepared.run behaviour call).2.statement.sql = prepared.statement.sql ∧
      (prepared.run behaviour call).2.statement.columns = prepared.statement.columns := by
  cases call with
  | bind bindings skip =>
      have alike := prepared.statement.bind_alike bindings skip
      exact ⟨alike.sql, alike.columns⟩
  | hasNext => exact prepared.statement.hasNext_sql _ _
  | decodeRow => exact ⟨rfl, rfl⟩

theorem runAll_sql (behaviour : Nat → Execution) (prepared : Prepared) (calls : List Call) :
    (prepared.runAll behaviour calls).2.statement.sql = prepared.statement.sql ∧
      (prepared.runAll behaviour calls).2.statement.columns = prepared.statement.columns := by
  induction calls generalizing prepared with
  | nil => exact ⟨rfl, rfl⟩
  | cons call calls ih =>
      have first := prepared.run_sql behaviour call
      have rest := ih (prepared.run behaviour call).2
      exact ⟨rest.1.trans first.1, rest.2.trans first.2⟩

/-! ## Rows that can be read -/

/-- A statement stands on the row that was announced last, or on none. -/
def Shows (prepared : Prepared) : Option (List Stored) → Prop
  | some row => prepared.statement.position = .row ∧ prepared.machine.row = row
  | none => prepared.statement.position ≠ .row

theorem run_shows (behaviour : Nat → Execution) {prepared : Prepared} {shown : Option (List Stored)}
    (shows : prepared.Shows shown) (call : Call) :
    let ran := prepared.run behaviour call
    ran.2.Shows (if ran.1.isMove then ran.1.row? else shown) := by
  cases call with
  | bind bindings skip =>
      have ready : (prepared.statement.bind bindings skip).2.position = .ready :=
        (prepared.statement.bind_alike bindings skip).position
      change (prepared.statement.bind bindings skip).2.position ≠ .row
      simp [ready]
  | hasNext =>
      unfold run Statement.hasNext
      by_cases done : prepared.statement.position = .done
      · simp [done, Event.isMove, Event.row?, Shows]
      · simp only [done, if_false]
        rcases Machine.step behaviour prepared.machine with ⟨_ | _ | _, machine⟩ <;>
          simp [Event.isMove, Event.row?, Shows]
  | decodeRow => exact shows

theorem runAll_shows (behaviour : Nat → Execution) {prepared : Prepared}
    (shows : prepared.Shows none) (calls : List Call) :
    let ran := prepared.runAll behaviour calls
    ran.2.Shows (Event.shown ran.1) := by
  induction calls using List.reverseRecOn with
  | nil => exact shows
  | append_singleton calls call ih =>
      have last := run_shows behaviour ih call
      rw [runAll_append]
      dsimp only [runAll] at last ⊢
      rwa [Event.shown_append_singleton]

theorem decodeRow_of_shows {shown : Option (List Stored)} (shows : prepared.Shows shown) :
    prepared.statement.decodeRow prepared.machine.row =
      Statement.read prepared.statement.sql prepared.statement.columns shown := by
  unfold Statement.decodeRow
  cases shown with
  | some row =>
      rw [if_pos shows.1, shows.2]
      rfl
  | none => exact if_neg shows

/-! ## One execution a binding -/

/-- How far a statement is since it was bound, when `first` executions were started: which rows it
has announced, and whether it is at its end. -/
inductive Phase (behaviour : Nat → Execution) (first : Nat) :
    List (List Stored) → Bool → Prepared → Prop where
  | ready {prepared : Prepared} :
      prepared.statement.position = .ready → prepared.machine.underWay = none →
      prepared.machine.started = first → Phase behaviour first [] false prepared
  | row {prepared : Prepared} {announced rest : List (List Stored)} :
      prepared.statement.position = .row →
      prepared.machine.underWay = some ⟨rest, (behaviour first).failure⟩ →
      prepared.machine.started = first + 1 → announced ++ rest = (behaviour first).rows →
      Phase behaviour first announced false prepared
  | done {prepared : Prepared} :
      prepared.statement.position = .done → prepared.machine.started = first + 1 →
      Phase behaviour first (behaviour first).rows true prepared

namespace Phase

variable {first : Nat} {announced : List (List Stored)} {ended : Bool}

/-- A bind brings a statement back to the beginning, whether it succeeds or fails. -/
theorem of_bind (behaviour : Nat → Execution) (prepared : Prepared) (bindings : List Binding)
    (skip : Nat) :
    let after := (prepared.run behaviour (.bind bindings skip)).2
    Phase behaviour after.machine.started [] false after :=
  .ready (prepared.statement.bind_alike bindings skip).position rfl rfl

theorem hasNext_of_next {rest : List (List Stored)}
    (before : prepared.statement.position ≠ .done)
    (next : prepared.machine.next behaviour = (⟨rest, (behaviour first).failure⟩, first + 1))
    (rows : announced ++ rest = (behaviour first).rows) :
    let ran := prepared.run behaviour .hasNext
    Phase behaviour first (announced ++ ran.1.row?.toList) ran.1.isEnd ran.2 := by
  unfold run Statement.hasNext Machine.step
  rw [next]
  simp only [before, if_false]
  -- Either the next row is yielded, or what was announced is all there is.
  cases rest with
  | cons row rest => exact .row rfl rfl rfl (by simpa [Event.row?] using rows)
  | nil =>
      rw [List.append_nil] at rows
      subst rows
      unfold Execution.ending
      cases (behaviour first).failure with
      | none => simpa [Event.row?, Event.isEnd] using .done rfl rfl
      | some error => simpa [Event.row?, Event.isEnd] using .done rfl rfl

theorem run (phase : Phase behaviour first announced ended prepared) {call : Call}
    (unbound : call.isBind = false) :
    let ran := prepared.run behaviour call
    Phase behaviour first (announced ++ ran.1.row?.toList) (ended || ran.1.isEnd) ran.2 := by
  cases call with
  | bind => cases unbound
  | decodeRow => simpa [Prepared.run, Event.row?, Event.isEnd] using phase
  | hasNext =>
      cases phase with
      | ready position underWay started =>
          refine hasNext_of_next (by simp [position]) ?_ (List.nil_append _)
          simp [Machine.next, underWay, started]
      | row position underWay started rows =>
          refine hasNext_of_next (by simp [position]) ?_ rows
          simp [Machine.next, underWay, started]
      | done position started =>
          simpa [Prepared.run, Statement.hasNext, position, Event.row?, Event.isEnd] using
            .done position started

theorem runAll (phase : Phase behaviour first announced ended prepared) {calls : List Call}
    (unbound : ∀ call ∈ calls, call.isBind = false) :
    let ran := prepared.runAll behaviour calls
    Phase behaviour first (announced ++ Event.announced ran.1) (ended || ran.1.any Event.isEnd)
      ran.2 := by
  induction calls generalizing prepared announced ended with
  | nil => simpa [Prepared.runAll, Event.announced] using phase
  | cons call calls ih =>
      obtain ⟨here, others⟩ := List.forall_mem_cons.mp unbound
      have one := phase.run here
      rcases ran : prepared.run behaviour call with ⟨event, next⟩
      rw [ran] at one
      have rest := ih one others
      rw [Prepared.runAll, ran]
      dsimp only at rest ⊢
      rwa [Event.announced_cons, List.any_cons, ← List.append_assoc, ← Bool.or_assoc]

theorem exists_of_runAll (phase : Phase behaviour first announced ended prepared)
    (calls : List Call) :
    ∃ later shown atEnd, Phase behaviour later shown atEnd (prepared.runAll behaviour calls).2 := by
  induction calls generalizing prepared first announced ended with
  | nil => exact ⟨_, _, _, phase⟩
  | cons call calls ih =>
      cases binds : call.isBind with
      | false => exact ih (phase.run binds)
      | true =>
          cases call with
          | bind bindings skip => exact ih (of_bind behaviour prepared bindings skip)
          | hasNext | decodeRow => cases binds

/-- Where nothing has happened, and behind a bind, a statement is at its beginning. -/
theorem runAll_of_bind (phase : Phase behaviour prepared.machine.started [] false prepared)
    {calls : List Call} (binds : ∀ call ∈ calls.getLast?, call.isBind = true) :
    let after := (prepared.runAll behaviour calls).2
    Phase behaviour after.machine.started [] false after := by
  cases calls using List.reverseRecOn with
  | nil => exact phase
  | append_singleton calls call =>
      rw [List.getLast?_concat] at binds
      rw [runAll_append]
      cases call with
      | bind bindings skip => exact of_bind behaviour _ bindings skip
      | hasNext | decodeRow => cases binds _ rfl

/-- A statement at its end answers that there is no further row, whatever a step would do. -/
theorem hasNext_of_ended (phase : Phase behaviour first announced true prepared)
    (step : StateM Machine StepAnswer) :
    prepared.statement.hasNext step prepared.machine =
      ((.ok false, prepared.statement), prepared.machine) := by
  cases phase with
  | done position _ => rw [Statement.hasNext, if_pos position]

theorem announced_of_ended (phase : Phase behaviour first announced true prepared) :
    announced = (behaviour first).rows := by
  cases phase
  rfl

theorem bounds (phase : Phase behaviour first announced ended prepared) :
    prepared.machine.started = first ∧ announced = [] ∨
      prepared.machine.started = first + 1 ∧ announced <+: (behaviour first).rows := by
  cases phase with
  | ready _ _ started => exact .inl ⟨started, rfl⟩
  | row _ _ started rows => exact .inr ⟨started, _, rows⟩
  | done _ started => exact .inr ⟨started, List.prefix_refl _⟩

end Phase

def new (sql : String) (columns : List String) (count : Nat) : Prepared :=
  { statement := .prepared sql columns count }

theorem new_phase (behaviour : Nat → Execution) (sql : String) (columns : List String)
    (count : Nat) :
    let start := new sql columns count
    Phase behaviour start.machine.started [] false start :=
  .ready rfl rfl rfl

/-- However a statement is bound, stepped and read: a row can be read exactly while the latest move
has announced it, and then it is that row; behind its end a statement is not stepped until it is
bound again; and from one bind to the next one execution is started at most, whose rows are
announced in order, all of them before the end. -/
theorem runAll_once (behaviour : Nat → Execution) (sql : String) (columns : List String)
    (count : Nat) :
    let start := new sql columns count
    (∀ calls,
      let ran := start.runAll behaviour calls
      ran.2.run behaviour .decodeRow =
        (.decoded (Statement.read sql columns (Event.shown ran.1)), ran.2)) ∧
    ∀ earlier calls, (∀ call ∈ calls, call.isBind = false) →
      let before := (start.runAll behaviour earlier).2
      let ran := before.runAll behaviour calls
      (ran.1.any Event.isEnd = true → ∀ step : StateM Machine StepAnswer,
        ran.2.statement.hasNext step ran.2.machine =
          ((.ok false, ran.2.statement), ran.2.machine)) ∧
      ((∀ call ∈ earlier.getLast?, call.isBind = true) →
        let first := before.machine.started
        (ran.2.machine.started = first ∧ Event.announced ran.1 = [] ∨
          ran.2.machine.started = first + 1 ∧
            Event.announced ran.1 <+: (behaviour first).rows) ∧
        (ran.1.any Event.isEnd = true → Event.announced ran.1 = (behaviour first).rows)) := by
  intro start
  have fresh := new_phase behaviour sql columns count
  constructor
  · intro calls ran
    have nothing : start.Shows none := by
      have ready : start.statement.position = .ready := rfl
      simp [Shows, ready]
    have shows : ran.2.Shows (Event.shown ran.1) := runAll_shows behaviour nothing calls
    have same := start.runAll_sql behaviour calls
    change (Event.decoded (ran.2.statement.decodeRow ran.2.machine.row), ran.2) = _
    rw [decodeRow_of_shows shows, same.1, same.2]
    rfl
  · intro earlier calls unbound before ran
    constructor
    · intro ended step
      obtain ⟨first, announced, atEnd, phase⟩ := fresh.exists_of_runAll earlier
      have later := phase.runAll unbound
      change Phase _ _ _ (atEnd || ran.1.any Event.isEnd) ran.2 at later
      rw [ended, Bool.or_true] at later
      exact later.hasNext_of_ended step
    · intro binds first
      have phase := (fresh.runAll_of_bind binds).runAll unbound
      change Phase behaviour first (Event.announced ran.1) (ran.1.any Event.isEnd) ran.2 at phase
      refine ⟨phase.bounds, fun ended => ?_⟩
      rw [ended] at phase
      exact phase.announced_of_ended

/-- The first execution fails behind one row; every other one has two rows. -/
def sampleBehaviour : Nat → Execution
  | 0 => ⟨[[.integer 7]], some (.custom "interrupted")⟩
  | _ => ⟨[[.integer 1], [.integer 2]], none⟩

/-- The number is too large to be bound. -/
def sampleBind : Call :=
  .bind [⟨"?1", .unsigned 9223372036854775808⟩] 0

theorem runAll_once_sample :
    let earlier := [.hasNext, .hasNext, .hasNext, sampleBind]
    let calls := [.decodeRow, .hasNext, .hasNext, .decodeRow, .hasNext, .hasNext]
    let before := ((new "SELECT ?1" ["a"] 1).runAll sampleBehaviour earlier).2
    let ran := before.runAll sampleBehaviour calls
    (∀ call ∈ calls, call.isBind = false) ∧ (∀ call ∈ earlier.getLast?, call.isBind = true) ∧
    before.run sampleBehaviour .decodeRow =
      (.decoded (.error (Statement.misuse "SELECT ?1")), before) ∧
    ran.1.any Event.isEnd = true ∧
    (∀ step : StateM Machine StepAnswer, ran.2.statement.hasNext step ran.2.machine =
      ((.ok false, ran.2.statement), ran.2.machine)) ∧
    before.machine.started = 1 ∧ ran.2.machine.started = 2 ∧
    Event.announced ran.1 = [[.integer 1], [.integer 2]] := by
  intro earlier calls before ran
  have unbound : ∀ call ∈ calls, call.isBind = false := by decide
  have binds : ∀ call ∈ earlier.getLast?, call.isBind = true := by decide
  have ended : ran.1.any Event.isEnd = true := by decide +kernel
  have one : before.machine.started = 1 := by decide +kernel
  obtain ⟨reads, runs⟩ := runAll_once sampleBehaviour "SELECT ?1" ["a"] 1
  obtain ⟨stays, once⟩ := runs earlier calls unbound
  obtain ⟨bounds, all⟩ := once binds
  have announced : Event.announced ran.1 = [[.integer 1], [.integer 2]] :=
    (all ended).trans (by rw [one]; rfl)
  refine ⟨unbound, binds, ?_, ended, stays ended, one, ?_, announced⟩
  · rw [reads earlier]
    rfl
  · rcases bounds with ⟨-, none⟩ | ⟨started, -⟩
    · rw [announced] at none
      cases none
    · rw [started, one]

end Prepared

end RecordMapper.Engine
