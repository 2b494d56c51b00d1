import RecordMapper.Proofs.Connection.Answering

set_option autoImplicit false

/-!
Statements that are run for what they do, on any connection whose rows come to an end. Running binds
the values of a statement and steps until no row is left. One prepared statement can be run for
several items in turn, up to the first error.
-/

namespace RecordMapper

/-! ## Up to the first error -/

/-- Items that are taken one after another until one fails. The second list has those that were
taken to the end. -/
inductive UntilError {State Item : Type} (step : Item → State → Except Error Unit → State → Prop) :
    List Item → State → List Item → Except Error Unit → State → Prop where
  | nil {state : State} : UntilError step [] state [] (.ok ()) state
  | stopped {item : Item} {items : List Item} {error : Error} {before after : State} :
      step item before (.error error) after →
      UntilError step (item :: items) before [] (.error error) after
  | taken {item : Item} {items taken : List Item} {outcome : Except Error Unit}
      {before middle after : State} :
      step item before (.ok ()) middle → UntilError step items middle taken outcome after →
      UntilError step (item :: items) before (item :: taken) outcome after

namespace UntilError

variable {State Item : Type} {step : Item → State → Except Error Unit → State → Prop}
  {items taken : List Item} {outcome : Except Error Unit} {before after : State}

theorem taken_prefix (run : UntilError step items before taken outcome after) :
    taken <+: items := by
  induction run with
  | nil => exact List.prefix_refl []
  | stopped => exact List.nil_prefix
  | taken _ _ ih => exact (List.prefix_cons_inj _).mpr ih

/-- A run ends without error exactly when it takes every item. -/
theorem ok_iff (run : UntilError step items before taken outcome after) :
    outcome = .ok () ↔ taken = items := by
  induction run with
  | nil => exact iff_of_true rfl rfl
  | stopped => exact iff_of_false nofun nofun
  | taken _ _ ih => rw [ih, List.cons_inj_right]

theorem forM {action : Item → Action State Unit}
    (each : ∀ item state,
      step item state ((action item).runOn state).1 ((action item).runOn state).2)
    (items : List Item) (before : State) :
    ∃ taken, UntilError step items before taken ((items.forM action).runOn before).1
      ((items.forM action).runOn before).2 := by
  induction items generalizing before with
  | nil => exact ⟨[], .nil⟩
  | cons item items ih =>
      have first := each item before
      have unrolled : ((item :: items).forM action).runOn before =
          (action item >>= fun _ => items.forM action).runOn before := rfl
      rw [unrolled, Action.runOn_bind]
      rcases ran : (action item).runOn before with ⟨error | _, middle⟩
      · rw [ran] at first
        exact ⟨[], .stopped first⟩
      · rw [ran] at first
        obtain ⟨taken, others⟩ := ih middle
        exact ⟨item :: taken, .taken first others⟩

end UntilError

namespace Connection

variable {World Handle Item : Type} {connection : Connection World Handle}

/-! ## Rows that come to an end -/

/-- The most rows that can be stepped to, where they come to an end. -/
noncomputable def mostRows {handle : Handle} (ends : WellFounded (connection.Passes handle)) :
    World → Nat :=
  ends.fix fun world most =>
    match stepped : (connection.hasNext handle).runOn world with
    | (.ok true, middle) =>
        max (most middle ⟨middle, stepped, .inl rfl⟩)
          (most ((connection.decodeRow handle).runOn middle).2 ⟨middle, stepped, .inr rfl⟩) + 1
    | _ => 0

theorem mostRows_lt {handle : Handle} (ends : WellFounded (connection.Passes handle))
    {next world : World} (passes : connection.Passes handle next world) :
    mostRows ends next < mostRows ends world := by
  obtain ⟨middle, stepped, isNext⟩ := passes
  let final := ((connection.decodeRow handle).runOn middle).2
  have most : mostRows ends world = max (mostRows ends middle) (mostRows ends final) + 1 := by
    rw [mostRows, WellFounded.fix_eq]
    split
    · rename_i other again
      cases stepped.symm.trans again
      rfl
    · rename_i others
      exact (others middle stepped).elim
  have within : mostRows ends next ≤ max (mostRows ends middle) (mostRows ends final) := by
    cases isNext with
    | inl same =>
        rw [same]
        exact Nat.le_max_left _ _
    | inr same =>
        rw [same]
        exact Nat.le_max_right _ _
  rw [most]
  exact Nat.lt_succ_of_le within

/-- Nothing but rows without end keeps a connection from being finite. -/
theorem finite_iff :
    Nonempty connection.Finite ↔ ∀ handle, WellFounded (connection.Passes handle) := by
  constructor
  · intro finite handle
    cases finite with
    | intro finite =>
        exact Subrelation.wf Finite.rowsLeft_lt (measure (Finite.rowsLeft connection handle)).wf
  · intro ends
    exact ⟨⟨fun handle => mostRows (ends handle), mostRows_lt (ends _)⟩⟩

/-! ## Running a statement -/

/-- Steps up to one that says that no row is left, or to one that fails. -/
inductive Finishes (connection : Connection World Handle) (handle : Handle) :
    World → Except Error Unit → World → Prop where
  | ended {before after : World} :
      (connection.hasNext handle).runOn before = (.ok false, after) →
      Finishes connection handle before (.ok ()) after
  | failed {before after : World} {error : Error} :
      (connection.hasNext handle).runOn before = (.error error, after) →
      Finishes connection handle before (.error error) after
  | stepped {before middle after : World} {outcome : Except Error Unit} :
      (connection.hasNext handle).runOn before = (.ok true, middle) →
      Finishes connection handle middle outcome after →
      Finishes connection handle before outcome after

/-- Binds all values, from the first on, and steps to the end. -/
inductive Runs (connection : Connection World Handle) (handle : Handle) (bindings : List Binding)
    (before : World) : Except Error Unit → World → Prop where
  | unbound {error : Error} {after : World} :
      (connection.bind handle bindings 0).runOn before = (.error error, after) →
      Runs connection handle bindings before (.error error) after
  | bound {outcome : Except Error Unit} {bound after : World} :
      (connection.bind handle bindings 0).runOn before = (.ok (), bound) →
      connection.Finishes handle bound outcome after →
      Runs connection handle bindings before outcome after

/-- One statement, prepared once, run for each of the items up to the first error and then given
up. The second list has the items that it was run for to the end. -/
inductive Performs (connection : Connection World Handle) (sql : String)
    (bindings : Item → List Binding) (items : List Item) (before : World) :
    List Item → Except Error Unit → World → Prop where
  | unprepared {error : Error} {after : World} :
      (connection.prepare sql).runOn before = (.error error, after) →
      Performs connection sql bindings items before [] (.error error) after
  | prepared {handle : Handle} {taken : List Item} {outcome : Except Error Unit}
      {prepared last : World} :
      (connection.prepare sql).runOn before = (.ok handle, prepared) →
      UntilError (fun item => connection.Runs handle (bindings item)) items prepared taken outcome
        last →
      Performs connection sql bindings items before taken outcome (connection.release handle last)

namespace Performs

variable {sql : String} {bindings : Item → List Binding} {items taken : List Item}
  {outcome : Except Error Unit} {before after : World}

theorem taken_prefix
    (performs : connection.Performs sql bindings items before taken outcome after) :
    taken <+: items := by
  cases performs with
  | unprepared => exact List.nil_prefix
  | prepared _ run => exact run.taken_prefix

theorem ok_iff (performs : connection.Performs sql bindings items before taken outcome after)
    (nonempty : items ≠ []) : outcome = .ok () ↔ taken = items := by
  cases performs with
  | unprepared => exact iff_of_false nofun nonempty.symm
  | prepared _ run => exact run.ok_iff

end Performs

theorem advance_eq (handle : Handle) (world : World) :
    (connection.advance handle).runOn world =
      match (connection.hasNext handle).runOn world with
      | (.error error, next) => (.error error, next)
      | (.ok false, next) => (.ok none, next)
      | (.ok true, next) => (.ok (some ()), next) := rfl

theorem Finishes.keeps {handle : Handle} {kept : World → Prop}
    (each : Action.Keeps kept (connection.hasNext handle)) {before after : World}
    {outcome : Except Error Unit} (finishes : connection.Finishes handle before outcome after)
    (holds : kept before) : kept after := by
  induction finishes with
  | ended stepped | failed stepped =>
      have last := each _ holds
      rwa [stepped] at last
  | stepped stepped _ ih =>
      have next := each _ holds
      rw [stepped] at next
      exact ih next

section Finite

variable [connection.Finite]

theorem runToEnd_eq (handle : Handle) (world : World) :
    (connection.runToEnd handle).runOn world =
      (fun ran : Except Error (List Unit) × World => (ran.1.map fun _ => (), ran.2))
        (Action.collect (Finite.rowsLeft connection handle) (connection.advance handle)
          (fun _ _ _ yields => Finite.rowsLeft_lt (advance_passes yields)) world) := rfl

theorem runToEnd_finishes (handle : Handle) (before : World) :
    connection.Finishes handle before ((connection.runToEnd handle).runOn before).1
      ((connection.runToEnd handle).runOn before).2 := by
  rw [runToEnd_eq]
  induction left : Finite.rowsLeft connection handle before using Nat.strongRecOn
    generalizing before with
  | ind count ih =>
      have advanced : (connection.advance handle).runOn before = _ := advance_eq handle before
      rcases stepped : (connection.hasNext handle).runOn before with ⟨error | more, next⟩
      · rw [stepped] at advanced
        rw [Action.collect_error advanced]
        exact .failed stepped
      cases more with
      | false =>
          rw [stepped] at advanced
          rw [Action.collect_none advanced]
          exact .ended stepped
      | true =>
          rw [stepped] at advanced
          rw [Action.collect_some advanced]
          have others := ih _ (left ▸ Finite.rowsLeft_lt (advance_passes advanced)) next rfl
          rcases ran : Action.collect (Finite.rowsLeft connection handle)
            (connection.advance handle) _ next with ⟨error | items, after⟩
          · rw [ran] at others
            exact .stepped stepped others
          · rw [ran] at others
            exact .stepped stepped others

theorem runToEnd_keeps {handle : Handle} {kept : World → Prop}
    (each : Action.Keeps kept (connection.hasNext handle)) :
    Action.Keeps kept (connection.runToEnd handle) :=
  fun before holds => (runToEnd_finishes handle before).keeps each holds

/-- A statement without rows is at its end behind its first step. -/
theorem runToEnd_of_hasNext {handle : Handle} {outcome : Except Error Unit}
    {before after : World}
    (stepped : (connection.hasNext handle).runOn before = (outcome.map fun _ => false, after)) :
    (connection.runToEnd handle).runOn before = (outcome, after) := by
  have advanced : (connection.advance handle).runOn before = _ := advance_eq handle before
  rw [stepped] at advanced
  rw [runToEnd_eq]
  cases outcome with
  | error error =>
      rw [Action.collect_error advanced]
      rfl
  | ok =>
      rw [Action.collect_none advanced]
      rfl

variable (connection) in
theorem withPrepared_performs {sql : String} {bindings : Item → List Binding} {items : List Item}
    (before : World) :
    let action := connection.withPrepared sql fun handle =>
      items.forM fun item => do
        connection.bind handle (bindings item) 0
        connection.runToEnd handle
    ∃ taken, connection.Performs sql bindings items before taken (action.runOn before).1
      (action.runOn before).2 := by
  have each (handle : Handle) (item : Item) (world : World) :
      let run := Action.runOn (do
        connection.bind handle (bindings item) 0
        connection.runToEnd handle) world
      connection.Runs handle (bindings item) world run.1 run.2 := by
    dsimp only
    rw [Action.runOn_bind]
    rcases bound : (connection.bind handle (bindings item) 0).runOn world with ⟨error | _, next⟩
    · exact .unbound bound
    · exact .bound bound (runToEnd_finishes handle next)
  unfold withPrepared
  dsimp only
  rw [Action.runOn_bind]
  rcases prepares : (connection.prepare sql).runOn before with ⟨error | handle, prepared⟩
  · exact ⟨[], .unprepared prepares⟩
  · obtain ⟨taken, run⟩ := UntilError.forM (each handle) items prepared
    exact ⟨taken, .prepared prepares run⟩

end Finite

end Connection

end RecordMapper
