import Mathlib
import RecordMapper.Engine.Connection
import RecordMapper.Proofs.Connection.Performing

set_option autoImplicit false

/-!
Transactions of the engine. Only the statements that control transactions begin or end one, and
those that were told to undo the whole transaction when they fail. All others leave alone what a
rollback would restore, whether they succeed or fail.
-/

namespace RecordMapper

namespace Engine

/-! ## Effects -/

namespace Effect

variable {Item Result : Type} {effect : Effect Item}

/-- Whether an effect leaves the open transaction as it is, with the content at its start. -/
def LeavesOpen (effect : Effect Item) : Prop :=
  ∀ state, (effect.run state).2.transaction = state.transaction

theorem run_bind (effect : Effect Item) (next : Item → Effect Result) (state : State) :
    (effect >>= next).run state =
      match effect.run state with
      | (.ok item, middle) => (next item).run middle
      | (.error failure, middle) => (.error failure, middle) := by
  change (match effect state with
    | (outcome, middle) => ExceptT.bindCont next outcome middle) = _
  rcases outcome : effect state with ⟨failure | item, middle⟩ <;>
    simp only [run, ExceptT.run, outcome] <;> rfl

namespace LeavesOpen

theorem pure (item : Item) : LeavesOpen (Pure.pure item) :=
  fun _ => rfl

theorem throw (failure : Failure) : LeavesOpen (MonadExcept.throw failure : Effect Item) :=
  fun _ => rfl

theorem ofExcept (outcome : Except Failure Item) : LeavesOpen (Effect.ofExcept outcome) :=
  fun _ => rfl

theorem get : LeavesOpen MonadState.get :=
  fun _ => rfl

theorem modify {change : State → State}
    (keeps : ∀ state, (change state).transaction = state.transaction) :
    LeavesOpen (MonadState.modifyGet fun state => ((), change state)) :=
  keeps

theorem bind {next : Item → Effect Result} (first : LeavesOpen effect)
    (second : ∀ item, LeavesOpen (next item)) : LeavesOpen (effect >>= next) := by
  intro state
  have kept := first state
  rw [run_bind]
  rcases ran : effect.run state with ⟨failure | item, middle⟩
  · rw [ran] at kept
    exact kept
  · rw [ran] at kept
    exact (second item middle).trans kept

theorem forM {action : Item → Effect Unit} (each : ∀ item, LeavesOpen (action item))
    (items : List Item) : LeavesOpen (items.forM action) := by
  induction items with
  | nil => exact pure ()
  | cons item items ih => exact (each item).bind fun _ => ih

theorem checkWritable : LeavesOpen Effect.checkWritable := by
  refine get.bind fun state => ?_
  split
  · exact throw _
  · exact pure ()

theorem relation (name : String) : LeavesOpen (Effect.relation name) :=
  get.bind fun _ => ofExcept _

theorem putRelation (relation : Relation) : LeavesOpen (Effect.putRelation relation) :=
  modify fun _ => rfl

/-- What is undone when a change fails is the change, unless it is to be the whole transaction. -/
theorem undoing {onConflict : OnConflict} (leaves : LeavesOpen effect)
    (part : onConflict ≠ .rollback) : LeavesOpen (Effect.undoing onConflict effect) := by
  intro before
  have kept := leaves before
  change (Effect.undoing onConflict effect before).2.transaction = _
  unfold Effect.undoing
  rcases ran : effect.run before with ⟨failure | item, after⟩
  · rw [ran] at kept
    dsimp only
    unfold contentAfter
    split
    · exact kept
    · split
      · exact kept
      · exact absurd rfl part
      · exact kept
  · rw [ran] at kept
    exact kept

end LeavesOpen

end Effect

/-! ## Instructions -/

namespace Program

open Effect (LeavesOpen)

def LeavesOpen (program : Program) : Prop :=
  ∀ parameters reading, Effect.LeavesOpen (program.run parameters reading)

namespace LeavesOpen

theorem changing {change : List Stored → Effect Unit}
    (leaves : ∀ parameters, Effect.LeavesOpen (change parameters)) :
    LeavesOpen (Program.changing change) :=
  fun parameters _ => (leaves parameters).bind fun _ => .pure []

theorem idle : LeavesOpen Program.idle :=
  changing fun _ => .pure ()

theorem writing {change : List Stored → Effect Unit}
    (leaves : ∀ parameters, Effect.LeavesOpen (change parameters)) :
    LeavesOpen (Program.writing change) :=
  changing fun parameters => Effect.LeavesOpen.checkWritable.bind fun _ => leaves parameters

theorem changingRows {change : List Stored → Effect Unit} {onConflict : OnConflict}
    (part : onConflict ≠ .rollback)
    (leaves : ∀ parameters, Effect.LeavesOpen (change parameters)) :
    LeavesOpen (Program.changingRows onConflict change) :=
  writing fun parameters => (leaves parameters).undoing part

theorem ofResolved (resolved : Resolved) : LeavesOpen (Program.ofResolved resolved) :=
  fun _ _ => Effect.LeavesOpen.get.bind fun _ => .ofExcept _

theorem keepChange (relation : Relation) : Effect.LeavesOpen (Program.keepChange relation) :=
  (Effect.LeavesOpen.putRelation relation).bind fun _ => .modify fun _ => rfl

theorem changeRow (relation : Relation) (onConflict : OnConflict) (old : StoredRow)
    (values : List Stored) :
    Effect.LeavesOpen (Program.changeRow relation onConflict old values) := by
  refine (Effect.LeavesOpen.ofExcept _).bind fun replaced => ?_
  cases replaced with
  | none => exact .pure ()
  | some changed => exact keepChange changed

theorem mergeRow (relation : Relation) (merging : ResolvedMerging) (environment : Environment)
    (old new : StoredRow) :
    Effect.LeavesOpen (Program.mergeRow relation merging environment old new) := by
  unfold Program.mergeRow
  dsimp only
  split
  · refine (Effect.LeavesOpen.ofExcept _).bind fun holds => ?_
    split
    · exact (Effect.LeavesOpen.ofExcept _).bind fun values => changeRow _ _ _ values
    · exact .pure ()
  · exact .pure ()

theorem addRow (relation : Relation) (onConflict : OnConflict) (row : StoredRow) :
    Effect.LeavesOpen (Program.addRow relation onConflict row) := by
  refine (Effect.LeavesOpen.ofExcept _).bind fun inserted => ?_
  cases inserted with
  | none => exact .pure ()
  | some grown => exact (keepChange grown).bind fun _ => .modify fun _ => rfl

theorem insertRow (inserting : Inserting) (environment : Environment) (values : List Stored) :
    Effect.LeavesOpen (Program.insertRow inserting environment values) := by
  refine (Effect.LeavesOpen.relation _).bind fun relation => ?_
  refine (Effect.LeavesOpen.ofExcept _).bind fun row => ?_
  dsimp only
  split
  · exact mergeRow _ _ _ _ _
  · exact addRow _ _ _

theorem countAnew : Effect.LeavesOpen Program.countAnew :=
  .modify fun _ => rfl

theorem insertRows {inserting : Inserting} (part : inserting.onConflict ≠ .rollback)
    (rows : Environment → Except Failure (List (List Stored))) :
    LeavesOpen (Program.insertRows inserting rows) := by
  refine changingRows part fun parameters => ?_
  refine Effect.LeavesOpen.get.bind fun state => ?_
  refine (Effect.LeavesOpen.ofExcept _).bind fun given => ?_
  exact countAnew.bind fun _ => .forM (insertRow inserting _) given

theorem updateRow (onConflict : OnConflict) (table : String)
    (assignments : List (Nat × Formula)) (environment : Environment) (id : Int64) :
    Effect.LeavesOpen (Program.updateRow onConflict table assignments environment id) := by
  refine (Effect.LeavesOpen.relation _).bind fun relation => ?_
  split
  · exact .pure ()
  · exact (Effect.LeavesOpen.ofExcept _).bind fun values => changeRow _ _ _ values

theorem dropping (change : Content → Content) : LeavesOpen (Program.dropping change) := by
  intro _ reading
  refine Effect.LeavesOpen.checkWritable.bind fun _ => ?_
  have dropped : @Effect.LeavesOpen (List (List Stored)) (do
      modify fun state => { state with content := change state.content }
      pure []) :=
    .bind (.modify fun _ => rfl) fun _ => .pure []
  cases reading with
  | true => exact (Effect.LeavesOpen.throw _).bind fun _ => dropped
  | false => exact dropped

end LeavesOpen

/-- Whether an instruction that can be resolved leaves the open transaction as it is. -/
def AllLeaveOpen : Except Failure Program → Prop
  | .ok program => program.LeavesOpen
  | .error _ => True

namespace AllLeaveOpen

variable {Item : Type}

theorem bind {resolved : Except Failure Item} {next : Item → Except Failure Program}
    (each : ∀ item, AllLeaveOpen (next item)) : AllLeaveOpen (resolved >>= next) := by
  cases resolved with
  | error => trivial
  | ok item => exact each item

theorem map {resolved : Except Failure Item} {image : Item → Program}
    (each : ∀ item, (image item).LeavesOpen) : AllLeaveOpen (resolved.map image) := by
  cases resolved with
  | error => trivial
  | ok item => exact each item

variable {content : Content}

theorem insert {onConflict : OnConflict} (part : onConflict ≠ .rollback) (table label : String)
    (columns : Option (List String)) (query : Query) (merging : Option Merging) :
    AllLeaveOpen (Program.insert content onConflict table label columns query merging) := by
  refine bind fun relation => bind fun places => bind fun resolved => bind fun _ => ?_
  exact bind fun merging => LeavesOpen.insertRows part resolved.rows

theorem insertDefaults {onConflict : OnConflict} (part : onConflict ≠ .rollback)
    (table : String) : AllLeaveOpen (Program.insertDefaults content onConflict table) :=
  bind fun _ => LeavesOpen.insertRows part _

theorem update {onConflict : OnConflict} (part : onConflict ≠ .rollback) (table label : String)
    (assignments : List (String × Expression)) (conditions : List Expression) :
    AllLeaveOpen (Program.update content onConflict table label assignments conditions) := by
  refine bind fun relation => bind fun resolved => bind fun conditions => ?_
  refine LeavesOpen.changingRows part fun parameters => ?_
  refine Effect.LeavesOpen.get.bind fun state => ?_
  refine (Effect.LeavesOpen.relation _).bind fun current => ?_
  refine (Effect.LeavesOpen.ofExcept _).bind fun rows => LeavesOpen.countAnew.bind fun _ => ?_
  have each (row : StoredRow) : Effect.LeavesOpen
      (Program.updateRow onConflict table resolved (state.environment parameters) row.id) :=
    LeavesOpen.updateRow _ _ _ _ _
  exact .forM each rows

theorem delete (table label : String) (conditions : List Expression) :
    AllLeaveOpen (Program.delete content table label conditions) := by
  refine bind fun relation => bind fun conditions => ?_
  refine LeavesOpen.writing fun parameters => ?_
  refine (Effect.LeavesOpen.relation _).bind fun current => ?_
  refine Effect.LeavesOpen.get.bind fun state => ?_
  refine (Effect.LeavesOpen.ofExcept _).bind fun rows => ?_
  exact (Effect.LeavesOpen.putRelation _).bind fun _ => .modify fun _ => rfl

theorem createOnce {name : String} {ifAbsent : Bool} {create : Except Failure Program}
    (creates : AllLeaveOpen create) :
    AllLeaveOpen (Program.createOnce content name ifAbsent create) := by
  unfold Program.createOnce
  split
  · exact creates
  · split
    · exact LeavesOpen.idle
    · trivial

theorem createTable (name : String) (ifAbsent : Bool) (columns : List ColumnSource)
    (keys : List KeySource) :
    AllLeaveOpen (Program.createTable content name ifAbsent columns keys) :=
  createOnce (bind fun _ => LeavesOpen.writing fun _ => .modify fun _ => rfl)

theorem createTableAs (name : String) (ifAbsent : Bool) (query : Query) :
    AllLeaveOpen (Program.createTableAs content name ifAbsent query) := by
  refine createOnce (bind fun resolved => LeavesOpen.writing fun parameters => ?_)
  refine Effect.LeavesOpen.get.bind fun state => ?_
  exact (Effect.LeavesOpen.ofExcept _).bind fun rows => .modify fun _ => rfl

theorem dropTable (name : String) (ifPresent : Bool) :
    AllLeaveOpen (Program.dropTable content name ifPresent) := by
  unfold Program.dropTable
  split
  · exact LeavesOpen.dropping _
  · split
    · exact LeavesOpen.idle
    · trivial

theorem createIndex (name : String) (ifAbsent unique : Bool) (table : String)
    (columns : List String) :
    AllLeaveOpen (Program.createIndex content name ifAbsent unique table columns) := by
  unfold Program.createIndex
  split
  · trivial
  split
  · split
    · exact LeavesOpen.idle
    · trivial
  · refine bind fun places => LeavesOpen.writing fun _ => ?_
    refine (Effect.LeavesOpen.relation _).bind fun current => ?_
    exact (Effect.LeavesOpen.ofExcept _).bind fun indexed => .putRelation indexed

theorem dropIndex (name : String) (ifPresent : Bool) :
    AllLeaveOpen (Program.dropIndex content name ifPresent) := by
  unfold Program.dropIndex
  split
  · exact LeavesOpen.dropping _
  · split
    · exact LeavesOpen.idle
    · trivial

end AllLeaveOpen

theorem LeavesOpen.setting (name : String) (value : Option String) :
    LeavesOpen (Program.setting name value) := by
  unfold Program.setting
  split
  · cases value with
    | some value => exact changing fun _ => .modify fun _ => rfl
    | none => exact fun _ _ => Effect.LeavesOpen.get.bind fun _ => .pure _
  · exact idle

theorem LeavesOpen.vacuum : LeavesOpen Program.vacuum := by
  refine writing fun _ => Effect.LeavesOpen.get.bind fun state => ?_
  split
  · exact .throw _
  · exact .pure ()

end Program

/-- Whether an instruction may begin or end a transaction. -/
def Instruction.controls : Instruction → Bool
  | .begin _ | .finish _ | .savepoint _ | .release _ | .rollbackTo _ => true
  | .insert onConflict .. | .insertDefaults onConflict _ | .update onConflict .. =>
      onConflict = .rollback
  | _ => false

theorem Instruction.resolve_leavesOpen (content : Content) {instruction : Instruction}
    (plain : instruction.controls = false) :
    Program.AllLeaveOpen (instruction.resolve content) := by
  cases instruction with
  | begin | finish | savepoint | release | rollbackTo => cases plain
  | query => exact .map fun resolved => .ofResolved resolved
  | insert => exact .insert (by simpa [controls] using plain) _ _ _ _ _
  | insertDefaults => exact .insertDefaults (by simpa [controls] using plain) _
  | update => exact .update (by simpa [controls] using plain) _ _ _ _
  | delete => exact .delete _ _ _
  | createTable => exact .createTable _ _ _ _
  | createTableAs => exact .createTableAs _ _ _
  | dropTable => exact .dropTable _ _
  | createIndex => exact .createIndex _ _ _ _ _
  | dropIndex => exact .dropIndex _ _
  | pragma => exact Program.LeavesOpen.setting _ _
  | vacuum => exact Program.LeavesOpen.vacuum
  | explain => exact .map fun _ => .idle

/-! ## Statements -/

namespace World

/-- A world in which a statement is open, with the transaction that a rollback would undo. -/
structure Holds (transaction : Option Transaction) (handle : Nat) (instruction : Instruction)
    (world : World) : Prop where
  transaction_eq : world.state.transaction = transaction
  opened : ∃ opened, world.opened[handle]? = some opened ∧ opened.instruction = instruction

variable {transaction : Option Transaction} {handle : Nat} {instruction : Instruction}
  {world : World}

theorem Holds.change (holds : world.Holds transaction handle instruction)
    {update : Opened → Opened} (same : ∀ opened, (update opened).instruction = opened.instruction) :
    (world.change handle update).Holds transaction handle instruction := by
  obtain ⟨opened, found, isInstruction⟩ := holds.opened
  exact ⟨holds.transaction_eq, _, change_get update found, (same opened).trans isInstruction⟩

theorem Holds.setState (holds : world.Holds transaction handle instruction) {state : State}
    (same : state.transaction = transaction) :
    { world with state }.Holds transaction handle instruction :=
  ⟨same, holds.opened⟩

theorem fetch_transaction {opened : Opened} (plain : opened.instruction.controls = false) :
    (world.fetch handle opened).2.transaction = world.state.transaction := by
  have leaves := opened.instruction.resolve_leavesOpen world.state.content plain
  unfold fetch
  split
  · rfl
  · unfold runInstruction
    cases resolved : opened.instruction.resolve world.state.content with
    | error failure => rfl
    | ok program =>
        rw [resolved] at leaves
        exact leaves _ _ _

end World

section

variable {transaction : Option Transaction} {handle : Nat} {instruction : Instruction}
  {world : World} {opened : Opened}

theorem hasNext_eq (found : world.opened[handle]? = some opened) :
    (hasNext handle).runOn world =
      (fun ran : (Except Error Bool × Statement) × World =>
        (ran.1.1, ran.2.change handle fun current => { current with statement := ran.1.2 }))
        (opened.statement.hasNext (step handle) world) := by
  unfold hasNext Action.runOn ExceptT.run
  dsimp only
  rw [found]
  rfl

theorem step_holds (plain : instruction.controls = false)
    (holds : world.Holds transaction handle instruction) :
    (step handle world).2.Holds transaction handle instruction := by
  obtain ⟨opened, found, rfl⟩ := holds.opened
  have same : (world.fetch handle opened).2.transaction = transaction :=
    (World.fetch_transaction plain).trans holds.transaction_eq
  unfold step
  rw [found]
  dsimp only
  rcases fetched : world.fetch handle opened with ⟨failure | _ | ⟨row, rest⟩, state⟩
  all_goals
    rw [fetched] at same
    exact (holds.setState same).change fun _ => rfl

theorem hasNext_holds (plain : instruction.controls = false) :
    Action.Keeps (World.Holds transaction handle instruction) (hasNext handle) := by
  intro world holds
  obtain ⟨opened, found, -⟩ := holds.opened
  have stepped := step_holds plain holds
  rw [hasNext_eq found, Statement.hasNext]
  by_cases done : opened.statement.position = .done
  · rw [if_pos done]
    exact holds.change fun _ => rfl
  · rw [if_neg done]
    rcases ran : step handle world with ⟨_ | _ | error, next⟩
    all_goals
      rw [ran] at stepped
      exact stepped.change fun _ => rfl

theorem bind_holds (bindings : List Binding) (skip : Nat) :
    Action.Keeps (World.Holds transaction handle instruction) (bind handle bindings skip) := by
  intro world holds
  obtain ⟨opened, found, -⟩ := holds.opened
  rw [bind_eq found]
  exact holds.change fun _ => rfl

end

theorem prepare_eq (sql : String) (world : World) :
    (prepare sql).runOn world =
      match openStatement world.state.content sql with
      | .error failure => (.error (failure.toError sql), world)
      | .ok opened =>
          (.ok world.opened.length, { world with opened := world.opened ++ [opened] }) := rfl

theorem openStatement_ok {content : Content} {sql : String} {opened : Opened}
    (succeeded : openStatement content sql = .ok opened) :
    ∃ count, readFirst sql = .ok (opened.instruction, count) := by
  unfold openStatement at succeeded
  cases read : readFirst sql with
  | error failure =>
      rw [read] at succeeded
      cases succeeded
  | ok first =>
      obtain ⟨instruction, count⟩ := first
      rw [read] at succeeded
      change (instruction.resolve content).bind _ = _ at succeeded
      cases resolved : instruction.resolve content with
      | error failure =>
          rw [resolved] at succeeded
          cases succeeded
      | ok program =>
          rw [resolved] at succeeded
          cases succeeded
          exact ⟨count, rfl⟩

/-- Whether the first instruction of a text, if it has one, leaves transactions alone. -/
def isPlain (sql : String) : Bool :=
  match readFirst sql with
  | .ok (instruction, _) => !instruction.controls
  | .error _ => true

/-- Running a statement that controls no transaction leaves the open one as it is. -/
theorem execute_transaction {statement : RecordMapper.Statement}
    (plain : isPlain statement.sql = true) (before : World) :
    ((connection.execute statement).runOn before).2.state.transaction =
      before.state.transaction := by
  unfold Connection.execute Connection.withStatement Connection.withPrepared
  rw [Action.runOn_bind]
  have prepares : (connection.prepare statement.sql).runOn before = _ :=
    prepare_eq statement.sql before
  cases opens : openStatement before.state.content statement.sql with
  | error failure =>
      rw [opens] at prepares
      rw [prepares]
  | ok opened =>
      rw [opens] at prepares
      rw [prepares]
      obtain ⟨count, read⟩ := openStatement_ok opens
      have uncontrolled : opened.instruction.controls = false := by
        rw [isPlain, read] at plain
        simpa using plain
      have holds : { before with opened := before.opened ++ [opened] }.Holds
          before.state.transaction before.opened.length opened.instruction :=
        ⟨rfl, opened, List.getElem?_concat_length, rfl⟩
      have steps : Action.Keeps
          (World.Holds before.state.transaction before.opened.length opened.instruction)
          (connection.hasNext before.opened.length) := hasNext_holds uncontrolled
      have runs := Action.Keeps.bind (bind_holds statement.bindings 0) fun _ =>
        Connection.runToEnd_keeps steps
      exact (runs _ holds).transaction_eq

/-! ## Statements that control transactions -/

theorem changing_run (change : List Stored → Effect Unit) (parameters : List Stored)
    (reading : Bool) (state : State) :
    ((Program.changing change).run parameters reading).run state =
      (((change parameters).run state).1.map fun _ => [], ((change parameters).run state).2) := by
  change ((change parameters >>= fun _ => pure []) : Effect (List (List Stored))).run state = _
  rw [Effect.run_bind]
  rcases (change parameters).run state with ⟨failure | _, after⟩ <;> rfl

/-- The first step of a statement without rows is its last. -/
theorem hasNext_rowless {handle : Nat} {world : World} {opened : Opened} {state : State}
    {outcome : Except Failure Unit} (found : world.opened[handle]? = some opened)
    (ready : opened.statement.position = .ready)
    (fetched : world.fetch handle opened = (outcome.map fun _ => [], state)) :
    ∃ others, (connection.hasNext handle).runOn world =
      ((outcome.mapError (·.toError opened.statement.sql)).map fun _ => false,
        { world with state, opened := others }) := by
  change ∃ others, (hasNext handle).runOn world = _
  rw [hasNext_eq found, Statement.hasNext, if_neg (by simp [ready])]
  unfold step
  rw [found]
  dsimp only
  rw [fetched]
  cases outcome <;> exact ⟨_, rfl⟩

/-- A statement without parameters and without rows changes the state as its program does. -/
theorem execute_changing {sql : String} {instruction : Instruction}
    {change : List Stored → Effect Unit} (read : readFirst sql = .ok (instruction, 0))
    (resolves : ∀ content, instruction.resolve content = .ok (.changing change))
    (before : World) :
    ∃ others, (connection.execute ⟨sql, []⟩).runOn before =
      (((change []).run before.state).1.mapError (·.toError sql),
        { before with state := ((change []).run before.state).2, opened := others }) := by
  let opened : Opened := { statement := .prepared sql [] 0, instruction }
  let prepared : World := { before with opened := before.opened ++ [opened] }
  let handle := before.opened.length
  let bound : World := prepared.change handle fun current =>
    { current with statement := opened.statement, pending := none }
  have found : prepared.opened[handle]? = some opened := List.getElem?_concat_length
  have foundBound : bound.opened[handle]? = some opened := change_get _ found
  have opens : connection.Opens ⟨sql, []⟩ before handle bound := by
    have first : openStatement before.state.content sql = .ok opened := by
      unfold openStatement
      rw [read]
      change (instruction.resolve before.state.content).bind _ = _
      rw [resolves]
      rfl
    refine .bound ?_ (bind_eq found [] 0)
    change (prepare sql).runOn before = _
    rw [prepare_eq, first]
  have fetched : bound.fetch handle opened =
      (((change []).run before.state).1.map fun _ => [], ((change []).run before.state).2) := by
    change World.runInstruction instruction [] _ before.state = _
    unfold World.runInstruction
    rw [resolves]
    exact changing_run change [] _ before.state
  obtain ⟨others, stepped⟩ := hasNext_rowless foundBound rfl fetched
  have ended := Connection.runToEnd_of_hasNext stepped
  unfold Connection.execute
  rw [Connection.withStatement_eq opens, ended]
  exact ⟨_, rfl⟩

theorem readFirst_of_lexemes {sql : String} {lexemes rest : List Lexeme}
    {instruction : Instruction} {count : Nat} (legible : sql.toList.contains '\x00' = false)
    (scans : Lexeme.ofText sql = lexemes)
    (reads : Grammar.first? lexemes = .ok (some (instruction, count, rest))) :
    readFirst sql = .ok (instruction, count) := by
  unfold readFirst
  rw [if_neg (by rw [legible]; exact Bool.false_ne_true), scans, reads]

theorem readFirst_begin : readFirst "BEGIN" = .ok (.begin false, 0) :=
  readFirst_of_lexemes (by decide +kernel) (by decide +kernel : _ = [.word "BEGIN"]) (by cbv)

theorem readFirst_commit : readFirst "COMMIT" = .ok (.finish .commit, 0) :=
  readFirst_of_lexemes (by decide +kernel) (by decide +kernel : _ = [.word "COMMIT"]) (by cbv)

theorem readFirst_rollback : readFirst "ROLLBACK" = .ok (.finish .rollback, 0) :=
  readFirst_of_lexemes (by decide +kernel) (by decide +kernel : _ = [.word "ROLLBACK"]) (by cbv)

/-- Opening a transaction saves the content; inside of another one it fails. -/
theorem execute_begin (before : World) :
    ∃ others, (connection.execute ⟨"BEGIN", []⟩).runOn before =
      match before.state.transaction with
      | some _ =>
          (.error (Failure.nestedTransaction.toError "BEGIN"), { before with opened := others })
      | none =>
          (.ok (), { before with
            state := { before.state with transaction := some { content := before.state.content } }
            opened := others }) := by
  obtain ⟨others, ran⟩ := execute_changing readFirst_begin (fun _ => rfl) before
  refine ⟨others, ran.trans ?_⟩
  obtain ⟨path, ⟨content, transaction, readOnly, lastRowId, changes⟩, opened⟩ := before
  cases transaction <;> rfl

theorem execute_commit {before : World} {transaction : Transaction}
    (inside : before.state.transaction = some transaction) :
    ∃ others, (connection.execute ⟨"COMMIT", []⟩).runOn before =
      (.ok (), { before with
        state := { before.state with transaction := none }, opened := others }) := by
  obtain ⟨others, ran⟩ := execute_changing readFirst_commit (fun _ => rfl) before
  refine ⟨others, ran.trans ?_⟩
  obtain ⟨path, ⟨content, _, readOnly, lastRowId, changes⟩, opened⟩ := before
  cases inside
  rfl

theorem execute_rollback {before : World} {transaction : Transaction}
    (inside : before.state.transaction = some transaction) :
    ∃ others, (connection.execute ⟨"ROLLBACK", []⟩).runOn before =
      (.ok (), { before with
        state := { before.state with content := transaction.content, transaction := none }
        opened := others }) := by
  obtain ⟨others, ran⟩ := execute_changing readFirst_rollback (fun _ => rfl) before
  refine ⟨others, ran.trans ?_⟩
  obtain ⟨path, ⟨content, _, readOnly, lastRowId, changes⟩, opened⟩ := before
  cases inside
  rfl

end Engine

end RecordMapper
