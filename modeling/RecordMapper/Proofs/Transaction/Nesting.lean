import RecordMapper.Proofs.Engine.Transacting
import RecordMapper.Proofs.Transaction

set_option autoImplicit false

/-!
Transactions with whatever is done inside of them, further transactions among it. While one is open
no other begins: a call inside of it is refused before its body runs, and whether its error is
passed on or not, the open transaction is still ended as its own body says. So a transaction keeps
all that its statements did, or nothing.
-/

namespace RecordMapper

namespace Transaction

variable {State Content Result : Type}

/-! ## Control statements -/

/-- Control statements of a connection on which at most one transaction is open. An open transaction
has saved the content at its beginning; ending it always succeeds, and rolling it back restores what
was saved. -/
structure Restores (run : String → Action State Unit) (content : State → Content)
    (saved : State → Option Content) : Prop where
  begins : ∀ {before after}, (run "BEGIN").runOn before = (.ok (), after) →
    saved before = none ∧ content after = content before ∧ saved after = some (content before)
  refuses : ∀ {before after error}, (run "BEGIN").runOn before = (.error error, after) →
    content after = content before ∧ saved after = saved before
  commits : ∀ {before start}, saved before = some start →
    ∃ after, (run "COMMIT").runOn before = (.ok (), after) ∧
      content after = content before ∧ saved after = none
  rollsBack : ∀ {before start}, saved before = some start →
    ∃ after, (run "ROLLBACK").runOn before = (.ok (), after) ∧
      content after = start ∧ saved after = none

def settled (last start : Content) : Except Error Result → Content
  | .ok _ => last
  | .error _ => start

/-! ## Bodies -/

/-- What is done inside of a transaction: statements and further transactions, each of which may
fail, and what follows may depend on how they went. -/
inductive Body (State : Type) : Type → Type 1 where
  | done {Result : Type} (outcome : Except Error Result) : Body State Result
  | statement {Item Result : Type} (action : Action State Item)
      (next : Except Error Item → Body State Result) : Body State Result
  | nested {Item Result : Type} (inner : Body State Item)
      (next : Except Error Item → Body State Result) : Body State Result

/-- A statement or a further transaction, as it went. -/
structure Event (State : Type) where
  isNested : Bool
  before : State
  outcome : Except Error Unit
  after : State

def Event.succeeded (event : Event State) : Bool :=
  !event.isNested && event.outcome.toBool

/-- Events of which each starts with the content that the one before has left. -/
inductive Leads (content : State → Content) : Content → List (Event State) → Content → Prop where
  | nil {start : Content} : Leads content start [] start
  | cons {event : Event State} {events : List (Event State)} {first last : Content} :
      content event.before = first → Leads content (content event.after) events last →
      Leads content first (event :: events) last

/-- Events that change nothing can be left out. -/
theorem Leads.filter {content : State → Content} {first last : Content}
    {events : List (Event State)} (leads : Leads content first events last)
    {counts : Event State → Bool}
    (idle : ∀ event ∈ events, counts event = false → content event.after = content event.before) :
    Leads content first (events.filter counts) last := by
  induction leads with
  | nil => exact .nil
  | @cons event events first last starts _ ih =>
      obtain ⟨here, others⟩ := List.forall_mem_cons.mp idle
      have rest := ih others
      cases counted : counts event with
      | true =>
          rw [List.filter_cons_of_pos counted]
          exact .cons starts rest
      | false =>
          rw [List.filter_cons_of_neg (by simp [counted]), ← starts, ← here counted]
          exact rest

namespace Body

variable {Buffer World Handle : Type}

/-- No statement ends the open transaction or begins one. -/
def IsPlain (saved : State → Option Content) {Result : Type} : Body State Result → Prop
  | .done _ => True
  | .statement action next =>
      (∀ before, (saved before).isSome → saved (action.runOn before).2 = saved before) ∧
        ∀ outcome, (next outcome).IsPlain saved
  | .nested _ next => ∀ outcome, (next outcome).IsPlain saved

def run (database : Database Buffer World Handle) [database.connection.Finite] {Result : Type} :
    Body (Session World) Result → Action (Session World) Result
  | .done outcome => Action.ofOutcome outcome
  | .statement action next => fun before =>
      let ran := action.runOn before
      ((next ran.1).run database).runOn ran.2
  | .nested inner next => fun before =>
      let ran := (database.transaction (inner.run database)).runOn before
      ((next ran.1).run database).runOn ran.2

def events (database : Database Buffer World Handle) [database.connection.Finite] {Result : Type} :
    Body (Session World) Result → Session World → List (Event (Session World))
  | .done _, _ => []
  | .statement action next, before =>
      let ran := action.runOn before
      ⟨false, before, ran.1.map fun _ => (), ran.2⟩ :: (next ran.1).events database ran.2
  | .nested inner next, before =>
      let ran := (database.transaction (inner.run database)).runOn before
      ⟨true, before, ran.1.map fun _ => (), ran.2⟩ :: (next ran.1).events database ran.2

end Body

end Transaction

/-! ## The engine -/

namespace Engine

def database (schema : Schema) : Database (List Binding) World Nat :=
  ⟨Dialect.sqlite.delegate, connection, schema⟩

instance (schema : Schema) : (database schema).connection.Finite :=
  inferInstanceAs connection.Finite

def content (session : Session World) : Content :=
  session.world.state.content

/-- What a rollback would restore. -/
def saved (session : Session World) : Option Content :=
  session.world.state.transaction.map (·.content)

variable {schema : Schema}

theorem sql_of_execute {text : String} {before : Session World} {world : World}
    {outcome : Except Error Unit}
    (ran : (connection.execute ⟨text, []⟩).runOn before.world = (outcome, world)) :
    ((database schema).sql text []).runOn before = (outcome, { before with world }) := by
  change (fun ran : Except Error Unit × World => (ran.1, { before with world := ran.2 }))
    ((connection.execute ⟨text, []⟩).runOn before.world) = _
  rw [ran]

/-- The engine has one open transaction at most, and it restores what it was begun with. -/
theorem restores (schema : Schema) :
    Transaction.Restores (fun text => (database schema).sql text []) content saved where
  begins := by
    intro before after begins
    obtain ⟨others, ran⟩ := execute_begin before.world
    cases inside : before.world.state.transaction with
    | some transaction =>
        rw [inside] at ran
        cases (sql_of_execute ran).symm.trans begins
    | none =>
        rw [inside] at ran
        cases (sql_of_execute ran).symm.trans begins
        exact ⟨by rw [saved, inside]; rfl, rfl, rfl⟩
  refuses := by
    intro before after error refused
    obtain ⟨others, ran⟩ := execute_begin before.world
    cases inside : before.world.state.transaction with
    | some transaction =>
        rw [inside] at ran
        cases (sql_of_execute ran).symm.trans refused
        exact ⟨rfl, rfl⟩
    | none =>
        rw [inside] at ran
        cases (sql_of_execute ran).symm.trans refused
  commits := by
    intro before start inside
    obtain ⟨transaction, isOpen, -⟩ := Option.map_eq_some_iff.mp inside
    obtain ⟨others, ran⟩ := execute_commit isOpen
    exact ⟨_, sql_of_execute ran, rfl, rfl⟩
  rollsBack := by
    intro before start inside
    obtain ⟨transaction, isOpen, rfl⟩ := Option.map_eq_some_iff.mp inside
    obtain ⟨others, ran⟩ := execute_rollback isOpen
    exact ⟨_, sql_of_execute ran, rfl, rfl⟩

/-- A raw statement that controls no transaction leaves alone what a rollback would restore. -/
theorem saved_sql {text : String} (plain : isPlain text = true) (values : List Value)
    (before : Session World) :
    saved (((database schema).sql text values).runOn before).2 = saved before := by
  unfold Database.sql
  rw [Action.runOn_bind]
  cases built : (database schema).statement text values with
  | error error => rfl
  | ok statement =>
      have same : statement.sql = text := by
        unfold Database.statement at built
        dsimp only at built
        split at built <;> cases built
        rfl
      have kept := execute_transaction (by rwa [same]) before.world
      exact congrArg (Option.map (·.content)) kept

end Engine

namespace Database

open Transaction

variable {Buffer World Handle Content Result : Type} {database : Database Buffer World Handle}
  [database.connection.Finite] {content : Session World → Content}
  {saved : Session World → Option Content}

/-! ## Inside of a transaction -/

/-- A transaction that is called while one is open, and is refused. It leaves what its BEGIN leaves,
and any other body in its place would have made no difference. -/
structure Refused (database : Database Buffer World Handle) [database.connection.Finite]
    (content : Session World → Content) (saved : Session World → Option Content) (start : Content)
    (event : Event (Session World)) : Prop where
  inside : saved event.before = some start
  stillInside : saved event.after = some start
  content_eq : content event.after = content event.before
  ran : ∃ error, event.outcome = .error (failure .begin error.message) ∧
    (database.sql "BEGIN" []).runOn event.before = (.error error, event.after) ∧
    ∀ {Other : Type} (body : Action (Session World) Other),
      (database.transaction body).runOn event.before =
        (.error (failure .begin error.message), event.after)

theorem transaction_of_refused {before after : Session World} {error : Error}
    (refused : (database.sql "BEGIN" []).runOn before = (.error error, after))
    (body : Action (Session World) Result) :
    (database.transaction body).runOn before = (.error (failure .begin error.message), after) := by
  have goes := around_goes (fun text => database.sql text []) body before
  change Goes _ _ _ ((database.transaction body).runOn before).1
    ((database.transaction body).runOn before).2 at goes
  generalize (database.transaction body).runOn before = ran at goes
  obtain ⟨outcome, last⟩ := ran
  cases goes with
  | refused again =>
      cases refused.symm.trans again
      rfl
  | ended begins => cases refused.symm.trans begins

theorem refused_of_inside (restores : Restores (fun text => database.sql text []) content saved)
    {before : Session World} {start : Content} (inside : saved before = some start)
    (body : Action (Session World) Result) :
    let ran := (database.transaction body).runOn before
    Refused database content saved start ⟨true, before, ran.1.map fun _ => (), ran.2⟩ := by
  rcases begins : (database.sql "BEGIN" []).runOn before with ⟨error | _, after⟩
  · have unchanged := restores.refuses begins
    rw [transaction_of_refused begins body]
    exact ⟨inside, unchanged.2.trans inside, unchanged.1, error, rfl, begins,
      fun other => transaction_of_refused begins other⟩
  · have closed := (restores.begins begins).1
    rw [inside] at closed
    cases closed

/-- A plain body inside of a transaction leaves it open, with what was saved at its beginning. -/
theorem run_inside (restores : Restores (fun text => database.sql text []) content saved)
    {body : Body (Session World) Result} (plain : body.IsPlain saved) {before : Session World}
    {start : Content} (inside : saved before = some start) :
    let ran := (body.run database).runOn before
    saved ran.2 = some start ∧
      Leads content (content before) (body.events database before) (content ran.2) ∧
      ∀ event ∈ body.events database before, event.isNested = true →
        Refused database content saved start event := by
  induction body generalizing before with
  | done outcome => exact ⟨inside, .nil, nofun⟩
  | statement action next ih =>
      obtain ⟨keeps, plain⟩ := plain
      have middle := (keeps before (by rw [inside]; rfl)).trans inside
      obtain ⟨last, leads, refused⟩ := ih _ (plain _) middle
      exact ⟨last, .cons rfl leads, List.forall_mem_cons.mpr ⟨nofun, refused⟩⟩
  | nested inner next _ ih =>
      -- The inner body never runs, so nothing is asked of it.
      have refusal := refused_of_inside restores inside (inner.run database)
      obtain ⟨last, leads, refused⟩ := ih _ (plain _) refusal.stillInside
      exact ⟨last, .cons rfl leads, List.forall_mem_cons.mpr ⟨fun _ => refusal, refused⟩⟩

/-- Further transactions are no part of what a body does, and neither are statements that fail, as
long as they change nothing. -/
theorem leads_of_refused {start first last : Content} {events : List (Event (Session World))}
    (leads : Leads content first events last)
    (refused : ∀ event ∈ events, event.isNested = true →
      Refused database content saved start event) :
    Leads content first (events.filter fun event => !event.isNested) last ∧
      ((∀ event ∈ events, event.isNested = false → event.succeeded = false →
          content event.after = content event.before) →
        Leads content first (events.filter Event.succeeded) last) := by
  constructor
  · refine leads.filter fun event member nested => ?_
    exact (refused event member (by simpa using nested)).content_eq
  · intro idle
    refine leads.filter fun event member failed => ?_
    cases isNested : event.isNested with
    | true => exact (refused event member isNested).content_eq
    | false => exact idle event member isNested failed

theorem ending_of_inside (restores : Restores (fun text => database.sql text []) content saved)
    {last : Session World} {start : Content} (inside : saved last = some start)
    (outcome : Except Error Result) :
    ∃ after, (database.sql (ending outcome) []).runOn last = (.ok (), after) ∧
      saved after = none ∧ content after = settled (content last) start outcome := by
  cases outcome with
  | ok result =>
      obtain ⟨after, commits, same, closed⟩ := restores.commits inside
      exact ⟨after, commits, closed, same⟩
  | error error =>
      obtain ⟨after, rollsBack, restored, closed⟩ := restores.rollsBack inside
      exact ⟨after, rollsBack, closed, restored⟩

/-- A transaction that has begun, with a body that leaves it open, returns what the body returns. -/
theorem transaction_of_begun (restores : Restores (fun text => database.sql text []) content saved)
    {body : Action (Session World) Result} {before begun : Session World} {start : Content}
    (begins : (database.sql "BEGIN" []).runOn before = (.ok (), begun))
    (inside : saved (body.runOn begun).2 = some start) :
    let ran := (database.transaction body).runOn before
    ran.1 = (body.runOn begun).1 ∧ saved ran.2 = none ∧
      content ran.2 = settled (content (body.runOn begun).2) start ran.1 := by
  intro ran
  have goes : Goes _ _ before ran.1 ran.2 :=
    around_goes (fun text => database.sql text []) body before
  obtain ⟨outcome, after⟩ := ran
  cases goes with
  | refused again => cases begins.symm.trans again
  | @ended bodyOutcome closing _ last _ begins' bodyRan ends =>
      cases begins.symm.trans begins'
      rw [bodyRan] at inside ⊢
      obtain ⟨_, ends', closed, same⟩ := ending_of_inside restores inside bodyOutcome
      cases ends.symm.trans ends'
      cases bodyOutcome with
      | ok | error => exact ⟨rfl, closed, same⟩

/-- A transaction that finds none open is refused and changes nothing, or it returns what its body
returns: a result with what the statements of the body have left, or an error with all of it undone.
The transactions that its body calls are refused and leave it open. -/
theorem transaction_atomic
    (restores : Restores (fun text => database.sql text []) content saved)
    {body : Body (Session World) Result} (plain : body.IsPlain saved) {before : Session World}
    (closed : saved before = none) :
    let ran := (database.transaction (body.run database)).runOn before
    saved ran.2 = none ∧
    (∀ error after, (database.sql "BEGIN" []).runOn before = (.error error, after) →
      ran = (.error (failure .begin error.message), after) ∧ content after = content before) ∧
    ∀ begun, (database.sql "BEGIN" []).runOn before = (.ok (), begun) →
      let events := body.events database begun
      ran.1 = ((body.run database).runOn begun).1 ∧
      (∀ result, ran.1 = .ok result →
        Leads content (content before) (events.filter fun event => !event.isNested)
            (content ran.2) ∧
          ((∀ event ∈ events, event.isNested = false → event.succeeded = false →
              content event.after = content event.before) →
            Leads content (content before) (events.filter Event.succeeded) (content ran.2))) ∧
      (∀ error, ran.1 = .error error → content ran.2 = content before) ∧
      ∀ event ∈ events, event.isNested = true →
        Refused database content saved (content before) event := by
  intro ran
  rcases begins : (database.sql "BEGIN" []).runOn before with ⟨error | _, begun⟩
  · have unchanged := restores.refuses begins
    have refused : ran = _ := transaction_of_refused begins (body.run database)
    rw [refused]
    refine ⟨unchanged.2.trans closed, ?_, nofun⟩
    rintro _ _ ⟨⟩
    exact ⟨rfl, unchanged.1⟩
  obtain ⟨-, same, inside⟩ := restores.begins begins
  obtain ⟨stillInside, leads, refused⟩ := run_inside restores plain inside
  obtain ⟨returned, ended, left⟩ := transaction_of_begun restores begins stillInside
  refine ⟨ended, nofun, ?_⟩
  rintro _ ⟨⟩ events
  refine ⟨returned, ?_, ?_, refused⟩
  · intro result succeeded
    rw [succeeded] at left
    rw [same] at leads
    rw [left]
    exact leads_of_refused leads refused
  · intro error failed
    rw [failed] at left
    exact left

def sampleContent : Engine.Content :=
  [{ name := "t", columns := [{ name := "a", affinity := .none }], idColumn := none }]

/-- Inserts a row, calls a transaction that would delete it, and inserts one into a table that is
not there. The errors of the last two go unnoticed. -/
def sampleBody : Body (Session Engine.World) Nat :=
  let database := Engine.database []
  .statement (database.sql "INSERT INTO t VALUES (1)" []) fun _ =>
    .nested (.statement (database.sql "DELETE FROM t" []) fun _ => .done (.ok ())) fun _ =>
      .statement (database.sql "INSERT INTO u VALUES (2)" []) fun _ => .done (.ok 7)

theorem sampleBody_isPlain : sampleBody.IsPlain Engine.saved := by
  have first : Engine.isPlain "INSERT INTO t VALUES (1)" = true := by decide +kernel
  have last : Engine.isPlain "INSERT INTO u VALUES (2)" = true := by decide +kernel
  exact ⟨fun before _ => Engine.saved_sql first [] before, fun _ _ =>
    ⟨fun before _ => Engine.saved_sql last [] before, fun _ => trivial⟩⟩

theorem transaction_atomic_sample :
    let database := Engine.database []
    let before : Session Engine.World := { world := { state := { content := sampleContent } } }
    let ran := (database.transaction (sampleBody.run database)).runOn before
    let begun := ((database.sql "BEGIN" []).runOn before).2
    let events := sampleBody.events database begun
    Restores (fun text => database.sql text []) Engine.content Engine.saved ∧
    sampleBody.IsPlain Engine.saved ∧ Engine.saved before = none ∧
    ran.1 = .ok 7 ∧ Engine.saved ran.2 = none ∧
    (Engine.content ran.2).map (·.rows.map (·.values)) = [[[.integer 1]]] ∧
    events.map (·.isNested) = [false, true, false] ∧
    events.map (·.succeeded) = [true, false, false] ∧
    Leads Engine.content sampleContent (events.filter Event.succeeded) (Engine.content ran.2) ∧
    ∀ event ∈ events, event.isNested = true →
      Refused database Engine.content Engine.saved sampleContent event := by
  intro database before ran begun events
  have restores := Engine.restores []
  have plain := sampleBody_isPlain
  have closed : Engine.saved before = none := rfl
  have begins : (database.sql "BEGIN" []).runOn before = (.ok (), begun) :=
    Prod.ext (by decide +kernel) rfl
  have returned : ran.1 = .ok 7 := by decide +kernel
  have idle : ∀ event ∈ events, event.isNested = false → event.succeeded = false →
      Engine.content event.after = Engine.content event.before := by
    decide +kernel
  obtain ⟨ended, -, whenBegun⟩ := transaction_atomic restores plain closed
  obtain ⟨-, kept, -, refused⟩ := whenBegun begun begins
  exact ⟨restores, plain, closed, returned, ended, by decide +kernel, by decide +kernel,
    by decide +kernel, (kept 7 returned).2 idle, refused⟩

end Database

end RecordMapper
