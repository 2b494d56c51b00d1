import RecordMapper.Proofs.Connection.Answering
import RecordMapper.Proofs.Query.Sample
import RecordMapper.Query.Cursor

set_option autoImplicit false

/-!
What a cursor makes of the replies of its root statement, whatever these are. Each record comes from
one reply; the first reply that makes none closes the cursor, and the statement is left alone from
then on.
-/

namespace RecordMapper

/-! ## Replies -/

/-- What a statement replies when it is asked for one more row: a row is there before it can be
decoded. -/
inductive Reply where
  | ended
  | failed (error : Error)
  | row (decoded : Except Error Row)

namespace Connection

variable {World Handle Result : Type}

def ask (connection : Connection World Handle) (handle : Handle) (world : World) : Reply × World :=
  match (connection.hasNext handle).runOn world with
  | (.error error, next) => (.failed error, next)
  | (.ok false, next) => (.ended, next)
  | (.ok true, next) =>
      let (decoded, final) := (connection.decodeRow handle).runOn next
      (.row decoded, final)

/-- The world after asking a number of times, whatever the replies were. -/
def asked (connection : Connection World Handle) (handle : Handle) : World → Nat → World
  | world, 0 => world
  | world, count + 1 => connection.asked handle (connection.ask handle world).2 count

/-- The reply that comes after so many others. -/
def reply (connection : Connection World Handle) (handle : Handle) (world : World)
    (count : Nat) : Reply :=
  (connection.ask handle (connection.asked handle world count)).1

theorem asked_succ (connection : Connection World Handle) (handle : Handle) (world : World)
    (count : Nat) :
    connection.asked handle world (count + 1) =
      (connection.ask handle (connection.asked handle world count)).2 := by
  induction count generalizing world with
  | zero => rfl
  | succ count ih => exact ih (connection.ask handle world).2

theorem step_ask (connection : Connection World Handle) (handle : Handle)
    (read : Row → Except Error Result) (world : World) :
    (connection.step handle read).runOn world =
      match connection.ask handle world with
      | (.ended, next) => (.ok none, next)
      | (.failed error, next) => (.error error, next)
      | (.row decoded, next) => ((decoded.bind read).map some, next) := by
  rw [step_eq, ask]
  rcases (connection.hasNext handle).runOn world with ⟨error | _ | _, next⟩ <;> rfl

end Connection

/-! ## Items -/

/-- What a reply is as an item: the record of its row, if both can be read. -/
def MergeContext.item? (merge : MergeContext) (schema : Schema) :
    Reply → Option (Except Error HydratedRecord)
  | .ended => none
  | .failed error => some (.error error)
  | .row decoded => some (decoded.bind (merge.root.hydrate schema merge.relatedRows))

namespace Cursor

variable {World Handle : Type} {connection : Connection World Handle} {schema : Schema}
  {cursor : Cursor Handle} {world : World}

theorem step_item (connection : Connection World Handle) (schema : Schema)
    (cursor : Cursor Handle) (world : World) :
    (cursor.step connection schema).runOn world =
      ((cursor.merge.item? schema (connection.ask cursor.root world).1).elim (.ok none)
          (·.map some),
        (connection.ask cursor.root world).2) := by
  rw [step, Connection.step_ask]
  rcases connection.ask cursor.root world with ⟨_ | error | decoded, next⟩ <;> rfl

variable {record : HydratedRecord} {failure : Option Error}

theorem next_record (fresh : cursor.done = false)
    (yields : cursor.merge.item? schema (connection.ask cursor.root world).1 =
      some (.ok record)) :
    cursor.next connection schema world =
      ((some (.ok record), cursor), (connection.ask cursor.root world).2) := by
  have stepped := step_item connection schema cursor world
  rw [yields] at stepped
  unfold next
  rw [fresh, stepped]
  rfl

theorem next_failure (fresh : cursor.done = false)
    (stops : cursor.merge.item? schema (connection.ask cursor.root world).1 =
      failure.map .error) :
    cursor.next connection schema world =
      ((failure.map .error, { cursor with done := true }),
        (connection.ask cursor.root world).2) := by
  have stepped := step_item connection schema cursor world
  rw [stops] at stepped
  unfold next
  rw [fresh, stepped]
  cases failure <;> rfl

theorem take_succ (count : Nat) :
    cursor.take connection schema (count + 1) world =
      let ((item, after), next) := cursor.next connection schema world
      let (rest, last) := after.take connection schema count next
      (item :: rest, last) := rfl

theorem take_closed (closed : cursor.done = true) (count : Nat) :
    cursor.take connection schema count world = (List.replicate count none, world) := by
  have stays : cursor.next connection schema world = ((none, cursor), world) := by
    unfold next
    rw [closed]
    rfl
  induction count with
  | zero => rfl
  | succ count ih =>
      rw [take_succ, stays]
      simp only [ih, List.replicate_succ]

/-- The replies begin with as many that make the records, in order. -/
def Yields (connection : Connection World Handle) (schema : Schema) (cursor : Cursor Handle)
    (world : World) (records : List HydratedRecord) : Prop :=
  ∀ count record, records[count]? = some record →
    cursor.merge.item? schema (connection.reply cursor.root world count) = some (.ok record)

variable {records : List HydratedRecord}

theorem Yields.head (yields : cursor.Yields connection schema world (record :: records)) :
    cursor.merge.item? schema (connection.ask cursor.root world).1 = some (.ok record) :=
  yields 0 record rfl

theorem Yields.tail (yields : cursor.Yields connection schema world (record :: records)) :
    cursor.Yields connection schema (connection.ask cursor.root world).2 records :=
  fun count later found => yields (count + 1) later found

theorem take_records (fresh : cursor.done = false)
    (yields : cursor.Yields connection schema world records) (more : Nat) :
    let next := connection.asked cursor.root world records.length
    cursor.take connection schema (records.length + more) world =
      (records.map (some ∘ .ok) ++ (cursor.take connection schema more next).1,
        (cursor.take connection schema more next).2) := by
  induction records generalizing world with
  | nil =>
      rw [List.length_nil, Nat.zero_add]
      rfl
  | cons record records ih =>
      have first := next_record fresh yields.head
      have rest := ih yields.tail
      rw [List.length_cons, Nat.add_right_comm, take_succ, first]
      simp only [rest]
      rfl

theorem take_failure (fresh : cursor.done = false)
    (stops : cursor.merge.item? schema (connection.ask cursor.root world).1 =
      failure.map .error) (later : Nat) :
    cursor.take connection schema (later + 1) world =
      (failure.map .error :: List.replicate later none,
        (connection.ask cursor.root world).2) := by
  have closed : ({ cursor with done := true } : Cursor Handle).done = true := rfl
  rw [take_succ, next_failure fresh stops]
  simp only [take_closed closed]

/-- Reading to the end takes the same replies. -/
theorem all_eq [connection.Finite] (fresh : cursor.done = false)
    (yields : cursor.Yields connection schema world records)
    (stops : cursor.merge.item? schema (connection.reply cursor.root world records.length) =
      failure.map .error) :
    (cursor.all connection schema).runOn world =
      (failure.elim (.ok records) .error,
        connection.asked cursor.root world (records.length + 1)) := by
  have reads : cursor.all connection schema =
      connection.readToEnd cursor.root fun row =>
        cursor.merge.root.hydrate schema cursor.merge.relatedRows row := by
    unfold all
    rw [fresh]
    rfl
  rw [reads]
  induction records generalizing world with
  | nil =>
      have stepped := step_item connection schema cursor world
      rw [show cursor.merge.item? schema (connection.ask cursor.root world).1 =
        failure.map .error from stops] at stepped
      cases failure with
      | none => exact Action.collect_none stepped
      | some error => exact Action.collect_error stepped
  | cons record records ih =>
      have stepped := step_item connection schema cursor world
      rw [yields.head] at stepped
      have rest := ih yields.tail stops
      refine (Action.collect_some stepped).trans ?_
      change (fun ran : Except Error (List HydratedRecord) × World =>
        (ran.1.map (record :: ·), ran.2)) ((connection.readToEnd cursor.root _).runOn _) = _
      rw [rest]
      cases failure <;> rfl

theorem first_eq (fresh : cursor.done = false) :
    (cursor.first connection schema).runOn world =
      ((cursor.merge.item? schema (connection.reply cursor.root world 0)).elim (.ok none)
          (·.map some),
        connection.asked cursor.root world 1) := by
  change first connection schema cursor world = _
  unfold first
  rcases made : cursor.merge.item? schema (connection.reply cursor.root world 0)
    with _ | ⟨error | record⟩
  · have stops : cursor.merge.item? schema (connection.ask cursor.root world).1 =
      (none : Option Error).map .error := made
    rw [next_failure fresh stops]
    rfl
  · have stops : cursor.merge.item? schema (connection.ask cursor.root world).1 =
      (some error).map .error := made
    rw [next_failure fresh stops]
    rfl
  · have yields : cursor.merge.item? schema (connection.ask cursor.root world).1 =
      some (.ok record) := made
    rw [next_record fresh yields]
    rfl

end Cursor

/-! ## Any replies -/

namespace Reply

/-- Steps along a script. The world is how often this has been done. -/
def hasNext (script : Nat → Reply) : Action Nat Bool :=
  fun asked =>
    match script asked with
    | .ended => (.ok false, asked + 1)
    | .failed error => (.error error, asked + 1)
    | .row _ => (.ok true, asked + 1)

def decodeRow (script : Nat → Reply) : Action Nat Row :=
  fun asked =>
    match script (asked - 1) with
    | .row decoded => (decoded, asked)
    | _ => (.error (.custom "no row"), asked)

/-- A connection to a statement that replies as the script says. -/
def connection (script : Nat → Reply) : Connection Nat Unit where
  prepare _ := pure ()
  bind _ _ _ := pure ()
  hasNext _ := hasNext script
  decodeRow _ := decodeRow script
  release _ asked := asked

/-- The script up to a length, and no row from there on. -/
def upTo (script : Nat → Reply) (length count : Nat) : Reply :=
  if count < length then script count else .ended

variable {script : Nat → Reply} {length : Nat}

theorem hasNext_row {asked next : Nat}
    (stepped : (hasNext script).runOn asked = (.ok true, next)) :
    (∃ decoded, script asked = .row decoded) ∧ next = asked + 1 := by
  unfold hasNext Action.runOn ExceptT.run at stepped
  dsimp only at stepped
  split at stepped
  · cases stepped
  · cases stepped
  · rename_i decoded isRow
    cases stepped
    exact ⟨⟨decoded, isRow⟩, rfl⟩

theorem decodeRow_asked (script : Nat → Reply) (asked : Nat) :
    ((decodeRow script).runOn asked).2 = asked := by
  unfold decodeRow Action.runOn ExceptT.run
  dsimp only
  split <;> rfl

theorem lt_of_row {count : Nat} {decoded : Except Error Row}
    (isRow : upTo script length count = .row decoded) : count < length := by
  by_contra outside
  rw [upTo, if_neg outside] at isRow
  cases isRow

instance : (connection (upTo script length)).Finite :=
  .ofRowsLeft (fun _ asked => length - asked)
    (fun _ asked next stepped => by
      obtain ⟨⟨decoded, isRow⟩, rfl⟩ := hasNext_row stepped
      have inside := lt_of_row isRow
      omega)
    fun _ asked => Nat.le_of_eq (congrArg (length - ·) (decodeRow_asked _ asked))

theorem ask_connection (script : Nat → Reply) (asked : Nat) :
    (connection script).ask () asked = (script asked, asked + 1) := by
  have stepped : ((connection script).hasNext ()).runOn asked =
      match script asked with
      | .ended => (.ok false, asked + 1)
      | .failed error => (.error error, asked + 1)
      | .row _ => (.ok true, asked + 1) := rfl
  have decoded : ((connection script).decodeRow ()).runOn (asked + 1) =
      match script asked with
      | .row decoded => (decoded, asked + 1)
      | _ => (.error (.custom "no row"), asked + 1) := rfl
  unfold Connection.ask
  rw [stepped]
  cases replied : script asked with
  | ended => rfl
  | failed error => rfl
  | row outcome =>
      rw [replied] at decoded
      dsimp only
      rw [decoded]

theorem reply_connection (script : Nat → Reply) (start count : Nat) :
    (connection script).reply () start count = script (start + count) := by
  induction count generalizing start with
  | zero => exact congrArg Prod.fst (ask_connection script start)
  | succ count ih =>
      have later : (connection script).reply () start (count + 1) =
          (connection script).reply () ((connection script).ask () start).2 count := rfl
      rw [later, ask_connection, ih, Nat.add_right_comm, Nat.add_assoc]

end Reply

/-! ## All items -/

namespace Cursor

/-- A cursor gives the records of its statement's replies, one for each, up to the first reply that
makes none. That one is the last item if it is a failure. It closes the cursor: all later items are
missing, and the statement is not asked again. Reading all records stops at the same reply and fails
if that does, and reading the first asks once. The replies may be any whatever, and any up to a
length where rows must come to an end. -/
theorem closes (schema : Schema) (merge : MergeContext) :
    (∀ {World Handle : Type} (connection : Connection World Handle) (root : Handle)
        (world : World),
      let cursor : Cursor Handle := { root, merge }
      let item count := merge.item? schema (connection.reply root world count)
      let asked := connection.asked root world
      (∀ records, cursor.Yields connection schema world records →
        cursor.take connection schema records.length world =
            (records.map (some ∘ .ok), asked records.length) ∧
          ∀ failure : Option Error, item records.length = failure.map .error →
            (∀ later, cursor.take connection schema (records.length + 1 + later) world =
              (records.map (some ∘ .ok) ++ failure.map .error :: List.replicate later none,
                asked (records.length + 1))) ∧
            ∀ [connection.Finite], (cursor.all connection schema).runOn world =
              (failure.elim (.ok records) .error, asked (records.length + 1))) ∧
        (cursor.first connection schema).runOn world =
          ((item 0).elim (.ok none) (·.map some), asked 1)) ∧
      ∀ script : Nat → Reply,
        (∃ (connection : Connection Nat Unit) (world : Nat),
          ∀ count, connection.reply () world count = script count) ∧
        ∀ length : Nat, ∃ (connection : Connection Nat Unit) (_ : connection.Finite) (world : Nat),
          ∀ count < length, connection.reply () world count = script count := by
  refine ⟨fun connection root world => ?_, fun script => ⟨?_, fun length => ?_⟩⟩
  · intro cursor item asked
    have fresh : cursor.done = false := rfl
    refine ⟨fun records yields => ⟨?_, fun failure stops => ⟨fun later => ?_, ?_⟩⟩,
      first_eq fresh⟩
    · have taken := take_records fresh yields 0
      exact taken.trans (Prod.ext (List.append_nil _) rfl)
    · have taken := take_records fresh yields (later + 1)
      have stopped : cursor.take connection schema (later + 1) (asked records.length) = _ :=
        take_failure fresh stops later
      rw [Nat.add_assoc, Nat.add_comm 1, taken, stopped]
      exact Prod.ext rfl (connection.asked_succ root world records.length).symm
    · exact all_eq fresh yields stops
  · refine ⟨Reply.connection script, 0, fun count => ?_⟩
    rw [Reply.reply_connection, Nat.zero_add]
  · refine ⟨Reply.connection (Reply.upTo script length), inferInstance, 0, fun count inside => ?_⟩
    rw [Reply.reply_connection, Nat.zero_add, Reply.upTo, if_pos inside]

/-- A genre, a row without its label, and genres from there on: they are never read. -/
theorem closes_sample :
    let merge : MergeContext := { root := Sample.genre }
    let noir : Reply := .row (.ok ⟨["id", "label"], [.bigInt 7, .text "noir"]⟩)
    let unlabelled : Reply := .row (.ok ⟨["id"], [.bigInt 8]⟩)
    let script : Nat → Reply := fun count => if count = 1 then unlabelled else noir
    let record : HydratedRecord := [("id", .column (.bigInt 7)), ("label", .column (.text "noir"))]
    let failure : Error := .decode ⟨"genre", "label", .missingColumn⟩
    let connection := Reply.connection (Reply.upTo script 9)
    let cursor : Cursor Unit := { root := (), merge }
    cursor.Yields connection [] 0 [record] ∧
      cursor.take connection [] 4 0 =
        ([some (.ok record), some (.error failure), none, none], 2) ∧
      (cursor.all connection []).runOn 0 = (.error failure, 2) ∧
      (cursor.first connection []).runOn 0 = (.ok (some record), 1) := by
  intro merge noir unlabelled script record failure connection cursor
  obtain ⟨reads, -⟩ := closes [] merge
  obtain ⟨stops, first⟩ := reads connection () 0
  have yields : cursor.Yields connection [] 0 [record] := by
    intro count made found
    cases count with
    | zero =>
        cases found
        rfl
    | succ count => cases found
  obtain ⟨-, after⟩ := stops [record] yields
  obtain ⟨taken, all⟩ := after (some failure) rfl
  exact ⟨yields, taken 2, all, first⟩

end Cursor

end RecordMapper
