import RecordMapper.Proofs.Connection.Answering

set_option autoImplicit false

/-!
A connection made from the answers themselves. It keeps, for every statement ever prepared, the
rows that it still owes and the row stepped to last, and so answers just what it is given.
-/

namespace RecordMapper.Replying

structure Running where
  sql : String
  current : Option Row := none
  left : Except Error (List Row) := .ok []

/-- The prepared statements; a handle is a place in this list. -/
abbrev World := List Running

def missing : Error :=
  .query ⟨.misuse, "statement is not prepared", none, none⟩

def owes (handle : Nat) (world : World) : Option (Except Error (List Row)) :=
  world[handle]?.map (·.left)

def rowsLeft (handle : Nat) (world : World) : Nat :=
  match owes handle world with
  | some (.ok rows) => rows.length
  | _ => 0

def prepare (sql : String) : Action World Nat :=
  fun world => (.ok world.length, world ++ [{ sql := sql }])

def bind (answer : Statement → Except Error (List Row)) (handle : Nat) (bindings : List Binding) :
    Action World Unit :=
  fun world =>
    match world[handle]? with
    | none => (.error missing, world)
    | some running =>
        (.ok (), world.set handle { running with left := answer ⟨running.sql, bindings⟩ })

def hasNext (handle : Nat) : Action World Bool :=
  fun world =>
    match world[handle]? with
    | none => (.error missing, world)
    | some running =>
        match running.left with
        | .error error => (.error error, world)
        | .ok [] => (.ok false, world)
        | .ok (row :: rows) =>
            (.ok true, world.set handle { running with current := some row, left := .ok rows })

def decodeRow (handle : Nat) : Action World Row :=
  fun world =>
    match world[handle]?.bind (·.current) with
    | none => (.error missing, world)
    | some row => (.ok row, world)

variable {handle other : Nat} {world next : World} {running : Running}

theorem owes_set (found : world[handle]? = some running) (changed : Running) :
    owes handle (world.set handle changed) = some changed.left := by
  have inside := (List.getElem?_eq_some_iff.mp found).1
  unfold owes
  rw [List.getElem?_set_self inside]
  rfl

theorem owes_set_other (differs : other ≠ handle) (changed : Running) :
    owes other (world.set handle changed) = owes other world := by
  unfold owes
  rw [List.getElem?_set_ne differs.symm]

theorem hasNext_yields {row : Row} {rows : List Row} (found : world[handle]? = some running)
    (isLeft : running.left = .ok (row :: rows)) :
    (hasNext handle).runOn world =
      (.ok true, world.set handle { running with current := some row, left := .ok rows }) := by
  unfold hasNext Action.runOn ExceptT.run
  simp only [found, isLeft]

theorem hasNext_lt (stepped : (hasNext handle).runOn world = (.ok true, next)) :
    rowsLeft handle next < rowsLeft handle world := by
  cases found : world[handle]? with
  | none =>
      unfold hasNext Action.runOn ExceptT.run at stepped
      simp only [found] at stepped
      cases stepped
  | some running =>
      match isLeft : running.left with
      | .error error =>
          unfold hasNext Action.runOn ExceptT.run at stepped
          simp only [found, isLeft] at stepped
          cases stepped
      | .ok [] =>
          unfold hasNext Action.runOn ExceptT.run at stepped
          simp only [found, isLeft] at stepped
          cases stepped
      | .ok (row :: rows) =>
          rw [hasNext_yields found isLeft] at stepped
          cases stepped
          have before : owes handle world = some (.ok (row :: rows)) := by
            unfold owes
            rw [found, ← isLeft]
            rfl
          simp only [rowsLeft, owes_set found, before, List.length_cons]
          omega

theorem decodeRow_world (handle : Nat) (world : World) :
    ((decodeRow handle).runOn world).2 = world := by
  unfold decodeRow Action.runOn ExceptT.run
  dsimp only
  split <;> rfl

theorem decodeRow_current {row : Row} (found : world[handle]?.bind (·.current) = some row) :
    (decodeRow handle).runOn world = (.ok row, world) := by
  unfold decodeRow Action.runOn ExceptT.run
  simp only [found]

def connection (answer : Statement → Except Error (List Row)) : Connection World Nat where
  prepare := prepare
  bind handle bindings _ := bind answer handle bindings
  hasNext := hasNext
  decodeRow := decodeRow
  release _ world := world

instance (answer : Statement → Except Error (List Row)) : (connection answer).Finite :=
  .ofRowsLeft rowsLeft (fun _ _ _ => hasNext_lt) fun handle world =>
    Nat.le_of_eq (congrArg (rowsLeft handle) (decodeRow_world handle world))

theorem opens_iff {answer : Statement → Except Error (List Row)} {statement : Statement}
    {before after : World} :
    (connection answer).Opens statement before handle after ↔
      handle = before.length ∧
        after = before ++ [{ sql := statement.sql, left := answer statement }] := by
  have bound : (bind answer before.length statement.bindings).runOn
      (before ++ [{ sql := statement.sql }]) =
        (.ok (), before ++ [{ sql := statement.sql, left := answer statement }]) := by
    unfold bind Action.runOn ExceptT.run
    simp
  constructor
  · rintro ⟨prepares, binds⟩
    cases prepares
    have same := bound.symm.trans binds
    cases same
    exact ⟨rfl, rfl⟩
  · rintro ⟨rfl, rfl⟩
    exact ⟨rfl, bound⟩

theorem connection_answers (answer : Statement → Except Error (List Row)) :
    (connection answer).Answers answer owes where
  opened := by
    intro statement before handle after opens
    obtain ⟨rfl, rfl⟩ := opens_iff.mp opens
    constructor
    · simp [owes]
    · intro other isOpen
      have inside : other < before.length := by
        simpa [owes] using isOpen
      refine ⟨Nat.ne_of_lt inside, ?_⟩
      unfold owes
      rw [List.getElem?_append_left inside]
  opens before isAnswer := ⟨_, _, opens_iff.mpr ⟨rfl, rfl⟩⟩
  fails := by
    intro handle world error isOwed
    obtain ⟨running, found, isLeft⟩ := Option.map_eq_some_iff.mp isOwed
    refine ⟨world, ?_⟩
    change (hasNext handle).runOn world = _
    unfold hasNext Action.runOn ExceptT.run
    simp only [found, isLeft]
  ends := by
    intro handle world isOwed
    obtain ⟨running, found, isLeft⟩ := Option.map_eq_some_iff.mp isOwed
    refine ⟨world, ?_, fun _ _ => rfl⟩
    change (hasNext handle).runOn world = _
    unfold hasNext Action.runOn ExceptT.run
    simp only [found, isLeft]
  yields := by
    intro handle world row rows isOwed
    obtain ⟨running, found, isLeft⟩ := Option.map_eq_some_iff.mp isOwed
    have inside := (List.getElem?_eq_some_iff.mp found).1
    let stepped : Running := { running with current := some row, left := .ok rows }
    refine ⟨_, world.set handle stepped, hasNext_yields found isLeft, ?_, owes_set found stepped,
      fun other differs => owes_set_other differs stepped⟩
    refine decodeRow_current ?_
    rw [List.getElem?_set_self inside]
    rfl
  released _ := rfl

end RecordMapper.Replying
