import Mathlib.Data.List.Induction
import RecordMapper.Proofs.Query.Attaching
import RecordMapper.Proofs.Query.Sample

set_option autoImplicit false

/-!
Which tables a query has after any operations, generations that fail among them. They are the ones
that were asked for, the first for each record type, and each stands under the alias of its place.
So nothing that is done later renames, moves or removes a table.
-/

namespace RecordMapper

/-! ## Requests for tables -/

/-- A table that is asked for. -/
structure Request where
  record : RecordType
  join : Option Join

namespace Request

def table (position : Nat) (request : Request) : Table :=
  ⟨request.record, s!"t{position}", request.join⟩

/-- The first request for each record type, in order. -/
def firsts : List Request → List Request
  | [] => []
  | request :: requests => request :: (firsts requests).filter (·.record ≠ request.record)

/-- The tables that requests lead to. -/
def tables (requests : List Request) : List Table :=
  (firsts requests).mapIdx table

theorem mem_firsts_record {requests : List Request} {record : RecordType} :
    record ∈ (firsts requests).map (·.record) ↔ record ∈ requests.map (·.record) := by
  induction requests with
  | nil => rfl
  | cons request requests ih =>
      simp only [List.mem_map] at ih
      by_cases same : record = request.record
      · simp [firsts, same]
      · simp only [firsts, List.map_cons, List.mem_cons, List.mem_map, List.mem_filter, same,
          false_or, ← ih]
        constructor
        · rintro ⟨other, ⟨isFirst, -⟩, rfl⟩
          exact ⟨other, isFirst, rfl⟩
        · rintro ⟨other, isFirst, rfl⟩
          exact ⟨other, ⟨isFirst, by simpa using same⟩, rfl⟩

theorem firsts_records_nodup (requests : List Request) :
    ((firsts requests).map (·.record)).Nodup := by
  induction requests with
  | nil => exact List.nodup_nil
  | cons request requests ih =>
      rw [firsts, List.map_cons, List.nodup_cons]
      refine ⟨?_, ih.sublist (List.filter_sublist.map _)⟩
      intro again
      obtain ⟨other, isOther, same⟩ := List.mem_map.mp again
      simp [same] at isOther

/-- One more request counts unless its record type was asked for before. -/
theorem firsts_append_singleton (requests : List Request) (request : Request) :
    firsts (requests ++ [request]) =
      if request.record ∈ requests.map (·.record) then firsts requests
      else firsts requests ++ [request] := by
  induction requests with
  | nil => rfl
  | cons first requests ih =>
      rw [List.cons_append, firsts, ih, List.map_cons]
      by_cases known : request.record ∈ requests.map (·.record)
      · rw [if_pos known, if_pos (List.mem_cons_of_mem _ known), firsts]
      · rw [if_neg known]
        by_cases again : request.record = first.record
        · simp [firsts, again, List.filter_append]
        · rw [if_neg (by simpa [again] using known)]
          simp [firsts, again, List.filter_append]

theorem tables_append_singleton (requests : List Request) (request : Request) :
    tables (requests ++ [request]) =
      if request.record ∈ requests.map (·.record) then tables requests
      else tables requests ++ [request.table (tables requests).length] := by
  unfold tables
  rw [firsts_append_singleton, List.length_mapIdx]
  split
  · rfl
  · rw [List.mapIdx_append]
    simp

theorem tables_records (requests : List Request) :
    (tables requests).map (·.record) = (firsts requests).map (·.record) := by
  refine List.ext_getElem (by simp [tables]) fun position _ _ => ?_
  simp [tables, table]

theorem tables_aliases (requests : List Request) :
    (tables requests).map (·.aliasName) =
      (List.range (tables requests).length).map aliasAt := by
  refine List.ext_getElem (by simp) fun position _ _ => ?_
  simp [tables, table, aliasAt]

end Request

/-! ## What operations ask for -/

namespace QueryState

variable {state : QueryState}

theorem table?_eq_none_iff {record : RecordType} :
    state.table? record = none ↔ record ∉ state.tables.map (·.record) := by
  refine ⟨notMem_of_table?, fun absent => List.find?_eq_none.mpr fun table member => ?_⟩
  have different : table.record ≠ record := by
    rintro rfl
    exact absent (List.mem_map_of_mem member)
  simpa using different

theorem IsDistinct.table?_eq_some_iff (distinct : state.IsDistinct) {record : RecordType}
    {table : Table} :
    state.table? record = some table ↔ table ∈ state.tables ∧ table.record = record := by
  constructor
  · intro found
    exact ⟨List.mem_of_find?_eq_some found, by simpa using List.find?_some found⟩
  · rintro ⟨member, rfl⟩
    exact distinct.table?_eq member

/-- A table is refused exactly when its record type has one. -/
theorem addTable_eq (state : QueryState) (record : RecordType) (join : Option Join) :
    state.addTable record join =
      if record ∈ state.tables.map (·.record) then
        .error (.generation (.duplicateTable record.name))
      else .ok { state with
        tables := state.tables ++ [Request.table state.tables.length ⟨record, join⟩] } := by
  unfold addTable
  split
  · rename_i table found
    have known : record ∈ state.tables.map (·.record) := by
      by_contra absent
      rw [table?_eq_none_iff.mpr absent] at found
      cases found
    rw [if_pos known]
  · rename_i absent
    rw [if_neg (table?_eq_none_iff.mp absent)]
    rfl

end QueryState

namespace Operation

def request? : Operation → Option Request
  | .build (.addTable record join) => some ⟨record, join⟩
  | _ => none

def requests (operations : List Operation) : List Request :=
  operations.filterMap request?

theorem run_append (first second : List Operation) (state : QueryState) :
    run (first ++ second) state = run second (run first state) :=
  List.foldl_append

theorem apply_tables (operation : Operation) (state : QueryState) :
    (operation.apply state).tables =
      match operation.request? with
      | some request =>
          if request.record ∈ state.tables.map (·.record) then state.tables
          else state.tables ++ [request.table state.tables.length]
      | none => state.tables := by
  cases operation with
  | build step =>
      cases step with
      | addTable record join =>
          simp only [apply, BuildStep.apply, request?, state.addTable_eq]
          by_cases known : record ∈ state.tables.map (·.record)
          · simp only [if_pos known]
          · simp only [if_neg known]
      | addFilter | addOrdering | setLimit | setInstance => rfl
  | setCommand | drainOrderings | takeLimit | pushStatement => rfl
  | generate delegate draft =>
      exact (Generation.keeps_generate delegate ⟨state, draft⟩ (.refl state)).tables

theorem run_tables (operations : List Operation) :
    (run operations {}).tables = Request.tables (requests operations) := by
  induction operations using List.reverseRecOn with
  | nil => rfl
  | append_singleton operations operation ih =>
      have records : (run operations {}).tables.map (·.record) =
          (Request.firsts (requests operations)).map (·.record) := by
        rw [ih, Request.tables_records]
      have known (record : RecordType) :
          record ∈ (run operations {}).tables.map (·.record) ↔
            record ∈ (requests operations).map (·.record) := by
        rw [records, Request.mem_firsts_record]
      rw [run_append]
      change (operation.apply (run operations {})).tables = _
      rw [apply_tables, requests, List.filterMap_append]
      cases asked : operation.request? with
      | none => simp [asked, ih, requests]
      | some request =>
          have one : [operation].filterMap request? = [request] := by simp [asked]
          rw [one, ← requests, Request.tables_append_singleton, ← ih]
          simp only [known]

theorem run_distinct (operations : List Operation) : (run operations {}).IsDistinct := by
  unfold QueryState.IsDistinct
  rw [run_tables, Request.tables_records]
  exact Request.firsts_records_nodup _

theorem apply_tables_prefix (operation : Operation) (state : QueryState) :
    state.tables <+: (operation.apply state).tables := by
  rw [apply_tables]
  split
  · split
    · exact List.prefix_refl _
    · exact List.prefix_append _ _
  · exact List.prefix_refl _

theorem run_tables_prefix (operations : List Operation) (state : QueryState) :
    state.tables <+: (run operations state).tables := by
  induction operations generalizing state with
  | nil => exact List.prefix_refl _
  | cons operation operations ih =>
      exact (operation.apply_tables_prefix state).trans (ih (operation.apply state))

/-- After any operations on an empty state, the tables are those asked for first for each record
type, in order. Each has the alias of its place, is the one that its record type is looked up by,
and stays what and where it is. A table is refused exactly when its record type has one, and then
nothing changes. -/
theorem run_registers (operations : List Operation) :
    let state := run operations {}
    state.tables = Request.tables (requests operations) ∧
    (∀ (position : Nat) (table : Table), state.tables[position]? = some table →
      table.aliasName = s!"t{position}") ∧
    (state.tables.map (·.record)).Nodup ∧ (state.tables.map (·.aliasName)).Nodup ∧
    (∀ record table, state.table? record = some table ↔
      table ∈ state.tables ∧ table.record = record) ∧
    (∀ record, state.table? record = none ↔ record ∉ state.tables.map (·.record)) ∧
    (∀ record join, if record ∈ state.tables.map (·.record) then
        state.addTable record join = .error (.generation (.duplicateTable record.name)) ∧
          apply state (.build (.addTable record join)) = state
      else
        state.addTable record join = .ok { state with
          tables := state.tables ++ [⟨record, s!"t{state.tables.length}", join⟩] }) ∧
    ∀ later, state.tables <+: (run (operations ++ later) {}).tables := by
  intro state
  have tables : state.tables = Request.tables (requests operations) := run_tables operations
  have distinct : state.IsDistinct := run_distinct operations
  refine ⟨tables, ?_, distinct, ?_, fun record table => distinct.table?_eq_some_iff,
    fun record => QueryState.table?_eq_none_iff, ?_, ?_⟩
  · intro position table found
    rw [tables, Request.tables, List.getElem?_mapIdx] at found
    obtain ⟨request, -, rfl⟩ := Option.map_eq_some_iff.mp found
    rfl
  · rw [tables, Request.tables_aliases]
    exact List.nodup_range.map aliasAt_injective
  · intro record join
    have added := state.addTable_eq record join
    split
    · rename_i known
      rw [if_pos known] at added
      exact ⟨added, by simp only [apply, BuildStep.apply, added]⟩
    · rename_i unknown
      rw [if_neg unknown] at added
      exact added
  · intro later
    rw [run_append]
    exact run_tables_prefix later state

/-- An ordering that no statement can use makes the generation fail; the tables are registered
around it all the same, one of them twice. -/
def sampleRegistrations : List Operation :=
  [.setCommand .select, .build (.addTable Sample.author none),
    .build (.addOrdering [⟨Sample.genre, "label"⟩] true),
    .generate Dialect.mysql.delegate ⟨[], .zero⟩, .build (.addTable Sample.author none),
    .build (.addTable Sample.book (some Sample.books))]

theorem run_registers_sample :
    let state := run sampleRegistrations {}
    let book : Table := ⟨Sample.book, "t1", some Sample.books⟩
    state.tables[1]? = some book ∧ book.aliasName = s!"t{1}" ∧
    state.table? Sample.book = some book ∧ state.table? Sample.genre = none ∧
    apply state (.build (.addTable Sample.book none)) = state ∧
    ∀ later, [⟨Sample.author, "t0", none⟩, book] <+:
      (run (sampleRegistrations ++ later) {}).tables := by
  intro state book
  obtain ⟨tables, aliases, -, -, found, absent, refused, stable⟩ :=
    run_registers sampleRegistrations
  have two : state.tables = [⟨Sample.author, "t0", none⟩, book] := tables.trans (by decide)
  have second : state.tables[1]? = some book := by rw [two]; rfl
  have isTable : book ∈ state.tables := List.mem_of_getElem? second
  have known : Sample.book ∈ state.tables.map (·.record) := List.mem_map_of_mem isTable
  have unknown : Sample.genre ∉ state.tables.map (·.record) := by rw [two]; decide
  have again := refused Sample.book none
  rw [if_pos known] at again
  refine ⟨second, aliases 1 book second, (found _ _).mpr ⟨isTable, rfl⟩, (absent _).mpr unknown,
    again.2, ?_⟩
  rw [← two]
  exact stable

end Operation

end RecordMapper
