import RecordMapper.Proofs.Query.Selecting

set_option autoImplicit false

/-!
What an expression mentions. The search for record types and the renderer go through an expression
on their own; when producers give expressions of the same record types at each call, the search
finds every record type that the renderer writes a column of.
-/

namespace RecordMapper

namespace Expr

/-- A field reference of the record type occurs in the expression, or in one that it produces. -/
inductive Mentions (record : RecordType) : Expr → Prop where
  | field {reference : FieldRef} : reference.record = record → Mentions record (.field reference)
  | left {operator : Operator} {first second : Expr} :
      Mentions record first → Mentions record (.binary operator first second)
  | right {operator : Operator} {first second : Expr} :
      Mentions record second → Mentions record (.binary operator first second)
  | not {operand : Expr} : Mentions record operand → Mentions record (.not operand)
  | deferred {producer : ProducerId} {produce : Nat → Expr} (call : Nat) :
      Mentions record (produce call) → Mentions record (.deferred producer produce)

inductive NamesColumn (name : String) : Expr → Prop where
  | column : NamesColumn name (.column name)
  | left {operator : Operator} {first second : Expr} :
      NamesColumn name first → NamesColumn name (.binary operator first second)
  | right {operator : Operator} {first second : Expr} :
      NamesColumn name second → NamesColumn name (.binary operator first second)
  | not {operand : Expr} : NamesColumn name operand → NamesColumn name (.not operand)
  | deferred {producer : ProducerId} {produce : Nat → Expr} (call : Nat) :
      NamesColumn name (produce call) → NamesColumn name (.deferred producer produce)

/-- Producers give expressions of the same record types at each call. -/
inductive Steady : Expr → Prop where
  | field (reference : FieldRef) : Steady (.field reference)
  | column (name : String) : Steady (.column name)
  | literal (value : Value) : Steady (.literal value)
  | binary {operator : Operator} {left right : Expr} :
      Steady left → Steady right → Steady (.binary operator left right)
  | not {operand : Expr} : Steady operand → Steady (.not operand)
  | deferred {producer : ProducerId} {produce : Nat → Expr} :
      (∀ call, Steady (produce call)) →
      (∀ first second record, (produce first).Mentions record → (produce second).Mentions record) →
      Steady (.deferred producer produce)

/-- The search finds what is mentioned, whatever calls were made before. -/
theorem Steady.mem_referencedTypes {expr : Expr} (steady : expr.Steady) {record : RecordType}
    (mentions : expr.Mentions record) (calls : Calls) :
    record ∈ (expr.referencedTypes.run calls).1 := by
  induction steady generalizing calls with
  | field reference =>
      cases mentions with
      | field same => exact List.mem_singleton.mpr same.symm
  | column | literal => cases mentions
  | binary _ _ leftIH rightIH =>
      cases mentions with
      | left inLeft => exact List.mem_append_left _ (leftIH inLeft calls)
      | right inRight => exact List.mem_append_right _ (rightIH inRight _)
  | not _ ih =>
      cases mentions with
      | not inOperand => exact ih inOperand calls
  | deferred _ same ih =>
      cases mentions with
      | deferred call produced => exact ih _ (same call _ record produced) _

theorem foldl_mentions {operator : Operator} {filters : List Expr} {first : Expr}
    {record : RecordType}
    (mentions : first.Mentions record ∨ ∃ filter ∈ filters, filter.Mentions record) :
    (filters.foldl (.binary operator) first).Mentions record := by
  induction filters generalizing first with
  | nil => simpa using mentions
  | cons filter filters ih =>
      refine ih ?_
      rcases mentions with inFirst | ⟨other, member, inOther⟩
      · exact .inl (.left inFirst)
      · rcases List.mem_cons.mp member with rfl | member
        · exact .inl (.right inOther)
        · exact .inr ⟨other, member, inOther⟩

theorem fold?_mentions {operator : Operator} {filters : List Expr} {condition filter : Expr}
    {record : RecordType} (folded : fold? operator filters = some condition)
    (member : filter ∈ filters) (mentions : filter.Mentions record) :
    condition.Mentions record := by
  cases filters with
  | nil => cases member
  | cons first rest =>
      cases folded
      refine foldl_mentions ?_
      rcases List.mem_cons.mp member with rfl | member
      · exact .inl mentions
      · exact .inr ⟨filter, member, mentions⟩

/-- The search finds nothing that is not mentioned. -/
theorem mentions_of_referencedTypes {expr : Expr} {record : RecordType} {calls : Calls}
    (found : record ∈ (expr.referencedTypes.run calls).1) : expr.Mentions record := by
  induction expr generalizing calls with
  | field reference => exact .field (List.mem_singleton.mp found).symm
  | column | literal => cases found
  | binary operator left right leftIH rightIH =>
      rcases List.mem_append.mp found with inLeft | inRight
      · exact .left (leftIH inLeft)
      · exact .right (rightIH inRight)
  | not operand ih => exact .not (ih found)
  | deferred producer produce ih => exact .deferred _ (ih _ found)

theorem mentions_of_foldl {operator : Operator} {filters : List Expr} {first : Expr}
    {record : RecordType} (mentions : (filters.foldl (.binary operator) first).Mentions record) :
    ∃ filter ∈ first :: filters, filter.Mentions record := by
  induction filters generalizing first with
  | nil => exact ⟨first, List.mem_cons_self, mentions⟩
  | cons filter filters ih =>
      obtain ⟨found, isFound, inFound⟩ := ih mentions
      rcases List.mem_cons.mp isFound with rfl | isOther
      · cases inFound with
        | left inFirst => exact ⟨first, by simp, inFirst⟩
        | right inFilter => exact ⟨filter, by simp, inFilter⟩
      · exact ⟨found, by simp [isOther], inFound⟩

theorem mentions_of_fold? {operator : Operator} {filters : List Expr} {condition : Expr}
    {record : RecordType} (folded : fold? operator filters = some condition)
    (mentions : condition.Mentions record) : ∃ filter ∈ filters, filter.Mentions record := by
  cases filters with
  | nil => cases folded
  | cons first rest =>
      cases folded
      exact mentions_of_foldl mentions

theorem foldl_steady {operator : Operator} {filters : List Expr} {first : Expr}
    (firstSteady : first.Steady) (steady : ∀ filter ∈ filters, filter.Steady) :
    (filters.foldl (.binary operator) first).Steady := by
  induction filters generalizing first with
  | nil => exact firstSteady
  | cons filter filters ih =>
      obtain ⟨filterSteady, others⟩ := List.forall_mem_cons.mp steady
      exact ih (.binary firstSteady filterSteady) others

theorem fold?_steady {operator : Operator} {filters : List Expr} {condition : Expr}
    (folded : fold? operator filters = some condition)
    (steady : ∀ filter ∈ filters, filter.Steady) : condition.Steady := by
  cases filters with
  | nil => cases folded
  | cons first rest =>
      cases folded
      obtain ⟨firstSteady, others⟩ := List.forall_mem_cons.mp steady
      exact foldl_steady firstSteady others

theorem Writes.columns {scope : Scope} {expr : Expr} {before after : Progress}
    {phrase : Sql.Phrase} (writes : Writes scope expr before phrase after)
    {name : Sql.ColumnName} (member : name ∈ phrase.columns) :
    (∃ column, expr.NamesColumn column ∧ name = ⟨none, column⟩) ∨
      ∃ reference, expr.Mentions reference.record ∧ scope.columnName? reference = some name := by
  induction writes with
  | @field reference found _ isFound =>
      obtain rfl := List.mem_singleton.mp member
      exact .inr ⟨reference, .field rfl, isFound⟩
  | @column column _ =>
      obtain rfl := List.mem_singleton.mp member
      exact .inl ⟨column, .column, rfl⟩
  | null | literal => cases member
  | isNull _ ih | isNotNull _ ih =>
      rcases ih member with ⟨column, named, same⟩ | ⟨reference, mentions, found⟩
      · exact .inl ⟨column, .left named, same⟩
      · exact .inr ⟨reference, .left mentions, found⟩
  | binary _ _ _ leftIH rightIH =>
      rcases List.mem_append.mp member with inLeft | inRight
      · rcases leftIH inLeft with ⟨column, named, same⟩ | ⟨reference, mentions, found⟩
        · exact .inl ⟨column, .left named, same⟩
        · exact .inr ⟨reference, .left mentions, found⟩
      · rcases rightIH inRight with ⟨column, named, same⟩ | ⟨reference, mentions, found⟩
        · exact .inl ⟨column, .right named, same⟩
        · exact .inr ⟨reference, .right mentions, found⟩
  | not _ ih =>
      rcases ih member with ⟨column, named, same⟩ | ⟨reference, mentions, found⟩
      · exact .inl ⟨column, .not named, same⟩
      · exact .inr ⟨reference, .not mentions, found⟩
  | deferred _ ih =>
      rcases ih member with ⟨column, named, same⟩ | ⟨reference, mentions, found⟩
      · exact .inl ⟨column, .deferred _ named, same⟩
      · exact .inr ⟨reference, .deferred _ mentions, found⟩

end Expr

namespace QueryState

variable {state : QueryState}

def Mentions (state : QueryState) (record : RecordType) : Prop :=
  ∃ filter ∈ state.filters, filter.Mentions record

theorem search_eq (several : 2 ≤ state.tables.length) {condition : Expr}
    (folded : state.condition? = some condition) : state.search = condition.referencedTypes := by
  unfold search
  match tables : state.tables with
  | [] | [_] => simp [tables] at several
  | _ :: _ :: _ => simp [folded]

/-- Where there are tables to join, the search finds the record types that filters mention, whatever
calls were made before. -/
theorem mem_search_iff (steady : ∀ filter ∈ state.filters, filter.Steady)
    (several : 2 ≤ state.tables.length) {record : RecordType} (calls : Calls) :
    record ∈ (state.search.run calls).1 ↔ state.Mentions record := by
  cases folded : state.condition? with
  | none =>
      have unfiltered : state.filters = [] := by
        unfold condition? at folded
        cases filters : state.filters with
        | nil => rfl
        | cons first rest => simp [filters, Expr.fold?] at folded
      have unsearched : state.search = pure [] := by
        unfold search
        match tables : state.tables with
        | [] | [_] => rfl
        | _ :: _ :: _ => simp [folded]
      rw [unsearched]
      constructor
      · intro found
        cases found
      · rintro ⟨filter, isFilter, -⟩
        rw [unfiltered] at isFilter
        cases isFilter
  | some condition =>
      rw [search_eq several folded]
      constructor
      · intro found
        exact Expr.mentions_of_fold? folded (Expr.mentions_of_referencedTypes found)
      · rintro ⟨filter, isFilter, mentions⟩
        exact (Expr.fold?_steady folded steady).mem_referencedTypes
          (Expr.fold?_mentions folded isFilter mentions) calls

end QueryState

theorem Scope.WritesAll.columns {scope : Scope} {filters : List Expr} {before after : Progress}
    {phrases : List Sql.Phrase} (writes : scope.WritesAll filters before phrases after)
    {name : Sql.ColumnName} (member : name ∈ phrases.flatMap (·.columns)) :
    ∃ filter ∈ filters, (∃ column, filter.NamesColumn column ∧ name = ⟨none, column⟩) ∨
      ∃ reference, filter.Mentions reference.record ∧
        scope.columnName? reference = some name := by
  induction writes with
  | nil => cases member
  | cons first _ ih =>
      rw [List.flatMap_cons, List.mem_append] at member
      rcases member with inFirst | inOthers
      · exact ⟨_, List.mem_cons_self, first.columns inFirst⟩
      · obtain ⟨filter, isFilter, mentioned⟩ := ih inOthers
        exact ⟨filter, List.mem_cons_of_mem _ isFilter, mentioned⟩

end RecordMapper
