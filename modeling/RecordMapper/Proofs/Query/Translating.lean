import RecordMapper.Proofs.Query.Bindings
import RecordMapper.Proofs.Query.Determinacy
import RecordMapper.Proofs.Query.Revaluing
import RecordMapper.Proofs.Query.Sample
import RecordMapper.Proofs.Sql.Translation

set_option autoImplicit false

/-!
One query in every dialect. The runs fail with one error or succeed with statements that say the
same: a statement is taken with its names decoded, its parameters by their positions and its limit
left out.
-/

namespace RecordMapper

/-! ## Outcomes -/

theorem Expr.Alike.refl {values : Value → Value → Prop} (reflexive : ∀ value, values value value)
    (expr : Expr) : Alike values expr expr := by
  induction expr with
  | field reference => exact .field reference
  | column name => exact .column name
  | literal value =>
      cases isNull : value.isNull with
      | false => exact .literal isNull isNull (reflexive value)
      | true =>
          obtain rfl : value = .null := by cases value <;> first | rfl | cases isNull
          exact .null
  | binary operator left right leftIH rightIH => exact .binary leftIH rightIH
  | not operand ih => exact .not ih
  | deferred producer produce ih => exact .deferred ih

namespace Likeness

/-- Two dialects, the same values and any texts. -/
def between (first second : Dialect) : Likeness where
  first := first
  second := second
  values := Eq
  texts _ _ := True
  fixed _ := trivial
  append _ _ := trivial
  quoted _ := trivial
  placeholder _ := trivial
  limit _ _ := trivial

theorem States.refl (first second : Dialect) (state : QueryState) :
    (between first second).States state state :=
  .differ (List.forall₂_same.mpr fun filter _ => .refl (fun _ => rfl) filter) fun _ => rfl

end Likeness

/-! ## Statements -/

/-- What a statement says in any dialect: its symbols without limits, and its values. -/
def Statement.content (dialect : Dialect) (statement : Statement) :
    List Sql.Symbol × List Value :=
  (Sql.symbols dialect 1 (Sql.unlimited (Sql.tokens dialect statement.sql)),
    statement.bindings.map (·.value))

theorem Sql.Sentence.content_eq {sentence : Sql.Sentence} (numbered : sentence.IsNumbered) :
    ∃ content, ∀ dialect, (sentence.statement dialect).content dialect = content := by
  have indices : sentence.parameters.map (·.index) =
      List.range' 1 sentence.parameters.length := by
    rw [numbered, numbered_indices, numbered_length, List.length_map]
  have translates := sentence.translates
  rw [indices] at translates
  obtain ⟨written, same⟩ := translates.symbols_eq
  refine ⟨(written, sentence.parameters.map (·.value)), fun dialect => ?_⟩
  exact Prod.ext (same dialect) (Generation.bindings_values sentence.parameters)

theorem Sql.contents_eq {sentences : List Sql.Sentence}
    (numbered : ∀ sentence ∈ sentences, sentence.IsNumbered) :
    ∃ contents, ∀ dialect,
      (sentences.map (·.statement dialect)).map (Statement.content dialect) = contents := by
  induction sentences with
  | nil => exact ⟨[], fun _ => rfl⟩
  | cons sentence sentences ih =>
      obtain ⟨first, others⟩ := List.forall_mem_cons.mp numbered
      obtain ⟨content, same⟩ := Sql.Sentence.content_eq first
      obtain ⟨contents, sameOthers⟩ := ih others
      refine ⟨content :: contents, fun dialect => ?_⟩
      rw [List.map_cons, List.map_cons, same, sameOthers]

namespace Generation

theorem outcome_eq (first second : Dialect) (state : QueryState)
    (buffer otherBuffer : List Binding) (calls : Calls) :
    ((generate first.delegate).runOn ⟨state, ⟨buffer, calls⟩⟩).1 =
      ((generate second.delegate).runOn ⟨state, ⟨otherBuffer, calls⟩⟩).1 :=
  (Likeness.generate (Likeness.States.refl first second state) rfl buffer otherBuffer
    calls).1.eq

/-- All dialects fail with one error, or all succeed with statements of the same content. -/
theorem generate_translates (state : QueryState) (calls : Calls)
    (buffers : Dialect → List Binding) :
    let run dialect := (generate dialect.delegate).runOn ⟨state, ⟨buffers dialect, calls⟩⟩
    (∃ error, ∀ dialect, (run dialect).1 = .error error) ∨
      ∃ contents, ∀ dialect, (run dialect).1 = .ok () ∧ ∃ emitted,
        (run dialect).2.query.statements = state.statements ++ emitted ∧
          emitted.map (Statement.content dialect) = contents := by
  intro run
  have sameOutcome (dialect : Dialect) : (run dialect).1 = (run .sqlite).1 :=
    outcome_eq _ _ _ _ _ _
  cases outcome : (run .sqlite).1 with
  | error error => exact .inl ⟨error, fun dialect => (sameOutcome dialect).trans outcome⟩
  | ok _ =>
      right
      have succeeded (dialect : Dialect) : run dialect = (.ok (), (run dialect).2) :=
        Prod.ext ((sameOutcome dialect).trans outcome) rfl
      -- the sentences of one run are those of every run
      obtain ⟨sentences, written, -⟩ := generate_sentences (succeeded .sqlite)
      obtain ⟨contents, same⟩ := Sql.contents_eq written.bind.2
      refine ⟨contents, fun dialect => ⟨congrArg Prod.fst (succeeded dialect),
        sentences.map (·.statement dialect), ?_, same dialect⟩⟩
      obtain ⟨others, otherWritten, -, sameQuery, -⟩ := generate_sentences (succeeded dialect)
      obtain ⟨rfl, -⟩ := written.unique otherWritten
      rw [sameQuery]
      rfl

/-- One select in the names, placeholders and limits of each dialect. -/
theorem generate_translates_sample :
    let state : QueryState :=
      { tables := [⟨Sample.book, "t0", none⟩]
        command := .select
        filters := [.binary .eq (.field ⟨Sample.book, "title"⟩) (.literal (.text "Emma"))]
        limit := some ⟨0, 5⟩ }
    let run (dialect : Dialect) := (generate dialect.delegate).runOn ⟨state, ⟨[], .zero⟩⟩
    let written (dialect : Dialect) := (run dialect).2.query.statements
    written .sqlite = [⟨"SELECT DISTINCT \"t0\".* FROM \"book\" AS \"t0\"" ++
        " WHERE \"t0\".\"title\" = ?1 LIMIT -1 OFFSET 5", [⟨"?1", .text "Emma"⟩]⟩] ∧
      written .postgres = [⟨"SELECT DISTINCT \"t0\".* FROM \"book\" AS \"t0\"" ++
        " WHERE \"t0\".\"title\" = $1 OFFSET 5", [⟨"$1", .text "Emma"⟩]⟩] ∧
      written .mysql = [⟨"SELECT DISTINCT \x60t0\x60.* FROM \x60book\x60 AS \x60t0\x60" ++
        " WHERE \x60t0\x60.\x60title\x60 = ? LIMIT 18446744073709551615 OFFSET 5",
          [⟨"?", .text "Emma"⟩]⟩] ∧
      ∀ dialect, (written dialect).map (Statement.content dialect) =
        (written .sqlite).map (Statement.content .sqlite) := by
  intro state run written
  have succeeded : (run .sqlite).1 = .ok () := by decide +kernel
  refine ⟨by decide +kernel, by decide +kernel, by decide +kernel, ?_⟩
  cases generate_translates state .zero fun _ => [] with
  | inl failed =>
      obtain ⟨error, failed⟩ := failed
      cases (failed .sqlite).symm.trans succeeded
  | inr translated =>
      obtain ⟨contents, same⟩ := translated
      have content (dialect : Dialect) :
          (written dialect).map (Statement.content dialect) = contents := by
        obtain ⟨-, emitted, ended, isContent⟩ := same dialect
        rw [← isContent]
        exact congrArg _ ended
      intro dialect
      rw [content dialect, content .sqlite]

end Generation

end RecordMapper
