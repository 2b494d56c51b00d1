import Mathlib
import RecordMapper.Proofs.Sql.Clause

set_option autoImplicit false

/-!
The rows that a limit clause keeps, as the engine of each dialect reads it. Numbers are written
as they are given, so a clause can ask for more rows than its engine has a number for.
-/

namespace RecordMapper.Sql

/-- The rows that are asked for: those after the first `skip`, at most `max` of them when `max` is
not zero. -/
def requestedRows {Row : Type} (limit : Limit) (rows : List Row) : List Row :=
  let rest := rows.drop limit.skip.toNat
  if limit.max = 0 then rest else rest.take limit.max.toNat

/-! ## Reading a clause -/

/-- The numbers of a limit clause. -/
structure Extent where
  limit : Option Int
  offset : Option Int
deriving DecidableEq, Repr

/-- The largest whole number that an engine reads behind LIMIT and OFFSET. -/
def largestNumber : Dialect → Nat
  | .sqlite => 9223372036854775807
  | .postgres => 9223372036854775807
  | .mysql => 18446744073709551615

/-- A number of a clause. Only SQLite takes negative ones. -/
def number? (dialect : Dialect) (text : String) : Option Int :=
  text.toInt?.filter fun number => 0 ≤ number || dialect = .sqlite

/-- A clause as an engine reads it. Only PostgreSQL has an offset without a limit. -/
def extent? (dialect : Dialect) : List Token → Option Extent
  | [] => some ⟨none, none⟩
  | [.word "LIMIT", .word count] => do
      let limit ← number? dialect count
      some ⟨some limit, none⟩
  | [.word "LIMIT", .word count, .word "OFFSET", .word first] => do
      let limit ← number? dialect count
      let offset ← number? dialect first
      some ⟨some limit, some offset⟩
  | [.word "OFFSET", .word first] =>
      if dialect = .postgres then do
        let offset ← number? dialect first
        some ⟨none, some offset⟩
      else none
  | _ => none

/-- How many rows a limit admits. A negative one bounds nothing in SQLite, nor does the largest of
all numbers in MySQL. -/
def bound? (dialect : Dialect) (limit : Int) : Option Nat :=
  match dialect with
  | .sqlite => if limit < 0 then none else some limit.toNat
  | .mysql => if limit = 18446744073709551615 then none else some limit.toNat
  | .postgres => some limit.toNat

namespace Extent

def keep {Row : Type} (dialect : Dialect) (extent : Extent) (rows : List Row) : List Row :=
  let rest := rows.drop (extent.offset.getD 0).toNat
  match extent.limit.bind (bound? dialect) with
  | none => rest
  | some count => rest.take count

/-- An engine reads each number of the clause. -/
structure InRange (dialect : Dialect) (extent : Extent) : Prop where
  limit : ∀ number ∈ extent.limit, number.natAbs ≤ largestNumber dialect
  offset : ∀ number ∈ extent.offset, number.natAbs ≤ largestNumber dialect

end Extent

/-! ## Written clauses -/

/-- The limit of a clause without an upper bound, which some dialects cannot leave out. -/
def unbounded? : Dialect → Option Int
  | .sqlite => some (-1)
  | .mysql => some 18446744073709551615
  | .postgres => none

/-- The numbers that are written. -/
def Extent.ofLimit (dialect : Dialect) (limit : Limit) : Extent where
  limit :=
    if limit.max = 0 then if limit.skip = 0 then none else unbounded? dialect
    else some (Int.ofNat limit.max.toNat)
  offset := if limit.skip = 0 then none else some (Int.ofNat limit.skip.toNat)

theorem number?_repr (dialect : Dialect) (number : Nat) :
    number? dialect number.repr = some number := by
  simp [number?, Nat.toInt?_repr]

theorem number?_negative : number? .sqlite "-1" = some (-1) := by
  rw [number?, show "-1" = (-1 : Int).repr from rfl, Int.toInt?_repr]
  rfl

theorem extent?_words (dialect : Dialect) (limit : Limit) :
    extent? dialect ((limitWords dialect limit).map .word) =
      some (Extent.ofLimit dialect limit) := by
  have largest : number? .mysql "18446744073709551615" = some 18446744073709551615 :=
    number?_repr .mysql 18446744073709551615
  unfold limitWords Extent.ofLimit
  split
  · split
    · rfl
    · simp [extent?, number?_repr]
  · split
    · cases dialect with
      | sqlite => simp [extent?, number?_repr, unbounded?, number?_negative]
      | postgres => simp [extent?, number?_repr, unbounded?]
      | mysql => simp [extent?, number?_repr, unbounded?, largest]
    · simp [extent?, number?_repr]

/-- A written clause is read as the numbers in it. -/
theorem extent?_limitClause (dialect : Dialect) (limit : Limit) :
    extent? dialect (tokens dialect (dialect.limitClause limit.max limit.skip)) =
      some (Extent.ofLimit dialect limit) := by
  rw [(spells_limit dialect limit).tokens_eq, extent?_words]

theorem limitClause_eq_empty (dialect : Dialect) (limit : Limit) :
    dialect.limitClause limit.max limit.skip = "" ↔ limit.max = 0 ∧ limit.skip = 0 := by
  constructor
  · intro isEmpty
    have read := extent?_limitClause dialect limit
    rw [isEmpty] at read
    obtain ⟨noLimit, noOffset⟩ := Extent.mk.inj (Option.some_inj.mp read)
    have noSkip : limit.skip = 0 := by simpa using noOffset
    exact ⟨by simpa [noSkip] using noLimit, noSkip⟩
  · rintro ⟨noBound, noSkip⟩
    unfold Dialect.limitClause
    rw [if_pos noSkip, if_pos noBound]

/-! ## Rows -/

theorem offset_ofLimit (dialect : Dialect) (limit : Limit) :
    ((Extent.ofLimit dialect limit).offset.getD 0).toNat = limit.skip.toNat := by
  by_cases noSkip : limit.skip = 0
  · simp [Extent.ofLimit, noSkip]
  · simp [Extent.ofLimit, noSkip]

theorem bound?_unbounded (dialect : Dialect) :
    (unbounded? dialect).bind (bound? dialect) = none := by
  cases dialect <;> rfl

theorem bound?_ofLimit (dialect : Dialect) (limit : Limit) :
    (Extent.ofLimit dialect limit).limit.bind (bound? dialect) =
      if limit.max = 0 ∨ (dialect = .mysql ∧ limit.max.toNat = largestNumber .mysql) then none
      else some limit.max.toNat := by
  by_cases noBound : limit.max = 0
  · rw [if_pos (.inl noBound)]
    by_cases noSkip : limit.skip = 0
    · simp [Extent.ofLimit, noBound, noSkip]
    · simp [Extent.ofLimit, noBound, noSkip, bound?_unbounded]
  · have given : (Extent.ofLimit dialect limit).limit = some (Int.ofNat limit.max.toNat) :=
      if_neg noBound
    rw [given, Option.bind_some]
    cases dialect with
    | sqlite => simp [bound?, noBound]
    | postgres => simp [bound?, noBound]
    | mysql =>
        have sameNumber : Int.ofNat limit.max.toNat = 18446744073709551615 ↔
            limit.max.toNat = 18446744073709551615 := Int.ofNat_inj
        simp only [bound?, noBound, largestNumber, true_and, false_or, sameNumber]
        rfl

/-- A clause keeps the rows that are asked for, unless MySQL is asked for as many rows as it has
numbers for and there are more. -/
theorem keep_ofLimit {Row : Type} (dialect : Dialect) (limit : Limit) (rows : List Row) :
    (Extent.ofLimit dialect limit).keep dialect rows = requestedRows limit rows ↔
      (dialect = .mysql → limit.max.toNat = largestNumber .mysql →
        rows.length ≤ limit.skip.toNat + limit.max.toNat) := by
  unfold Extent.keep requestedRows
  rw [offset_ofLimit, bound?_ofLimit]
  by_cases noBound : limit.max = 0
  · rw [if_pos (.inl noBound), if_pos noBound]
    refine iff_of_true rfl fun _ isLargest => ?_
    rw [noBound] at isLargest
    cases isLargest
  · rw [if_neg noBound]
    by_cases isLargest : dialect = .mysql ∧ limit.max.toNat = largestNumber .mysql
    · rw [if_pos (.inr isLargest)]
      dsimp only
      rw [eq_comm, List.take_eq_self_iff, List.length_drop]
      constructor
      · omega
      · intro few
        have := few isLargest.1 isLargest.2
        omega
    · rw [if_neg (not_or.mpr ⟨noBound, isLargest⟩)]
      exact iff_of_true rfl fun isMysql isMax => absurd ⟨isMysql, isMax⟩ isLargest

/-! ## Numbers -/

theorem unbounded?_inRange (dialect : Dialect) :
    ∀ number ∈ unbounded? dialect, number.natAbs ≤ largestNumber dialect := by
  cases dialect <;> decide

theorem inRange_ofLimit (dialect : Dialect) (limit : Limit) :
    (Extent.ofLimit dialect limit).InRange dialect ↔
      limit.max.toNat ≤ largestNumber dialect ∧ limit.skip.toNat ≤ largestNumber dialect := by
  constructor
  · rintro ⟨limited, skipped⟩
    constructor
    · by_cases noBound : limit.max = 0
      · simp [noBound]
      · exact limited limit.max.toNat (if_neg noBound)
    · by_cases noSkip : limit.skip = 0
      · simp [noSkip]
      · exact skipped limit.skip.toNat (if_neg noSkip)
  · rintro ⟨maxInRange, skipInRange⟩
    constructor
    · intro number isLimit
      dsimp only [Extent.ofLimit] at isLimit
      split at isLimit
      · split at isLimit
        · cases isLimit
        · exact unbounded?_inRange dialect number isLimit
      · cases isLimit
        exact maxInRange
    · intro number isOffset
      dsimp only [Extent.ofLimit] at isOffset
      split at isOffset
      · cases isOffset
      · cases isOffset
        exact skipInRange

/-- A limit clause is empty when nothing is bounded, and else it keeps the rows that are asked
for. MySQL has a number for each bound; the others have none for those past the signed range, and
such a bound is written all the same. -/
theorem limitClause_keeps (dialect : Dialect) (limit : Limit) :
    (dialect.limitClause limit.max limit.skip = "" ↔ limit.max = 0 ∧ limit.skip = 0) ∧
      ∃ extent, extent? dialect (tokens dialect (dialect.limitClause limit.max limit.skip)) =
          some extent ∧
        (∀ {Row : Type} (rows : List Row), extent.keep dialect rows = requestedRows limit rows ↔
          (dialect = .mysql → limit.max.toNat = largestNumber .mysql →
            rows.length ≤ limit.skip.toNat + limit.max.toNat)) ∧
        (extent.InRange dialect ↔
          limit.max.toNat ≤ largestNumber dialect ∧ limit.skip.toNat ≤ largestNumber dialect) :=
  ⟨limitClause_eq_empty dialect limit, .ofLimit dialect limit, extent?_limitClause dialect limit,
    keep_ofLimit dialect limit, inRange_ofLimit dialect limit⟩

/-- A bound that stands for none can be past what SQLite reads. -/
theorem limitClause_outOfRange :
    ∃ extent, extent? .sqlite (tokens .sqlite (Dialect.sqlite.limitClause 18446744073709551615 0)) =
      some extent ∧ ¬extent.InRange .sqlite := by
  refine ⟨_, extent?_limitClause .sqlite ⟨18446744073709551615, 0⟩, fun inRange => ?_⟩
  exact absurd (inRange.limit 18446744073709551615 (by decide)) (by decide)

end RecordMapper.Sql
