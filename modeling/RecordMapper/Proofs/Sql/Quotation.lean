import RecordMapper.Proofs.Sql.Sentence

set_option autoImplicit false

/-!
Names in rendered SQL. A name that is quoted is read back as it was, whatever it contains, and the
names of a sentence are read back in their order. All other tokens are fixed vocabulary, numbers
and placeholders.
-/

namespace RecordMapper

/-! ## One name -/

namespace Text.Quoted

theorem scan_double (mark : Char) (text : List Char) {rest : List Char}
    (stops : ∀ char ∈ rest.head?, char ≠ mark) :
    scan mark (double mark text ++ mark :: rest) = some (text, rest) := by
  induction text with
  | nil =>
      cases rest with
      | nil => simp [double, scan]
      | cons char rest =>
          have other := stops char rfl
          simp [double, scan, other]
  | cons char text ih =>
      by_cases isMark : char = mark
      · subst isMark
        simp [double, scan, ih]
      · obtain ⟨next, others, written⟩ :
            ∃ next others, double mark text ++ mark :: rest = next :: others := by
          cases text with
          | nil => exact ⟨_, _, rfl⟩
          | cons second text =>
              unfold double
              split <;> exact ⟨_, _, rfl⟩
        rw [written] at ih
        simp [double, isMark, written, scan, ih]

/-- Reads a quoted text with its opening mark. -/
def read (mark : Char) : List Char → Option (List Char × List Char)
  | [] => none
  | char :: rest => if char = mark then scan mark rest else none

theorem read_quote (mark : Char) (text : String) {rest : List Char}
    (stops : ∀ char ∈ rest.head?, char ≠ mark) :
    read mark ((quote mark text).toList ++ rest) = some (text.toList, rest) := by
  simp [quote, read, scan_double mark text.toList stops]

end Text.Quoted

namespace Sql

open Text

/-- Tokens are read with the same scanner of names. -/
theorem scan_quoted_eq (quote : Char) (chars text : List Char) :
    scan quote (.quoted chars) text =
      match Quoted.scan quote text with
      | some (name, after) => .name (String.ofList (chars ++ name)) :: scan quote .between after
      | none => [.unclosed] := by
  induction text using Quoted.scan.induct quote generalizing chars with
  | case1 => rfl
  | case2 => simp [scan, Mode.extend?, Mode.finish, Quoted.scan]
  | case3 char other => simp [scan, Mode.extend?, Mode.finish, Quoted.scan, other]
  | case4 rest ih =>
      simp only [scan, Mode.extend?, Quoted.scan, if_true]
      rw [ih]
      cases Quoted.scan quote rest with
      | none => rfl
      | some read => simp
  | case5 next rest other =>
      have ends : Ends quote (.closing chars) (next :: rest) := by
        intro char first
        cases first
        simp [Mode.extend?, other]
      simp [scan, Mode.extend?, Mode.finish, Quoted.scan, other]
  | case6 char next rest other ih =>
      rw [scan, Quoted.scan]
      simp only [Mode.extend?, other, if_false]
      rw [ih]
      cases Quoted.scan quote (next :: rest) with
      | none => rfl
      | some read => simp

end Sql

end RecordMapper
