import Mathlib
import RecordMapper.Identifier

set_option autoImplicit false

/-!
Plain identifiers as a regular expression over characters. A class matches any one of its
characters, and a repeated class the texts that have no others.
-/

namespace RecordMapper.Identifier

open RegularExpression (matches'_add matches'_char matches'_mul matches'_star)

/-- Any one of the characters. -/
def classOf (chars : List Char) : RegularExpression Char :=
  chars.foldr (fun char others => .char char + others) 0

/-- The characters from the first to the last. -/
def range (first last : Char) : List Char :=
  (List.range' first.toNat (last.toNat + 1 - first.toNat)).map Char.ofNat

def starts : List Char :=
  range 'A' 'Z' ++ range 'a' 'z' ++ ['_']

def continues : List Char :=
  range 'A' 'Z' ++ range 'a' 'z' ++ range '0' '9' ++ ['_']

/-- The pattern `[A-Za-z_][A-Za-z0-9_]*`, which a whole text has to match. -/
def pattern : RegularExpression Char :=
  classOf starts * (classOf continues).star

theorem mem_classOf {chars text : List Char} :
    text ∈ (classOf chars).matches' ↔ ∃ char ∈ chars, text = [char] := by
  induction chars with
  | nil => exact ⟨nofun, nofun⟩
  | cons char chars ih =>
      have split : classOf (char :: chars) = .char char + classOf chars := rfl
      have single : text ∈ ({[char]} : Language Char) ↔ text = [char] := Iff.rfl
      rw [split, matches'_add, matches'_char, Language.mem_add, ih, single]
      simp

theorem mem_star_classOf {chars text : List Char} :
    text ∈ (classOf chars).star.matches' ↔ ∀ char ∈ text, char ∈ chars := by
  rw [matches'_star, Language.mem_kstar]
  constructor
  · rintro ⟨parts, rfl, each⟩ char inside
    obtain ⟨part, isPart, inPart⟩ := List.mem_flatten.mp inside
    obtain ⟨other, isOther, rfl⟩ := mem_classOf.mp (each part isPart)
    exact List.mem_singleton.mp inPart ▸ isOther
  · intro inside
    refine ⟨text.map ([·]), by simp [← List.flatMap_def], ?_⟩
    rintro _ isPart
    obtain ⟨char, member, rfl⟩ := List.mem_map.mp isPart
    exact mem_classOf.mpr ⟨char, inside char member, rfl⟩

/-- Characters below the codes that are none. -/
theorem mem_range {first last char : Char} (valid : last.toNat < 0xd800) :
    char ∈ range first last ↔ first ≤ char ∧ char ≤ last := by
  have order (left right : Char) : left ≤ right ↔ left.toNat ≤ right.toNat := Iff.rfl
  simp only [range, List.mem_map, List.mem_range'_1, order]
  constructor
  · rintro ⟨code, bounds, rfl⟩
    have isCode : code.isValidChar := .inl (by omega)
    have known : (Char.ofNat code).toNat = code := by
      unfold Char.ofNat
      rw [dif_pos isCode]
      rfl
    omega
  · intro bounds
    exact ⟨char.toNat, by omega, Char.ofNat_toNat char⟩

theorem isStart_iff (char : Char) : isStart char = true ↔ char ∈ starts := by
  have upper : char ∈ range 'A' 'Z' ↔ _ := mem_range (by decide)
  have lower : char ∈ range 'a' 'z' ↔ _ := mem_range (by decide)
  simp [isStart, starts, upper, lower, Char.isAlpha, Char.isUpper, Char.isLower, Char.le_def,
    or_assoc]

theorem isContinue_iff (char : Char) : isContinue char = true ↔ char ∈ continues := by
  have upper : char ∈ range 'A' 'Z' ↔ _ := mem_range (by decide)
  have lower : char ∈ range 'a' 'z' ↔ _ := mem_range (by decide)
  have digit : char ∈ range '0' '9' ↔ _ := mem_range (by decide)
  simp [isContinue, continues, upper, lower, digit, Char.isAlphanum, Char.isAlpha, Char.isUpper,
    Char.isLower, Char.isDigit, Char.le_def, or_assoc]

/-- The loop over characters accepts exactly what the pattern matches. -/
theorem isPlain_iff (name : String) : isPlain name = true ↔ name.toList ∈ pattern.matches' := by
  rw [pattern, matches'_mul, Language.mem_mul]
  unfold isPlain
  cases name.toList with
  | nil =>
      refine ⟨nofun, ?_⟩
      rintro ⟨start, isStart, rest, -, joined⟩
      obtain ⟨char, -, rfl⟩ := mem_classOf.mp isStart
      cases joined
  | cons first rest =>
      simp only [Bool.and_eq_true, List.all_eq_true, isStart_iff, isContinue_iff]
      constructor
      · rintro ⟨starts, continues⟩
        exact ⟨[first], mem_classOf.mpr ⟨first, starts, rfl⟩, rest,
          mem_star_classOf.mpr continues, rfl⟩
      · rintro ⟨start, isStart, others, continues, joined⟩
        obtain ⟨char, starts, rfl⟩ := mem_classOf.mp isStart
        cases joined
        exact ⟨starts, mem_star_classOf.mp continues⟩

end RecordMapper.Identifier
