import RecordMapper.Declaration.Check
import RecordMapper.Declaration.TableName
import RecordMapper.Proofs.Identifier

set_option autoImplicit false

/-!
Table names that are made from record names. The name of a record is put into lower case, with an
underscore before every word but the first. What is made from an identifier is an identifier
without capitals, and from it the same name is made again.
-/

namespace RecordMapper.Declaration.TableName

open Identifier Text.LetterCase

variable {char : Char} {name : List Char} {index : Nat}

/-! ## Words -/

/-- The places where a word starts behind another one: at a capital behind a small letter, and at
the last of several capitals before a small letter. -/
inductive StartsAt (name : List Char) : Nat → Prop where
  | behindSmall {index : Nat} {previous letter : Char} :
      name[index]? = some previous → name[index + 1]? = some letter →
      isLower previous = true → isUpper letter = true → StartsAt name (index + 1)
  | behindCapital {index : Nat} {previous letter next : Char} :
      name[index]? = some previous → name[index + 1]? = some letter →
      name[index + 2]? = some next → isUpper previous = true → isUpper letter = true →
      isLower next = true → StartsAt name (index + 1)

/-- The character before a place. -/
def before? (name : List Char) : Nat → Option Char
  | 0 => none
  | index + 1 => name[index]?

def starts (name : List Char) (index : Nat) : Bool :=
  name[index]?.any isUpper && startsWord (before? name index) name[index + 1]?

theorem startsWord_iff {previous next : Option Char} :
    startsWord previous next = true ↔
      ∃ char, previous = some char ∧
        (isLower char = true ∨
          isUpper char = true ∧ ∃ other, next = some other ∧ isLower other = true) := by
  cases previous with
  | none => simp [startsWord]
  | some previous => simp [startsWord, Option.any_eq_true]

theorem starts_iff : starts name index = true ↔ StartsAt name index := by
  rw [starts, Bool.and_eq_true, Option.any_eq_true, startsWord_iff]
  constructor
  · rintro ⟨⟨letter, isLetter, upper⟩, previous, isPrevious, begins⟩
    cases index with
    | zero => cases isPrevious
    | succ index =>
        rcases begins with lower | ⟨capital, next, isNext, lower⟩
        · exact .behindSmall isPrevious isLetter lower upper
        · exact .behindCapital isPrevious isLetter isNext capital upper lower
  · rintro (⟨isPrevious, isLetter, lower, upper⟩ |
      ⟨isPrevious, isLetter, isNext, capital, upper, lower⟩)
    · exact ⟨⟨_, isLetter, upper⟩, _, isPrevious, .inl lower⟩
    · exact ⟨⟨_, isLetter, upper⟩, _, isPrevious, .inr ⟨capital, _, isNext, lower⟩⟩

/-- No word starts at the front, and neither at an underscore nor behind one. -/
theorem StartsAt.parts (starts : StartsAt name index) :
    ∃ before, index = before + 1 ∧ name[before]? ≠ some '_' ∧ name[index]? ≠ some '_' := by
  have upper {place : Nat} {letter : Char} (found : name[place]? = some letter)
      (capital : isUpper letter = true) : name[place]? ≠ some '_' := by
    rw [found]
    rintro ⟨⟩
    exact absurd capital (by decide)
  have lower {place : Nat} {letter : Char} (found : name[place]? = some letter)
      (small : isLower letter = true) : name[place]? ≠ some '_' := by
    rw [found]
    rintro ⟨⟩
    exact absurd small (by decide)
  cases starts with
  | behindSmall isPrevious isLetter small capital =>
      exact ⟨_, rfl, lower isPrevious small, upper isLetter capital⟩
  | behindCapital isPrevious isLetter _ first second _ =>
      exact ⟨_, rfl, upper isPrevious first, upper isLetter second⟩

/-! ## Characters -/

/-- A character in lower case, behind an underscore where a word starts. -/
def written (starts : Bool) (char : Char) : List Char :=
  if starts then ['_', char.toLower] else [char.toLower]

theorem mem_written {starts : Bool} {other : Char} (member : other ∈ written starts char) :
    other = '_' ∨ other = char.toLower := by
  cases starts with
  | false => exact .inr (List.mem_singleton.mp member)
  | true => simpa [written] using member

theorem isUpper_eq_of_ascii (ascii : char.toNat < 128) : isUpper char = char.isUpper :=
  if_pos ascii

theorem toNat_lt_of_isUpper (capital : char.isUpper = true) : char.toNat < 128 := by
  simp only [Char.isUpper, decide_eq_true_eq] at capital
  have bound : char.toNat ≤ 90 := capital.2
  omega

theorem toLower_of_not_isUpper (small : isUpper char = false) : char.toLower = char := by
  refine Char.toLower_eq_of_not_isUpper fun capital => ?_
  rw [isUpper_eq_of_ascii (toNat_lt_of_isUpper capital), capital] at small
  cases small

theorem ofChars_cons (previous : Option Char) (char : Char) (rest : List Char) :
    ofChars previous (char :: rest) =
      written (isUpper char && startsWord previous rest.head?) char ++
        ofChars (some char) rest := by
  conv_lhs => unfold ofChars
  unfold written
  cases capital : isUpper char with
  | false => simp [toLower_of_not_isUpper capital]
  | true => cases startsWord previous rest.head? <;> simp

theorem before?_length (front rest : List Char) :
    before? (front ++ rest) front.length = front.getLast? := by
  rcases front.eq_nil_or_concat with rfl | ⟨front, last, rfl⟩
  · rfl
  · simp [before?]

theorem starts_length (front : List Char) (char : Char) (rest : List Char) :
    starts (front ++ char :: rest) front.length =
      (isUpper char && startsWord front.getLast? rest.head?) := by
  unfold starts
  rw [before?_length]
  simp [List.getElem?_append_right, List.head?_eq_getElem?]

/-- The characters of a name from a place on, each as it is written where it stands. -/
def writtenFrom (name : List Char) (index : Nat) (chars : List Char) : List Char :=
  (chars.zipIdx index).flatMap fun (char, index) => written (starts name index) char

/-- The induction is on the characters that are left; those before them only move the place. -/
theorem ofChars_append (front chars : List Char) :
    ofChars front.getLast? chars = writtenFrom (front ++ chars) front.length chars := by
  induction chars generalizing front with
  | nil => rfl
  | cons char rest ih =>
      have others := ih (front ++ [char])
      rw [List.getLast?_concat, List.append_assoc, List.length_append] at others
      rw [ofChars_cons, others, ← starts_length]
      rfl

theorem ofChars_eq (name : List Char) : ofChars none name = writtenFrom name 0 name :=
  ofChars_append [] name

theorem mem_ofChars {other : Char} (member : other ∈ ofChars none name) :
    other = '_' ∨ ∃ char ∈ name, other = char.toLower := by
  rw [ofChars_eq] at member
  obtain ⟨⟨char, place⟩, isPlaced, isWritten⟩ := List.mem_flatMap.mp member
  rcases mem_written isWritten with rfl | rfl
  · exact .inl rfl
  · exact .inr ⟨char, List.fst_mem_of_mem_zipIdx isPlaced, rfl⟩

/-- Without capitals nothing is put into lower case and no word is parted. -/
theorem ofChars_of_small (previous : Option Char) {chars : List Char}
    (small : ∀ char ∈ chars, isUpper char = false) : ofChars previous chars = chars := by
  induction chars generalizing previous with
  | nil => rfl
  | cons char rest ih =>
      obtain ⟨first, others⟩ := List.forall_mem_cons.mp small
      rw [ofChars_cons, ih _ others, first, Bool.false_and]
      exact congrArg (· :: rest) (toLower_of_not_isUpper first)

/-! ## Identifiers -/

theorem isStart_toLower (starts : isStart char = true) : isStart char.toLower = true := by
  by_cases capital : char.isUpper = true
  · have letter : char.isAlpha = true := by rw [Char.isAlpha, capital, Bool.true_or]
    rw [isStart, Char.isAlpha_toLower_eq_isAlpha, letter, Bool.true_or]
  · rwa [Char.toLower_eq_of_not_isUpper capital]

theorem isContinue_toLower (continues : isContinue char = true) :
    isContinue char.toLower = true := by
  by_cases capital : char.isUpper = true
  · have letter : char.isAlpha = true := by rw [Char.isAlpha, capital, Bool.true_or]
    rw [isContinue, Char.isAlphanum, Char.isAlpha_toLower_eq_isAlpha, letter, Bool.true_or,
      Bool.true_or]
  · rwa [Char.toLower_eq_of_not_isUpper capital]

theorem isContinue_of_isStart (starts : isStart char = true) : isContinue char = true := by
  unfold isStart at starts
  unfold isContinue Char.isAlphanum
  rcases Bool.or_eq_true_iff.mp starts with letter | underscore
  · rw [letter, Bool.true_or, Bool.true_or]
  · rw [underscore, Bool.or_true]

theorem toNat_lt_of_isContinue (continues : isContinue char = true) : char.toNat < 128 := by
  simp only [isContinue, Char.isAlphanum, Char.isAlpha, Char.isUpper, Char.isLower, Char.isDigit,
    Bool.or_eq_true, Bool.and_eq_true, decide_eq_true_eq, beq_iff_eq] at continues
  rcases continues with ((upper | lower) | digit) | rfl
  · have bound : char.toNat ≤ 90 := upper.2
    omega
  · have bound : char.toNat ≤ 122 := lower.2
    omega
  · have bound : char.toNat ≤ 57 := digit.2
    omega
  · decide

theorem not_isUpper_toLower (continues : isContinue char = true) :
    isUpper char.toLower = false := by
  have ascii := toNat_lt_of_isContinue (isContinue_toLower continues)
  rw [isUpper_eq_of_ascii ascii, Char.isUpper_toLower_eq_false]

theorem ofRecordName_toList (name : String) :
    (ofRecordName name).toList = ofChars none name.toList :=
  String.toList_ofList

/-- The characters of an identifier continue one, the first as well. -/
theorem isContinue_of_isPlain {name : String} (plain : isPlain name = true) :
    ∀ char ∈ name.toList, isContinue char = true := by
  unfold isPlain at plain
  cases chars : name.toList with
  | nil => simp
  | cons first rest =>
      rw [chars, Bool.and_eq_true, List.all_eq_true] at plain
      exact List.forall_mem_cons.mpr ⟨isContinue_of_isStart plain.1, plain.2⟩

theorem isContinue_ofRecordName {name : String} (plain : isPlain name = true) :
    ∀ char ∈ (ofRecordName name).toList, isContinue char = true := by
  intro char member
  rw [ofRecordName_toList] at member
  rcases mem_ofChars member with rfl | ⟨letter, inName, rfl⟩
  · rfl
  · exact isContinue_toLower (isContinue_of_isPlain plain letter inName)

theorem isPlain_ofRecordName {name : String} (plain : isPlain name = true) :
    isPlain (ofRecordName name) = true := by
  have continues := isContinue_ofRecordName plain
  unfold isPlain at plain ⊢
  rw [ofRecordName_toList] at continues ⊢
  cases chars : name.toList with
  | nil => simp [chars] at plain
  | cons first rest =>
      rw [chars] at plain continues
      rw [ofChars_cons, startsWord, Bool.and_false] at continues ⊢
      obtain ⟨starts, -⟩ := Bool.and_eq_true_iff.mp plain
      obtain ⟨-, others⟩ := List.forall_mem_cons.mp continues
      exact Bool.and_eq_true_iff.mpr ⟨isStart_toLower starts, List.all_eq_true.mpr others⟩

theorem ofRecordName_small {name : String} (plain : isPlain name = true) :
    ∀ char ∈ (ofRecordName name).toList, isUpper char = false := by
  intro char member
  rw [ofRecordName_toList] at member
  rcases mem_ofChars member with rfl | ⟨letter, inName, rfl⟩
  · decide
  · exact not_isUpper_toLower (isContinue_of_isPlain plain letter inName)

/-- The table name of a record that is named by an identifier. It is an identifier that the check
of table names accepts and that has no capitals. It is the record's name in lower case, with an
underscore before exactly the places where a word starts, of which none is at the front, at an
underscore or behind one. The name made from it is the same. -/
theorem ofRecordName_identifier {name : String}
    (identifier : name.toList ∈ pattern.matches') :
    (ofRecordName name).toList ∈ pattern.matches' ∧
      Entry.nameViolations .tableName (ofRecordName name) = [] ∧
      (∀ char ∈ (ofRecordName name).toList, isUpper char = false) ∧
      (∃ starts : Nat → Bool,
        (∀ index, starts index = true ↔ StartsAt name.toList index) ∧
        (ofRecordName name).toList = name.toList.zipIdx.flatMap (fun (char, index) =>
          if starts index then ['_', char.toLower] else [char.toLower])) ∧
      (∀ index, StartsAt name.toList index → ∃ before, index = before + 1 ∧
        name.toList[before]? ≠ some '_' ∧ name.toList[index]? ≠ some '_') ∧
      ofRecordName (ofRecordName name) = ofRecordName name := by
  have plain := isPlain_ofRecordName ((isPlain_iff name).mpr identifier)
  have small := ofRecordName_small ((isPlain_iff name).mpr identifier)
  refine ⟨(isPlain_iff _).mp plain, if_pos plain, small, ?_, fun _ => StartsAt.parts, ?_⟩
  · refine ⟨starts name.toList, fun _ => starts_iff, ?_⟩
    rw [ofRecordName_toList, ofChars_eq]
    rfl
  · rw [← String.toList_inj, ofRecordName_toList]
    exact ofChars_of_small none small

/-- An acronym, a number and an underscore beside words. -/
theorem ofRecordName_identifier_acronym :
    "HTTPRequest_2ndTry".toList ∈ pattern.matches' ∧
      ofRecordName "HTTPRequest_2ndTry" = "http_request_2nd_try" ∧
      StartsAt "HTTPRequest_2ndTry".toList 4 ∧
      ofRecordName "http_request_2nd_try" = "http_request_2nd_try" := by
  have identifier : "HTTPRequest_2ndTry".toList ∈ pattern.matches' :=
    (isPlain_iff _).mp (by decide)
  have made : ofRecordName "HTTPRequest_2ndTry" = "http_request_2nd_try" := by decide
  obtain ⟨-, -, -, -, -, again⟩ := ofRecordName_identifier identifier
  rw [made] at again
  exact ⟨identifier, made, .behindCapital rfl rfl rfl (by decide) (by decide) (by decide), again⟩

end RecordMapper.Declaration.TableName
