import RecordMapper.Delegate.Standard

set_option autoImplicit false

/-!
Rendered SQL read as tokens. A quoted name is one token, whatever it contains; outside quotes stand
words, operators and single marks, parted by blanks. Texts that end where a token ends can be read
piece by piece.
-/

namespace RecordMapper.Sql

inductive Token where
  | name (text : String)
  /-- A keyword, a number or a placeholder. -/
  | word (text : String)
  | operator (text : String)
  | mark (char : Char)
  | unclosed
deriving DecidableEq, Repr

/-! ## Reading -/

inductive CharKind where
  | quote
  | blank
  | mark
  | operator
  | letter
deriving DecidableEq, Repr

def CharKind.of (quote char : Char) : CharKind :=
  if char = quote then .quote
  else if char = ' ' then .blank
  else if char ∈ ['(', ')', ',', '.', '*'] then .mark
  else if char ∈ ['=', '<', '>'] then .operator
  else .letter

/-- What is being read: the characters of a token so far. A run is of characters of one kind. In
`closing`, the last character may end a name or be the first of a doubled quote. -/
inductive Mode where
  | between
  | run (kind : CharKind) (chars : List Char)
  | quoted (chars : List Char)
  | closing (chars : List Char)

namespace Mode

def finish : Mode → List Token
  | .between => []
  | .run .operator chars => [.operator (String.ofList chars)]
  | .run _ chars => [.word (String.ofList chars)]
  | .quoted _ => [.unclosed]
  | .closing chars => [.name (String.ofList chars)]

/-- The mode after a character that belongs to the token being read. -/
def extend? (quote : Char) (mode : Mode) (char : Char) : Option Mode :=
  match mode with
  | .between => none
  | .run kind chars =>
      if CharKind.of quote char = kind then some (.run kind (chars ++ [char])) else none
  | .quoted chars =>
      some (if char = quote then .closing chars else .quoted (chars ++ [char]))
  | .closing chars => if char = quote then some (.quoted (chars ++ [quote])) else none

@[simp] theorem finish_between : finish .between = [] := rfl

@[simp] theorem extend?_between (quote char : Char) : extend? quote .between char = none := rfl

end Mode

/-- A character that belongs to no earlier token: the token that it is, if any, and what follows. -/
def start (quote char : Char) : List Token × Mode :=
  match CharKind.of quote char with
  | .quote => ([], .quoted [])
  | .blank => ([], .between)
  | .mark => ([.mark char], .between)
  | .operator => ([], .run .operator [char])
  | .letter => ([], .run .letter [char])

def scan (quote : Char) : Mode → List Char → List Token
  | mode, [] => mode.finish
  | mode, char :: rest =>
      match mode.extend? quote char with
      | some next => scan quote next rest
      | none => mode.finish ++ (start quote char).1 ++ scan quote (start quote char).2 rest

def tokens (dialect : Dialect) (sql : String) : List Token :=
  scan dialect.quoteMark .between sql.toList

/-! ## Where a token ends -/

/-- No first character of the text extends what is being read. -/
def Ends (quote : Char) (mode : Mode) (rest : List Char) : Prop :=
  ∀ char ∈ rest.head?, mode.extend? quote char = none

theorem scan_of_ends {quote : Char} {mode : Mode} {rest : List Char}
    (ends : Ends quote mode rest) :
    scan quote mode rest = mode.finish ++ scan quote .between rest := by
  cases rest with
  | nil => simp [scan]
  | cons char rest =>
      have stops := ends char rfl
      simp [scan, stops]

theorem scan_run {quote : Char} {kind : CharKind} {same rest : List Char} (chars : List Char)
    (allSame : ∀ char ∈ same, CharKind.of quote char = kind)
    (stops : ∀ char ∈ rest.head?, CharKind.of quote char ≠ kind) :
    scan quote (.run kind chars) (same ++ rest) =
      Mode.finish (.run kind (chars ++ same)) ++ scan quote .between rest := by
  induction same generalizing chars with
  | nil =>
      have ends : Ends quote (.run kind chars) rest := by
        intro char first
        simp [Mode.extend?, stops char first]
      simp [scan_of_ends ends]
  | cons char same ih =>
      have isSame := allSame char List.mem_cons_self
      have others : ∀ char ∈ same, CharKind.of quote char = kind :=
        fun char member => allSame char (List.mem_cons_of_mem _ member)
      simp only [List.cons_append, scan, Mode.extend?, isSame, if_true]
      simpa using ih (chars ++ [char]) others

theorem scan_quoted {quote : Char} {rest : List Char} (chars text : List Char)
    (stops : ∀ char ∈ rest.head?, char ≠ quote) :
    scan quote (.quoted chars) (Text.Quoted.double quote text ++ quote :: rest) =
      .name (String.ofList (chars ++ text)) :: scan quote .between rest := by
  induction text generalizing chars with
  | nil =>
      have ends : Ends quote (.closing chars) rest := by
        intro char first
        simp [Mode.extend?, stops char first]
      simp [Text.Quoted.double, scan, Mode.extend?, scan_of_ends ends, Mode.finish]
  | cons char text ih =>
      by_cases isQuote : char = quote
      · subst isQuote
        simp only [Text.Quoted.double, if_true, List.cons_append, scan, Mode.extend?]
        simpa using ih (chars ++ [char])
      · simp only [Text.Quoted.double, isQuote, if_false, List.cons_append, scan, Mode.extend?]
        simpa using ih (chars ++ [char])

/-! ## Texts that read as tokens -/

/-- Blanks and marks part what is before them from what follows. -/
def Parts (rest : List Char) : Prop :=
  ∀ char ∈ rest.head?, char ∈ [' ', '(', ')', ',', '.', '*']

/-- The text reads as the tokens, whatever it is parted from. -/
def Spells (dialect : Dialect) (text : String) (read : List Token) : Prop :=
  ∀ rest, Parts rest →
    scan dialect.quoteMark .between (text.toList ++ rest) =
      read ++ scan dialect.quoteMark .between rest

/-- The text reads as the tokens, whatever follows. -/
def Leads (dialect : Dialect) (text : String) (read : List Token) : Prop :=
  ∀ rest, scan dialect.quoteMark .between (text.toList ++ rest) =
    read ++ scan dialect.quoteMark .between rest

variable {dialect : Dialect} {first second : String} {firstRead secondRead : List Token}

theorem Spells.tokens_eq (spells : Spells dialect first firstRead) :
    tokens dialect first = firstRead := by
  have read := spells [] (by simp [Parts])
  simpa [tokens, scan] using read

theorem Leads.append (leads : Leads dialect first firstRead)
    (spells : Spells dialect second secondRead) :
    Spells dialect (first ++ second) (firstRead ++ secondRead) := by
  intro rest parts
  rw [String.toList_append, List.append_assoc, leads, spells rest parts, List.append_assoc]

theorem Parts.append {chars rest : List Char} (parts : Parts chars) (restParts : Parts rest) :
    Parts (chars ++ rest) := by
  cases chars with
  | nil => exact restParts
  | cons char chars => exact parts

theorem spells_empty (dialect : Dialect) : Spells dialect "" [] :=
  fun _ _ => rfl

structure Follows (dialect : Dialect) (text : String) (read : List Token) : Prop where
  spells : Spells dialect text read
  parts : Parts text.toList

theorem Spells.append (spells : Spells dialect first firstRead)
    (follows : Follows dialect second secondRead) :
    Spells dialect (first ++ second) (firstRead ++ secondRead) := by
  intro rest restParts
  rw [String.toList_append, List.append_assoc, spells _ (follows.parts.append restParts),
    follows.spells rest restParts, List.append_assoc]

theorem Follows.append (follows : Follows dialect first firstRead)
    (others : Follows dialect second secondRead) :
    Follows dialect (first ++ second) (firstRead ++ secondRead) where
  spells := follows.spells.append others
  parts := by
    rw [String.toList_append]
    exact follows.parts.append others.parts

theorem follows_empty (dialect : Dialect) : Follows dialect "" [] :=
  ⟨spells_empty dialect, by simp [Parts]⟩

theorem Spells.blank (spells : Spells dialect second secondRead) :
    Follows dialect (" " ++ second) secondRead where
  spells := by
    have leads : Leads dialect " " [] := by
      intro rest
      cases dialect <;> rfl
    exact leads.append spells
  parts := by
    rw [String.toList_append]
    intro char first
    cases first
    decide

theorem Spells.spaced (spells : Spells dialect first firstRead)
    (others : Spells dialect second secondRead) :
    Spells dialect (first ++ " " ++ second) (firstRead ++ secondRead) := by
  rw [String.append_assoc]
  exact spells.append others.blank

theorem Spells.marked (spells : Spells dialect second secondRead) (mark : Char)
    (known : mark ∈ ['(', ')', ',', '.', '*']) :
    Follows dialect (String.singleton mark ++ second) (.mark mark :: secondRead) where
  spells := by
    have leads : Leads dialect (String.singleton mark) [.mark mark] := by
      intro rest
      simp only [List.mem_cons, List.not_mem_nil, or_false] at known
      rcases known with rfl | rfl | rfl | rfl | rfl <;> cases dialect <;> rfl
    exact leads.append spells
  parts := by
    rw [String.toList_append]
    intro char first
    obtain rfl : mark = char := by simpa using first
    exact List.mem_cons_of_mem _ known

/-! ## Names, words and operators -/

theorem quoteMark_ne_of_parts {char : Char} (parts : char ∈ [' ', '(', ')', ',', '.', '*']) :
    char ≠ dialect.quoteMark := by
  intro same
  subst same
  cases dialect <;> exact absurd parts (by decide)

theorem ne_run_of_parts {kind : CharKind} {char : Char}
    (runs : kind = .letter ∨ kind = .operator) (parts : char ∈ [' ', '(', ')', ',', '.', '*']) :
    CharKind.of dialect.quoteMark char ≠ kind := by
  simp only [List.mem_cons, List.not_mem_nil, or_false] at parts
  rcases runs with rfl | rfl <;> rcases parts with rfl | rfl | rfl | rfl | rfl | rfl <;>
    cases dialect <;> decide

theorem scan_name (dialect : Dialect) (name : String) {rest : List Char}
    (stops : ∀ char ∈ rest.head?, char ≠ dialect.quoteMark) :
    scan dialect.quoteMark .between ((dialect.quoteIdentifier name).toList ++ rest) =
      .name name :: scan dialect.quoteMark .between rest := by
  have opened : ∀ chars, scan dialect.quoteMark .between (dialect.quoteMark :: chars) =
      scan dialect.quoteMark (.quoted []) chars := by
    intro chars
    simp [scan, start, CharKind.of]
  rw [Dialect.quoteIdentifier, Text.Quoted.quote, String.toList_ofList]
  simp only [List.cons_append, List.append_assoc, List.nil_append, opened]
  simpa using scan_quoted [] name.toList stops

theorem spells_name (dialect : Dialect) (name : String) :
    Spells dialect (dialect.quoteIdentifier name) [.name name] :=
  fun _ parts => scan_name dialect name fun char first => quoteMark_ne_of_parts (parts char first)

/-- Letters that nothing but a blank or a mark follows make one word, and signs one operator. -/
theorem spells_run {kind : CharKind} {text : String} (runs : kind = .letter ∨ kind = .operator)
    (nonempty : text.toList ≠ [])
    (same : ∀ char ∈ text.toList, CharKind.of dialect.quoteMark char = kind) :
    Spells dialect text (Mode.finish (.run kind text.toList)) := by
  intro rest parts
  have stops : ∀ char ∈ rest.head?, CharKind.of dialect.quoteMark char ≠ kind :=
    fun char first => ne_run_of_parts runs (parts char first)
  cases written : text.toList with
  | nil => exact absurd written nonempty
  | cons char others =>
      rw [written] at same
      have isSame := same char List.mem_cons_self
      have othersSame : ∀ char ∈ others, CharKind.of dialect.quoteMark char = kind :=
        fun char member => same char (List.mem_cons_of_mem _ member)
      have opened : scan dialect.quoteMark .between (char :: others ++ rest) =
          scan dialect.quoteMark (.run kind [char]) (others ++ rest) := by
        rcases runs with rfl | rfl <;> simp [scan, start, isSame]
      exact opened.trans (scan_run [char] othersSame stops)

theorem spells_word {word : String} (nonempty : word.toList ≠ [])
    (letters : ∀ char ∈ word.toList, CharKind.of dialect.quoteMark char = .letter) :
    Spells dialect word [.word word] := by
  simpa [Mode.finish] using spells_run (.inl rfl) nonempty letters

theorem spells_operator {sign : String} (nonempty : sign.toList ≠ [])
    (signs : sign.toList.all fun char => CharKind.of dialect.quoteMark char = .operator) :
    Spells dialect sign [.operator sign] := by
  simpa [Mode.finish] using spells_run (.inr rfl) nonempty
    fun char member => of_decide_eq_true (List.all_eq_true.mp signs char member)

def isPlain (char : Char) : Bool :=
  char.isAlphanum || char == '-'

theorem letter_of_isPlain {char : Char} (plain : isPlain char = true) :
    CharKind.of dialect.quoteMark char = .letter := by
  have other : ∀ special : Char, isPlain special = false → char ≠ special := by
    intro special isSpecial same
    rw [same, isSpecial] at plain
    cases plain
  have unquoted : char ≠ dialect.quoteMark := other _ (by cases dialect <;> decide)
  have unmarked : char ∉ ['(', ')', ',', '.', '*'] := by
    simp [other '(' rfl, other ')' rfl, other ',' rfl, other '.' rfl, other '*' rfl]
  have unsigned : char ∉ ['=', '<', '>'] := by
    simp [other '=' rfl, other '<' rfl, other '>' rfl]
  simp [CharKind.of, unquoted, other ' ' rfl, unmarked, unsigned]

theorem letter_of_isDigit {char : Char} (digit : char.isDigit = true) :
    CharKind.of dialect.quoteMark char = .letter :=
  letter_of_isPlain (by simp [isPlain, Char.isAlphanum, digit])

theorem spells_keyword (dialect : Dialect) (word : String)
    (plain : word.toList ≠ [] ∧ word.toList.all isPlain) :
    Spells dialect word [.word word] :=
  spells_word plain.1 fun char member =>
    letter_of_isPlain (List.all_eq_true.mp plain.2 char member)

theorem repr_digits (number : Nat) : ∀ char ∈ number.repr.toList, char.isDigit = true := by
  intro char member
  rw [Nat.toList_repr] at member
  exact Nat.isDigit_of_mem_toDigits (by decide) (by decide) member

theorem repr_plain (number : Nat) :
    number.repr.toList ≠ [] ∧ number.repr.toList.all isPlain := by
  refine ⟨by rw [Nat.toList_repr]; exact Nat.toDigits_ne_nil, List.all_eq_true.mpr ?_⟩
  intro char member
  simp [isPlain, Char.isAlphanum, repr_digits number char member]

theorem placeholder_toList (dialect : Dialect) (index : Nat) :
    ∃ sign digits, (sign = '?' ∨ sign = '$') ∧
      (dialect.placeholder index).toList = sign :: digits ∧
      ∀ char ∈ digits, char.isDigit = true := by
  have digits := repr_digits index
  cases dialect with
  | sqlite => exact ⟨'?', _, .inl rfl, by simp [Dialect.placeholder, toString], digits⟩
  | postgres => exact ⟨'$', _, .inr rfl, by simp [Dialect.placeholder, toString], digits⟩
  | mysql => exact ⟨'?', [], .inl rfl, by simp [Dialect.placeholder], by simp⟩

theorem placeholder_ne {dialect : Dialect} {index : Nat} {word : String}
    (letter : word.toList.head? ∉ [some '?', some '$']) :
    dialect.placeholder index ≠ word := by
  rintro rfl
  obtain ⟨sign, digits, isSign, written, -⟩ := placeholder_toList dialect index
  rw [written] at letter
  rcases isSign with rfl | rfl <;> simp at letter

theorem spells_placeholder (dialect : Dialect) (index : Nat) :
    Spells dialect (dialect.placeholder index) [.word (dialect.placeholder index)] := by
  obtain ⟨sign, digits, isSign, written, areDigits⟩ := placeholder_toList dialect index
  have signLetter : CharKind.of dialect.quoteMark sign = .letter := by
    rcases isSign with rfl | rfl <;> cases dialect <;> decide
  refine spells_word (by simp [written]) ?_
  intro char member
  rw [written] at member
  rcases List.mem_cons.mp member with rfl | digit
  · exact signLetter
  · exact letter_of_isDigit (areDigits char digit)

/-- Assignments need no blanks: a name ends before the sign, and the sign before a placeholder. -/
theorem spells_assignment (dialect : Dialect) (name : String) (index : Nat) :
    Spells dialect (dialect.quoteIdentifier name ++ "=" ++ dialect.placeholder index)
      [.name name, .operator "=", .word (dialect.placeholder index)] := by
  intro rest parts
  obtain ⟨sign, digits, isSign, written, -⟩ := placeholder_toList dialect index
  have placeholder := spells_placeholder dialect index rest parts
  rw [written, List.cons_append] at placeholder
  have signed : ∀ chars, scan dialect.quoteMark .between ('=' :: sign :: chars) =
      .operator "=" :: scan dialect.quoteMark .between (sign :: chars) := by
    intro chars
    rcases isSign with rfl | rfl <;> cases dialect <;> rfl
  have named : scan dialect.quoteMark .between
      ((dialect.quoteIdentifier name).toList ++ '=' :: sign :: (digits ++ rest)) =
        .name name :: scan dialect.quoteMark .between ('=' :: sign :: (digits ++ rest)) := by
    apply scan_name
    intro char first
    cases first
    cases dialect <;> decide
  simp only [String.toList_append, List.append_assoc, written]
  rw [show "=".toList = ['='] from rfl, List.singleton_append, List.cons_append, named, signed,
    placeholder]
  rfl

end RecordMapper.Sql
