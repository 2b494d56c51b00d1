import RecordMapper.Proofs.Sql.Placeholder

set_option autoImplicit false

/-!
Statements as symbols, in which the dialects do not differ. A placeholder is the position of its
parameter, and what bounds the rows is left out.
-/

namespace RecordMapper.Sql

/-! ## Symbols -/

inductive Symbol where
  | fixed (token : Token)
  | parameter (position : Nat)
deriving DecidableEq, Repr

/-- The position that a placeholder stands for: that of its number, else the next one. -/
def placeholderPosition (next : Nat) (text : String) : Nat :=
  let digits := text.toList.tail
  if digits.isEmpty then next else Nat.ofDigitChars 10 digits 0

/-- The symbols of tokens, where `next` is the position of the next placeholder. -/
def symbols (dialect : Dialect) : Nat → List Token → List Symbol
  | _, [] => []
  | next, token :: rest =>
      match token.placeholder? dialect with
      | none => .fixed token :: symbols dialect next rest
      | some text =>
          .parameter (placeholderPosition next text) :: symbols dialect (next + 1) rest

/-- The tokens without limits and offsets and their numbers. -/
def unlimited : List Token → List Token
  | .word "LIMIT" :: _ :: rest => unlimited rest
  | .word "OFFSET" :: _ :: rest => unlimited rest
  | token :: rest => token :: unlimited rest
  | [] => []

variable {dialect : Dialect}

theorem position_placeholder (dialect : Dialect) (index : Nat) :
    placeholderPosition index (dialect.placeholder index) = index := by
  have numbered (sign : Char) (text : String) (written : text.toList = sign :: index.repr.toList) :
      placeholderPosition index text = index := by
    have read : Nat.ofDigitChars 10 text.toList.tail 0 = index := by
      rw [written, List.tail_cons, Nat.toList_repr, Nat.ofDigitChars_ten_toDigits]
    simp only [placeholderPosition, read, ite_self]
  cases dialect with
  | sqlite => exact numbered '?' _ (by simp [Dialect.placeholder, toString])
  | postgres => exact numbered '$' _ (by simp [Dialect.placeholder, toString])
  | mysql => simp [placeholderPosition, Dialect.placeholder]

/-! ## Templates -/

namespace Symbol

def write (dialect : Dialect) : Symbol → Token
  | .fixed token => token
  | .parameter position => .word (dialect.placeholder position)

def position? : Symbol → Option Nat
  | .fixed _ => none
  | .parameter position => some position

/-- A word that is neither a placeholder of some dialect nor bounds the rows. -/
def isShared : Symbol → Bool
  | .fixed (.word text) =>
      decide (text ∉ ["LIMIT", "OFFSET"]) && decide (text.toList.head? ∉ [some '?', some '$'])
  | _ => true

end Symbol

def positions (template : List Symbol) : List Nat :=
  template.filterMap Symbol.position?

theorem placeholder_shared {token : Token} (shared : (Symbol.fixed token).isShared = true) :
    token.placeholder? dialect = none := by
  cases token with
  | word text =>
      simp only [Symbol.isShared, Bool.and_eq_true, decide_eq_true_eq] at shared
      have other : text.toList.head? ≠ some (placeholderSign dialect) := by
        intro begins
        rw [begins] at shared
        cases dialect <;> simp [placeholderSign] at shared
      simp [Token.placeholder?, other]
  | name | operator | mark | unclosed => rfl

/-- Symbols are read back from what a dialect writes for them, if their parameters are numbered. -/
theorem symbols_template {template : List Symbol}
    (shared : ∀ symbol ∈ template, symbol.isShared = true) {next count : Nat}
    (numbered : positions template = List.range' next count) :
    symbols dialect next (template.map (Symbol.write dialect)) = template := by
  induction template generalizing next count with
  | nil => rfl
  | cons symbol template ih =>
      obtain ⟨first, others⟩ := List.forall_mem_cons.mp shared
      cases symbol with
      | fixed token =>
          have rest := ih others numbered
          rw [List.map_cons, Symbol.write, symbols, placeholder_shared first, rest]
      | parameter position =>
          cases count with
          | zero => cases numbered
          | succ count =>
              have isNumbered : position :: positions template =
                  next :: List.range' (next + 1) count := numbered
              obtain ⟨rfl, restNumbered⟩ := List.cons.inj isNumbered
              have isPlaceholder :
                  (Token.word (dialect.placeholder position)).placeholder? dialect =
                    some (dialect.placeholder position) := by
                simp [Token.placeholder?, placeholder_begins]
              rw [List.map_cons, Symbol.write, symbols, isPlaceholder]
              simp only [position_placeholder, ih others restNumbered]

theorem unlimited_cons {token : Token} (apart : token ≠ .word "LIMIT" ∧ token ≠ .word "OFFSET")
    (rest : List Token) : unlimited (token :: rest) = token :: unlimited rest := by
  conv_lhs => unfold unlimited
  split
  · rename_i same
    exact absurd (List.cons.inj same).1 apart.1
  · rename_i same
    exact absurd (List.cons.inj same).1 apart.2
  · rename_i same
    obtain ⟨rfl, rfl⟩ := List.cons.inj same
    rfl
  · rename_i same
    cases same

theorem write_apart {symbol : Symbol} (shared : symbol.isShared = true) :
    symbol.write dialect ≠ .word "LIMIT" ∧ symbol.write dialect ≠ .word "OFFSET" := by
  cases symbol with
  | fixed token => constructor <;> rintro rfl <;> cases shared
  | parameter position =>
      have begins := placeholder_begins dialect position
      constructor <;>
      · intro same
        rw [Token.word.inj same] at begins
        cases dialect <;> cases begins

theorem unlimited_template {template : List Symbol}
    (shared : ∀ symbol ∈ template, symbol.isShared = true) (rest : List Token) :
    unlimited (template.map (Symbol.write dialect) ++ rest) =
      template.map (Symbol.write dialect) ++ unlimited rest := by
  induction template with
  | nil => rfl
  | cons symbol template ih =>
      obtain ⟨first, others⟩ := List.forall_mem_cons.mp shared
      rw [List.map_cons, List.cons_append, unlimited_cons (write_apart first), ih others]
      rfl

theorem unlimited_limit (limit : Option Limit) (rest : List Token) :
    unlimited (limitRead dialect limit ++ rest) = unlimited rest := by
  cases limit with
  | none => rfl
  | some limit =>
      unfold limitRead limitWords
      dsimp only
      split
      · split <;> rfl
      · split
        · cases dialect <;> rfl
        · rfl

end RecordMapper.Sql
