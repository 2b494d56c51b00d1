import Mathlib.Data.List.Forall2
import RecordMapper.Proofs.Sql.Phrase
import RecordMapper.Query.State

set_option autoImplicit false

/-!
The clauses of statements as they are written: tables under aliases, joins, conditions, orderings
and limits. Each has a text and the tokens that the text reads as.
-/

namespace RecordMapper.Sql

variable {dialect : Dialect}

/-! ## Lists -/

theorem spells_intercalate {separator : String} {separatorRead : List Token}
    (leads : ∀ {text read}, Spells dialect text read →
      Follows dialect (separator ++ text) (separatorRead ++ read))
    {texts : List String} {reads : List (List Token)}
    (spells : List.Forall₂ (Spells dialect) texts reads) :
    Spells dialect (String.intercalate separator texts) (separatorRead.intercalate reads) := by
  induction spells with
  | nil => exact spells_empty dialect
  | @cons text read texts reads spells others ih =>
      cases others with
      | nil => simpa using spells
      | cons second others =>
          rw [String.intercalate_cons_cons, List.intercalate_cons_cons, String.append_assoc,
            List.append_assoc]
          exact spells.append (leads ih)

theorem intercalate_nothing (reads : List (List Token)) :
    List.intercalate [] reads = reads.flatten := by
  induction reads with
  | nil => rfl
  | cons first others ih =>
      cases others with
      | nil => simp
      | cons second others => simpa [List.intercalate_cons_cons] using ih

theorem spells_unwords {texts : List String} {reads : List (List Token)}
    (spells : List.Forall₂ (Spells dialect) texts reads) :
    Spells dialect (String.intercalate " " texts) reads.flatten := by
  rw [← intercalate_nothing]
  exact spells_intercalate Spells.blank spells

theorem spells_comma {texts : List String} {reads : List (List Token)}
    (spells : List.Forall₂ (Spells dialect) texts reads) :
    Spells dialect (String.intercalate ", " texts) (List.intercalate [.mark ','] reads) := by
  apply spells_intercalate _ spells
  intro text read spells
  have marked := spells.blank.spells.marked ',' (by decide)
  rwa [← String.append_assoc] at marked

theorem spells_and {texts : List String} {reads : List (List Token)}
    (spells : List.Forall₂ (Spells dialect) texts reads) :
    Spells dialect (String.intercalate " AND " texts) (List.intercalate [.word "AND"] reads) := by
  apply spells_intercalate _ spells
  intro text read spells
  have spaced := ((spells_keyword dialect "AND" (by decide)).spaced spells).blank
  rwa [← String.append_assoc, ← String.append_assoc] at spaced

theorem follows_join {texts : List String} {reads : List (List Token)}
    (follows : List.Forall₂ (Follows dialect) texts reads) :
    Follows dialect (String.join texts) reads.flatten := by
  induction follows with
  | nil => exact follows_empty dialect
  | cons first others ih =>
      rw [String.join_cons, List.flatten_cons]
      exact first.append ih

theorem forall₂_map {Item : Type} {related : String → List Token → Prop} (text : Item → String)
    (read : Item → List Token) (each : ∀ item, related (text item) (read item))
    (items : List Item) : List.Forall₂ related (items.map text) (items.map read) := by
  rw [List.forall₂_map_left_iff, List.forall₂_map_right_iff]
  exact List.forall₂_same.mpr fun item _ => each item

/-! ## Clauses -/

structure Source where
  table : String
  aliasName : String
deriving DecidableEq, Repr

namespace Source

def text (dialect : Dialect) (source : Source) : String :=
  String.intercalate " "
    [dialect.quoteIdentifier source.table, "AS", dialect.quoteIdentifier source.aliasName]

theorem text_eq (dialect : Dialect) (source : Source) :
    source.text dialect =
      dialect.quoteIdentifier source.table ++ " AS " ++ dialect.quoteIdentifier source.aliasName := by
  rw [← String.toList_inj]
  simp [text]

def read (source : Source) : List Token :=
  [.name source.table, .word "AS", .name source.aliasName]

theorem spells (dialect : Dialect) (source : Source) :
    Spells dialect (source.text dialect) source.read :=
  spells_unwords (.cons (spells_name dialect source.table)
    (.cons (spells_keyword dialect "AS" (by decide))
      (.cons (spells_name dialect source.aliasName) .nil)))

end Source

structure Link where
  source : Source
  left : ColumnName
  right : ColumnName
deriving DecidableEq, Repr

namespace Link

def text (dialect : Dialect) (link : Link) : String :=
  String.intercalate " "
    ["JOIN", link.source.text dialect, "ON", link.left.text dialect, "=", link.right.text dialect]

theorem text_eq (dialect : Dialect) (link : Link) :
    link.text dialect =
      "JOIN " ++ link.source.text dialect ++ " ON " ++ link.left.text dialect ++ " = "
        ++ link.right.text dialect := by
  rw [← String.toList_inj]
  simp [text]

def read (link : Link) : List Token :=
  [[.word "JOIN"], link.source.read, [.word "ON"], link.left.read, [.operator "="],
    link.right.read].flatten

theorem spells (dialect : Dialect) (link : Link) :
    Spells dialect (link.text dialect) link.read :=
  spells_unwords (.cons (spells_keyword dialect "JOIN" (by decide))
    (.cons (link.source.spells dialect)
      (.cons (spells_keyword dialect "ON" (by decide)) (.cons (link.left.spells dialect)
        (.cons (spells_operatorToken dialect .eq) (.cons (link.right.spells dialect) .nil))))))

end Link

/-- The conjunction of the conditions: one stands bare, several in parentheses. -/
def conditionText (dialect : Dialect) : List Phrase → String
  | [] => ""
  | [phrase] => " WHERE " ++ phrase.text dialect
  | phrases =>
      " WHERE " ++ String.intercalate " AND "
        (phrases.map fun phrase => "(" ++ phrase.text dialect ++ ")")

def conditionRead (dialect : Dialect) : List Phrase → List Token
  | [] => []
  | [phrase] => .word "WHERE" :: phrase.read dialect
  | phrases =>
      .word "WHERE" :: List.intercalate [.word "AND"]
        (phrases.map fun phrase => .mark '(' :: phrase.read dialect ++ [.mark ')'])

def conditionParameters (phrases : List Phrase) : List Parameter :=
  phrases.flatMap (·.parameters)

theorem spells_parenthesized (dialect : Dialect) (phrase : Phrase) :
    Spells dialect ("(" ++ phrase.text dialect ++ ")")
      (.mark '(' :: phrase.read dialect ++ [.mark ')']) := by
  have closing : Follows dialect ")" [.mark ')'] :=
    (spells_empty dialect).marked ')' (by decide)
  have opened : Follows dialect ("(" ++ phrase.text dialect) (.mark '(' :: phrase.read dialect) :=
    (phrase.spells dialect).marked '(' (by decide)
  exact opened.spells.append closing

theorem follows_where {text : String} {read : List Token} (spells : Spells dialect text read) :
    Follows dialect (" WHERE " ++ text) (.word "WHERE" :: read) := by
  have spaced := ((spells_keyword dialect "WHERE" (by decide)).spaced spells).blank
  rwa [← String.append_assoc, ← String.append_assoc] at spaced

theorem follows_condition (dialect : Dialect) (phrases : List Phrase) :
    Follows dialect (conditionText dialect phrases) (conditionRead dialect phrases) := by
  match phrases with
  | [] => exact follows_empty dialect
  | [phrase] => exact follows_where (phrase.spells dialect)
  | first :: second :: others =>
      exact follows_where (spells_and
        (forall₂_map _ _ (spells_parenthesized dialect) (first :: second :: others)))

structure OrderTerm where
  column : ColumnName
  descending : Bool
deriving DecidableEq, Repr

namespace OrderTerm

def text (dialect : Dialect) (term : OrderTerm) : String :=
  if term.descending then term.column.text dialect ++ " DESC" else term.column.text dialect

def read (term : OrderTerm) : List Token :=
  term.column.read ++ if term.descending then [.word "DESC"] else []

theorem spells (dialect : Dialect) (term : OrderTerm) :
    Spells dialect (term.text dialect) term.read := by
  rcases term with ⟨column, _ | _⟩
  · simpa [text, read] using column.spells dialect
  · exact (column.spells dialect).append (spells_keyword dialect "DESC" (by decide)).blank

end OrderTerm

def orderText (dialect : Dialect) (terms : List OrderTerm) : String :=
  if terms.isEmpty then ""
  else " ORDER BY " ++ String.intercalate ", " (terms.map (·.text dialect))

def orderRead (terms : List OrderTerm) : List Token :=
  if terms.isEmpty then []
  else [.word "ORDER", .word "BY"] ++ List.intercalate [.mark ','] (terms.map (·.read))

theorem follows_order (dialect : Dialect) (terms : List OrderTerm) :
    Follows dialect (orderText dialect terms) (orderRead terms) := by
  unfold orderText orderRead
  split
  · exact follows_empty dialect
  · have spelled := spells_comma (forall₂_map _ _ (OrderTerm.spells dialect) terms)
    have words := (spells_keyword dialect "ORDER" (by decide)).spaced
      (spells_keyword dialect "BY" (by decide))
    have spaced := (words.spaced spelled).blank
    rwa [← String.append_assoc, ← String.append_assoc, ← String.append_assoc] at spaced

/-- A limit clause as words: none where it bounds nothing. -/
def limitWords (dialect : Dialect) (limit : Limit) : List String :=
  let max := limit.max.toNat.repr
  let skip := limit.skip.toNat.repr
  if limit.skip = 0 then
    if limit.max = 0 then [] else ["LIMIT", max]
  else if limit.max = 0 then
    match dialect with
    | .sqlite => ["LIMIT", "-1", "OFFSET", skip]
    | .mysql => ["LIMIT", "18446744073709551615", "OFFSET", skip]
    | .postgres => ["OFFSET", skip]
  else ["LIMIT", max, "OFFSET", skip]

def limitText (dialect : Dialect) : Option Limit → String
  | none => ""
  | some limit =>
      let clause := dialect.limitClause limit.max limit.skip
      if clause.isEmpty then "" else " " ++ clause

def limitRead (dialect : Dialect) : Option Limit → List Token
  | none => []
  | some limit => (limitWords dialect limit).map .word

theorem limitClause_eq (dialect : Dialect) (limit : Limit) :
    dialect.limitClause limit.max limit.skip =
      String.intercalate " " (limitWords dialect limit) := by
  unfold Dialect.limitClause limitWords
  rw [← String.toList_inj]
  split
  · split <;> simp [toString]
  · split
    · cases dialect <;> simp [toString]
    · simp [toString]

theorem mem_limitWords {dialect : Dialect} {limit : Limit} {word : String}
    (member : word ∈ limitWords dialect limit) :
    word ∈ ["LIMIT", "OFFSET", "-1", "18446744073709551615"] ∨
      ∃ number : Nat, word = number.repr := by
  unfold limitWords at member
  split at member
  · split at member <;> grind
  · split at member
    · cases dialect <;> grind
    · grind

theorem limitWords_plain (dialect : Dialect) (limit : Limit) :
    ∀ word ∈ limitWords dialect limit,
      word.toList ≠ [] ∧ word.toList.all isPlain := by
  intro word member
  rcases mem_limitWords member with fixed | ⟨number, rfl⟩
  · simp only [List.mem_cons, List.not_mem_nil, or_false] at fixed
    rcases fixed with rfl | rfl | rfl | rfl <;> decide
  · exact repr_plain number

theorem spells_limit (dialect : Dialect) (limit : Limit) :
    Spells dialect (dialect.limitClause limit.max limit.skip)
      ((limitWords dialect limit).map .word) := by
  have spelled : List.Forall₂ (Spells dialect) (limitWords dialect limit)
      ((limitWords dialect limit).map fun word => [.word word]) := by
    rw [List.forall₂_map_right_iff]
    exact List.forall₂_same.mpr fun word member =>
      spells_keyword dialect word (limitWords_plain dialect limit word member)
  rw [limitClause_eq, List.map_eq_flatMap, List.flatMap_def]
  exact spells_unwords spelled

theorem follows_limit (dialect : Dialect) (limit : Option Limit) :
    Follows dialect (limitText dialect limit) (limitRead dialect limit) := by
  cases limit with
  | none => exact follows_empty dialect
  | some limit =>
      have spelled := spells_limit dialect limit
      dsimp only [limitText, limitRead]
      split
      · rename_i isEmpty
        rw [String.isEmpty_iff.mp isEmpty] at spelled
        exact ⟨spelled, by simp [Parts]⟩
      · exact spelled.blank

end RecordMapper.Sql
