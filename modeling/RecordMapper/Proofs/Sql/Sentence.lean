import RecordMapper.Proofs.Sql.Clause
import RecordMapper.Query.JoinClause

set_option autoImplicit false

/-!
Whole statements as they are written. A sentence has a text, the tokens that the text reads as and
its parameters from left to right.
-/

namespace RecordMapper.Sql

/-- The start of a select: all columns of its table and, where the table is reached through a pivot,
a key. -/
structure Head where
  source : Source
  key : Option ColumnName

namespace Head

def keyText (dialect : Dialect) : Option ColumnName → String
  | none => ""
  | some key =>
      ", " ++ String.intercalate " "
        [key.text dialect, "AS", dialect.quoteIdentifier pivotKeyColumn]

def keyRead : Option ColumnName → List Token
  | none => []
  | some key => .mark ',' :: [key.read, [.word "AS"], [.name pivotKeyColumn]].flatten

def text (dialect : Dialect) (head : Head) : String :=
  String.intercalate " "
    ["SELECT", "DISTINCT",
      dialect.quoteIdentifier head.source.aliasName ++ ".*" ++ keyText dialect head.key,
      "FROM", head.source.text dialect]

theorem text_direct (dialect : Dialect) (source : Source) :
    text dialect ⟨source, none⟩ =
      "SELECT DISTINCT " ++ dialect.quoteIdentifier source.aliasName ++ ".* FROM "
        ++ source.text dialect := by
  rw [← String.toList_inj]
  simp [text, keyText]

theorem text_pivot (dialect : Dialect) (source : Source) (key : ColumnName) :
    text dialect ⟨source, some key⟩ =
      "SELECT DISTINCT " ++ dialect.quoteIdentifier source.aliasName ++ ".*, " ++ key.text dialect
        ++ " AS " ++ dialect.quoteIdentifier pivotKeyColumn ++ " FROM "
        ++ source.text dialect := by
  rw [← String.toList_inj]
  simp [text, keyText]

def read (head : Head) : List Token :=
  [[.word "SELECT"], [.word "DISTINCT"],
    .name head.source.aliasName :: .mark '.' :: .mark '*' :: keyRead head.key, [.word "FROM"],
    head.source.read].flatten

theorem follows_key (dialect : Dialect) (key : Option ColumnName) :
    Follows dialect (keyText dialect key) (keyRead key) := by
  cases key with
  | none => exact follows_empty dialect
  | some key =>
      have words := spells_unwords (.cons (key.spells dialect)
        (.cons (spells_keyword dialect "AS" (by decide))
          (.cons (spells_name dialect pivotKeyColumn) .nil)))
      have marked := words.blank.spells.marked ',' (by decide)
      rwa [← String.append_assoc] at marked

theorem spells (dialect : Dialect) (head : Head) :
    Spells dialect (head.text dialect) head.read := by
  have star : Follows dialect ".*" [.mark '.', .mark '*'] :=
    ((spells_empty dialect).marked '*' (by decide)).spells.marked '.' (by decide)
  have columns := ((spells_name dialect head.source.aliasName).append star).append
    (follows_key dialect head.key)
  exact spells_unwords (.cons (spells_keyword dialect "SELECT" (by decide))
    (.cons (spells_keyword dialect "DISTINCT" (by decide)) (.cons columns
      (.cons (spells_keyword dialect "FROM" (by decide))
        (.cons (head.source.spells dialect) .nil)))))

end Head

def linksText (dialect : Dialect) (links : List Link) : String :=
  String.join (links.map fun link => " " ++ link.text dialect)

def linksRead (links : List Link) : List Token :=
  (links.map (·.read)).flatten

theorem follows_links (dialect : Dialect) (links : List Link) :
    Follows dialect (linksText dialect links) (linksRead links) :=
  follows_join (forall₂_map _ _ (fun link => (link.spells dialect).blank) links)

structure Select where
  head : Head
  links : List Link
  conditions : List Phrase
  order : List OrderTerm
  limit : Option Limit

namespace Select

def text (dialect : Dialect) (select : Select) : String :=
  select.head.text dialect ++ linksText dialect select.links
    ++ conditionText dialect select.conditions ++ orderText dialect select.order
    ++ limitText dialect select.limit

def read (dialect : Dialect) (select : Select) : List Token :=
  select.head.read ++ linksRead select.links ++ conditionRead dialect select.conditions
    ++ orderRead select.order ++ limitRead dialect select.limit

theorem spells (dialect : Dialect) (select : Select) :
    Spells dialect (select.text dialect) (select.read dialect) :=
  ((((select.head.spells dialect).append (follows_links dialect select.links)).append
    (follows_condition dialect select.conditions)).append
      (follows_order dialect select.order)).append (follows_limit dialect select.limit)

end Select

structure Assignment where
  column : String
  parameter : Parameter

namespace Assignment

def text (dialect : Dialect) (assignment : Assignment) : String :=
  dialect.quoteIdentifier assignment.column ++ "=" ++ dialect.placeholder assignment.parameter.index

def read (dialect : Dialect) (assignment : Assignment) : List Token :=
  [.name assignment.column, .operator "=", .word (dialect.placeholder assignment.parameter.index)]

end Assignment

def listText (texts : List String) : String :=
  "(" ++ String.intercalate ", " texts ++ ")"

def listRead (reads : List (List Token)) : List Token :=
  .mark '(' :: List.intercalate [.mark ','] reads ++ [.mark ')']

theorem spells_list {dialect : Dialect} {texts : List String} {reads : List (List Token)}
    (spells : List.Forall₂ (Spells dialect) texts reads) :
    Spells dialect (listText texts) (listRead reads) := by
  have opened := (spells_comma spells).marked '(' (by decide)
  exact opened.spells.append ((spells_empty dialect).marked ')' (by decide))

def setText (dialect : Dialect) (table : String) (assignments : List Assignment) : String :=
  String.intercalate " "
    ["UPDATE", dialect.quoteIdentifier table, "SET",
      String.intercalate ", " (assignments.map (·.text dialect))]

theorem setText_eq (dialect : Dialect) (table : String) (assignments : List Assignment) :
    setText dialect table assignments =
      "UPDATE " ++ dialect.quoteIdentifier table ++ " SET "
        ++ String.intercalate ", " (assignments.map (·.text dialect)) := by
  rw [← String.toList_inj]
  simp [setText]

def deleteText (dialect : Dialect) (table : String) : String :=
  String.intercalate " " ["DELETE", "FROM", dialect.quoteIdentifier table]

theorem deleteText_eq (dialect : Dialect) (table : String) :
    deleteText dialect table = "DELETE FROM " ++ dialect.quoteIdentifier table := by
  rw [← String.toList_inj]
  simp [deleteText]

def insertText (dialect : Dialect) (table : String) (assignments : List Assignment) : String :=
  String.intercalate " "
    ["INSERT", "INTO", dialect.quoteIdentifier table,
      listText (assignments.map fun assignment => dialect.quoteIdentifier assignment.column),
      "VALUES",
      listText (assignments.map fun assignment => dialect.placeholder assignment.parameter.index)]

theorem insertText_eq (dialect : Dialect) (table : String) (assignments : List Assignment) :
    insertText dialect table assignments =
      "INSERT INTO " ++ dialect.quoteIdentifier table ++ " ("
        ++ String.intercalate ", "
          (assignments.map fun assignment => dialect.quoteIdentifier assignment.column)
        ++ ") VALUES ("
        ++ String.intercalate ", "
          (assignments.map fun assignment => dialect.placeholder assignment.parameter.index)
        ++ ")" := by
  rw [← String.toList_inj]
  simp [insertText, listText]

inductive Sentence where
  | rows (select : Select)
  | count (select : Select)
  | update (table : String) (assignments : List Assignment) (conditions : List Phrase)
  | delete (table : String) (conditions : List Phrase)
  | insert (table : String) (assignments : List Assignment)

namespace Sentence

def text (dialect : Dialect) : Sentence → String
  | .rows select => select.text dialect
  | .count select => "SELECT COUNT(*) AS count FROM (" ++ select.text dialect ++ ") AS s1"
  | .update table assignments conditions =>
      setText dialect table assignments ++ conditionText dialect conditions
  | .delete table conditions => deleteText dialect table ++ conditionText dialect conditions
  | .insert table assignments => insertText dialect table assignments

theorem text_insert (dialect : Dialect) (table : String) (assignments : List Assignment) :
    text dialect (.insert table assignments) = insertText dialect table assignments := rfl

def read (dialect : Dialect) : Sentence → List Token
  | .rows select => select.read dialect
  | .count select =>
      [.word "SELECT", .word "COUNT", .mark '(', .mark '*', .mark ')', .word "AS", .word "count",
        .word "FROM", .mark '('] ++ (select.read dialect ++ [.mark ')', .word "AS", .word "s1"])
  | .update table assignments conditions =>
      [[.word "UPDATE"], [.name table], [.word "SET"],
        List.intercalate [.mark ','] (assignments.map (·.read dialect))].flatten
        ++ conditionRead dialect conditions
  | .delete table conditions =>
      [[.word "DELETE"], [.word "FROM"], [.name table]].flatten ++ conditionRead dialect conditions
  | .insert table assignments =>
      [[.word "INSERT"], [.word "INTO"], [.name table],
        listRead (assignments.map fun assignment => [.name assignment.column]), [.word "VALUES"],
        listRead (assignments.map fun assignment =>
          [.word (dialect.placeholder assignment.parameter.index)])].flatten

def parameters : Sentence → List Parameter
  | .rows select => conditionParameters select.conditions
  | .count select => conditionParameters select.conditions
  | .update _ assignments conditions =>
      assignments.map (·.parameter) ++ conditionParameters conditions
  | .delete _ conditions => conditionParameters conditions
  | .insert _ assignments => assignments.map (·.parameter)

def statement (dialect : Dialect) (sentence : Sentence) : Statement :=
  ⟨sentence.text dialect, bindings dialect sentence.parameters⟩

theorem spells (dialect : Dialect) (sentence : Sentence) :
    Spells dialect (sentence.text dialect) (sentence.read dialect) := by
  cases sentence with
  | rows select => exact select.spells dialect
  | count select =>
      have opened : Leads dialect "SELECT COUNT(*) AS count FROM ("
          [.word "SELECT", .word "COUNT", .mark '(', .mark '*', .mark ')', .word "AS",
            .word "count", .word "FROM", .mark '('] := by
        intro rest
        cases dialect <;> rfl
      have named := (((spells_keyword dialect "AS" (by decide)).spaced
        (spells_keyword dialect "s1" (by decide))).blank).spells.marked ')' (by decide)
      change Spells dialect
        ("SELECT COUNT(*) AS count FROM (" ++ select.text dialect ++ ") AS s1") _
      rw [String.append_assoc]
      exact opened.append ((select.spells dialect).append named)
  | update table assignments conditions =>
      have assigned := spells_comma (forall₂_map (Assignment.text dialect) (Assignment.read dialect)
        (fun assignment => spells_assignment dialect assignment.column assignment.parameter.index)
        assignments)
      have words := spells_unwords (.cons (spells_keyword dialect "UPDATE" (by decide))
        (.cons (spells_name dialect table) (.cons (spells_keyword dialect "SET" (by decide))
          (.cons assigned .nil))))
      exact words.append (follows_condition dialect conditions)
  | delete table conditions =>
      have words := spells_unwords (.cons (spells_keyword dialect "DELETE" (by decide))
        (.cons (spells_keyword dialect "FROM" (by decide))
          (.cons (spells_name dialect table) .nil)))
      exact words.append (follows_condition dialect conditions)
  | insert table assignments =>
      have names := spells_list (forall₂_map _ _
        (fun assignment => spells_name dialect (Assignment.column assignment)) assignments)
      have placeholders := spells_list (forall₂_map _ _
        (fun assignment => spells_placeholder dialect (Assignment.parameter assignment).index)
        assignments)
      exact spells_unwords (.cons (spells_keyword dialect "INSERT" (by decide))
        (.cons (spells_keyword dialect "INTO" (by decide)) (.cons (spells_name dialect table)
          (.cons names (.cons (spells_keyword dialect "VALUES" (by decide))
            (.cons placeholders .nil))))))

end Sentence

end RecordMapper.Sql
