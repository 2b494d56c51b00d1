import RecordMapper.Delegate.Standard
import RecordMapper.Proofs.Connection.Replying
import RecordMapper.Proofs.Sql.Evaluation
import RecordMapper.Query.Builder

set_option autoImplicit false

/-!
A small library of books. Authors have books of their own, and genres through a table of pairs.
-/

namespace RecordMapper.Sample

def author : RecordType where
  name := "Author"
  table := "author"
  fields :=
    [{ name := "id", kind := .column .int64, primaryKey := true },
      { name := "name", kind := .column .text, optional := true },
      { name := "books", kind := .collection "Book" },
      { name := "genres", kind := .collection "Genre" }]

def book : RecordType where
  name := "Book"
  table := "book"
  fields :=
    [{ name := "id", kind := .column .int64, primaryKey := true },
      { name := "author_id", kind := .column .int64 },
      { name := "title", kind := .column .text }]

def genre : RecordType where
  name := "Genre"
  table := "genre"
  fields :=
    [{ name := "id", kind := .column .int64, primaryKey := true },
      { name := "label", kind := .column .text }]

def writing : RecordType where
  name := "Writing"
  table := "writing"
  fields :=
    [{ name := "author_id", kind := .column .int64 },
      { name := "genre_id", kind := .column .int64 }]

def books : Join where
  collection := "books"
  rootKey := ⟨author, "id"⟩
  rootMatch := ⟨book, "author_id"⟩
  keyKind := .int

def genres : Join where
  collection := "genres"
  rootKey := ⟨author, "id"⟩
  rootMatch := ⟨writing, "author_id"⟩
  keyKind := .int
  pivot := some ⟨writing, ⟨genre, "id"⟩, ⟨writing, "genre_id"⟩⟩

/-- Genres of another label at each call. -/
def labelled : Expr :=
  .deferred 0 fun call => .binary .ne (.field ⟨genre, "label"⟩) (.literal (.bool (call == 0)))

/-- Authors with their books and with genres that a filter chooses. -/
def query : Query where
  root := author
  stages :=
    [.join book books, .join genre genres, .filter labelled, .ordering [⟨genre, "label"⟩] true,
      .ordering [⟨author, "name"⟩] false, .limit ⟨5, 10⟩]

/-- Genres of one label, produced anew each time. -/
def novels : Expr :=
  .deferred 0 fun _ => .binary .eq (.field ⟨genre, "label"⟩) (.literal (.text "Novel"))

/-- Books whose title is a NULL that is produced when it is needed. -/
def untitled : Expr :=
  .binary .eq (.field ⟨book, "title"⟩) (.deferred 0 fun _ => .literal .null)

/-- A new title for the books of another title that have no author. -/
def retitled : QueryState where
  tables := [⟨book, "t0", none⟩]
  command := .update
  filters :=
    [.binary .and (.binary .ne (.field ⟨book, "title"⟩) (.literal (.text "Emma")))
      (.binary .eq (.field ⟨book, "author_id"⟩) (.literal .null))]
  values := [("title", .text "Persuasion")]
  columnFilter := { excluded := [⟨book, "id"⟩] }

def state (command : Command) : QueryState :=
  match query.toState command with
  | .ok state => state
  | .error _ => {}

/-- Rows for the selects of books and of genres, told apart by their first column. -/
def catalogue (statement : Statement) : Except Error (List Row) :=
  let starts (aliasName : String) :=
    ("SELECT DISTINCT " ++ Dialect.sqlite.quoteIdentifier aliasName).isPrefixOf statement.sql
  if starts "t1" then .ok [⟨["id", "author_id"], [.bigInt 10, .bigInt 1]⟩]
  else if starts "t2" then .ok [⟨["id", pivotKeyColumn], [.bigInt 20, .bigInt 1]⟩]
  else .ok []

def library (answer : Statement → Except Error (List Row)) :
    Database (List Binding) Replying.World Nat :=
  ⟨Dialect.sqlite.delegate, Replying.connection answer, [author, book, genre, writing]⟩

instance (answer : Statement → Except Error (List Row)) : (library answer).connection.Finite :=
  inferInstanceAs (Replying.connection answer).Finite

/-! ## Readers and loans of a branch -/

def reader : RecordType where
  name := "Reader"
  table := "reader"
  fields :=
    [{ name := "id", kind := .column .int64, primaryKey := true },
      { name := "branch", kind := .column .int64 },
      { name := "level", kind := .column .int64 },
      { name := "loans", kind := .collection "Loan" }]

def loan : RecordType where
  name := "Loan"
  table := "loan"
  fields :=
    [{ name := "branch", kind := .column .int64 }, { name := "level", kind := .column .int64 }]

/-- Loans of a reader's branch, which has other readers. -/
def loans : Join where
  collection := "loans"
  rootKey := ⟨reader, "branch"⟩
  rootMatch := ⟨loan, "branch"⟩
  keyKind := .int

/-- Readers with loans of their branch and level. -/
def levelled : Query where
  root := reader
  stages :=
    [.join loan loans, .filter (.binary .eq (.field ⟨reader, "level"⟩) (.field ⟨loan, "level"⟩))]

def readerRow (id branch level : Int64) : Row :=
  ⟨["id", "branch", "level"], [.bigInt id, .bigInt branch, .bigInt level]⟩

def loanRow (branch level : Int64) : Row :=
  ⟨["branch", "level"], [.bigInt branch, .bigInt level]⟩

/-- Two readers of one branch, with a loan of each one's level. -/
def branch : Sql.Dataset where
  compare := .plain
  rows table :=
    if table = "reader" then [readerRow 1 7 1, readerRow 2 7 2]
    else if table = "loan" then [loanRow 7 1, loanRow 7 2]
    else []

def circulation : Database (List Binding) Replying.World Nat :=
  ⟨Dialect.sqlite.delegate, Replying.connection (branch.answer .sqlite), [reader, loan]⟩

instance : circulation.connection.Finite :=
  inferInstanceAs (Replying.connection (branch.answer .sqlite)).Finite

def sameBranch (source : Sql.Source) : Sql.Link :=
  ⟨source, ⟨some "t0", "branch"⟩, ⟨some "t1", "branch"⟩⟩

def sameLevel : Sql.Phrase :=
  .binary .eq (.column ⟨some "t0", "level"⟩) (.column ⟨some "t1", "level"⟩)

def readerSelect : Sql.Select :=
  ⟨⟨⟨"reader", "t0"⟩, none⟩, [sameBranch ⟨"loan", "t1"⟩], [sameLevel], [], none⟩

def loanSelect : Sql.Select :=
  ⟨⟨⟨"loan", "t1"⟩, none⟩, [sameBranch ⟨"reader", "t0"⟩], [sameLevel], [], none⟩

def loanRecord (branch level : Int64) : RelatedRecord :=
  [("branch", .column (.bigInt branch)), ("level", .column (.bigInt level))]

def readerRecord (id branch level : Int64) (loans : List RelatedRecord) : HydratedRecord :=
  [("id", .column (.bigInt id)), ("branch", .column (.bigInt branch)),
    ("level", .column (.bigInt level)), ("loans", .related loans)]

end RecordMapper.Sample
