import RecordMapper.Text.Quoted

set_option autoImplicit false

/-!
The lexemes of SQL text: words, quoted names and texts, blobs, numbers, parameters and symbols.
Blanks and comments part lexemes and are none themselves. A lexeme can be written back as it stood
in the text.
-/

namespace RecordMapper.Engine

inductive Lexeme where
  | word (text : String)
  /-- A quoted name and the mark that opens it. -/
  | quotedName (mark : Char) (name : String)
  | text (content : String)
  /-- A blob as it is written. -/
  | blob (written : String)
  | number (written : String)
  /-- A parameter as it is written, and the number under which it is bound. -/
  | parameter (written : String) (number : Nat)
  | symbol (text : String)
  /-- What is no lexeme, such as a quotation that is never closed. -/
  | bad (text : String)
deriving DecidableEq, Repr

namespace Lexeme

def source : Lexeme → String
  | .word written => written
  | .quotedName mark name => if mark == '[' then s!"[{name}]" else Text.Quoted.quote mark name
  | .text content => Text.Quoted.quote '\'' content
  | .blob written => written
  | .number written => written
  | .parameter written _ => written
  | .symbol written => written
  | .bad written => written

/-! ## Characters -/

def isWordStart (char : Char) : Bool :=
  char.isAlpha || char == '_' || 128 ≤ char.toNat

def isWordChar (char : Char) : Bool :=
  isWordStart char || char.isDigit || char == '$'

/-- The mark of byte order counts as a blank where a lexeme could start. -/
def isBlank (char : Char) : Bool :=
  char.isWhitespace || char == '\x0c' || char == '\uFEFF'

def isHexDigit (char : Char) : Bool :=
  char.isDigit || ('a' ≤ char && char ≤ 'f') || ('A' ≤ char && char ≤ 'F')

/-- Symbols, none behind one that starts it. -/
def symbols : List String :=
  ["->>", "->", "||", "<=", "<>", "<<", "==", ">=", ">>", "!=", "(", ")", ";", "+", "-", "*", "/",
    "%", "=", "<", ">", "|", ",", "&", "~", "."]

/-! ## Quotations -/

def readQuotation (mark : Char) (chars : List Char) : Lexeme × List Char :=
  match Text.Quoted.scan mark chars with
  | some (content, rest) =>
      let content := String.ofList content
      (if mark == '\'' then .text content else .quotedName mark content, rest)
  | none => (.bad (String.ofList (mark :: chars)), [])

def readBracketed (chars : List Char) : Lexeme × List Char :=
  match chars.span (· != ']') with
  | (name, _ :: rest) => (.quotedName '[' (String.ofList name), rest)
  | (name, []) => (.bad (String.ofList ('[' :: name)), [])

/-- Reads a blob behind its letter and mark: pairs of digits up to the closing mark. -/
def readBlob (letter : Char) (chars : List Char) : Lexeme × List Char :=
  let (content, after) := chars.span (· != '\'')
  let written := String.ofList (letter :: '\'' :: content ++ after.take 1)
  if content.all isHexDigit && content.length % 2 == 0 && !after.isEmpty then
    (.blob written, after.drop 1)
  else (.bad written, after.drop 1)

/-! ## Numbers -/

def fraction : List Char → List Char × List Char
  | '.' :: rest =>
      let (digits, after) := rest.span Char.isDigit
      ('.' :: digits, after)
  | chars => ([], chars)

def sign : List Char → List Char × List Char
  | '+' :: rest => (['+'], rest)
  | '-' :: rest => (['-'], rest)
  | chars => ([], chars)

/-- The power of ten of a number, which has at least one digit. -/
def power : List Char → List Char × List Char
  | [] => ([], [])
  | mark :: rest =>
      let (sign, unsigned) := sign rest
      let (digits, after) := unsigned.span Char.isDigit
      if (mark == 'e' || mark == 'E') && !digits.isEmpty then (mark :: sign ++ digits, after)
      else ([], mark :: rest)

/-- Reads a decimal number, which no character of a word may follow. -/
def readDecimal (chars : List Char) : Lexeme × List Char :=
  let (whole, afterWhole) := chars.span Char.isDigit
  let (fraction, afterFraction) := fraction afterWhole
  let (power, afterPower) := power afterFraction
  let (excess, after) := afterPower.span isWordChar
  let written := String.ofList (whole ++ fraction ++ power ++ excess)
  (if excess.isEmpty then .number written else .bad written, after)

def readNumber (chars : List Char) : Lexeme × List Char :=
  match chars with
  | '0' :: mark :: rest =>
      let (digits, after) := rest.span isHexDigit
      if (mark == 'x' || mark == 'X') && !digits.isEmpty then
        (.number (String.ofList ('0' :: mark :: digits)), after)
      else readDecimal chars
  | _ => readDecimal chars

/-! ## Parameters -/

def readNumbered (chars : List Char) : Lexeme × List Char :=
  let (digits, after) := chars.span Char.isDigit
  (.parameter (String.ofList ('?' :: digits)) ((String.ofList digits).toNat?.getD 0), after)

/-- Reads a named parameter behind its mark. A hash before a digit makes none. -/
def readNamed (mark : Char) (chars : List Char) : Lexeme × List Char :=
  let (name, after) := chars.span isWordChar
  let written := String.ofList (mark :: name)
  if name.isEmpty then (.bad written, after)
  else if mark == '#' && name.head?.any Char.isDigit then (.symbol written, after)
  else (.parameter written 0, after)

/-! ## Texts -/

def readSymbol (first : Char) (rest : List Char) : Lexeme × List Char :=
  match symbols.find? fun symbol => symbol.toList.isPrefixOf (first :: rest) with
  | some found => (.symbol found, (first :: rest).drop found.length)
  | none => (.bad (String.singleton first), rest)

/-- Reads one lexeme that starts with a character which is no blank. -/
def read (first : Char) (rest : List Char) : Lexeme × List Char :=
  match first, rest with
  | 'x', '\'' :: content => readBlob first content
  | 'X', '\'' :: content => readBlob first content
  | '[', _ => readBracketed rest
  | '?', _ => readNumbered rest
  | '.', digit :: _ => if digit.isDigit then readNumber (first :: rest) else (.symbol ".", rest)
  | _, _ =>
      if isWordStart first then
        let (others, after) := rest.span isWordChar
        (.word (String.ofList (first :: others)), after)
      else if first.isDigit then readNumber (first :: rest)
      else if ['\'', '"', '\x60'].contains first then readQuotation first rest
      else if ['$', '@', '#', ':'].contains first then readNamed first rest
      else readSymbol first rest

/-- What follows a comment between marks; one that is never closed takes the whole text. -/
def afterComment : List Char → List Char
  | [] => []
  | '*' :: '/' :: rest => rest
  | _ :: rest => afterComment rest

def scan (fuel : Nat) (chars : List Char) : List Lexeme :=
  match fuel, chars with
  | fuel + 1, '-' :: '-' :: rest => scan fuel (rest.dropWhile (· != '\n'))
  | fuel + 1, '/' :: '*' :: next :: rest => scan fuel (afterComment (next :: rest))
  | fuel + 1, first :: rest =>
      if isBlank first then scan fuel rest
      else
        let (lexeme, after) := read first rest
        lexeme :: scan fuel after
  | _, _ => []

/-- The lexemes of a text. Each takes at least one character. -/
def ofText (text : String) : List Lexeme :=
  scan text.length text.toList

/-! ## Numbers of parameters -/

/-- Numbers the parameters of a text from left to right. One that has no number of its own gets
the number after the largest so far, unless its name was met before. -/
def numbered (named : List (String × Nat)) (largest : Nat) : List Lexeme → List Lexeme
  | [] => []
  | .parameter written own :: rest =>
      if written.length > 1 && written.startsWith "?" then
        .parameter written own :: numbered named (max largest own) rest
      else
        match named.lookup written with
        | some known => .parameter written known :: numbered named largest rest
        | none =>
            let named := if written == "?" then named else (written, largest + 1) :: named
            .parameter written (largest + 1) :: numbered named (largest + 1) rest
  | lexeme :: rest => lexeme :: numbered named largest rest

end Lexeme

end RecordMapper.Engine
