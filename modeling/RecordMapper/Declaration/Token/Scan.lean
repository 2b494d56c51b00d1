import RecordMapper.Declaration.Token

set_option autoImplicit false

/-!
The tokens of a text. Blanks and comments part tokens and are left out. A quotation is one token
together with the letters before its mark and the name that may follow it; a single quotation
mark that closes nothing starts a lifetime.
-/

namespace RecordMapper.Declaration.Token

/-- White space of any script, and the two marks of writing direction. -/
def isBlank (char : Char) : Bool :=
  let code := char.toNat
  (9 ≤ code && code ≤ 13) || (0x2000 ≤ code && code ≤ 0x200A)
    || [0x20, 0x85, 0xA0, 0x1680, 0x200E, 0x200F, 0x2028, 0x2029, 0x202F, 0x205F, 0x3000].contains
      code

/-- Characters that continue a word. Every other character beyond ASCII counts as a letter. -/
def isWordChar (char : Char) : Bool :=
  char.isAlphanum || char == '_' || (128 ≤ char.toNat && !isBlank char)

def isWordStart (char : Char) : Bool :=
  isWordChar char && !char.isDigit

def isMarkChar (char : Char) : Bool :=
  "~!@#$%^&*-=+|;:,<.>/?'".toList.contains char

/-! ## Comments -/

/-- The text behind a comment that is bracketed; such comments may hold each other. -/
def skipBracketed : Nat → List Char → List Char
  | depth, '*' :: '/' :: rest =>
      match depth with
      | 0 => rest
      | depth + 1 => skipBracketed depth rest
  | depth, '/' :: '*' :: rest => skipBracketed (depth + 1) rest
  | depth, _ :: rest => skipBracketed depth rest
  | _, [] => []

/-- The text behind a comment, if one starts here. -/
def skipComment? : List Char → Option (List Char)
  | '/' :: '/' :: rest => some (rest.dropWhile (· != '\n'))
  | '/' :: '*' :: rest => some (skipBracketed 0 rest)
  | _ => none

/-! ## Quotations -/

/-- Cuts a quotation behind its opening mark; the closing mark belongs to it. -/
def cutQuotation (mark : Char) : List Char → List Char × List Char
  | '\\' :: char :: rest =>
      let (inside, after) := cutQuotation mark rest
      ('\\' :: char :: inside, after)
  | char :: rest =>
      if char == mark then ([char], rest)
      else
        let (inside, after) := cutQuotation mark rest
        (char :: inside, after)
  | [] => ([], [])

/-- Cuts a raw quotation, which a mark with as many hashes closes as opened it. -/
def cutRaw (hashes : Nat) : List Char → List Char × List Char
  | [] => ([], [])
  | char :: rest =>
      if char == '"' && rest.take hashes == List.replicate hashes '#' then
        (char :: rest.take hashes, rest.drop hashes)
      else
        let (inside, after) := cutRaw hashes rest
        (char :: inside, after)

/-- A literal from the text it starts with; a name that follows at once belongs to it. -/
def literalOf (start : List Char) (rest : List Char) : Token × List Char :=
  (.literal (String.ofList (start ++ rest.takeWhile isWordChar)), rest.dropWhile isWordChar)

/-- A quotation behind the letters that may stand before one. -/
def quotation? (letters : List Char) (rest : List Char) : Option (Token × List Char) :=
  let raw := ["r", "br", "cr"].contains (String.ofList letters)
  let hashes := if raw then (rest.takeWhile (· == '#')).length else 0
  match rest.drop hashes with
  | '"' :: behind =>
      let (inside, after) := if raw then cutRaw hashes behind else cutQuotation '"' behind
      some (literalOf (letters ++ List.replicate hashes '#' ++ '"' :: inside) after)
  | '\'' :: behind =>
      if letters == ['b'] then
        let (inside, after) := cutQuotation '\'' behind
        some (literalOf (letters ++ '\'' :: inside) after)
      else none
  | _ => none

/-- A character or a lifetime, behind the mark with which both start. -/
def readSingle (rest : List Char) : Token × List Char :=
  let character : Bool :=
    match rest with
    | '\\' :: _ => true
    | _ :: '\'' :: _ => true
    | _ => false
  if character then
    let (inside, after) := cutQuotation '\'' rest
    literalOf ('\'' :: inside) after
  else
    (.lifetime (String.ofList ('\'' :: rest.takeWhile isWordChar)), rest.dropWhile isWordChar)

/-! ## Words and numbers -/

/-- A word, a raw name, or a quotation that the word announces. -/
def readWord (first : Char) (rest : List Char) : Token × List Char :=
  let word := first :: rest.takeWhile isWordChar
  let after := rest.dropWhile isWordChar
  let announces := ["b", "c", "r", "br", "cr"].contains (String.ofList word)
  match if announces then quotation? word after else none with
  | some found => found
  | none =>
      match word, after with
      | ['r'], '#' :: behind =>
          (.name (String.ofList ('r' :: '#' :: behind.takeWhile isWordChar)),
            behind.dropWhile isWordChar)
      | _, _ => (.name (String.ofList word), after)

def isDigitChar (char : Char) : Bool :=
  char.isDigit || char == '_'

/-- Cuts the point and the digits behind it. A point before a name or another point belongs to no
number. -/
def cutFraction : List Char → List Char × List Char
  | '.' :: rest =>
      if rest.head?.any fun char => char == '.' || isWordStart char then ([], '.' :: rest)
      else ('.' :: rest.takeWhile isDigitChar, rest.dropWhile isDigitChar)
  | rest => ([], rest)

/-- Cuts an exponent that has a sign; one without reads as a name behind the number. -/
def cutExponent : List Char → List Char × List Char
  | letter :: plus :: rest =>
      let digits := rest.takeWhile isDigitChar
      if (letter == 'e' || letter == 'E') && (plus == '-' || plus == '+') && digits.any Char.isDigit
      then (letter :: plus :: digits, rest.dropWhile isDigitChar)
      else ([], letter :: plus :: rest)
  | rest => ([], rest)

def readNumber (first : Char) (rest : List Char) : Token × List Char :=
  match first, rest with
  | '0', 'x' :: _ | '0', 'o' :: _ | '0', 'b' :: _ => literalOf [first] rest
  | _, _ =>
      let (fraction, behind) := cutFraction (rest.dropWhile isDigitChar)
      let (exponent, after) := cutExponent behind
      literalOf (first :: rest.takeWhile isDigitChar ++ fraction ++ exponent) after

/-! ## Texts -/

/-- Whether a mark is joined with what follows it: another mark that starts no comment. -/
def isJoined (rest : List Char) : Bool :=
  (skipComment? rest).isNone && rest.head?.any isMarkChar

def readToken (first : Char) (rest : List Char) : Token × List Char :=
  if isWordStart first then readWord first rest
  else if first.isDigit then readNumber first rest
  else
    match first with
    | '(' => (.opening .parenthesis, rest)
    | ')' => (.closing .parenthesis, rest)
    | '[' => (.opening .bracket, rest)
    | ']' => (.closing .bracket, rest)
    | '\x7b' => (.opening .brace, rest)
    | '\x7d' => (.closing .brace, rest)
    | '"' => (quotation? [] ('"' :: rest)).getD (.mark '"' false, rest)
    | '\'' => readSingle rest
    | _ => (.mark first (isJoined rest), rest)

def scan : Nat → List Char → List Token
  | fuel + 1, first :: rest =>
      match skipComment? (first :: rest) with
      | some after => scan fuel after
      | none =>
          if isBlank first then scan fuel rest
          else
            let (token, after) := readToken first rest
            token :: scan fuel after
  | _, _ => []

/-- The tokens of a text. Each step takes at least one character. -/
def ofText (text : String) : List Token :=
  scan text.length text.toList

end RecordMapper.Declaration.Token
