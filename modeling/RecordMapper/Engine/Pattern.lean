set_option autoImplicit false

/-!
Patterns that texts are matched against. A part of a pattern stands for one character that passes a
test, or for any number of characters. Texts are bytes; a character is a byte with the bytes that
continue it.
-/

namespace RecordMapper.Engine

abbrev Glyph := List UInt8

namespace Glyph

def isTail (byte : UInt8) : Bool :=
  128 ≤ byte && byte < 192

/-- Starts a character, or gives the next one its first byte. -/
def prepend (byte : UInt8) : List Glyph → List Glyph
  | [] => [[byte]]
  | glyph :: rest =>
      if glyph.head?.any isTail then (byte :: glyph) :: rest else [byte] :: glyph :: rest

def split (bytes : List UInt8) : List Glyph :=
  bytes.foldr prepend []

/-- The lower case of a letter of ASCII; other bytes stay. -/
def lowerByte (byte : UInt8) : UInt8 :=
  if 65 ≤ byte && byte ≤ 90 then byte + 32 else byte

def upperByte (byte : UInt8) : UInt8 :=
  if 97 ≤ byte && byte ≤ 122 then byte - 32 else byte

def lower (glyph : Glyph) : Glyph :=
  glyph.map lowerByte

def ofChar (char : Char) : Glyph :=
  [char.toNat.toUInt8]

end Glyph

inductive PatternPart where
  | one (test : Glyph → Bool)
  | any

abbrev Pattern := List PatternPart

namespace Pattern

def suffixes : List Glyph → List (List Glyph)
  | [] => [[]]
  | glyph :: rest => (glyph :: rest) :: suffixes rest

def accepts : Pattern → List Glyph → Bool
  | [], glyphs => glyphs.isEmpty
  | .any :: rest, glyphs => (suffixes glyphs).any (accepts rest)
  | .one test :: rest, glyph :: glyphs => test glyph && accepts rest glyphs
  | .one _ :: _, [] => false

/-- A character that stands for itself, in either case. -/
def sameLetter (wanted : Glyph) : PatternPart :=
  .one fun glyph => glyph.lower == wanted.lower

/-- A pattern in which `%` stands for any text and `_` for any character, unless the escape stands
before them. -/
def ofLike (escape : Option Glyph) : List Glyph → Pattern
  | [] => []
  | glyph :: rest =>
      if some glyph == escape then
        match rest with
        | [] => [.one fun _ => false]
        | next :: others => sameLetter next :: ofLike escape others
      else if glyph == Glyph.ofChar '%' then .any :: ofLike escape rest
      else if glyph == Glyph.ofChar '_' then .one (fun _ => true) :: ofLike escape rest
      else sameLetter glyph :: ofLike escape rest

def inRanges (glyph : Glyph) : List Glyph → Bool
  | low :: dash :: high :: rest =>
      if dash == Glyph.ofChar '-' then (low ≤ glyph && glyph ≤ high) || inRanges glyph rest
      else glyph == low || inRanges glyph (dash :: high :: rest)
  | listed => listed.contains glyph

/-- Splits the list of a bracket off, in which a first closing bracket stands for itself. -/
def bracketed (glyphs : List Glyph) : Option (List Glyph × List Glyph) :=
  let closing := Glyph.ofChar ']'
  let (first, others) :=
    if glyphs.head? == some closing then (glyphs.take 1, glyphs.drop 1) else ([], glyphs)
  match others.span (· != closing) with
  | (listed, _ :: rest) => some (first ++ listed, rest)
  | (_, []) => none

/-- A bracket behind its opening: one character that is in its list, or that is not. -/
def bracket (glyphs : List Glyph) : Option (PatternPart × List Glyph) :=
  let negated := glyphs.head? == some (Glyph.ofChar '^')
  (bracketed (if negated then glyphs.drop 1 else glyphs)).map fun (listed, rest) =>
    (.one fun glyph => inRanges glyph listed != negated, rest)

/-- A pattern in which `*` stands for any text, `?` for any character and a bracket for the
characters that it lists. -/
def ofGlob : Nat → List Glyph → Pattern
  | 0, _ => []
  | _, [] => []
  | fuel + 1, glyph :: rest =>
      if glyph == Glyph.ofChar '*' then .any :: ofGlob fuel rest
      else if glyph == Glyph.ofChar '?' then .one (fun _ => true) :: ofGlob fuel rest
      else if glyph == Glyph.ofChar '[' then
        match bracket rest with
        | some (part, others) => part :: ofGlob fuel others
        | none => [.one fun _ => false]
      else .one (· == glyph) :: ofGlob fuel rest

end Pattern

end RecordMapper.Engine
