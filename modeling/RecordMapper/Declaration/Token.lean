set_option autoImplicit false

/-!
The tokens of a written type. Brackets are tokens of their own; a mark tells whether it is joined
with the token after it, as the two halves of `::` are. Tokens are printed with one blank between
them, except behind a joined mark and on the inner side of parentheses and square brackets.
-/

namespace RecordMapper.Declaration

inductive Delimiter where
  | parenthesis
  | bracket
  | brace
deriving DecidableEq, Repr

inductive Token where
  | name (text : String)
  /-- A number, a text or a character, as it is written. -/
  | literal (text : String)
  | lifetime (text : String)
  | mark (char : Char) (joined : Bool)
  | opening (delimiter : Delimiter)
  | closing (delimiter : Delimiter)
deriving DecidableEq, Repr

namespace Delimiter

def openingText : Delimiter → String
  | .parenthesis => "("
  | .bracket => "["
  | .brace => "\x7b"

def closingText : Delimiter → String
  | .parenthesis => ")"
  | .bracket => "]"
  | .brace => "\x7d"

end Delimiter

namespace Token

def text : Token → String
  | .name text => text
  | .literal text => text
  | .lifetime text => text
  | .mark char _ => String.singleton char
  | .opening delimiter => delimiter.openingText
  | .closing delimiter => delimiter.closingText

def alone (char : Char) : Token :=
  .mark char false

def sign : List Char → List Token
  | [] => []
  | [last] => [alone last]
  | char :: rest => .mark char true :: sign rest

/-! ## Printing -/

/-- Whether no blank follows a token, whatever comes next. -/
def opensTight : Token → Bool
  | .mark _ joined => joined
  | .opening delimiter => delimiter != .brace
  | _ => false

def closesTight : Token → Bool
  | .closing delimiter => delimiter != .brace
  | _ => false

def render : List Token → String
  | [] => ""
  | [token] => token.text
  | token :: next :: rest =>
      let gap := if token.opensTight || next.closesTight then "" else " "
      token.text ++ gap ++ render (next :: rest)

end Token

end RecordMapper.Declaration
