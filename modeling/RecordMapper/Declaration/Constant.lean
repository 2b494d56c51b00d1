import RecordMapper.Declaration.Token.Reading

set_option autoImplicit false

/-!
Constant expressions inside types: the length of an array, or a block as an argument. Their tokens
are kept in order; what is read is only where an operator of several marks stands and where a
type does. Behind an operand the longest operator is taken, while marks before an operand stand
alone: `a && b` has one operator, `&&a` two.
-/

namespace RecordMapper.Declaration.Constant

open Reading

inductive Place where
  | operand
  /-- An operand has been read. -/
  | operator
  /-- Behind the dot of a member. -/
  | member
  /-- Inside a pattern that is bound. -/
  | binding
deriving DecidableEq, Repr

def operators : List (List Char) :=
  ["<<=", ">>=", "..=", "...", "&&", "||", "==", "!=", "<=", ">=", "<<", ">>", "+=", "-=", "*=",
    "/=", "%=", "^=", "&=", "|=", "..", "->", "=>", "::"].map String.toList

def startsWith : List Char → List Token → Bool
  | [], _ => true
  | [char], .mark other _ :: _ => char == other
  | char :: rest, .mark other true :: tokens => char == other && startsWith rest tokens
  | _, _ => false

/-- The marks of the longest operator at the front; a mark alone if there is none. -/
def longest (tokens : List Token) : List Char :=
  match operators.find? (startsWith · tokens), tokens with
  | some operator, _ => operator
  | none, .mark char _ :: _ => [char]
  | none, _ => []

/-- Words behind which an operand follows. -/
def leads (word : String) : Bool :=
  ["return", "break", "continue", "match", "if", "while", "in", "move", "mut", "ref", "else",
    "unsafe", "loop", "async", "const", "static", "yield", "for", "where", "do"].contains word

/-- A member that is written as a fraction is two members. -/
def memberTokens (text : String) : List Token :=
  let parts := (text.splitOn ".").filter (!·.isEmpty)
  let tokens := (parts.map Token.literal).intersperse (.alone '.')
  if text.endsWith "." then tokens ++ [.alone '.'] else tokens

def sign : Reading (List Char) := do
  let chars := longest (← get)
  modify (·.drop chars.length)
  pure chars

section

variable (type : Reading (List Token)) (arguments : Reading (List Token))

/-- Reads a word and what belongs to it: the type behind `as`, or the group of a macro. -/
def worded (word : String) (place : Place) : Reading (List Token × Place) := do
  if word == "as" && place == .operator then pure (← type, .operator)
  else if word == "let" then pure ([], .binding)
  else
    match ← get with
    | .mark '!' _ :: .opening _ :: _ =>
        mark '!'
        pure (.alone '!' :: (← untouchedGroup), .operator)
    | _ => pure ([], if leads word then .operand else .operator)

/-- Reads marks, told by whether an operand stands before them. -/
def marked (place : Place) : Reading (List Token × Place) := do
  let tokens ← get
  match tokens, place with
  | .mark ':' _ :: _, .binding =>
      if isPair ':' ':' tokens then pure (Token.sign (← sign), .binding)
      else
        mark ':'
        pure (.alone ':' :: (← type), .binding)
  | .mark '=' _ :: _, .binding =>
      mark '='
      pure ([.alone '='], .operand)
  | .mark '<' _ :: _, .operand =>
      mark '<'
      let start ← type
      let bound ← if ← word? "as" then (.name "as" :: ·) <$> type else pure []
      mark '>'
      pure (.alone '<' :: start ++ bound ++ [.alone '>'], .operator)
  | .mark char _ :: _, .operand =>
      if ['&', '|', '-', '!', '*'].contains char then
        mark char
        pure ([.alone char], .operand)
      else pure (Token.sign (← sign), .operand)
  | _, _ =>
      match ← sign with
      | ['.'] => pure ([.alone '.'], .member)
      | ['?'] => pure ([.alone '?'], .operator)
      | [':', ':'] =>
          let given ← if ← nextIs (isMark '<') then arguments else pure []
          pure (Token.sign [':', ':'] ++ given, if given.isEmpty then .operand else .operator)
      | ['-', '>'] => pure (Token.sign ['-', '>'] ++ (← type), .operator)
      | chars =>
          let bound := place == .binding && chars != [';']
          pure (Token.sign chars, if bound then .binding else .operand)

def read : Nat → Place → Reading (List Token)
  | 0, _ => failure
  | fuel + 1, place => do
      match ← next? with
      | none | some (.closing _) => pure []
      | some (.opening _) =>
          let group ← bracketed fun _ => read fuel .operand
          pure (group ++ (← read fuel (if place == .binding then .binding else .operator)))
      | some (.name word) =>
          modify (·.drop 1)
          let (more, next) ← worded type word place
          let next := if place == .binding then .binding else next
          pure (.name word :: more ++ (← read fuel next))
      | some (.literal text) =>
          modify (·.drop 1)
          let tokens := if place == .member then memberTokens text else [.literal text]
          let unfinished := place == .member && text.endsWith "."
          pure (tokens ++ (← read fuel (if unfinished then .member else .operator)))
      | some (.lifetime name) =>
          modify (·.drop 1)
          pure (.lifetime name :: (← read fuel .operand))
      | some (.mark _ _) =>
          let (tokens, next) ← marked type arguments place
          pure (tokens ++ (← read fuel next))

end

end RecordMapper.Declaration.Constant
