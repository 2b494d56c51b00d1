import RecordMapper.Declaration.Constant
import RecordMapper.Declaration.Token.Scan
import RecordMapper.Declaration.TypeExpr

set_option autoImplicit false

/-!
Reading types. A type is a path, an array, or one of the forms that are kept as tokens: tuples and
types in parentheses, slices, references and pointers, functions, bounds, macros. Within those,
too, every nested type is read, so that signs are told apart wherever they stand.
-/

namespace RecordMapper.Declaration

namespace TypeReading

open Reading

section

-- Reads a nested type; a sum of bounds counts as one where `sums` allows it.
variable (inner : (sums : Bool) → Reading TypeExpr)

def innerTokens (sums : Bool) : Reading (List Token) :=
  TypeExpr.tokens <$> inner sums

/-- Tokens of items parted by commas, up to a token that ends the list. -/
def listTokens (ends : Token → Bool) (item : Reading (List Token)) : Reading (List Token) := do
  let items ← listed ends item ((← get).length + 1)
  pure (items.flatMap fun (tokens, comma) => closedBy comma tokens)

def isClosing : Token → Bool
  | .closing _ => true
  | _ => false

/-- The result of a function, if it has one. -/
def resultTokens : Reading (List Token) := do
  if ← pair? '-' '>' then pure (Token.sign ['-', '>'] ++ (← innerTokens inner false))
  else pure []

def signature : Reading (List Token) := do
  let parameters ← bracketed fun _ => listTokens isClosing (innerTokens inner true)
  pure (parameters ++ (← resultTokens inner))

/-! ## Bounds -/

/-- The lifetimes that `for` binds; each may have bounds of its own. -/
def binder? : Reading (List Token) := do
  match ← get with
  | .name "for" :: .mark '<' _ :: rest =>
      let bound := rest.takeWhile fun token => !isMark '>' token
      set (rest.drop bound.length)
      mark '>'
      let plain := bound.map fun token =>
        match token with
        | .mark char _ => Token.alone char
        | other => other
      pure (.name "for" :: .alone '<' :: plain ++ [.alone '>'])
  | _ => pure []

/-- One bound: a lifetime, or a path that modifiers may precede, in parentheses or not. -/
def bound : Reading (List Token) := do
  match ← get with
  | .lifetime name :: rest =>
      set rest
      pure [.lifetime name]
  | .opening .parenthesis :: _ => bracketed fun _ => plainBound
  | _ => plainBound
where
  plainBound : Reading (List Token) := do
    let optional := if ← mark? '?' then [Token.alone '?'] else []
    let tilde := if ← mark? '~' then [Token.alone '~'] else []
    let word := (← oneOf? ["const", "async"]).toList
    let binder ← binder?
    pure (optional ++ tilde ++ word ++ binder ++ (← innerTokens inner false))

/-- Further bounds, each behind a plus sign; the last sign may stand alone. -/
def moreBounds : Nat → Reading (List Token)
  | 0 => failure
  | fuel + 1 => do
      if ← mark? '+' then
        let ended ← (do pure ((← get).head?.all fun token =>
          isClosing token || isMark ',' token || isMark '>' token || isMark '=' token))
        if ended then pure [.alone '+']
        else
          let first ← bound inner
          pure (.alone '+' :: first ++ (← moreBounds fuel))
      else pure []

def bounds (sums : Bool) : Reading (List Token) := do
  let first ← bound inner
  if sums then pure (first ++ (← moreBounds inner ((← get).length + 1))) else pure first

/-! ## Arguments -/

def constant (place : Constant.Place) (arguments : Reading (List Token)) :
    Reading (List Token) := do
  Constant.read (innerTokens inner false) arguments ((← get).length + 1) place

/-- A constant as an argument: a literal, which may be negative, or a block. -/
def constantArgument? (arguments : Reading (List Token)) : Reading (Option (List Token)) := do
  match ← get with
  | .literal text :: rest =>
      set rest
      pure (some [.literal text])
  | .mark '-' _ :: .literal text :: rest =>
      set rest
      pure (some [.alone '-', .literal text])
  | .name "true" :: rest =>
      set rest
      pure (some [.name "true"])
  | .name "false" :: rest =>
      set rest
      pure (some [.name "false"])
  | .opening .brace :: _ =>
      some <$> bracketed fun _ => constant inner .operand arguments
  | _ => pure none

/-- An argument that starts as a type: the type alone, or a name that is set or bounded. -/
def typeArgument (arguments : Reading (List Token)) : Reading (Bool → Argument) := do
  let type ← inner true
  if ← mark? '=' then
    let value ←
      match ← constantArgument? inner arguments with
      | some tokens => pure tokens
      | none => innerTokens inner true
    pure (.other (type.tokens ++ .alone '=' :: value))
  else if (← nextIs (isMark ':')) && !(isPair ':' ':' (← get)) then
    mark ':'
    let limits ← if ← nextIs (fun token => isMark ',' token || isMark '>' token) then pure []
      else bounds inner true
    pure (.other (type.tokens ++ .alone ':' :: limits))
  else pure (.type type)

def argument (arguments : Reading (List Token)) : Reading (Bool → Argument) := do
  match ← get with
  | .lifetime _ :: .mark '+' _ :: _ => typeArgument inner arguments
  | .lifetime name :: rest =>
      set rest
      pure (.lifetime name)
  | _ =>
      match ← constantArgument? inner arguments with
      | some tokens => pure (.other tokens)
      | none => typeArgument inner arguments

/-- Arguments in angle brackets, behind the double colon that may precede them. The fuel bounds
how deep blocks go into each other. -/
def angled (colons : Bool) : Nat → Reading Arguments
  | 0 => failure
  | fuel + 1 => do
      mark '<'
      let nested := Arguments.tokens <$> angled false fuel
      let items ← listed (isMark '>') (argument inner nested) ((← get).length + 1)
      mark '>'
      pure (.angled colons (items.map fun (make, comma) => make comma))

/-- The arguments of a path segment. A double colon before parentheses is left out. -/
def segmentArguments : Reading Arguments := do
  let tokens ← get
  match tokens with
  | .mark '<' _ :: _ => angled inner false (tokens.length + 1)
  | .opening .parenthesis :: _ => .parenthesized <$> signature inner
  | _ =>
      match isPair ':' ':' tokens, tokens.drop 2 with
      | true, .mark '<' _ :: _ =>
          set (tokens.drop 2)
          angled inner true (tokens.length + 1)
      | true, .opening .parenthesis :: _ =>
          set (tokens.drop 2)
          .parenthesized <$> signature inner
      | _, _ => pure .none

/-! ## Paths -/

def segments (before : List Token) : Nat → Reading TypeExpr
  | 0 => failure
  | fuel + 1 => do
      let name ← name
      let arguments ← segmentArguments inner
      if ← pair? ':' ':' then
        segments (before ++ .name name :: arguments.tokens ++ Token.sign [':', ':']) fuel
      else pure (.path before name arguments)

/-- A path that may start with a double colon, or with a type in angle brackets that may be seen
through the path behind `as`. -/
def path : Reading TypeExpr := do
  let fuel := (← get).length + 1
  if ← pair? ':' ':' then segments inner (Token.sign [':', ':']) fuel
  else if ← mark? '<' then
    let start ← innerTokens inner true
    let view ← if ← word? "as" then (.name "as" :: ·) <$> innerTokens inner false else pure []
    mark '>'
    guard (← pair? ':' ':')
    segments inner (.alone '<' :: start ++ view ++ .alone '>' :: Token.sign [':', ':']) fuel
  else segments inner [] fuel

/-- A path, or what a path starts: a macro or a sum of bounds. -/
def pathOrMore (sums : Bool) : Reading TypeExpr := do
  let read ← path inner
  match ← get with
  | .mark '!' _ :: .opening _ :: _ =>
      mark '!'
      pure (.other (read.tokens ++ .alone '!' :: (← untouchedGroup)))
  | .mark '+' _ :: _ =>
      if sums then pure (.other (read.tokens ++ (← moreBounds inner ((← get).length + 1))))
      else pure read
  | _ => pure read

/-! ## Other forms -/

/-- A parameter of a function type: a type that a name may precede, or dots for any number. -/
def parameter : Reading (List Token) := do
  match ← get with
  | .mark '.' true :: .mark '.' true :: .mark '.' _ :: rest =>
      set rest
      pure (Token.sign ['.', '.', '.'])
  | .name name :: .mark ':' joined :: rest =>
      if isPair ':' ':' (.mark ':' joined :: rest) then innerTokens inner true
      else
        set rest
        pure (.name name :: .alone ':' :: (← innerTokens inner true))
  | _ => innerTokens inner true

def function : Reading (List Token) := do
  let careless := (← oneOf? ["unsafe"]).toList
  let foreign := (← oneOf? ["extern"]).toList
  let convention := (← take? fun token =>
    match token with
    | .literal _ => true
    | _ => false).toList
  token (.name "fn")
  let parameters ← bracketed fun _ => listTokens isClosing (parameter inner)
  pure (careless ++ foreign ++ convention ++ .name "fn" :: parameters ++ (← resultTokens inner))

/-- Types in parentheses; bounds may follow them. -/
def grouped (sums : Bool) : Reading (List Token) := do
  let group ← bracketed fun _ => listTokens isClosing do
    match (← get).head? with
    | some (.mark '?' _) => bounds inner true
    | _ => innerTokens inner true
  if sums then pure (group ++ (← moreBounds inner ((← get).length + 1))) else pure group

def sequence : Reading TypeExpr := do
  token (.opening .bracket)
  let element ← inner true
  if ← mark? ';' then
    let fuel := (← get).length + 1
    let length ← constant inner .operand (Arguments.tokens <$> angled inner false fuel)
    token (.closing .bracket)
    pure (.array element length)
  else
    token (.closing .bracket)
    pure (.other (.opening .bracket :: element.tokens ++ [.closing .bracket]))

def pointed (char : Char) : Reading (List Token) := do
  mark char
  let lifetime := (← take? fun token =>
    match token with
    | .lifetime _ => true
    | _ => false).toList
  let access := (← oneOf? ["mut", "const"]).toList
  pure (.alone char :: lifetime ++ access ++ (← innerTokens inner false))

def isFunctionStart (tokens : List Token) : Bool :=
  tokens.head?.any fun token => ["fn", "unsafe", "extern"].any (isName · token)

/-- The bounds behind `dyn` or `impl`. -/
def bounded (word : String) (sums : Bool) : Reading (List Token) := do
  token (.name word)
  pure (.name word :: (← bounds inner sums))

def form (sums : Bool) : Reading TypeExpr := do
  let tokens ← get
  if isFunctionStart tokens then .other <$> function inner
  else
    match tokens with
    | .opening .bracket :: _ => sequence inner
    | .opening .parenthesis :: _ => .other <$> grouped inner sums
    | .mark '&' _ :: _ => .other <$> pointed inner '&'
    | .mark '*' _ :: _ => .other <$> pointed inner '*'
    | .mark '!' _ :: rest =>
        set rest
        pure (.other [.alone '!'])
    | .lifetime _ :: _ => .other <$> bounds inner sums
    | .name "dyn" :: _ => .other <$> bounded inner "dyn" sums
    | .name "impl" :: _ => .other <$> bounded inner "impl" sums
    | .name "for" :: _ =>
        let binder ← binder?
        let bare := isFunctionStart (← get)
        let rest ← if bare then function inner else bounds inner sums
        pure (.other (binder ++ rest))
    | .name "_" :: rest =>
        set rest
        pure (.other [.name "_"])
    | _ => pathOrMore inner sums

end

/-- Reads a type; the fuel bounds how deep types go into each other. -/
def read : Nat → Bool → Reading TypeExpr
  | 0, _ => failure
  | fuel + 1, sums => form (read fuel) sums

end TypeReading

/-- The type that tokens write; tokens that write none are kept as they stand. -/
def TypeExpr.ofTokens (tokens : List Token) : TypeExpr :=
  match (TypeReading.read (tokens.length + 1) true).run tokens with
  | some (type, []) => type
  | _ => .other tokens

def TypeExpr.ofText (text : String) : TypeExpr :=
  ofTokens (Token.ofText text)

end RecordMapper.Declaration
