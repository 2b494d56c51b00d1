import RecordMapper.Declaration.Token

set_option autoImplicit false

/-!
Reading from the front of a list of tokens. A reading that finds nothing fails as a whole; those
whose names end in a question mark leave the tokens alone instead.
-/

namespace RecordMapper.Declaration

abbrev Reading := StateT (List Token) Option

namespace Reading

variable {Item : Type}

/-- Takes the next token if it is fit. -/
def take? (fits : Token → Bool) : Reading (Option Token) := fun tokens =>
  match tokens with
  | token :: rest => some (if fits token then (some token, rest) else (none, tokens))
  | [] => some (none, [])

def next? : Reading (Option Token) := do
  pure (← get).head?

def nextIs (fits : Token → Bool) : Reading Bool := do
  pure ((← get).head?.any fits)

def isMark (char : Char) : Token → Bool
  | .mark other _ => other == char
  | _ => false

def isName (text : String) (token : Token) : Bool :=
  token == .name text

def isOpening : Token → Bool
  | .opening _ => true
  | _ => false

def mark? (char : Char) : Reading Bool := do
  pure (← take? (isMark char)).isSome

def mark (char : Char) : Reading Unit := do
  guard (← mark? char)

def isPair (first second : Char) : List Token → Bool
  | .mark left true :: .mark right _ :: _ => left == first && right == second
  | _ => false

def pair? (first second : Char) : Reading Bool := do
  let found := isPair first second (← get)
  if found then modify (·.drop 2)
  pure found

def word? (text : String) : Reading Bool := do
  pure (← take? (isName text)).isSome

def oneOf? (texts : List String) : Reading (Option Token) :=
  take? fun token => texts.any fun text => isName text token

def name : Reading String := fun tokens =>
  match tokens with
  | .name text :: rest => some (text, rest)
  | _ => none

def token (wanted : Token) : Reading Unit := do
  guard (← take? (· == wanted)).isSome

/-- A list of items, each with whether a comma follows it, up to a token that ends the list. -/
def listed (ends : Token → Bool) (item : Reading Item) : Nat → Reading (List (Item × Bool))
  | 0 => failure
  | fuel + 1 => do
      if ← nextIs ends then pure []
      else
        let first ← item
        let comma ← mark? ','
        let rest ← if comma then listed ends item fuel else pure []
        pure ((first, comma) :: rest)

/-- Tokens up to the bracket that closes those read so far; they are kept as they stand. -/
def untouched : Nat → Nat → Reading (List Token)
  | 0, _ => failure
  | fuel + 1, depth => do
      let token ← fun tokens => tokens.head?.map fun token => (token, tokens)
      match token, depth with
      | .closing _, 0 => pure []
      | _, _ =>
          modify (·.drop 1)
          let inner :=
            match token with
            | .opening _ => depth + 1
            | .closing _ => depth - 1
            | _ => depth
          pure (token :: (← untouched fuel inner))

def bracketed (inside : Delimiter → Reading (List Token)) : Reading (List Token) := do
  match ← take? isOpening with
  | some (.opening delimiter) =>
      let tokens ← inside delimiter
      token (.closing delimiter)
      pure (.opening delimiter :: tokens ++ [.closing delimiter])
  | _ => failure

def untouchedGroup : Reading (List Token) := do
  let length := (← get).length
  bracketed fun _ => untouched length 0

end Reading

end RecordMapper.Declaration
