import RecordMapper.Declaration.Token

set_option autoImplicit false

/-!
Types as declarations write them. What a field holds is told by the last segment of a path, its
type arguments, and by arrays; all other forms are kept as tokens. A type is printed as it was
written, but for lifetimes, which stand before all other arguments.
-/

namespace RecordMapper.Declaration

mutual

inductive TypeExpr where
  /-- A path: what stands before its last segment, that segment's name and its arguments. -/
  | path (qualifier : List Token) (name : String) (arguments : Arguments)
  /-- An array of an element type; the length is an expression. -/
  | array (element : TypeExpr) (length : List Token)
  | other (tokens : List Token)

inductive Arguments where
  | none
  /-- Arguments in angle brackets, which a double colon may precede. -/
  | angled (colons : Bool) (items : List Argument)
  | parenthesized (tokens : List Token)

inductive Argument where
  | type (type : TypeExpr) (comma : Bool)
  | lifetime (name : String) (comma : Bool)
  /-- A constant, or a name with a type or bound of its own. -/
  | other (tokens : List Token) (comma : Bool)

end

namespace Argument

def comma : Argument → Bool
  | .type _ comma => comma
  | .lifetime _ comma => comma
  | .other _ comma => comma

def isLifetime : Argument → Bool
  | .lifetime _ _ => true
  | _ => false

end Argument

/-! ## Printing -/

def closedBy (comma : Bool) (tokens : List Token) : List Token :=
  if comma then tokens ++ [.alone ','] else tokens

mutual

def TypeExpr.tokens : TypeExpr → List Token
  | .path qualifier name arguments => qualifier ++ .name name :: arguments.tokens
  | .array element length =>
      .opening .bracket :: element.tokens ++ .alone ';' :: length ++ [.closing .bracket]
  | .other tokens => tokens

def Arguments.tokens : Arguments → List Token
  | .none => []
  | .angled colons items =>
      let opening := if colons then Token.sign [':', ':'] else []
      opening ++ .alone '<' :: lifetimeTokens items ++ restTokens (lifetimesEnd items) items
        ++ [.alone '>']
  | .parenthesized tokens => tokens

def Argument.tokens : Argument → List Token
  | .type type _ => type.tokens
  | .lifetime name _ => [.lifetime name]
  | .other tokens _ => tokens

/-- The lifetimes among arguments, each with the comma that follows it. -/
def lifetimeTokens : List Argument → List Token
  | [] => []
  | .lifetime name comma :: items => closedBy comma [.lifetime name] ++ lifetimeTokens items
  | _ :: items => lifetimeTokens items

/-- Whether nothing has to part the lifetimes from what follows them. -/
def lifetimesEnd : List Argument → Bool
  | items => ((items.filter Argument.isLifetime).getLast?.map Argument.comma).getD true

/-- The other arguments. A comma is put where one was left behind a lifetime. -/
def restTokens (parted : Bool) : List Argument → List Token
  | [] => []
  | .lifetime _ _ :: items => restTokens parted items
  | item :: items =>
      (if parted then [] else [.alone ',']) ++ closedBy item.comma item.tokens
        ++ restTokens item.comma items

end

def TypeExpr.render (type : TypeExpr) : String :=
  Token.render type.tokens

end RecordMapper.Declaration
