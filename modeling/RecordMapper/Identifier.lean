set_option autoImplicit false

/-!
Plain identifiers: a letter or an underscore, then letters, digits and underscores. Letters and
digits are those of ASCII. Declared tables and columns have such names.
-/

namespace RecordMapper.Identifier

def isStart (char : Char) : Bool :=
  char.isAlpha || char == '_'

def isContinue (char : Char) : Bool :=
  char.isAlphanum || char == '_'

def isPlain (name : String) : Bool :=
  match name.toList with
  | [] => false
  | first :: rest => isStart first && rest.all isContinue

end RecordMapper.Identifier
