import RecordMapper.Binary.Layout
import RecordMapper.Text.Hexadecimal
import RecordMapper.Value.Basic

set_option autoImplicit false

/-!
Statements: SQL text with the values of its placeholders. `describeBindings` writes a list of
bound values as compact JSON for logs.
-/

namespace RecordMapper

structure Binding where
  placeholder : String
  value : Value
deriving DecidableEq, Repr

structure Statement where
  sql : String
  bindings : List Binding
deriving DecidableEq, Repr

namespace Log

/-- Escapes the quote, the backslash and the control characters, and nothing else. -/
def escape (char : Char) : List Char :=
  match char with
  | '"' => ['\\', '"']
  | '\\' => ['\\', '\\']
  | '\n' => ['\\', 'n']
  | '\r' => ['\\', 'r']
  | '\t' => ['\\', 't']
  | other =>
      let code := other.toNat
      if code = 8 then ['\\', 'b']
      else if code = 12 then ['\\', 'f']
      else if code < 32 then '\\' :: 'u' :: (Text.Hexadecimal.numeral 4 code).toList
      else [other]

def string (text : String) : String :=
  String.ofList ('"' :: text.toList.flatMap escape ++ ['"'])

def array (items : List String) : String :=
  "[" ++ String.intercalate "," items ++ "]"

def object (entries : List (String × String)) : String :=
  let written := entries.map fun (key, value) => string key ++ ":" ++ value
  "\x7b" ++ String.intercalate "," written ++ "\x7d"

private def bytes (values : List UInt8) : String :=
  array (values.map fun value => toString value.toNat)

/-- What a variant holds; NULL holds nothing. -/
def payload? : Value → Option String
  | .null => none
  | .bool value => some (if value then "true" else "false")
  | .tinyInt value => some (toString value.toInt)
  | .smallInt value => some (toString value.toInt)
  | .int value => some (toString value.toInt)
  | .bigInt value => some (toString value.toInt)
  | .unsigned value => some (toString value.toNat)
  | .float value => some (value.render?.getD "null")
  | .double value => some (value.render?.getD "null")
  | .decimal digits => some (string digits)
  | .text value => some (string value)
  | .bytes value => some (bytes value)
  | .uuid value => some (bytes value.toList)
  | .timestamp micros => some (toString micros.toInt)

/-- A value under the name of its variant; NULL is the bare name. -/
def value (value : Value) : String :=
  match payload? value with
  | none => string value.variant
  | some payload => object [(value.variant, payload)]

end Log

def describeBindings (bindings : List Binding) : String :=
  Log.array (bindings.map fun binding =>
    Log.object
      [("placeholder", Log.string binding.placeholder), ("value", Log.value binding.value)])

end RecordMapper
