set_option autoImplicit false

/-!
Text between quote marks. A mark inside the text is written twice, so the first mark that is
not doubled ends the text.
-/

namespace RecordMapper.Text.Quoted

/-- Writes every mark of the text twice. -/
def double (mark : Char) : List Char → List Char
  | [] => []
  | char :: rest =>
      if char = mark then mark :: mark :: double mark rest else char :: double mark rest

def quote (mark : Char) (text : String) : String :=
  String.ofList (mark :: double mark text.toList ++ [mark])

/-- Reads up to the first undoubled mark, after an opening mark has been read: the text and
what follows the closing mark. A text that is never closed is refused. -/
def scan (mark : Char) : List Char → Option (List Char × List Char)
  | [] => none
  | [char] => if char = mark then some ([], []) else none
  | char :: next :: rest =>
      if char = mark then
        if next = mark then (scan mark rest).map fun (text, after) => (mark :: text, after)
        else some ([], next :: rest)
      else (scan mark (next :: rest)).map fun (text, after) => (char :: text, after)

end RecordMapper.Text.Quoted
