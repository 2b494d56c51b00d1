import RecordMapper.Text.LetterCase

set_option autoImplicit false

/-!
The table name of a record that names none: the record's name with its words parted by
underscores. A word starts at an upper case letter behind a lower case one, and at the last of
several upper case letters before a lower case one, so an acronym is one word.
-/

namespace RecordMapper.Declaration.TableName

open Text.LetterCase

/-- Whether a word starts at an upper case letter between its neighbours. -/
def startsWord (previous next : Option Char) : Bool :=
  match previous with
  | none => false
  | some previous => isLower previous || (isUpper previous && next.any isLower)

/-- Only ASCII letters change their case. -/
def ofChars (previous : Option Char) : List Char → List Char
  | [] => []
  | char :: rest =>
      let tail := ofChars (some char) rest
      if isUpper char then
        if startsWord previous rest.head? then '_' :: char.toLower :: tail
        else char.toLower :: tail
      else char :: tail

def ofRecordName (name : String) : String :=
  String.ofList (ofChars none name.toList)

end RecordMapper.Declaration.TableName
