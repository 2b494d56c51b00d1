set_option autoImplicit false

/-!
Finite types whose members are known by name. Looking up the name of a member finds that member,
so no two members share a name.
-/

namespace RecordMapper

class Named (α : Type) where
  members : List α
  name : α → String
  find?_name : ∀ item, members.find? (fun other => name other == name item) = some item

namespace Named

variable {α : Type} [Named α]

def ofName? (text : String) : Option α :=
  members.find? fun item => name item == text

theorem ofName?_name (item : α) : ofName? (name item) = some item :=
  find?_name item

end Named

end RecordMapper
