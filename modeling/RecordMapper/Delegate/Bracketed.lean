import RecordMapper.Delegate.Basic

set_option autoImplicit false

/-!
A delegate that may refuse: names stand in square brackets, names that begin with an exclamation
mark are refused, and so are values of kind UUID. It creates no tables. Nothing is bound when a
value is refused.
-/

namespace RecordMapper.Delegate

private def refuse (value : Value) : Error :=
  .generation (.reported .unsupportedValue s!"plain cannot bind {value.typeName}")

def bracketed : Delegate (List Binding) where
  empty := []
  bind value := fun bindings =>
    match value with
    | .uuid _ => (.error (refuse value), bindings)
    | value =>
        let placeholder := s!":p{bindings.length + 1}"
        (.ok placeholder, bindings ++ [⟨placeholder, value⟩])
  takeBindings bindings := (bindings, [])
  quoteIdentifier _ name :=
    if name.startsWith "!" then
      .error (.schema (.reported .invalidIdentifier s!"plain cannot quote {name}"))
    else .ok s!"[{name}]"
  limitClause max skip := pure (plainLimitClause max skip)
  createTable _ _ := pure []
  createIndex _ _ _ := pure []

end RecordMapper.Delegate
