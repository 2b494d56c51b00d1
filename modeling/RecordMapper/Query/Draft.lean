import RecordMapper.Delegate.Basic

set_option autoImplicit false

/-!
What changes while SQL text is rendered: the delegate's buffer, and how often each producer of
deferred expressions has been called.
-/

namespace RecordMapper

abbrev ProducerId := Nat

/-- The number of calls made to each producer. -/
structure Calls where
  count : ProducerId → Nat

namespace Calls

def zero : Calls :=
  ⟨fun _ => 0⟩

def add (calls : Calls) (producer : ProducerId) : Calls :=
  ⟨fun other => if other = producer then calls.count other + 1 else calls.count other⟩

/-- Counts a call and gives its number, from zero. -/
def next (producer : ProducerId) : StateM Calls Nat :=
  fun calls => (calls.count producer, calls.add producer)

end Calls

structure Draft (Buffer : Type) where
  buffer : Buffer
  calls : Calls

abbrev Rendering (Buffer : Type) : Type → Type :=
  Action (Draft Buffer)

namespace Rendering

variable {Buffer Result : Type}

def counting (count : StateM Calls Result) : Rendering Buffer Result :=
  fun draft =>
    let (result, calls) := count draft.calls
    (.ok result, { draft with calls })

def quote (delegate : Delegate Buffer) (name : String) : Rendering Buffer String :=
  fun draft => (delegate.quoteIdentifier draft.buffer name, draft)

def bind (delegate : Delegate Buffer) (value : Value) : Rendering Buffer String :=
  Action.zoom Draft.buffer (fun buffer draft => { draft with buffer }) (delegate.bind value)

def limitClause (delegate : Delegate Buffer) (max skip : UInt64) : Rendering Buffer String :=
  fun draft =>
    let (clause, buffer) := delegate.limitClause max skip draft.buffer
    (.ok clause, { draft with buffer })

def takeBindings (delegate : Delegate Buffer) : Rendering Buffer (List Binding) :=
  fun draft =>
    let (bindings, buffer) := delegate.takeBindings draft.buffer
    (.ok bindings, { draft with buffer })

end Rendering

end RecordMapper
