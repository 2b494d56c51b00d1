import RecordMapper.Error

set_option autoImplicit false

/-!
Transactions around an arbitrary computation. When the body fails, the transaction is rolled
back and the body's own failure is reported, unless the rollback fails as well.
-/

namespace RecordMapper.Transaction

variable {m : Type → Type} [Monad m] {Result : Type}

def failure (kind : TransactionError.Kind) (message : String) : Error :=
  .transaction ⟨kind, message⟩

/-- Runs a body between BEGIN and COMMIT; `run` executes one control statement. -/
def around (run : String → m (Except Error Unit)) (body : m (Except Error Result)) :
    m (Except Error Result) := do
  match ← run "BEGIN" with
  | .error error => pure (.error (failure .begin error.message))
  | .ok () =>
      match ← body with
      | .ok result =>
          match ← run "COMMIT" with
          | .ok () => pure (.ok result)
          | .error error => pure (.error (failure .commit error.message))
      | .error error =>
          match ← run "ROLLBACK" with
          | .ok () => pure (.error error)
          | .error rollback =>
              pure (.error (failure .rollbackFailed
                s!"{error.message}; rollback failed: {rollback.message}"))

end RecordMapper.Transaction
