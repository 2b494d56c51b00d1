set_option autoImplicit false

/-!
The powers by which binary and decimal numbers are scaled.
-/

namespace RecordMapper.Binary

abbrev twoTo (exponent : Nat) : Nat :=
  Nat.pow 2 exponent

abbrev tenTo (exponent : Nat) : Nat :=
  Nat.pow 10 exponent

end RecordMapper.Binary
