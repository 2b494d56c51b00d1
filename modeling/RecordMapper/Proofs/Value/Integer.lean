import RecordMapper.Value.Basic

set_option autoImplicit false

/-!
Integers that change their width and keep their number: unsigned ones in a wider signed type, and
natural numbers back from it.
-/

namespace RecordMapper.Integer

theorem toInt_toInt64 {number : UInt64} (small : number.toNat < Value.signedBound) :
    number.toInt64.toInt = number.toNat := by
  change number.toNat < 9223372036854775808 at small
  change number.toBitVec.toInt = number.toNat
  rw [BitVec.toInt_eq_toNat_of_lt]
  · rfl
  · change 2 * number.toNat < 18446744073709551616
    omega

theorem toNat_toUInt64 {number : Int64} (natural : 0 ≤ number) :
    (number.toUInt64.toNat : Int) = number.toInt := by
  have isNatural : 0 ≤ number.toInt := by simpa [Int64.le_iff_toInt_le] using natural
  rw [Int64.toNat_toUInt64_of_le natural]
  exact Int.toNat_of_nonneg isNatural

/-- Cutting a number that fits into fewer unsigned bits keeps it. -/
theorem toNat_toUInt64_mod {number : Int64} {modulus : Nat} (lower : 0 ≤ number.toInt)
    (upper : number.toInt < modulus) : (number.toUInt64.toNat % modulus : Nat) = number.toInt := by
  have natural : 0 ≤ number := by simpa [Int64.le_iff_toInt_le] using lower
  have same := toNat_toUInt64 natural
  rw [Nat.mod_eq_of_lt (by omega), same]

/-- An unsigned number is itself in a signed type that is wider. -/
theorem toInt_widened {width wider : Nat} (bits : BitVec width) (wide : width < wider) :
    (bits.setWidth wider).toInt = bits.toNat := by
  have bound : 2 * bits.toNat < 2 ^ wider := by
    have less := bits.isLt
    have room : 2 * 2 ^ width ≤ 2 ^ wider := by
      rw [← Nat.pow_succ']
      exact Nat.pow_le_pow_right Nat.two_pos wide
    omega
  have same : (bits.setWidth wider).toNat = bits.toNat := by
    rw [BitVec.toNat_setWidth, Nat.mod_eq_of_lt (by omega)]
  rw [BitVec.toInt_eq_toNat_of_lt (by rwa [same]), same]

theorem toNat_toUInt64_of {number : Int64} {natural : Nat} (same : number.toInt = natural) :
    number.toUInt64.toNat = natural := by
  have nonnegative : 0 ≤ number := by simp [Int64.le_iff_toInt_le, same]
  exact Int.ofNat_inj.mp ((toNat_toUInt64 nonnegative).trans same)

end RecordMapper.Integer
