/-! Saturating arithmetic of fixed-width unsigned integers, on natural numbers.
Saturating subtraction is truncated subtraction and needs no definition. -/

namespace Simetro.Library

/-- Largest value of a 64-bit unsigned integer. -/
def u64Max : Nat := 18446744073709551615

/-- Largest value of a 32-bit unsigned integer. -/
def u32Max : Nat := 4294967295

/-- Largest value of a 64-bit signed integer. -/
def i64Max : Nat := 9223372036854775807

/-- Addition clamped at `limit`. -/
def saturatingAdd (limit a b : Nat) : Nat := min (a + b) limit

theorem saturatingAdd_le_add (limit a b : Nat) : saturatingAdd limit a b ≤ a + b := Nat.min_le_left _ _

theorem saturatingAdd_of_le (fits : a + b ≤ limit) : saturatingAdd limit a b = a + b :=
  Nat.min_eq_left fits

/-- A saturating sum below its limit was not clamped. -/
theorem saturatingAdd_of_lt (below : saturatingAdd limit a b < limit) :
    saturatingAdd limit a b = a + b := by
  unfold saturatingAdd at *
  omega

theorem saturatingAdd_mono (first : a ≤ a') (second : b ≤ b') :
    saturatingAdd limit a b ≤ saturatingAdd limit a' b' := by
  unfold saturatingAdd
  omega

end Simetro.Library
