import Mathlib.Algebra.Order.Group.Nat
import Mathlib.Tactic.Ring

/-! A meter: a rate in parts of a unit, released in whole units with the fraction carried over. -/

namespace Simetro.Library

structure Meter where
  carried : Nat
  released : Nat
  deriving DecidableEq

namespace Meter

variable (unit rate : Nat)

/-- One turn adds the rate and releases the whole units. -/
def turn (meter : Meter) : Meter where
  carried := (meter.carried + rate) % unit
  released := meter.released + (meter.carried + rate) / unit

/-- The meter after a number of turns: nothing is lost to rounding. -/
def after (turns : Nat) : Meter := ⟨turns * rate % unit, turns * rate / unit⟩

theorem after_zero : after unit rate 0 = ⟨0, 0⟩ := by
  simp [after]

theorem turn_after (positive : 0 < unit) (turns : Nat) :
    (after unit rate turns).turn unit rate = after unit rate (turns + 1) := by
  have total : (turns + 1) * rate =
      (turns * rate % unit + rate) + unit * (turns * rate / unit) := by
    have parts := Nat.mod_add_div (turns * rate) unit
    rw [Nat.add_one_mul]
    omega
  unfold turn after
  rw [total, Nat.add_mul_mod_self_left, Nat.add_mul_div_left _ _ positive, Nat.add_comm (_ / _)]

/-- A turn carries less than a unit. -/
theorem carried_after_lt (positive : 0 < unit) (turns : Nat) : (after unit rate turns).carried < unit :=
  Nat.mod_lt _ positive

end Meter

end Simetro.Library
