import Mathlib.Data.Int.Init
import Mathlib.Data.BitVec

/-! Doubles by their bits, and the order of those that are numbers. -/

namespace Simetro.Library

abbrev F64Bits := BitVec 64

namespace F64Bits

/-- All bits but the sign. -/
def magnitude (value : F64Bits) : Nat := value.toNat % 2 ^ 63

/-- Past the bits of infinity. -/
def isNaN (value : F64Bits) : Bool := 0x7ff0000000000000 < value.magnitude

/-- The bits of a number in the order of the numbers; both zeros are one. -/
def place (value : F64Bits) : Int := if value.msb then -value.magnitude else value.magnitude

def gt (left right : F64Bits) : Bool := !left.isNaN && !right.isNaN && decide (right.place < left.place)

def le (left right : F64Bits) : Bool := !left.isNaN && !right.isNaN && decide (left.place ≤ right.place)

def zero : F64Bits := 0#64

def one : F64Bits := 0x3ff0000000000000#64

theorem gt_iff {left right : F64Bits} :
    left.gt right = true ↔ left.isNaN = false ∧ right.isNaN = false ∧ right.place < left.place := by
  simp [gt, and_assoc]

theorem gt_irrefl (value : F64Bits) : value.gt value = false := by simp [gt]

theorem gt_trans {top middle low : F64Bits} (above : top.gt middle = true)
    (below : middle.gt low = true) : top.gt low = true := by
  rw [gt_iff] at above below ⊢
  obtain ⟨number, -, more⟩ := above
  obtain ⟨-, lowest, less⟩ := below
  exact ⟨number, lowest, lt_trans less more⟩

theorem nan_gt {left right : F64Bits} (nan : left.isNaN = true) : left.gt right = false := by
  simp [gt, nan]

/-- Only what is no number stands beside two numbers of which one is greater. -/
theorem isNaN_of_beside {top other low : F64Bits} (above : top.gt low = true)
    (notAbove : other.gt low = false) (notBelow : top.gt other = false) : other.isNaN = true := by
  rw [gt_iff] at above
  obtain ⟨number, lowest, more⟩ := above
  by_contra finite
  have finite : other.isNaN = false := by simpa using finite
  have below : other.place ≤ low.place := by simpa [gt, finite, lowest] using notAbove
  have above : top.place ≤ other.place := by simpa [gt, finite, number] using notBelow
  exact absurd more (not_lt.mpr (above.trans below))

end F64Bits

end Simetro.Library
