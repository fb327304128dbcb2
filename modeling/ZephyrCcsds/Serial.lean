import Mathlib.Data.Int.ModEq
import Mathlib.Algebra.Order.Group.Abs

/-! # Serial numbers

Counters that are compared through their residues.  As long as two counters are closer than
a window of at most half the modulus, the distance between their residues tells which of them
is ahead, whatever the number of wraps.
-/

namespace ZephyrCcsds

variable {modulus window a b : Int}

/-- How far a counter has to run to get from one residue to another -/
def serialDistance (modulus a b : Int) : Int := (b - a) % modulus

/-- The distance depends on the residues only. -/
@[simp] theorem serialDistance_emod :
    serialDistance modulus (a % modulus) (b % modulus) = serialDistance modulus a b := by
  unfold serialDistance
  rw [← Int.sub_emod]

theorem serialDistance_ahead (order : a ≤ b) (close : b - a < modulus) : serialDistance modulus a b = b - a :=
  Int.emod_eq_of_lt (by omega) close

theorem serialDistance_behind (order : b < a) (close : a - b < modulus) :
    serialDistance modulus a b = b - a + modulus := by
  unfold serialDistance
  rw [← Int.add_emod_right]
  exact Int.emod_eq_of_lt (by omega) (by omega)

/-- Within the window a short distance means that the second counter is not behind the first. -/
theorem serialDistance_lt_window_iff (half : 2 * window ≤ modulus) (close : |b - a| < window) :
    serialDistance modulus a b < window ↔ a ≤ b := by
  obtain ⟨below, above⟩ := abs_lt.mp close
  by_cases order : a ≤ b
  · rw [serialDistance_ahead order (by omega)]
    omega
  · -- going round takes more than the rest of the window
    rw [serialDistance_behind (by omega) (by omega)]
    omega

theorem serialDistance_eq_zero_iff (half : 2 * window ≤ modulus) (close : |b - a| < window) :
    serialDistance modulus a b = 0 ↔ a = b := by
  obtain ⟨below, above⟩ := abs_lt.mp close
  by_cases order : a ≤ b
  · rw [serialDistance_ahead order (by omega)]
    omega
  · rw [serialDistance_behind (by omega) (by omega)]
    omega

end ZephyrCcsds
