import Mathlib.Data.List.Nodup
import Mathlib.Data.Nat.ModEq

/-! # Weyl sequences

The sequence `seed + i * stride` modulo a modulus that the stride is coprime to.  It takes
every residue once before it repeats, so as many values as the modulus are distinct.
-/

namespace ZephyrCcsds

variable {modulus stride seed : Nat}

/-- The `i`-th value of the sequence -/
def weyl (modulus stride seed i : Nat) : Nat := (seed + i * stride) % modulus

@[simp] theorem weyl_zero (bound : seed < modulus) : weyl modulus stride seed 0 = seed := by
  rw [weyl, Nat.zero_mul, Nat.add_zero, Nat.mod_eq_of_lt bound]

/-- A sequence that starts at a later value is the rest of the sequence. -/
theorem weyl_shift (i j : Nat) :
    weyl modulus stride (weyl modulus stride seed i) j = weyl modulus stride seed (i + j) := by
  unfold weyl
  rw [Nat.mod_add_mod, Nat.add_mul, Nat.add_assoc]

theorem weyl_injective (coprime : Nat.Coprime modulus stride) {i j : Nat} (first : i < modulus)
    (second : j < modulus) (same : weyl modulus stride seed i = weyl modulus stride seed j) : i = j := by
  have multiples : i * stride ≡ j * stride [MOD modulus] := Nat.ModEq.add_left_cancel' seed same
  have indices : i ≡ j [MOD modulus] := Nat.ModEq.cancel_right_of_coprime coprime multiples
  exact Nat.ModEq.eq_of_lt_of_lt indices first second

theorem weyl_nodup (coprime : Nat.Coprime modulus stride) {n : Nat} (bound : n ≤ modulus) :
    ((List.range n).map (weyl modulus stride seed)).Nodup := by
  apply List.Nodup.map_on _ List.nodup_range
  intro i first j second same
  have first := List.mem_range.mp first
  have second := List.mem_range.mp second
  exact weyl_injective coprime (by omega) (by omega) same

end ZephyrCcsds
