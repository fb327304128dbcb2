import Mathlib
import ZephyrCcsds.Remainder

/-! # Bit strings as polynomials

A bit string is a polynomial over two elements, the leading bit that of the highest power, and a register is
a polynomial below its width.  The register that divides by `poly` leaves the remainder of polynomial division
(`ofRegister_remainder`).
-/

namespace ZephyrCcsds.Remainder

open Polynomial

variable {w : Nat}

def coefficient (bit : Bool) : ZMod 2 := if bit then 1 else 0

theorem coefficient_xor (bit bit' : Bool) : coefficient (bit ^^ bit') = coefficient bit + coefficient bit' := by
  revert bit bit'
  decide

/-- The polynomial of a bit string -/
noncomputable def ofString (string : List Bool) : (ZMod 2)[X] :=
  string.foldl (fun sum bit => sum * X + C (coefficient bit)) 0

/-- The polynomial of a register -/
noncomputable def ofRegister (register : BitVec w) : (ZMod 2)[X] :=
  ∑ i ∈ Finset.range w, C (coefficient (register.getLsbD i)) * X ^ i

/-- What a register divides by -/
noncomputable def divisor (poly : BitVec w) : (ZMod 2)[X] := X ^ w + ofRegister poly

@[simp] theorem coeff_ofRegister (register : BitVec w) (n : Nat) :
    (ofRegister register).coeff n = coefficient (register.getLsbD n) := by
  rw [ofRegister, finsetSum_coeff]
  simp only [coeff_C_mul, coeff_X_pow]
  by_cases inside : n < w
  · simp [inside]
  · have beyond : register.getLsbD n = false := BitVec.getLsbD_of_ge _ _ (by omega)
    simp [inside, beyond, coefficient]

theorem degree_ofRegister (register : BitVec w) : (ofRegister register).degree < w := by
  rw [degree_lt_iff_coeff_zero]
  intro n beyond
  rw [coeff_ofRegister, BitVec.getLsbD_of_ge _ _ beyond]
  rfl

theorem divisor_monic (poly : BitVec w) : (divisor poly).Monic := by
  exact monic_X_pow_add (degree_ofRegister poly)

theorem degree_divisor (poly : BitVec w) : (divisor poly).degree = w := by
  have smaller : (ofRegister poly).degree < (X ^ w : (ZMod 2)[X]).degree := by
    rw [degree_X_pow]
    exact degree_ofRegister poly
  rw [divisor, degree_add_eq_left_of_degree_lt smaller, degree_X_pow]

theorem ofRegister_xor (register register' : BitVec w) :
    ofRegister (register ^^^ register') = ofRegister register + ofRegister register' := by
  ext n
  simp [coefficient_xor]

/-- One step of the long division -/
theorem ofRegister_feed (width : 0 < w) (poly register : BitVec w) (bit : Bool) :
    ofRegister register * X + C (coefficient bit) =
      ofRegister (feed poly register bit) + divisor poly * C (coefficient register.msb) := by
  have cancels : ∀ bit bit' lead : Bool, coefficient (bit ^^ (lead && bit')) + coefficient bit' * coefficient lead =
      coefficient bit := by
    decide
  ext n
  rw [divisor, coeff_add, coeff_add, coeff_mul_C, coeff_add, coeff_ofRegister, coeff_ofRegister, coeff_X_pow]
  cases n with
  | zero =>
    have lowest : (feed poly register bit).getLsbD 0 = (bit ^^ (register.msb && poly.getLsbD 0)) := by
      cases msb : register.msb <;> simp [feed, msb, width]
    have empty : 0 ≠ w := by omega
    rw [lowest, if_neg empty, zero_add, cancels]
    simp
  | succ n =>
    rw [coeff_mul_X, coeff_ofRegister, coeff_C_of_ne_zero (Nat.succ_ne_zero n), add_zero]
    by_cases inside : n + 1 < w
    · have moved : (feed poly register bit).getLsbD (n + 1) =
          (register.getLsbD n ^^ (register.msb && poly.getLsbD (n + 1))) := by
        have below : n < w := by omega
        cases msb : register.msb <;> simp [feed, msb, inside, below]
      have short : n + 1 ≠ w := by omega
      rw [moved, if_neg short, zero_add, cancels]
    · have beyond : ∀ register : BitVec w, register.getLsbD (n + 1) = false := by
        intro register
        exact BitVec.getLsbD_of_ge _ _ (by omega)
      rw [beyond, beyond]
      by_cases lead : n + 1 = w
      · have leading : register.getLsbD n = register.msb := by
          rw [BitVec.msb_eq_getLsbD_last]
          congr 1
          omega
        rw [leading, if_pos lead]
        simp [coefficient]
      · have behind : register.getLsbD n = false := BitVec.getLsbD_of_ge _ _ (by omega)
        rw [behind, if_neg lead]
        simp [coefficient]

theorem ofString_foldl (sum : (ZMod 2)[X]) (string : List Bool) :
    string.foldl (fun sum bit => sum * X + C (coefficient bit)) sum = sum * X ^ string.length + ofString string := by
  induction string generalizing sum with
  | nil => simp [ofString]
  | cons bit string ih =>
    have rest : ofString (bit :: string) = C (coefficient bit) * X ^ string.length + ofString string := by
      rw [ofString, List.foldl_cons, ih]
      ring
    rw [List.foldl_cons, ih, rest, List.length_cons]
    ring

theorem ofString_append (front back : List Bool) :
    ofString (front ++ back) = ofString front * X ^ back.length + ofString back := by
  rw [ofString, List.foldl_append, ofString_foldl]
  rfl

theorem ofString_zeros (count : Nat) : ofString (List.replicate count false) = 0 := by
  induction count with
  | zero => rfl
  | succ count ih =>
    rw [List.replicate_succ', ofString_append, ih]
    simp [ofString, coefficient]

theorem foldl_feed_division (width : 0 < w) (poly register : BitVec w) (string : List Bool) :
    ∃ quotient, string.foldl (fun sum bit => sum * X + C (coefficient bit)) (ofRegister register) =
      ofRegister (string.foldl (feed poly) register) + divisor poly * quotient := by
  induction string using List.reverseRecOn with
  | nil => exact ⟨0, by simp⟩
  | append_singleton string bit ih =>
    obtain ⟨quotient, divides⟩ := ih
    refine ⟨quotient * X + C (coefficient (string.foldl (feed poly) register).msb), ?_⟩
    simp only [List.foldl_append, List.foldl_cons, List.foldl_nil]
    rw [divides, add_mul, add_right_comm, ofRegister_feed width poly]
    ring

/-- A register is left with the remainder of what it has held and what has come in behind it. -/
theorem ofRegister_foldl (width : 0 < w) (poly register : BitVec w) (string : List Bool) :
    ofRegister (string.foldl (feed poly) register) =
      (ofRegister register * X ^ string.length + ofString string) %ₘ divisor poly := by
  obtain ⟨quotient, divides⟩ := foldl_feed_division width poly register string
  rw [ofString_foldl] at divides
  exact (div_modByMonic_unique quotient _ (divisor_monic poly)
    ⟨divides.symm, by rw [degree_divisor]; exact degree_ofRegister _⟩).2.symm

/-- The same for the register with the check bits ahead, which multiplies by its width in addition -/
theorem ofRegister_foldl_feedAhead (width : 0 < w) (poly register : BitVec w) (string : List Bool) :
    ofRegister (string.foldl (feedAhead poly) register) =
      (ofRegister register * X ^ string.length + ofString string * X ^ w) %ₘ divisor poly := by
  have held := ofRegister_foldl width poly register (List.replicate string.length false)
  have come := ofRegister_foldl width poly 0 (string ++ List.replicate w false)
  have clear : ofRegister (0 : BitVec w) = 0 := by
    ext n
    simp [coefficient]
  rw [foldl_feed_zeros, ofString_zeros, List.length_replicate, add_zero] at held
  rw [clear, zero_mul, zero_add, ofString_append, ofString_zeros, List.length_replicate, add_zero] at come
  rw [foldl_feedAhead_eq, ofRegister_xor, held, add_modByMonic, ← come]
  rfl

end ZephyrCcsds.Remainder
