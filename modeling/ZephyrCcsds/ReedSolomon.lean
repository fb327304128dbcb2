import Mathlib.InformationTheory.Hamming
import Mathlib.LinearAlgebra.Vandermonde
import Mathlib.Tactic.Ring

/-! # Cyclic codes with consecutive roots

A word over a field is a polynomial, its first symbol at the highest degree.  A codeword vanishes at
`count` consecutive powers of a root, so two codewords that differ at no more than `count` places are the
same, and half as many errors are put right in one way only.

A systematic encoder is a register that divides by a generator.  Its parity is linear in the data, whatever
the generator is.
-/

namespace ZephyrCcsds.ReedSolomon

open Finset

section Codeword

variable {K : Type} [Field K] {n : Nat}

/-- The value of a word at a point -/
def value (point : K) (word : Fin n → K) : K := ∑ i, word i * point ^ (n - 1 - i)

theorem value_sub (point : K) (first second : Fin n → K) :
    value point (first - second) = value point first - value point second := by
  simp [value, sub_mul]

/-- The word vanishes at `count` powers of the root, from the given one on. -/
def Codeword (root : K) (start count : Nat) (word : Fin n → K) : Prop :=
  ∀ j < count, value (root ^ (start + j)) word = 0

theorem Codeword.sub {root : K} {start count : Nat} {first second : Fin n → K}
    (left : Codeword root start count first) (right : Codeword root start count second) :
    Codeword root start count (first - second) := by
  intro j inside
  rw [value_sub, left j inside, right j inside, sub_zero]

variable [DecidableEq K]

/-- A codeword with no more symbols than roots is zero: its symbols solve a Vandermonde system. -/
theorem Codeword.eq_zero {root : K} {start count : Nat} {word : Fin n → K}
    (codeword : Codeword root start count word) (nonzero : root ≠ 0)
    (distinct : ∀ i < n, ∀ j < n, root ^ i = root ^ j → i = j) (light : hammingNorm word ≤ count) :
    word = 0 := by
  let support : Finset (Fin n) := {i | word i ≠ 0}
  let place := fun k : Fin support.card => (support.equivFin.symm k : Fin n)
  let locator := fun k => root ^ (n - 1 - (place k : Nat))
  have injective : Function.Injective locator := by
    intro k k' equal
    have depth := distinct _ (by have := (place k).isLt; omega) _ (by have := (place k').isLt; omega) equal
    have same : place k = place k' := by
      apply Fin.ext
      have := (place k).isLt
      have := (place k').isLt
      omega
    exact support.equivFin.symm.injective (Subtype.ext same)
  have solution : (fun k => word (place k) * locator k ^ start) = 0 := by
    apply Matrix.eq_zero_of_forall_pow_sum_mul_pow_eq_zero injective
    intro j
    have vanishes := codeword j (lt_of_lt_of_le j.isLt light)
    rw [← vanishes, value, ← Finset.sum_subset (Finset.subset_univ support)]
    · rw [← Finset.sum_coe_sort support]
      apply Fintype.sum_equiv support.equivFin.symm
      intro k
      show word (place k) * locator k ^ start * locator k ^ (j : Nat) =
        word (place k) * (root ^ (start + (j : Nat))) ^ (n - 1 - (place k : Nat))
      rw [mul_assoc, ← pow_add, ← pow_mul, ← pow_mul, Nat.mul_comm]
    · intro i _ outside
      have zero : word i = 0 := by simpa [support] using outside
      rw [zero, zero_mul]
  funext i
  by_contra occupied
  have member : i ∈ support := by simpa [support] using occupied
  have at_place := congrFun solution (support.equivFin ⟨i, member⟩)
  simp only [place, Equiv.symm_apply_apply, Pi.zero_apply] at at_place
  rcases mul_eq_zero.mp at_place with zero | zero
  · exact occupied zero
  · exact pow_ne_zero _ (pow_ne_zero _ nonzero) zero

/-- Half as many errors as there are roots are put right in one way only. -/
theorem Codeword.correctable {root : K} {start errors : Nat} {sent other received : Fin n → K}
    (codeword : Codeword root start (2 * errors) sent) (rival : Codeword root start (2 * errors) other)
    (nonzero : root ≠ 0) (distinct : ∀ i < n, ∀ j < n, root ^ i = root ^ j → i = j)
    (near : hammingDist received sent ≤ errors) (near' : hammingDist received other ≤ errors) :
    other = sent := by
  have close : hammingDist other sent ≤ 2 * errors := by
    have := hammingDist_triangle_left other sent received
    omega
  rw [hammingDist_comm, hammingDist_eq_hammingNorm, neg_add_eq_sub] at close
  rw [← sub_eq_zero]
  exact (rival.sub codeword).eq_zero nonzero distinct close

end Codeword

section Register

variable {K : Type} [Field K] {m : Nat}

/-- One symbol through the division register, the constant term in stage `0` -/
def shift (generator register : Fin (m + 1) → K) (symbol : K) : Fin (m + 1) → K :=
  fun j => Fin.cases 0 (fun k => register k.castSucc) j + (symbol + register (Fin.last m)) * generator j

/-- The parity of some data -/
def parity (generator : Fin (m + 1) → K) (data : List K) : Fin (m + 1) → K :=
  data.foldl (shift generator) 0

/-- The parity of a unit symbol that zeros follow -/
def unitParity (generator : Fin (m + 1) → K) (zeros : Nat) : Fin (m + 1) → K :=
  (fun register => shift generator register 0)^[zeros] generator

theorem shift_add (generator register register' : Fin (m + 1) → K) (symbol symbol' : K) :
    shift generator (register + register') (symbol + symbol') =
      shift generator register symbol + shift generator register' symbol' := by
  funext j
  cases j using Fin.cases with
  | zero => simp only [shift, Pi.add_apply, Fin.cases_zero]; ring
  | succ k => simp only [shift, Pi.add_apply, Fin.cases_succ]; ring

theorem shift_smul (generator register : Fin (m + 1) → K) (scale symbol : K) :
    shift generator (scale • register) (scale * symbol) = scale • shift generator register symbol := by
  funext j
  cases j using Fin.cases with
  | zero => simp only [shift, Pi.smul_apply, smul_eq_mul, Fin.cases_zero]; ring
  | succ k => simp only [shift, Pi.smul_apply, smul_eq_mul, Fin.cases_succ]; ring

theorem shift_zero (generator : Fin (m + 1) → K) (symbol : K) :
    shift generator 0 symbol = symbol • generator := by
  funext j
  cases j using Fin.cases with
  | zero => simp [shift]
  | succ k => simp [shift]

theorem iterate_shift_add (generator left right : Fin (m + 1) → K) (zeros : Nat) :
    (fun register => shift generator register 0)^[zeros] (left + right) =
      (fun register => shift generator register 0)^[zeros] left +
        (fun register => shift generator register 0)^[zeros] right := by
  induction zeros generalizing left right with
  | zero => rfl
  | succ zeros ih =>
    have step := shift_add generator left right 0 0
    rw [add_zero] at step
    rw [Function.iterate_succ_apply, step, ih, Function.iterate_succ_apply, Function.iterate_succ_apply]

/-- The register after some data: what was in it goes round with zeros, and the parity comes on top. -/
theorem foldl_shift (generator register : Fin (m + 1) → K) (data : List K) :
    data.foldl (shift generator) register =
      (fun register => shift generator register 0)^[data.length] register + parity generator data := by
  induction data generalizing register with
  | nil => simp [parity]
  | cons symbol data ih =>
    have split : shift generator register symbol =
        shift generator register 0 + shift generator 0 symbol := by
      rw [← shift_add, add_zero, zero_add]
    have after : parity generator (symbol :: data) =
        (fun register => shift generator register 0)^[data.length] (shift generator 0 symbol) +
          parity generator data := ih _
    rw [List.foldl_cons, ih, split, iterate_shift_add, List.length_cons, Function.iterate_succ_apply, after, add_assoc]

theorem iterate_shift_smul (generator register : Fin (m + 1) → K) (scale : K) (zeros : Nat) :
    (fun register => shift generator register 0)^[zeros] (scale • register) =
      scale • (fun register => shift generator register 0)^[zeros] register := by
  induction zeros generalizing register with
  | zero => rfl
  | succ zeros ih =>
    have step := shift_smul generator register scale 0
    rw [mul_zero] at step
    rw [Function.iterate_succ_apply, step, ih, Function.iterate_succ_apply]

/-- The parity is linear in the data. -/
theorem parity_eq_sum (generator : Fin (m + 1) → K) (data : List K) (j : Fin (m + 1)) :
    parity generator data j =
      ∑ i : Fin data.length, data[i] * unitParity generator (data.length - 1 - i) j := by
  induction data with
  | nil => simp [parity]
  | cons symbol data ih =>
    have rest : ∀ i : Fin data.length,
        (symbol :: data)[i.succ] * unitParity generator ((symbol :: data).length - 1 - (i.succ : Nat)) j =
          data[i] * unitParity generator (data.length - 1 - i) j := by
      intro i
      have depth : (symbol :: data).length - 1 - (i.succ : Nat) = data.length - 1 - i := by simp; omega
      rw [depth]
      rfl
    rw [parity, List.foldl_cons, foldl_shift, shift_zero, iterate_shift_smul, Pi.add_apply, ih]
    show _ = ∑ i : Fin (data.length + 1), _
    rw [Fin.sum_univ_succ, Finset.sum_congr rfl (fun i _ => rest i)]
    rfl

end Register

end ZephyrCcsds.ReedSolomon
