import Mathlib.Algebra.Field.Basic
import Mathlib.Data.Fintype.EquivFin
import Mathlib.Dynamics.PeriodicPts.Defs
import Mathlib.GroupTheory.OrderOfElement
import Mathlib.Tactic.Abel

/-! # The field with 256 elements

Octets as polynomials over two elements, modulo the field polynomial `x⁸ + x⁷ + x² + x + 1`.  Addition
is the exclusive or.  Multiplication is made of doublings, and every law of it comes from two facts:
doubling is additive, and every nonzero element is reached from `1` by doubling.
-/

namespace ZephyrCcsds

/-- An element, with the coefficient of `xⁱ` in bit `i`. -/
@[ext] structure Gf256 where
  bits : BitVec 8
  deriving DecidableEq, Repr

namespace Gf256

/-! ## Addition -/

instance : Zero Gf256 := ⟨⟨0⟩⟩

instance : One Gf256 := ⟨⟨1⟩⟩

instance : Neg Gf256 := ⟨id⟩

instance : Add Gf256 := ⟨fun a b => ⟨a.bits ^^^ b.bits⟩⟩

@[simp] theorem zero_bits : (0 : Gf256).bits = 0 := rfl

@[simp] theorem add_bits (a b : Gf256) : (a + b).bits = a.bits ^^^ b.bits := rfl

protected theorem add_self (a : Gf256) : a + a = 0 := by
  ext1
  exact BitVec.xor_self

instance : AddCommGroup Gf256 where
  add_assoc a b c := by
    ext1
    exact BitVec.xor_assoc ..
  zero_add a := by
    ext1
    exact BitVec.zero_xor
  add_zero a := by
    ext1
    exact BitVec.xor_zero
  add_comm a b := by
    ext1
    exact BitVec.xor_comm ..
  neg_add_cancel := Gf256.add_self
  nsmul := nsmulRec
  zsmul := zsmulRec

/-! ## Doubling -/

/-- The product with `x` -/
def double (a : Gf256) : Gf256 := ⟨a.bits <<< 1 ^^^ if a.bits.msb then 0x87 else 0⟩

theorem double_add (a b : Gf256) : double (a + b) = double a + double b := by
  ext1
  simp only [double, add_bits, BitVec.shiftLeft_xor_distrib, BitVec.msb_xor]
  generalize a.bits <<< 1 = u, b.bits <<< 1 = v
  cases a.bits.msb <;> cases b.bits.msb
  case true.true =>
    -- The two wraps cancel.
    have cancel : u ^^^ 0x87#8 ^^^ (v ^^^ 0x87#8) = u ^^^ v ^^^ (0x87#8 ^^^ 0x87#8) := by ac_rfl
    simp [cancel]
  all_goals simp <;> ac_rfl

theorem double_zero : double 0 = 0 := rfl

theorem iterate_double_add (i : Nat) (a b : Gf256) : double^[i] (a + b) = double^[i] a + double^[i] b := by
  induction i generalizing a b with
  | zero => rfl
  | succ i ih => rw [Function.iterate_succ_apply, double_add, ih, Function.iterate_succ_apply,
      Function.iterate_succ_apply]

/-- The field polynomial, as a law of doubling -/
theorem iterate_double_eight (a : Gf256) :
    double^[8] a = double^[7] a + double^[2] a + double a + a := by
  obtain ⟨bits⟩ := a
  revert bits
  decide +kernel

/-! ## Multiplication -/

/-- `a` or nothing -/
def select (c : Bool) (a : Gf256) : Gf256 := if c then a else 0

theorem select_xor (c d : Bool) (a : Gf256) : select (c ^^ d) a = select c a + select d a := by
  cases c <;> cases d <;> simp [select, Gf256.add_self]

theorem select_add (c : Bool) (a b : Gf256) : select c (a + b) = select c a + select c b := by
  cases c <;> simp [select]

theorem double_select (c : Bool) (a : Gf256) : double (select c a) = select c (double a) := by
  cases c with
  | false => exact double_zero
  | true => rfl

instance : Mul Gf256 where
  mul a b :=
    select (a.bits.getLsbD 0) b + select (a.bits.getLsbD 1) (double^[1] b) +
      select (a.bits.getLsbD 2) (double^[2] b) + select (a.bits.getLsbD 3) (double^[3] b) +
      select (a.bits.getLsbD 4) (double^[4] b) + select (a.bits.getLsbD 5) (double^[5] b) +
      select (a.bits.getLsbD 6) (double^[6] b) + select (a.bits.getLsbD 7) (double^[7] b)

theorem mul_def (a b : Gf256) : a * b =
    select (a.bits.getLsbD 0) b + select (a.bits.getLsbD 1) (double^[1] b) +
      select (a.bits.getLsbD 2) (double^[2] b) + select (a.bits.getLsbD 3) (double^[3] b) +
      select (a.bits.getLsbD 4) (double^[4] b) + select (a.bits.getLsbD 5) (double^[5] b) +
      select (a.bits.getLsbD 6) (double^[6] b) + select (a.bits.getLsbD 7) (double^[7] b) := rfl

protected theorem mul_add (a b c : Gf256) : a * (b + c) = a * b + a * c := by
  simp only [mul_def, iterate_double_add, select_add]
  abel

protected theorem add_mul (a b c : Gf256) : (a + b) * c = a * c + b * c := by
  simp only [mul_def, add_bits, BitVec.getLsbD_xor, select_xor]
  abel

protected theorem zero_mul (a : Gf256) : 0 * a = 0 := by
  have twice := Gf256.add_mul 0 0 a
  rwa [add_zero, left_eq_add] at twice

protected theorem mul_zero (a : Gf256) : a * 0 = 0 := by
  have twice := Gf256.mul_add a 0 0
  rwa [add_zero, left_eq_add] at twice

protected theorem one_mul (a : Gf256) : 1 * a = a := by
  show select true a + select false _ + select false _ + select false _ + select false _ +
    select false _ + select false _ + select false _ = a
  simp [select]

/-- The bits of a double: the top bit goes back in at the terms of the field polynomial. -/
theorem double_bits (a : Gf256) : ∀ i < 8, (double a).bits.getLsbD i =
    (if i = 0 then a.bits.getLsbD 7
      else a.bits.getLsbD (i - 1) ^^ (decide (i = 1 ∨ i = 2 ∨ i = 7) && a.bits.getLsbD 7)) := by
  obtain ⟨bits⟩ := a
  revert bits
  decide +kernel

protected theorem double_mul (a b : Gf256) : double a * b = double (a * b) := by
  have wrap := iterate_double_eight b
  have bits := fun i inside => double_bits a i inside
  simp only [mul_def, double_add, double_select]
  rw [bits 0 (by decide), bits 1 (by decide), bits 2 (by decide), bits 3 (by decide), bits 4 (by decide),
    bits 5 (by decide), bits 6 (by decide), bits 7 (by decide)]
  simp only [← Function.iterate_succ_apply' double]
  simp [select_xor, wrap, select_add]
  abel

protected theorem iterate_double_mul (i : Nat) (a b : Gf256) : double^[i] a * b = double^[i] (a * b) := by
  induction i with
  | zero => rfl
  | succ i ih => rw [Function.iterate_succ_apply', Gf256.double_mul, ih, Function.iterate_succ_apply']

/-! ## Powers of the generator -/

theorem iterate_double_order : double^[255] (1 : Gf256) = 1 := by decide +kernel

/-- Doubling comes back to one after 255 turns and not before. -/
theorem minimalPeriod_double : Function.minimalPeriod double 1 = 255 := by
  have divides : Function.minimalPeriod double 1 ∣ 255 :=
    Function.IsPeriodicPt.minimalPeriod_dvd iterate_double_order
  have returns := Function.isPeriodicPt_minimalPeriod double (1 : Gf256)
  have proper : ∀ d ≤ 254, d ∣ 255 → double^[d] (1 : Gf256) ≠ 1 := by decide +kernel
  by_contra other
  have small := Nat.le_of_dvd (by decide) divides
  exact proper _ (by omega) divides returns

theorem double_ne_zero (a : Gf256) (nonzero : a ≠ 0) : double a ≠ 0 := by
  obtain ⟨bits⟩ := a
  revert bits
  decide +kernel

theorem iterate_double_ne_zero (i : Nat) : double^[i] (1 : Gf256) ≠ 0 := by
  induction i with
  | zero => decide
  | succ i ih =>
    rw [Function.iterate_succ_apply']
    exact double_ne_zero _ ih

def equivFin : Fin (2 ^ 8) ≃ Gf256 where
  toFun n := ⟨BitVec.ofFin n⟩
  invFun a := a.bits.toFin
  left_inv _ := rfl
  right_inv _ := rfl

instance : Fintype Gf256 := Fintype.ofEquiv _ equivFin

theorem card_eq : Fintype.card Gf256 = 256 := by
  rw [Fintype.card_congr equivFin.symm, Fintype.card_fin]
  rfl

/-- Doubling reaches every nonzero element from one: there are as many as it has turns. -/
theorem exists_iterate_double (a : Gf256) (nonzero : a ≠ 0) : ∃ i < 255, a = double^[i] 1 := by
  let orbit := fun i : Fin 255 => (⟨double^[i] 1, iterate_double_ne_zero i⟩ : {a : Gf256 // a ≠ 0})
  have injective : Function.Injective orbit := by
    intro i j equal
    apply Fin.ext
    apply @Function.iterate_injOn_Iio_minimalPeriod _ double 1
    · rw [Set.mem_Iio, minimalPeriod_double]
      exact i.isLt
    · rw [Set.mem_Iio, minimalPeriod_double]
      exact j.isLt
    · exact congrArg Subtype.val equal
  have count : Fintype.card (Fin 255) = Fintype.card {a : Gf256 // a ≠ 0} := by
    rw [Fintype.card_subtype_compl, card_eq, Fintype.card_subtype_eq, Fintype.card_fin]
  obtain ⟨i, reached⟩ := ((Fintype.bijective_iff_injective_and_card orbit).mpr ⟨injective, count⟩).2 ⟨a, nonzero⟩
  exact ⟨i, i.isLt, (congrArg Subtype.val reached).symm⟩

/-- Sums and doublings of `1` are everything, so what holds of them holds. -/
protected theorem mul_comm (a b : Gf256) : a * b = b * a := by
  by_cases zero : a = 0
  · rw [zero, Gf256.zero_mul, Gf256.mul_zero]
  by_cases zero' : b = 0
  · rw [zero', Gf256.zero_mul, Gf256.mul_zero]
  obtain ⟨i, -, rfl⟩ := exists_iterate_double a zero
  obtain ⟨j, -, rfl⟩ := exists_iterate_double b zero'
  rw [Gf256.iterate_double_mul, Gf256.one_mul, Gf256.iterate_double_mul, Gf256.one_mul,
    ← Function.iterate_add_apply, ← Function.iterate_add_apply, Nat.add_comm]

protected theorem mul_assoc (a b c : Gf256) : a * b * c = a * (b * c) := by
  by_cases zero : a = 0
  · simp only [zero, Gf256.zero_mul]
  obtain ⟨i, -, rfl⟩ := exists_iterate_double a zero
  rw [Gf256.iterate_double_mul, Gf256.iterate_double_mul, Gf256.iterate_double_mul, Gf256.one_mul,
    Gf256.one_mul]

instance : CommRing Gf256 where
  __ := (inferInstance : AddCommGroup Gf256)
  left_distrib := Gf256.mul_add
  right_distrib := Gf256.add_mul
  zero_mul := Gf256.zero_mul
  mul_zero := Gf256.mul_zero
  mul_assoc := Gf256.mul_assoc
  one_mul := Gf256.one_mul
  mul_one a := by rw [Gf256.mul_comm, Gf256.one_mul]
  mul_comm := Gf256.mul_comm

/-- The generator: the element `x` -/
def alpha : Gf256 := ⟨2⟩

theorem double_eq (a : Gf256) : double a = alpha * a := by
  have one : alpha = double 1 := rfl
  rw [one, Gf256.double_mul, one_mul]

theorem iterate_double (i : Nat) (a : Gf256) : double^[i] a = alpha ^ i * a := by
  induction i with
  | zero => rw [Function.iterate_zero_apply, pow_zero, one_mul]
  | succ i ih => rw [Function.iterate_succ_apply', ih, double_eq, pow_succ', mul_assoc]

theorem alpha_order : alpha ^ 255 = 1 := by
  rw [← mul_one (alpha ^ 255), ← iterate_double, iterate_double_order]

theorem orderOf_alpha : orderOf alpha = 255 := by
  apply orderOf_eq_of_pow_and_pow_div_prime (by decide) alpha_order
  intro p prime divides
  have proper : ∀ p ≤ 255, p ∣ 255 → p ≠ 1 → double^[255 / p] (1 : Gf256) ≠ 1 := by decide +kernel
  have differs := proper p (Nat.le_of_dvd (by decide) divides) divides prime.ne_one
  rwa [iterate_double, mul_one] at differs

theorem alpha_pow_eq_iff {i j : Nat} : alpha ^ i = alpha ^ j ↔ i % 255 = j % 255 := by
  have finite : IsOfFinOrder alpha := by
    rw [← orderOf_pos_iff, orderOf_alpha]
    decide
  rw [finite.pow_inj_mod, orderOf_alpha]

/-- Every nonzero element is a power of the generator. -/
theorem exists_alpha_pow (a : Gf256) (nonzero : a ≠ 0) : ∃ i < 255, a = alpha ^ i := by
  obtain ⟨i, inside, rfl⟩ := exists_iterate_double a nonzero
  exact ⟨i, inside, by rw [iterate_double, mul_one]⟩

instance : Inv Gf256 := ⟨fun a => a ^ 254⟩

protected theorem mul_inv_cancel (a : Gf256) (nonzero : a ≠ 0) : a * a⁻¹ = 1 := by
  obtain ⟨i, -, rfl⟩ := exists_alpha_pow a nonzero
  show alpha ^ i * (alpha ^ i) ^ 254 = 1
  rw [← pow_succ', ← pow_mul, mul_comm i, pow_mul, alpha_order, one_pow]

instance : Field Gf256 where
  inv a := a⁻¹
  exists_pair_ne := ⟨0, 1, by decide⟩
  mul_inv_cancel := Gf256.mul_inv_cancel
  inv_zero := by decide +kernel
  nnqsmul := _
  nnqsmul_def _ _ := rfl
  qsmul := _
  qsmul_def _ _ := rfl

end Gf256

end ZephyrCcsds
