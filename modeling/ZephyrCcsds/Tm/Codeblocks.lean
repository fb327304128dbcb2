import Mathlib.Data.List.GetD
import ZephyrCcsds.Gf256
import ZephyrCcsds.ReedSolomon
import ZephyrCcsds.Tm.Coding

/-! # Reed-Solomon codeblocks

The encoder of `ccsds_rs.c` against the code it is for.  Its log tables are those of the field, so it is a
division register over the field, and its parity is linear in the data.  The generator is the one in
`GG_LOG`, and that is not the generator of the standard: which data blocks still give a codeword is a
matter of thirty-two linear equations.
-/

namespace ZephyrCcsds.Tm

open ReedSolomon Gf256

/-! ## The tables -/

/-- An octet as an element of the field -/
def symbol (octet : UInt8) : Gf256 := ⟨octet.toBitVec⟩

@[simp] theorem symbol_zero : symbol 0 = 0 := rfl

@[simp] theorem symbol_xor (first second : UInt8) : symbol (first ^^^ second) = symbol first + symbol second := rfl

theorem symbol_injective {first second : UInt8} (equal : symbol first = symbol second) : first = second := by
  simpa [symbol, UInt8.toBitVec_inj] using equal

/-- An entry of a table, by way of the list -/
theorem table_entry (table : Array UInt8) (k : Nat) : table.getD k 0 = table.toList.getD k 0 := by
  rw [Array.getD_eq_getD_getElem?, List.getD_eq_getElem?_getD, Array.getElem?_toList]

/-- Each entry of `GF_ILOG` is the double of the one before. -/
theorem gfIlog_chain :
    List.IsChain (fun before after => symbol after = double (symbol before)) gfIlog.toList := by
  decide +kernel

/-- `GF_ILOG` has the powers of the generator of the field. -/
theorem symbol_gfIlog (k : Nat) (inside : k < 255) : symbol (gfIlog.getD k 0) = alpha ^ k := by
  have size : gfIlog.toList.length = 255 := by decide +kernel
  rw [table_entry]
  induction k with
  | zero => rfl
  | succ k ih =>
    have next := List.isChain_iff_getElem.mp gfIlog_chain k (by omega)
    rw [← List.getD_eq_getElem _ 0, ← List.getD_eq_getElem _ 0] at next
    rw [next, ih (by omega), double_eq, pow_succ']

/-- `GF_LOG` has the logarithm of every octet but zero. -/
theorem symbol_gfLog (octet : UInt8) (nonzero : octet ≠ 0) :
    symbol octet = alpha ^ (gfLog.getD octet.toNat 0).toNat ∧ (gfLog.getD octet.toNat 0).toNat < 255 := by
  have entries : ∀ entry ∈ gfLog.toList.zipIdx, entry.2 = 0 ∨
      (gfIlog.toList.getD entry.1.toNat 0).toNat = entry.2 ∧ entry.1.toNat < 255 := by
    decide +kernel
  have size : gfLog.toList.length = 256 := by decide +kernel
  have bound : octet.toNat < gfLog.toList.length := by
    rw [size]
    exact octet.toNat_lt
  have member := List.mk_mem_zipIdx_iff_getElem?.mpr (List.getElem?_eq_getElem bound)
  rw [table_entry, List.getD_eq_getElem _ _ bound]
  rcases entries _ member with zero | ⟨inverse, small⟩
  · exact absurd (UInt8.toNat_inj.mp zero) nonzero
  · rw [← table_entry] at inverse
    exact ⟨by rw [← symbol_gfIlog _ small, UInt8.toNat_inj.mp inverse], small⟩

/-- A sum of logarithms is the logarithm of the product. -/
theorem symbol_addLog (first second : UInt8) (bound : first.toNat < 255) (bound' : second.toNat < 255) :
    symbol (gfIlog.getD (addLog first second) 0) = alpha ^ first.toNat * alpha ^ second.toNat := by
  rw [← pow_add, addLog]
  by_cases wraps : 255 ≤ first.toNat + second.toNat
  · rw [if_pos wraps, symbol_gfIlog _ (by omega)]
    -- The generator has order 255, so one turn may be taken off.
    rw [← Nat.sub_add_cancel wraps, pow_add, alpha_order, mul_one, Nat.add_sub_cancel]
  · rw [if_neg wraps, symbol_gfIlog _ (by omega)]

/-! ## The encoder -/

/-- The generator in `GG_LOG`, its constant term first and its leading term left out -/
def rsGenerator (j : Fin 32) : Gf256 := alpha ^ (ggLog.getD j 0).toNat

/-- The octets of the parity buffer as the stages of a register -/
def stages (parity : Bytes) (j : Fin 32) : Gf256 := symbol (parity.getD j 0)

theorem rsShift_length (parity : Bytes) (octet : UInt8) (length : parity.length = rsParityLen) :
    (rsShift parity octet).length = rsParityLen := by
  unfold rsShift
  dsimp only
  by_cases zero : octet ^^^ parity.getD (rsParityLen - 1) 0 = 0
  · rw [if_neg (not_not_intro zero), List.length_cons, List.length_take, length]
    rfl
  · rw [if_pos zero, List.length_cons, List.length_ofFn]
    rfl

theorem getD_ofFn {α : Type} {n : Nat} (f : Fin n → α) (i : Fin n) (other : α) :
    (List.ofFn f).getD i other = f i := by
  simp [List.getD_eq_getElem?_getD]

theorem stages_cons_zero (octet : UInt8) (parity : Bytes) : stages (octet :: parity) 0 = symbol octet := rfl

theorem stages_cons_succ (octet : UInt8) (parity : Bytes) (k : Fin 31) :
    stages (octet :: parity) k.succ = symbol (parity.getD k 0) := rfl

/-- A turn of the encoder's loop is a step of the division register. -/
theorem stages_rsShift (parity : Bytes) (octet : UInt8) :
    stages (rsShift parity octet) = shift rsGenerator (stages parity) (symbol octet) := by
  have leading : rsGenerator 0 = 1 := rfl
  have coefficients : ∀ j : Fin 32, (ggLog.getD j 0).toNat < 255 := by decide
  have feedback : symbol octet + stages parity (Fin.last 31) =
      symbol (octet ^^^ parity.getD (rsParityLen - 1) 0) := rfl
  funext j
  rw [shift, feedback]
  unfold rsShift
  dsimp only
  by_cases zero : octet ^^^ parity.getD (rsParityLen - 1) 0 = 0
  · rw [if_neg (not_not_intro zero), zero, symbol_zero, zero_mul, add_zero]
    cases j using Fin.cases with
    | zero => rfl
    | succ k =>
      have inside : (k : Nat) < rsParityLen - 1 := k.isLt
      rw [stages_cons_succ, List.getD_eq_getElem?_getD, List.getElem?_take_of_lt inside,
        ← List.getD_eq_getElem?_getD]
      rfl
  · rw [if_pos zero]
    obtain ⟨power, bound⟩ := symbol_gfLog _ zero
    cases j using Fin.cases with
    | zero =>
      rw [stages_cons_zero, leading, mul_one, Fin.cases_zero, zero_add, power, symbol_gfIlog _ bound]
    | succ k =>
      have product := symbol_addLog _ _ bound (coefficients k.succ)
      rw [stages_cons_succ, @getD_ofFn _ (rsParityLen - 1) _ k, symbol_xor, power, rsGenerator, ← product]
      rfl

theorem foldl_rsShift_length (data parity : Bytes) (length : parity.length = rsParityLen) :
    (data.foldl rsShift parity).length = rsParityLen := by
  induction data generalizing parity with
  | nil => exact length
  | cons octet data ih => exact ih _ (rsShift_length parity octet length)

theorem stages_foldl_rsShift (data parity : Bytes) :
    stages (data.foldl rsShift parity) = (data.map symbol).foldl (shift rsGenerator) (stages parity) := by
  induction data generalizing parity with
  | nil => rfl
  | cons octet data ih => rw [List.foldl_cons, ih, stages_rsShift, List.map_cons, List.foldl_cons]

theorem rsEncodeCodeblock_length (data : Bytes) : (rsEncodeCodeblock data).length = rsParityLen :=
  foldl_rsShift_length _ _ List.length_replicate

theorem stages_rsEncodeCodeblock (data : Bytes) :
    stages (rsEncodeCodeblock data) = parity rsGenerator ((data.take rsDataLen).map symbol) := by
  have empty : stages (List.replicate rsParityLen 0) = 0 := by
    funext j
    revert j
    decide
  rw [rsEncodeCodeblock, stages_foldl_rsShift, empty, parity]

/-- The parity of an octet `1` that is followed by that many zeros -/
def unitOctetParity (zeros : Nat) (k : Fin 32) : Gf256 := unitParity rsGenerator zeros k

/-- An octet of the parity is a fixed combination of the octets of the data. -/
theorem symbol_rsEncodeCodeblock (data : Bytes) (length : rsDataLen ≤ data.length) (k : Fin 32) :
    symbol ((rsEncodeCodeblock data).getD k 0) =
      ∑ i : Fin 223, symbol (data.getD i 0) * unitOctetParity (222 - i) k := by
  have width : ((data.take rsDataLen).map symbol).length = 223 := by
    rw [List.length_map, List.length_take, min_eq_left length]
    rfl
  have entry : symbol ((rsEncodeCodeblock data).getD k 0) = stages (rsEncodeCodeblock data) k := rfl
  rw [entry, stages_rsEncodeCodeblock, parity_eq_sum]
  apply Fintype.sum_equiv (finCongr width)
  intro i
  have inside : (i : Nat) < rsDataLen := lt_of_lt_of_eq i.isLt width
  have octet : ((data.take rsDataLen).map symbol)[i] = symbol (data.getD i 0) := by
    simp [List.getD_eq_getElem?_getD, lt_of_lt_of_le inside length]
  have depth : ((data.take rsDataLen).map symbol).length - 1 - (i : Nat) = 222 - i := by omega
  rw [octet, depth]
  rfl

/-! ## The standard code -/

/-- Data and parity as they are sent, as a word of 255 symbols -/
def codeblock (data parity : Bytes) (i : Fin 255) : Gf256 := symbol ((data ++ parity).getD i 0)

/-- The word vanishes at the roots of the standard code. -/
def StandardCodeword (word : Fin 255 → Gf256) : Prop :=
  ∀ j, 112 ≤ j → j ≤ 143 → value (alpha ^ (11 * j)) word = 0

/-- Within sixteen errors of the word there is no other codeword, so a decoder comes back to it. -/
def Correctable (word : Fin 255 → Gf256) : Prop :=
  ∀ received other : Fin 255 → Gf256, StandardCodeword other →
    hammingDist received word ≤ 16 → hammingDist received other ≤ 16 → other = word

theorem standardCodeword_iff (word : Fin 255 → Gf256) :
    StandardCodeword word ↔ Codeword (alpha ^ 11) 112 (2 * 16) word := by
  constructor
  · intro standard j inside
    rw [← pow_mul]
    exact standard (112 + j) (by omega) (by omega)
  · intro codeword j above below
    have vanishes := codeword (j - 112) (by omega)
    rwa [← pow_mul, Nat.add_sub_cancel' above] at vanishes

/-- Eleven is prime to 255, so the locators of the places of a codeblock are different. -/
theorem locators_distinct : ∀ i < 255, ∀ j < 255, (alpha ^ 11) ^ i = (alpha ^ 11) ^ j → i = j := by
  intro i inside j inside' equal
  rw [← pow_mul, ← pow_mul, alpha_pow_eq_iff] at equal
  omega

theorem StandardCodeword.correctable {word : Fin 255 → Gf256} (standard : StandardCodeword word) :
    Correctable word := by
  intro received other rival near near'
  rw [standardCodeword_iff] at standard rival
  exact standard.correctable rival (pow_ne_zero _ (by decide)) locators_distinct near near'

/-- What one octet of the data adds to a codeblock's value at the root with the number `j` -/
def syndromeWeight (j : Nat) (i : Fin 223) : Gf256 :=
  (alpha ^ (11 * j)) ^ (254 - (i : Nat)) +
    ∑ k : Fin 32, unitOctetParity (222 - i) k * (alpha ^ (11 * j)) ^ (31 - (k : Nat))

/-- A codeblock's value at a root is a fixed combination of the octets of the data. -/
theorem value_codeblock (data : Bytes) (length : data.length = rsDataLen) (j : Nat) :
    value (alpha ^ (11 * j)) (codeblock data (rsEncodeCodeblock data)) =
      ∑ i : Fin 223, symbol (data.getD i 0) * syndromeWeight j i := by
  have front : ∀ i : Fin 223, codeblock data (rsEncodeCodeblock data) (Fin.castAdd 32 i) =
      symbol (data.getD i 0) := by
    intro i
    have inside : (i : Nat) < data.length := lt_of_lt_of_eq i.isLt length.symm
    exact congrArg symbol (List.getD_append data _ 0 i inside)
  have back : ∀ k : Fin 32, codeblock data (rsEncodeCodeblock data) (Fin.natAdd 223 k) =
      ∑ i : Fin 223, symbol (data.getD i 0) * unitOctetParity (222 - i) k := by
    intro k
    have beyond : data.length ≤ (Fin.natAdd 223 k : Nat) := by
      rw [length]
      exact Nat.le_add_right ..
    have depth : (Fin.natAdd 223 k : Nat) - data.length = k := by
      rw [length]
      exact Nat.add_sub_cancel_left ..
    rw [← symbol_rsEncodeCodeblock data (by omega), codeblock, List.getD_append_right _ _ _ _ beyond, depth]
  have degree : ∀ k : Fin 32, 255 - 1 - (Fin.natAdd 223 k : Nat) = 31 - k := by
    intro k
    rw [Fin.val_natAdd]
    omega
  have spread : ∀ i : Fin 223, symbol (data.getD i 0) * syndromeWeight j i =
      symbol (data.getD i 0) * (alpha ^ (11 * j)) ^ (254 - (i : Nat)) +
        ∑ k : Fin 32, symbol (data.getD i 0) * unitOctetParity (222 - i) k *
          (alpha ^ (11 * j)) ^ (31 - (k : Nat)) := by
    intro i
    rw [syndromeWeight, mul_add, Finset.mul_sum]
    simp only [mul_assoc]
  rw [value, @Fin.sum_univ_add _ _ 223 32]
  simp only [front, back, degree, spread, Finset.sum_add_distrib, Finset.sum_mul]
  rw [Finset.sum_comm]
  rfl

/-- Which data blocks get a codeblock of the standard code -/
theorem codeblock_standard_iff (data : Bytes) (length : data.length = rsDataLen) :
    (StandardCodeword (codeblock data (rsEncodeCodeblock data)) ∧
        Correctable (codeblock data (rsEncodeCodeblock data))) ↔
      ∀ j, 112 ≤ j → j ≤ 143 → ∑ i : Fin 223, symbol (data.getD i 0) * syndromeWeight j i = 0 := by
  constructor
  · intro holds j above below
    rw [← value_codeblock data length]
    exact holds.1 j above below
  · intro equations
    have standard : StandardCodeword (codeblock data (rsEncodeCodeblock data)) := by
      intro j above below
      rw [value_codeblock data length]
      exact equations j above below
    exact ⟨standard, standard.correctable⟩

/-- The block `0, …, 0, 1` -/
def lastOctetSet : Bytes := List.replicate 222 0 ++ [1]

/-- Only its last octet counts, and the weight of that at the first root is not zero. -/
theorem lastOctetSet_sum : ∑ i : Fin 223, symbol (lastOctetSet.getD i 0) * syndromeWeight 112 i ≠ 0 := by
  rw [Finset.sum_eq_single 222]
  · have root : alpha ^ (11 * 112) = (⟨0x15⟩ : Gf256) := by
      rw [alpha_pow_eq_iff.mpr (show 11 * 112 % 255 = 212 % 255 by decide), ← mul_one (alpha ^ 212),
        ← iterate_double]
      decide +kernel
    have nonzero : (⟨0x15⟩ : Gf256) ^ (254 - 222) +
        ∑ k : Fin 32, unitOctetParity (222 - 222) k * (⟨0x15⟩ : Gf256) ^ (31 - (k : Nat)) ≠ 0 := by
      decide +kernel
    intro vanishes
    apply nonzero
    have unit : 1 * syndromeWeight 112 222 = 0 := vanishes
    rw [← root]
    rwa [one_mul] at unit
  · intro i _ other
    have inside : (i : Nat) < 222 := by omega
    rw [lastOctetSet, List.getD_append _ _ _ _ (lt_of_lt_of_eq inside List.length_replicate.symm),
      List.getD_replicate _ inside, symbol_zero, zero_mul]
  · exact fun outside => absurd (Finset.mem_univ _) outside

/-- Its codeblock is not one of the standard code, since it violates an equation. -/
theorem codeblock_standard_iff_last : lastOctetSet.length = rsDataLen ∧
    ((StandardCodeword (codeblock lastOctetSet (rsEncodeCodeblock lastOctetSet)) ∧
        Correctable (codeblock lastOctetSet (rsEncodeCodeblock lastOctetSet))) ↔
      ∀ j, 112 ≤ j → j ≤ 143 → ∑ i : Fin 223, symbol (lastOctetSet.getD i 0) * syndromeWeight j i = 0) ∧
    ¬ ∀ j, 112 ≤ j → j ≤ 143 → ∑ i : Fin 223, symbol (lastOctetSet.getD i 0) * syndromeWeight j i = 0 :=
  ⟨rfl, codeblock_standard_iff _ rfl, fun all => lastOctetSet_sum (all 112 (by decide) (by decide))⟩

/-- The block `0, …, 0, 1` gets a codeblock that does not vanish at the first root. -/
theorem codeblock_not_standard :
    ¬ ∀ data : Bytes, data.length = rsDataLen →
      StandardCodeword (codeblock data (rsEncodeCodeblock data)) ∧
        Correctable (codeblock data (rsEncodeCodeblock data)) := by
  intro always
  obtain ⟨standard, -⟩ := always lastOctetSet rfl
  have vanishes := standard 112 (by decide) (by decide)
  rw [value_codeblock _ rfl] at vanishes
  exact lastOctetSet_sum vanishes

end ZephyrCcsds.Tm
