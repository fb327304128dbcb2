import ZephyrCcsds.Tm.Codeblocks

/-! # The encoder without tables

The Reed-Solomon encoder that the tests compare `ccsds_rs.c` with: a shift register, and a multiplication that
shifts and adds modulo `0x187`.

* `symbol_rsRefGfMul` — that multiplication is the one of the field.
* `rsShift_eq_reference` — a turn of the encoder with tables is a turn of this one, in every state.
-/

namespace ZephyrCcsds.Tm

open ReedSolomon Gf256

/-! ## Definitions -/

/-- `rs_generator` -/
def rsRefGenerator : Array UInt8 := #[
  0x01, 0x18, 0x14, 0x1d, 0x24, 0x11, 0x1a, 0x0c, 0x1e, 0x22, 0x07, 0x0c, 0x25, 0xfe, 0x61, 0x26,
  0xef, 0x2c, 0x3d, 0x2a, 0x2c, 0xec, 0xda, 0xeb, 0xc1, 0x6e, 0xda, 0x20, 0x28, 0x2c, 0xc1, 0xa8]

/-- The loop of `rs_ref_gf_mul`, which shifts the eight bits of `b` out -/
def rsRefGfMulFrom : (turns : Nat) → (a b product : UInt8) → UInt8
  | 0, _, _, product => product
  | turns + 1, a, b, product =>
    if a ≠ 0 ∧ b ≠ 0 then
      rsRefGfMulFrom turns (if a &&& 0x80 ≠ 0 then (a <<< 1) ^^^ 0x87 else a <<< 1) (b >>> 1)
        (if b &&& 1 ≠ 0 then product ^^^ a else product)
    else product

/-- `rs_ref_gf_mul` -/
def rsRefGfMul (a b : UInt8) : UInt8 := rsRefGfMulFrom 8 a b 0

/-- One turn of the loop of `rs_ref_encode_codeblock` -/
def rsRefShift (parity : Bytes) (octet : UInt8) : Bytes :=
  let feedback := octet ^^^ parity.getD (rsParityLen - 1) 0
  feedback :: List.ofFn fun j : Fin (rsParityLen - 1) =>
    parity.getD j 0 ^^^ rsRefGfMul feedback (rsRefGenerator.getD (j + 1) 0)

/-- `rs_ref_encode_codeblock` -/
def rsRefEncodeCodeblock (data : Bytes) : Bytes :=
  (data.take rsDataLen).foldl rsRefShift (List.replicate rsParityLen 0)

/-! ## Multiplication -/

/-- The shift of the first factor is a doubling. -/
theorem symbol_double (a : UInt8) :
    symbol (if a &&& 0x80 ≠ 0 then (a <<< 1) ^^^ 0x87 else a <<< 1) = double (symbol a) := by
  obtain ⟨bits⟩ := a
  revert bits
  decide +kernel

/-- The bits of the second factor come out one by one. -/
theorem symbol_halve (b : UInt8) : symbol b = double (symbol (b >>> 1)) + if b &&& 1 ≠ 0 then 1 else 0 := by
  obtain ⟨bits⟩ := b
  revert bits
  decide +kernel

theorem symbol_rsRefGfMulFrom (turns : Nat) (a b product : UInt8) (bits : b.toNat < 2 ^ turns) :
    symbol (rsRefGfMulFrom turns a b product) = symbol product + symbol a * symbol b := by
  induction turns generalizing a b product with
  | zero =>
    have none : b = 0 := UInt8.toNat_inj.mp (by simpa using bits)
    rw [none, symbol_zero, mul_zero, add_zero]
    rfl
  | succ turns ih =>
    rw [rsRefGfMulFrom]
    by_cases both : a ≠ 0 ∧ b ≠ 0
    · have fewer : (b >>> 1).toNat < 2 ^ turns := by
        have one : (1 : UInt8).toNat % 8 = 1 := rfl
        rw [Nat.pow_succ] at bits
        rw [UInt8.toNat_shiftRight, one, Nat.shiftRight_eq_div_pow]
        omega
      rw [if_pos both, ih _ _ _ fewer, symbol_double, symbol_halve b]
      -- `x · (b / 2)` doubled on either side
      have moved : double (symbol a) * symbol (b >>> 1) = symbol a * double (symbol (b >>> 1)) := by
        rw [double_eq, double_eq]
        ring
      rw [mul_add, moved]
      by_cases odd : b &&& 1 ≠ 0
      · rw [if_pos odd, if_pos odd, symbol_xor, mul_one]
        abel
      · rw [if_neg odd, if_neg odd, mul_zero, add_zero]
    · rw [if_neg both]
      by_cases zero : a = 0
      · rw [zero, symbol_zero, zero_mul, add_zero]
      · have zero' : b = 0 := by
          by_contra nonzero
          exact both ⟨zero, nonzero⟩
        rw [zero', symbol_zero, mul_zero, add_zero]

/-- Shifting and adding multiplies. -/
theorem symbol_rsRefGfMul (a b : UInt8) : symbol (rsRefGfMul a b) = symbol a * symbol b := by
  rw [rsRefGfMul, symbol_rsRefGfMulFrom 8 a b 0 b.toNat_lt, symbol_zero, zero_add]

/-! ## The encoder -/

/-- The coefficients are those whose logarithms `GG_LOG` has. -/
theorem symbol_rsRefGenerator (j : Fin 32) : symbol (rsRefGenerator.getD j 0) = rsGenerator j := by
  have entries : ∀ j : Fin 32, rsRefGenerator.getD j 0 = gfIlog.getD (ggLog.getD j 0).toNat 0 := by decide +kernel
  have bounds : ∀ j : Fin 32, (ggLog.getD j 0).toNat < 255 := by decide +kernel
  rw [entries, symbol_gfIlog _ (bounds j)]
  rfl

theorem rsRefShift_length (parity : Bytes) (octet : UInt8) : (rsRefShift parity octet).length = rsParityLen := by
  rw [rsRefShift, List.length_cons, List.length_ofFn]
  rfl

theorem stages_rsRefShift (parity : Bytes) (octet : UInt8) :
    stages (rsRefShift parity octet) = shift rsGenerator (stages parity) (symbol octet) := by
  have leading : rsGenerator 0 = 1 := rfl
  have feedback : symbol octet + stages parity (Fin.last 31) =
      symbol (octet ^^^ parity.getD (rsParityLen - 1) 0) := rfl
  funext j
  rw [shift, feedback]
  unfold rsRefShift
  cases j using Fin.cases with
  | zero => rw [stages_cons_zero, leading, mul_one, Fin.cases_zero, zero_add]
  | succ k =>
    have coefficient := symbol_rsRefGenerator k.succ
    rw [stages_cons_succ, @getD_ofFn _ (rsParityLen - 1) _ k, symbol_xor, symbol_rsRefGfMul, ← coefficient]
    rfl

/-- Buffers with the same stages are the same. -/
theorem eq_of_stages {first second : Bytes} (length : first.length = rsParityLen)
    (length' : second.length = rsParityLen) (same : stages first = stages second) : first = second := by
  apply List.ext_getElem (length.trans length'.symm)
  intro k inside inside'
  have here := congrFun same ⟨k, lt_of_lt_of_eq inside length⟩
  have entry := symbol_injective here
  simpa [List.getD_eq_getElem?_getD, inside, inside'] using entry

/-- A turn with the tables is a turn without, for every state of the register. -/
theorem rsShift_eq_reference (parity : Bytes) (octet : UInt8) (length : parity.length = rsParityLen) :
    rsShift parity octet = rsRefShift parity octet :=
  eq_of_stages (rsShift_length parity octet length) (rsRefShift_length parity octet)
    (by rw [stages_rsShift, stages_rsRefShift])

theorem rsEncodeCodeblock_eq_reference (data : Bytes) : rsEncodeCodeblock data = rsRefEncodeCodeblock data := by
  have turns : ∀ data parity : Bytes, parity.length = rsParityLen →
      data.foldl rsShift parity = data.foldl rsRefShift parity := by
    intro data
    induction data with
    | nil =>
      intro parity length
      rfl
    | cons octet data ih =>
      intro parity length
      rw [List.foldl_cons, List.foldl_cons, rsShift_eq_reference _ _ length]
      exact ih _ (rsRefShift_length parity octet)
  exact turns _ _ List.length_replicate

/-! ## Linearity -/

theorem symbol_zipWith (first second : Bytes) (same : first.length = second.length) (k : Nat) :
    symbol ((List.zipWith (· ^^^ ·) first second).getD k 0) = symbol (first.getD k 0) + symbol (second.getD k 0) := by
  by_cases inside : k < first.length
  · have inside' : k < second.length := by omega
    simp [List.getD_eq_getElem?_getD, inside, inside']
  · have beyond : second.length ≤ k := by omega
    simp [List.getD_eq_getElem?_getD, not_lt.mp inside, beyond]

theorem symbol_map_scale (scale : UInt8) (octets : Bytes) (k : Nat) :
    symbol ((octets.map (rsRefGfMul scale)).getD k 0) = symbol scale * symbol (octets.getD k 0) := by
  by_cases inside : k < octets.length
  · simp [List.getD_eq_getElem?_getD, inside, symbol_rsRefGfMul]
  · simp [List.getD_eq_getElem?_getD, not_lt.mp inside]

/-- The parity of a sum is the sum of the parities. -/
theorem rsEncodeCodeblock_xor (data data' : Bytes) (length : data.length = rsDataLen)
    (length' : data'.length = rsDataLen) :
    rsEncodeCodeblock (List.zipWith (· ^^^ ·) data data') =
      List.zipWith (· ^^^ ·) (rsEncodeCodeblock data) (rsEncodeCodeblock data') := by
  have width := rsEncodeCodeblock_length data
  have width' := rsEncodeCodeblock_length data'
  have total : (List.zipWith (· ^^^ ·) data data').length = rsDataLen := by
    rw [List.length_zipWith, length, length', Nat.min_self]
  apply eq_of_stages (rsEncodeCodeblock_length _) (by rw [List.length_zipWith, width, width', Nat.min_self])
  funext k
  show symbol ((rsEncodeCodeblock _).getD k 0) = symbol ((List.zipWith _ _ _).getD k 0)
  rw [symbol_zipWith _ _ (width.trans width'.symm), symbol_rsEncodeCodeblock _ (Nat.le_of_eq total.symm),
    symbol_rsEncodeCodeblock _ (Nat.le_of_eq length.symm), symbol_rsEncodeCodeblock _ (Nat.le_of_eq length'.symm),
    ← Finset.sum_add_distrib]
  simp only [symbol_zipWith _ _ (length.trans length'.symm), add_mul]

/-- The parity of a multiple is that multiple of the parity. -/
theorem rsEncodeCodeblock_scale (scale : UInt8) (data : Bytes) (length : data.length = rsDataLen) :
    rsEncodeCodeblock (data.map (rsRefGfMul scale)) = (rsEncodeCodeblock data).map (rsRefGfMul scale) := by
  have width := rsEncodeCodeblock_length data
  have total : (data.map (rsRefGfMul scale)).length = rsDataLen := by rw [List.length_map, length]
  apply eq_of_stages (rsEncodeCodeblock_length _) (by rw [List.length_map, width])
  funext k
  show symbol ((rsEncodeCodeblock _).getD k 0) = symbol ((List.map _ _).getD k 0)
  rw [symbol_map_scale, symbol_rsEncodeCodeblock _ (Nat.le_of_eq total.symm),
    symbol_rsEncodeCodeblock _ (Nat.le_of_eq length.symm), Finset.mul_sum]
  simp only [symbol_map_scale, mul_assoc]

/-- The encoder with the log tables is the shift register with shift-and-add multiplication, turn by turn and for
whole blocks, and linear in the data. -/
theorem rs_encoder_without_tables :
    (∀ a b : UInt8, symbol (rsRefGfMul a b) = symbol a * symbol b) ∧
    (∀ j < 32, gfLog.getD (rsRefGenerator.getD j 0).toNat 0 = ggLog.getD j 0) ∧
    (∀ (parity : Bytes) (octet : UInt8), parity.length = 32 → rsShift parity octet = rsRefShift parity octet) ∧
    (∀ data : Bytes, data.length = 223 → rsEncodeCodeblock data = rsRefEncodeCodeblock data) ∧
    (∀ data data' : Bytes, data.length = 223 → data'.length = 223 →
      rsEncodeCodeblock (List.zipWith (· ^^^ ·) data data') =
        List.zipWith (· ^^^ ·) (rsEncodeCodeblock data) (rsEncodeCodeblock data')) ∧
    ∀ (scale : UInt8) (data : Bytes), data.length = 223 →
      rsEncodeCodeblock (data.map (rsRefGfMul scale)) = (rsEncodeCodeblock data).map (rsRefGfMul scale) := by
  refine ⟨symbol_rsRefGfMul, by decide +kernel, rsShift_eq_reference, ?_, rsEncodeCodeblock_xor,
    rsEncodeCodeblock_scale⟩
  intro data _
  exact rsEncodeCodeblock_eq_reference data

end ZephyrCcsds.Tm
