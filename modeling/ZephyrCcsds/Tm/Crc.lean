import ZephyrCcsds.Division
import ZephyrCcsds.Tm.Coding

/-! # The CRC

The table of `ccsds_crc16.c` holds what each octet leaves in a register that divides by
`x¹⁶ + x¹² + x⁵ + 1`.

* `crc16Update_eq` — the table-driven update is the division bit by bit.
* `crc16Update_own` — a CRC over octets and their CRC is zero.
* `crc16Update_xor` — wrong bits add their parity to the CRC, and that of a burst is not zero.
-/

namespace ZephyrCcsds.Tm

open Remainder

/-- `CCSDS_CRC16_POLY`, without the leading term -/
def crc16Poly : BitVec 16 := 0x1021

/-- The bits of some octets, the leading bit of the first octet first -/
def bitsOf (octets : Bytes) : List Bool := octets.flatMap fun octet => bits octet.toBitVec

/-! ## The table -/

theorem crc16Table_entries : crc16Table.toList.map UInt16.toBitVec =
    (List.range 256).map fun octet => drift crc16Poly 8 (BitVec.ofNat 8 octet ++ 0#8) := by
  decide +kernel

/-- An entry is the parity of its octet. -/
theorem crc16Table_getD (octet : UInt8) :
    (crc16Table.getD octet.toNat 0).toBitVec = (bits octet.toBitVec).foldl (feedAhead crc16Poly) 0 := by
  have inside : octet.toNat < 256 := octet.toNat_lt
  have entry : (crc16Table.getD octet.toNat 0).toBitVec = drift crc16Poly 8 (octet.toBitVec ++ 0#8) := by
    have here := congrArg (fun entries => entries[octet.toNat]?) crc16Table_entries
    simp only [List.getElem?_map, List.getElem?_range inside, Option.map_some, Array.getElem?_toList] at here
    rw [Array.getD_eq_getD_getElem?]
    cases found : crc16Table[octet.toNat]? with
    | none => simp [found] at here
    | some entry => simpa [found] using here
  -- The octet at the head of the register is passed by its own bits.
  have own := foldl_feedAhead_own crc16Poly (octet.toBitVec ++ 0#8) 8
  have same : (List.range 8).map (octet.toBitVec ++ 0#8).getMsbD = bits octet.toBitVec := by
    apply List.map_congr_left
    intro i inside
    have inside : i < 8 := List.mem_range.mp inside
    rw [BitVec.getMsbD_append, if_neg (by omega)]
  have gone : (octet.toBitVec ++ 0#8) <<< 8 = 0#16 := by
    apply BitVec.eq_of_getLsbD_eq
    intro i inside
    have low : i - 8 < 8 := by omega
    rw [BitVec.getLsbD_shiftLeft, BitVec.getLsbD_append, if_pos low]
    simp
  rw [same, gone, foldl_feedAhead_eq, bits_length] at own
  rw [entry, foldl_feedAhead_zero]
  exact BitVec.xor_eq_zero_iff.mp own

/-- One octet -/
theorem crc16Update_octet (crc : UInt16) (octet : UInt8) :
    ((crc <<< 8) ^^^ crc16Table.getD ((crc >>> 8).toUInt8 ^^^ octet).toNat 0).toBitVec =
      (bits octet.toBitVec).foldl (feedAhead crc16Poly) crc.toBitVec := by
  have own := foldl_feedAhead_own crc16Poly crc.toBitVec 8
  have head : (List.range 8).map crc.toBitVec.getMsbD = bits (crc >>> 8).toUInt8.toBitVec := by
    apply List.map_congr_left
    intro i inside
    have inside : i < 8 := List.mem_range.mp inside
    have within : i < 16 := by omega
    have place : 8 + (8 - 1 - i) = 16 - 1 - i := by omega
    have upper : (crc >>> 8).toUInt8.toBitVec = (crc.toBitVec >>> 8).setWidth 8 := rfl
    have low : 8 - 1 - i < 8 := by omega
    simp only [upper, BitVec.getMsbD, BitVec.getLsbD_setWidth, BitVec.getLsbD_ushiftRight, place, inside, within, low,
      decide_true, Bool.true_and]
  have sum := foldl_feedAhead_xor crc16Poly crc.toBitVec 0 (bits (crc >>> 8).toUInt8.toBitVec)
    (bits ((crc >>> 8).toUInt8 ^^^ octet).toBitVec) (by simp)
  have rest : (crc >>> 8).toUInt8.toBitVec ^^^ ((crc >>> 8).toUInt8 ^^^ octet).toBitVec = octet.toBitVec := by
    rw [UInt8.toBitVec_xor, ← BitVec.xor_assoc, BitVec.xor_self, BitVec.zero_xor]
  have same : crc.toBitVec ^^^ 0 = crc.toBitVec := BitVec.xor_zero
  rw [← bits_xor, rest, same, ← head, own, ← crc16Table_getD] at sum
  rw [sum, UInt16.toBitVec_xor]
  rfl

/-- The update divides the octets bit by bit. -/
theorem crc16Update_eq (crc : UInt16) (data : Bytes) :
    (crc16Update crc data).toBitVec = (bitsOf data).foldl (feedAhead crc16Poly) crc.toBitVec := by
  induction data generalizing crc with
  | nil => rfl
  | cons octet data ih =>
    show (crc16Update _ data).toBitVec = (bits octet.toBitVec ++ bitsOf data).foldl _ _
    rw [ih, crc16Update_octet, List.foldl_append]

theorem crc16Update_append (crc : UInt16) (front back : Bytes) :
    crc16Update crc (front ++ back) = crc16Update (crc16Update crc front) back := List.foldl_append ..

/-- The octets of a CRC drive its own register to zero. -/
theorem crc16Update_own (crc : UInt16) : crc16Update crc (Bytes.putBe 2 crc.toNat) = 0 := by
  have entry : crc16Table.getD (0 : UInt8).toNat 0 = 0 := by decide +kernel
  have low : crc.toNat < 65536 := crc.toNat_lt
  have first : (crc >>> 8).toUInt8 ^^^ UInt8.ofNat (crc.toNat / 256) = 0 := by
    have same : (crc >>> 8).toUInt8 = UInt8.ofNat (crc.toNat / 256) := by
      apply UInt8.toNat_inj.mp
      simp [Nat.shiftRight_eq_div_pow]
    rw [same, UInt8.xor_self]
  have second : ((crc <<< 8) >>> 8).toUInt8 ^^^ UInt8.ofNat crc.toNat = 0 := by
    have same : ((crc <<< 8) >>> 8).toUInt8 = UInt8.ofNat crc.toNat := by
      apply UInt8.toNat_inj.mp
      simp [Nat.shiftRight_eq_div_pow, Nat.shiftLeft_eq]
      omega
    rw [same, UInt8.xor_self]
  have gone : (crc <<< 8) <<< 8 = 0 := by
    apply UInt16.toNat_inj.mp
    simp [Nat.shiftLeft_eq]
    omega
  simp only [Bytes.putBe, crc16Update, List.foldl_cons, List.foldl_nil, Nat.pow_zero, Nat.pow_one, Nat.div_one, first,
    entry, UInt16.xor_zero, second, gone]

/-! ## Checking -/

theorem crc16Check_eq (data : Bytes) : crc16Check data = true ↔ crc16Len ≤ data.length ∧ crc16Compute data = 0 := by
  unfold crc16Check
  split <;> simp <;> omega

/-- Octets with the CRC behind them, the leading octet first -/
def withCrc (data : Bytes) : Bytes := data ++ Bytes.putBe 2 (crc16Compute data).toNat

theorem crc16Compute_withCrc (data : Bytes) : crc16Compute (withCrc data) = 0 := by
  unfold crc16Compute withCrc
  rw [crc16Update_append]
  exact crc16Update_own _

theorem bitsOf_length (octets : Bytes) : (bitsOf octets).length = 8 * octets.length := by
  induction octets with
  | nil => rfl
  | cons octet octets ih =>
    show (bits octet.toBitVec ++ bitsOf octets).length = _
    rw [List.length_append, bits_length, ih, List.length_cons]
    omega

theorem bitsOf_xor (data error : Bytes) (same : error.length = data.length) :
    bitsOf (List.zipWith (· ^^^ ·) data error) = List.zipWith xor (bitsOf data) (bitsOf error) := by
  induction data generalizing error with
  | nil => rfl
  | cons octet data ih =>
    cases error with
    | nil => cases same
    | cons wrong error =>
      show bits (octet.toBitVec ^^^ wrong.toBitVec) ++ bitsOf (List.zipWith _ data error) = _
      rw [bits_xor, ih _ (Nat.succ.inj same), ← List.zipWith_append (by simp)]
      rfl

/-- Wrong bits add their parity to a CRC. -/
theorem crc16Update_xor (crc : UInt16) (data error : Bytes) (same : error.length = data.length) :
    (crc16Update crc (List.zipWith (· ^^^ ·) data error)).toBitVec =
      (crc16Update crc data).toBitVec ^^^ parity crc16Poly (bitsOf error) := by
  have sum := foldl_feedAhead_xor crc16Poly crc.toBitVec 0 (bitsOf data) (bitsOf error)
    (by rw [bitsOf_length, bitsOf_length, same])
  have start : crc.toBitVec ^^^ 0 = crc.toBitVec := BitVec.xor_zero
  rw [start, foldl_feedAhead_zero] at sum
  rw [crc16Update_eq, crc16Update_eq, bitsOf_xor _ _ same, sum]

theorem exists_wrong_bit {error : Bytes} (wrong : ∃ octet ∈ error, octet ≠ 0) : true ∈ bitsOf error := by
  obtain ⟨octet, found, nonzero⟩ := wrong
  rw [bitsOf, List.mem_flatMap]
  refine ⟨octet, found, ?_⟩
  by_contra clean
  exact nonzero (UInt8.toBitVec_inj.mp (eq_zero_of_bits clean))

/-- The parity of a burst does not vanish. -/
theorem parity_burst {error : Bytes} {start : Nat}
    (burst : ∀ i, (bitsOf error)[i]? = some true → start ≤ i ∧ i < start + 16) (wrong : ∃ octet ∈ error, octet ≠ 0) :
    parity crc16Poly (bitsOf error) ≠ 0 := by
  have odd : crc16Poly.getLsbD 0 = true := by decide
  intro zero
  rw [← foldl_feedAhead_zero, ← drift_zero crc16Poly 16, foldl_feedAhead] at zero
  exact remainder_burst odd burst (exists_wrong_bit wrong) (drift_eq_zero odd 16 zero)

open Polynomial in
/-- The CRC as the remainder of polynomials over two elements -/
theorem crc16Update_division (crc : UInt16) (data : Bytes) : ofRegister (crc16Update crc data).toBitVec =
    (ofRegister crc.toBitVec * X ^ (8 * data.length) + ofString (bitsOf data) * X ^ 16) %ₘ
      (X ^ 16 + X ^ 12 + X ^ 5 + 1) := by
  have poly : divisor crc16Poly = X ^ 16 + X ^ 12 + X ^ 5 + 1 := by
    simp [divisor, ofRegister, crc16Poly, Finset.sum_range_succ, coefficient]
    ring
  rw [crc16Update_eq, ofRegister_foldl_feedAhead (by decide), bitsOf_length, poly]

open Polynomial in
/-- The CRC of `ccsds_crc16.c`: it divides bit by bit, octets may be given in parts, a message with its CRC passes
the check, and wrong bits that lie within sixteen make it fail. -/
theorem crc16_detects_bursts :
    (∀ crc data, (crc16Update crc data).toBitVec = (bitsOf data).foldl (feedAhead crc16Poly) crc.toBitVec) ∧
    (∀ crc data, ofRegister (crc16Update crc data).toBitVec =
      (ofRegister crc.toBitVec * X ^ (8 * data.length) + ofString (bitsOf data) * X ^ 16) %ₘ
        (X ^ 16 + X ^ 12 + X ^ 5 + 1)) ∧
    (∀ crc front back, crc16Update crc (front ++ back) = crc16Update (crc16Update crc front) back) ∧
    ∀ data, crc16Check (withCrc data) = true ∧
      ∀ error : Bytes, error.length = (withCrc data).length → (∃ octet ∈ error, octet ≠ 0) →
        (∃ start, ∀ i, (bitsOf error)[i]? = some true → start ≤ i ∧ i < start + 16) →
          crc16Check (List.zipWith (· ^^^ ·) (withCrc data) error) = false := by
  refine ⟨crc16Update_eq, crc16Update_division, crc16Update_append, ?_⟩
  intro data
  have long : crc16Len ≤ (withCrc data).length := by simp [withCrc, crc16Len]
  constructor
  · exact (crc16Check_eq _).mpr ⟨long, crc16Compute_withCrc data⟩
  · intro error same wrong close
    obtain ⟨start, burst⟩ := close
    have sum := crc16Update_xor crc16Init (withCrc data) error same
    have right : crc16Update crc16Init (withCrc data) = 0 := crc16Compute_withCrc data
    rw [right] at sum
    rw [Bool.eq_false_iff, ne_eq, crc16Check_eq]
    intro passes
    have zero : crc16Update crc16Init _ = 0 := passes.2
    rw [zero] at sum
    apply parity_burst burst wrong
    have alone : (0 : UInt16).toBitVec ^^^ parity crc16Poly (bitsOf error) = parity crc16Poly (bitsOf error) :=
      BitVec.zero_xor
    rw [alone] at sum
    exact sum.symm

end ZephyrCcsds.Tm
