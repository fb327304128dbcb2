import ZephyrCcsds.Tm.Codeblocks

/-! # Interleaving

The interface of `ccsds_rs_encode` speaks of interleaved data and parity.  The loop takes one run of 223
octets after the other, so the codeblocks lie end to end and not side by side.
-/

namespace ZephyrCcsds.Tm

open ReedSolomon Gf256

/-! ## Columns -/

/-- The octets at the positions `i`, `i + depth`, `i + 2 · depth`, … -/
def column (depth i : Nat) (octets : Bytes) : Bytes :=
  (List.range (octets.length / depth)).map fun r => octets.getD (i + depth * r) 0

/-- At how many places two blocks differ -/
def errors (first second : Bytes) : Nat :=
  ((Finset.range first.length).filter fun r => first.getD r 0 ≠ second.getD r 0).card

/-- Every column of the data makes a codeblock with the same column of the parity. -/
def Interleaved (depth : Nat) (data parity : Bytes) : Prop :=
  ∀ i < depth, column depth i parity = rsEncodeCodeblock (column depth i data)

/-- A burst of `16 · depth` octets hits no column more than sixteen times. -/
def BurstSpread (depth : Nat) (sent : Bytes) : Prop :=
  ∀ (received : Bytes) (start : Nat), received.length = sent.length →
    (∀ p, received.getD p 0 ≠ sent.getD p 0 → start ≤ p ∧ p < start + 16 * depth) →
      ∀ i < depth, errors (column depth i received) (column depth i sent) ≤ 16

theorem column_length (depth i : Nat) (octets : Bytes) :
    (column depth i octets).length = octets.length / depth := by
  simp [column]

theorem column_getD (depth i r : Nat) (octets : Bytes) (inside : r < octets.length / depth) :
    (column depth i octets).getD r 0 = octets.getD (i + depth * r) 0 := by
  simp [column, List.getD_eq_getElem?_getD, inside]

/-- The places of a column that a window reaches are at most sixteen, one after the other. -/
theorem burstSpread (depth : Nat) (sent : Bytes) : BurstSpread depth sent := by
  intro received start same window i inside
  have reached : ∃ a, start - i ≤ depth * a := ⟨start - i, Nat.le_mul_of_pos_left _ (by omega)⟩
  let first := Nat.find reached
  have low : start - i ≤ depth * first := Nat.find_spec reached
  have places : (Finset.range (column depth i received).length).filter
      (fun r => (column depth i received).getD r 0 ≠ (column depth i sent).getD r 0) ⊆
        Finset.Ico first (first + 16) := by
    intro r member
    rw [Finset.mem_filter, Finset.mem_range, column_length] at member
    obtain ⟨bound, differs⟩ := member
    rw [column_getD _ _ _ _ bound, column_getD _ _ _ _ (same ▸ bound)] at differs
    obtain ⟨above, below⟩ := window _ differs
    have from_first : first ≤ r := Nat.find_min' reached (by omega)
    have before : depth * r < depth * (first + 16) := by
      rw [Nat.mul_add]
      omega
    exact Finset.mem_Ico.mpr ⟨from_first, Nat.lt_of_mul_lt_mul_left before⟩
  have count := Finset.card_le_card places
  rwa [Nat.card_Ico, Nat.add_sub_cancel_left] at count

/-! ## The parity of the encoder -/

theorem rsEncode_succ (depth : Nat) (data : Bytes) :
    rsEncode (depth + 1) data = rsEncode depth data ++ rsEncodeCodeblock (data.drop (depth * rsDataLen)) := by
  simp [rsEncode, List.range_succ]

theorem rsEncode_length (depth : Nat) (data : Bytes) : (rsEncode depth data).length = 32 * depth := by
  induction depth with
  | zero => rfl
  | succ depth ih =>
    rw [rsEncode_succ, List.length_append, ih, rsEncodeCodeblock_length]
    rfl

/-- The octet at a position belongs to the codeblock of its run of thirty-two. -/
theorem rsEncode_getD (depth p : Nat) (data : Bytes) (inside : p < 32 * depth) :
    (rsEncode depth data).getD p 0 =
      (rsEncodeCodeblock (data.drop (p / 32 * rsDataLen))).getD (p % 32) 0 := by
  induction depth with
  | zero => omega
  | succ depth ih =>
    rw [rsEncode_succ]
    by_cases earlier : p < 32 * depth
    · rw [List.getD_append _ _ _ _ (by rwa [rsEncode_length]), ih earlier]
    · have block : p / 32 = depth := by omega
      have offset : p - 32 * depth = p % 32 := by omega
      rw [List.getD_append_right _ _ _ _ (by rw [rsEncode_length]; omega), rsEncode_length, offset, block]

theorem symbol_rsEncode (depth p : Nat) (data : Bytes) (length : data.length = 223 * depth)
    (inside : p < 32 * depth) :
    symbol ((rsEncode depth data).getD p 0) =
      ∑ m : Fin 223, symbol (data.getD (223 * (p / 32) + m) 0) * unitOctetParity (222 - m) (Fin.ofNat 32 p) := by
  have run : rsDataLen ≤ (data.drop (p / 32 * rsDataLen)).length := by
    rw [List.length_drop, length, rsDataLen]
    omega
  rw [rsEncode_getD _ _ _ inside]
  have sum := symbol_rsEncodeCodeblock _ run (Fin.ofNat 32 p)
  rw [Fin.val_ofNat] at sum
  rw [sum]
  apply Finset.sum_congr rfl
  intro m _
  rw [List.getD_eq_getElem?_getD, List.getElem?_drop, ← List.getD_eq_getElem?_getD, Nat.mul_comm]
  rfl

theorem symbol_column (depth i : Nat) (data : Bytes) (length : data.length = 223 * depth) (inside : i < depth)
    (k : Fin 32) :
    symbol ((rsEncodeCodeblock (column depth i data)).getD k 0) =
      ∑ m : Fin 223, symbol (data.getD (i + depth * m) 0) * unitOctetParity (222 - m) k := by
  have width : data.length / depth = 223 := by rw [length, Nat.mul_div_cancel _ (by omega)]
  rw [symbol_rsEncodeCodeblock _ (by rw [column_length, width]; rfl)]
  apply Finset.sum_congr rfl
  intro m _
  rw [column_getD _ _ _ _ (by rw [width]; exact m.isLt)]

/-! ## Against the interface -/

/-- The run that a parity octet comes from and the column that it lies in ask for the same octet. -/
def RunsMatchColumns (depth : Nat) (data : Bytes) : Prop :=
  ∀ i < depth, ∀ r : Fin 32,
    ∑ m : Fin 223, symbol (data.getD (223 * ((i + depth * r) / 32) + m) 0) *
        unitOctetParity (222 - m) (Fin.ofNat 32 (i + depth * r)) =
      ∑ m : Fin 223, symbol (data.getD (i + depth * m) 0) * unitOctetParity (222 - m) r

theorem interleaved_iff (depth : Nat) (data : Bytes) (length : data.length = 223 * depth) :
    Interleaved depth data (rsEncode depth data) ↔ RunsMatchColumns depth data := by
  have octet : ∀ i < depth, ∀ r : Fin 32,
      (column depth i (rsEncode depth data)).getD r 0 = (rsEncode depth data).getD (i + depth * r) 0 := by
    intro i inside r
    apply column_getD
    rw [rsEncode_length, Nat.mul_div_cancel _ (by omega)]
    exact r.isLt
  have position : ∀ i < depth, ∀ r : Fin 32, i + depth * (r : Nat) < 32 * depth := by
    intro i inside r
    have := Nat.mul_le_mul_left depth (Nat.le_of_lt_succ r.isLt)
    omega
  constructor
  · intro interleaved i inside r
    rw [← symbol_rsEncode _ _ _ length (position i inside r), ← symbol_column _ _ _ length inside,
      ← octet i inside, interleaved i inside]
  · intro equations i inside
    apply List.ext_getElem
    · rw [column_length, rsEncode_length, Nat.mul_div_cancel _ (by omega), rsEncodeCodeblock_length]
      rfl
    intro r bound bound'
    have short : r < 32 := lt_of_lt_of_eq bound' (rsEncodeCodeblock_length _)
    have equal := equations i inside ⟨r, short⟩
    rw [← symbol_rsEncode _ _ _ length (position i inside ⟨r, short⟩), ← symbol_column _ _ _ length inside,
      ← octet i inside] at equal
    have octets := symbol_injective equal
    rwa [List.getD_eq_getElem _ _ bound, List.getD_eq_getElem _ _ bound'] at octets

theorem interleaved_of_depth_one (depth : Nat) (shallow : depth ≤ 1) (data : Bytes)
    (length : data.length = 223 * depth) : Interleaved depth data (rsEncode depth data) := by
  rw [interleaved_iff depth data length]
  intro i inside r
  have one : depth = 1 := by omega
  have first : i = 0 := by omega
  subst one first
  have run : (0 + 1 * (r : Nat)) / 32 = 0 := by omega
  have stage : Fin.ofNat 32 (0 + 1 * (r : Nat)) = r := by
    apply Fin.ext
    rw [Fin.val_ofNat]
    omega
  rw [run, stage]
  simp only [Nat.mul_zero, Nat.zero_add, Nat.one_mul]

/-! ### Two codeblocks or more -/

/-- A frame of zeros whose last octet is `1` -/
def lastOctetFrame (depth : Nat) : Bytes := List.replicate (223 * depth - 1) 0 ++ [1]

theorem lastOctetFrame_length (depth : Nat) (positive : 0 < depth) :
    (lastOctetFrame depth).length = 223 * depth := by
  simp [lastOctetFrame]
  omega

theorem lastOctetFrame_getD (depth p : Nat) :
    symbol ((lastOctetFrame depth).getD p 0) = if p = 223 * depth - 1 then 1 else 0 := by
  by_cases before : p < 223 * depth - 1
  · rw [lastOctetFrame, List.getD_append _ _ _ _ (by simpa using before), List.getD_replicate _ before,
      if_neg (by omega)]
    rfl
  · rw [lastOctetFrame, List.getD_append_right _ _ _ _ (by simpa using before), List.length_replicate]
    by_cases last : p = 223 * depth - 1
    · rw [if_pos last, last, Nat.sub_self]
      rfl
    · rw [if_neg last, List.getD_eq_default _ _ (by simp; omega)]
      rfl

/-- The last run's parity begins with two octets that are not zero, and one of them lies in a column of
zeros. -/
theorem lastOctetFrame_not_interleaved (depth : Nat) (deep : 2 ≤ depth) :
    ¬ Interleaved depth (lastOctetFrame depth) (rsEncode depth (lastOctetFrame depth)) := by
  have length := lastOctetFrame_length depth (by omega)
  rw [interleaved_iff depth _ length]
  intro equations
  obtain ⟨offset, small, column⟩ : ∃ offset < 2, (32 * (depth - 1) + offset) % depth ≠ depth - 1 := by
    by_cases first : (32 * (depth - 1)) % depth = depth - 1
    · refine ⟨1, by decide, ?_⟩
      -- The column after the last is the first.
      rw [Nat.add_mod, first, Nat.mod_eq_of_lt (show 1 < depth by omega), Nat.sub_add_cancel (by omega),
        Nat.mod_self]
      omega
    · exact ⟨0, by decide, first⟩
  let p := 32 * (depth - 1) + offset
  have bound : p / depth < 32 := Nat.div_lt_of_lt_mul (by omega)
  have equation := equations (p % depth) (Nat.mod_lt _ (by omega)) ⟨p / depth, bound⟩
  have position : p % depth + depth * (p / depth) = p := Nat.mod_add_div ..
  have run : p / 32 = depth - 1 := by omega
  have stage : Fin.ofNat 32 p = Fin.ofNat 32 offset := by
    apply Fin.ext
    simp only [Fin.val_ofNat]
    omega
  simp only [position, run, stage, lastOctetFrame_getD] at equation
  have zeros : ∀ m : Fin 223, p % depth + depth * (m : Nat) ≠ 223 * depth - 1 := by
    intro m equal
    have last : (223 * depth - 1) % depth = depth - 1 := by
      rw [show 223 * depth - 1 = depth - 1 + depth * 222 by omega, Nat.add_mul_mod_self_left,
        Nat.mod_eq_of_lt (by omega)]
    rw [← equal, Nat.add_mul_mod_self_left, Nat.mod_mod] at last
    exact column last
  simp only [zeros, if_false, zero_mul, Finset.sum_const_zero] at equation
  rw [Finset.sum_eq_single 222] at equation
  · have final : 223 * (depth - 1) + ((222 : Fin 223) : Nat) = 223 * depth - 1 := by
      show 223 * (depth - 1) + 222 = _
      omega
    rw [if_pos final, one_mul] at equation
    have powers : ∀ offset < 2, unitOctetParity (222 - ((222 : Fin 223) : Nat)) (Fin.ofNat 32 offset) ≠ 0 := by
      decide +kernel
    exact powers offset small equation
  · intro m _ other
    have early : 223 * (depth - 1) + (m : Nat) ≠ 223 * depth - 1 := by omega
    rw [if_neg early, zero_mul]
  · intro absent
    exact absurd (Finset.mem_univ _) absent

/-- Which frames come out interleaved, and at which depths all do -/
theorem rsEncode_interleaved_iff (depth : Nat) :
    (∀ data : Bytes, data.length = 223 * depth →
      (Interleaved depth data (rsEncode depth data) ∧ BurstSpread depth (data ++ rsEncode depth data) ↔
        RunsMatchColumns depth data)) ∧
    ((∀ data : Bytes, data.length = 223 * depth →
      Interleaved depth data (rsEncode depth data) ∧ BurstSpread depth (data ++ rsEncode depth data)) ↔
        depth ≤ 1) := by
  constructor
  · intro data length
    rw [interleaved_iff depth data length]
    exact and_iff_left (burstSpread _ _)
  · constructor
    · intro always
      by_contra deep
      have frame := always _ (lastOctetFrame_length depth (by omega))
      exact lastOctetFrame_not_interleaved depth (by omega) frame.1
    · intro shallow data length
      exact ⟨interleaved_of_depth_one depth shallow data length, burstSpread _ _⟩

/-- At depth two a frame of zeros with a last octet `1` comes out sequential. -/
theorem rsEncode_not_interleaved :
    ¬ ∀ (depth : Nat) (data : Bytes), data.length = 223 * depth →
      Interleaved depth data (rsEncode depth data) ∧ BurstSpread depth (data ++ rsEncode depth data) := by
  intro always
  have frame := always 2 (lastOctetFrame 2) (lastOctetFrame_length 2 (by decide))
  exact lastOctetFrame_not_interleaved 2 (by decide) frame.1

end ZephyrCcsds.Tm
