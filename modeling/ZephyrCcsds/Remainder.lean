import Mathlib.Data.List.GetD
import Mathlib.Logic.Function.Iterate

/-! # Remainders of bit strings

A register that divides a bit string, first bit first, by a polynomial over two elements.  `poly` is the
polynomial without its leading term, and the width of the register is its degree.  The register is linear,
so a wrong bit adds the remainder of that bit to whatever comes out; and a string with its own parity behind
it has remainder zero.  With a constant term in the polynomial, wrong bits that lie within the width of the
register never cancel (`remainder_burst`).
-/

namespace ZephyrCcsds.Remainder

variable {w : Nat}

/-- One bit into the register -/
def feed (poly register : BitVec w) (bit : Bool) : BitVec w :=
  (register <<< 1 ^^^ BitVec.setWidth w (BitVec.ofBool bit)) ^^^ if register.msb then poly else 0

/-- The remainder of a bit string -/
def remainder (poly : BitVec w) (bits : List Bool) : BitVec w := bits.foldl (feed poly) 0

/-- The remainder of a bit string times `x ^ w`: what a systematic code sends behind it -/
def parity (poly : BitVec w) (bits : List Bool) : BitVec w :=
  remainder poly (bits ++ List.replicate w false)

/-- The bits of a register, the leading one first -/
def bits (register : BitVec w) : List Bool := (List.range w).map register.getMsbD

theorem feed_xor (poly register register' : BitVec w) (bit bit' : Bool) :
    feed poly (register ^^^ register') (bit ^^ bit') = feed poly register bit ^^^ feed poly register' bit' := by
  have bits : BitVec.setWidth w (BitVec.ofBool (bit ^^ bit')) =
      BitVec.setWidth w (BitVec.ofBool bit) ^^^ BitVec.setWidth w (BitVec.ofBool bit') := by
    cases bit <;> cases bit' <;> simp
  have wraps : (if (register.msb ^^ register'.msb) then poly else 0) =
      (if register.msb then poly else 0) ^^^ (if register'.msb then poly else 0) := by
    cases register.msb <;> cases register'.msb <;> simp
  simp only [feed, BitVec.shiftLeft_xor_distrib, BitVec.msb_xor, bits, wraps]
  ac_rfl

/-- What a difference in the register turns into while zeros follow -/
def drift (poly : BitVec w) (steps : Nat) (difference : BitVec w) : BitVec w :=
  (fun register => feed poly register false)^[steps] difference

theorem foldl_feed_zeros (poly register : BitVec w) (steps : Nat) :
    (List.replicate steps false).foldl (feed poly) register = drift poly steps register := by
  induction steps generalizing register with
  | zero => rfl
  | succ steps ih =>
    rw [List.replicate_succ, List.foldl_cons, ih]
    rfl

/-- Two registers keep the difference of their start. -/
theorem foldl_feed_xor (poly register difference : BitVec w) (bits : List Bool) :
    bits.foldl (feed poly) (register ^^^ difference) =
      bits.foldl (feed poly) register ^^^ drift poly bits.length difference := by
  induction bits generalizing register difference with
  | nil => rfl
  | cons bit bits ih =>
    have step := feed_xor poly register difference bit false
    rw [Bool.xor_false] at step
    rw [List.foldl_cons, step, ih, List.foldl_cons]
    rfl

/-- A wrong bit adds the remainder of its place. -/
theorem remainder_flip (poly : BitVec w) (front back : List Bool) (bit : Bool) :
    remainder poly (front ++ (!bit) :: back) =
      remainder poly (front ++ bit :: back) ^^^
        drift poly back.length (BitVec.setWidth w (BitVec.ofBool true)) := by
  have wrong : feed poly (remainder poly front) (!bit) =
      feed poly (remainder poly front) bit ^^^ BitVec.setWidth w (BitVec.ofBool true) := by
    have step := feed_xor poly (remainder poly front) 0 bit true
    have same : remainder poly front ^^^ 0 = remainder poly front := BitVec.xor_zero
    rw [same, Bool.xor_true] at step
    rw [step]
    simp [feed]
  unfold remainder at wrong ⊢
  rw [List.foldl_append, List.foldl_cons, wrong, foldl_feed_xor, List.foldl_append, List.foldl_cons]

/-- While fewer bits than the width have come in, nothing has wrapped. -/
theorem foldl_feed_bits (poly register : BitVec w) (k : Nat) (inside : k ≤ w) :
    ((List.range k).map register.getMsbD).foldl (feed poly) 0 = register >>> (w - k) := by
  induction k with
  | zero => simp [BitVec.ushiftRight_eq_zero]
  | succ k ih =>
    rw [List.range_succ, List.map_append, List.foldl_append, ih (by omega)]
    show feed poly (register >>> (w - k)) (register.getMsbD k) = _
    have clear : (register >>> (w - k)).msb = false := by
      rw [BitVec.msb_eq_getLsbD_last, BitVec.getLsbD_ushiftRight]
      exact BitVec.getLsbD_of_ge _ _ (by omega)
    rw [feed, clear]
    apply BitVec.eq_of_getLsbD_eq
    intro i bound
    have place : w - 1 - k = w - (k + 1) := by omega
    cases i with
    | zero =>
      have leading : register.getMsbD k = register.getLsbD (w - (k + 1)) := by
        rw [BitVec.getMsbD, place]
        simp [Nat.lt_of_succ_le inside]
      simp [leading, bound]
    | succ i =>
      have next : w - (k + 1) + (i + 1) = w - k + i := by omega
      simp [bound, next]

@[simp] theorem bits_length (register : BitVec w) : (bits register).length = w := by simp [bits]

theorem remainder_bits (poly register : BitVec w) : remainder poly (bits register) = register := by
  have whole := foldl_feed_bits poly register w (Nat.le_refl _)
  rwa [Nat.sub_self, BitVec.ushiftRight_zero] at whole

/-- The remainder of a string with as many check bits behind it as the width -/
theorem remainder_append_bits (poly : BitVec w) (string : List Bool) (check : BitVec w) :
    remainder poly (string ++ bits check) = check ^^^ parity poly string := by
  have own : parity poly string = drift poly w (remainder poly string) := by
    rw [parity, remainder, List.foldl_append, foldl_feed_zeros]
    rfl
  have start : 0 ^^^ remainder poly string = remainder poly string := BitVec.zero_xor
  have differ := foldl_feed_xor poly 0 (remainder poly string) (bits check)
  have alone : (bits check).foldl (feed poly) 0 = check := remainder_bits _ _
  rw [start, alone, bits_length, ← own] at differ
  rwa [remainder, List.foldl_append]

theorem drift_xor (poly difference difference' : BitVec w) (steps : Nat) :
    drift poly steps (difference ^^^ difference') = drift poly steps difference ^^^ drift poly steps difference' := by
  induction steps generalizing difference difference' with
  | zero => rfl
  | succ steps ih =>
    have step := feed_xor poly difference difference' false false
    rw [Bool.xor_false] at step
    show drift poly steps (feed poly (difference ^^^ difference') false) = _
    rw [step, ih]
    rfl

@[simp] theorem drift_zero (poly : BitVec w) (steps : Nat) : drift poly steps 0 = 0 := by
  have twice := drift_xor poly 0 0 steps
  have cancel : (0 : BitVec w) ^^^ 0 = 0 := BitVec.xor_self
  rw [cancel] at twice
  rw [twice, BitVec.xor_self]
  rfl

/-! ## The register with the check bits ahead -/

/-- One bit into the register at its leading end: the string is divided with as many zeros behind it as the
width, without these being fed -/
def feedAhead (poly register : BitVec w) (bit : Bool) : BitVec w :=
  register <<< 1 ^^^ if register.msb ^^ bit then poly else 0

theorem feedAhead_eq (poly register : BitVec w) (bit : Bool) :
    feedAhead poly register bit = feed poly register false ^^^ if bit then poly else 0 := by
  cases bit with
  | false => simp [feedAhead, feed]
  | true =>
    cases msb : register.msb with
    | false => simp [feedAhead, feed, msb]
    | true =>
      have reduced : feed poly register false = register <<< 1 ^^^ poly := by simp [feed, msb]
      -- The polynomial is subtracted twice.
      rw [reduced, if_pos rfl, BitVec.xor_assoc, BitVec.xor_self, BitVec.xor_zero]
      simp [feedAhead, msb]

theorem feed_of_msb_clear {poly register : BitVec w} (clear : register.msb = false) :
    feed poly register false = register <<< 1 := by
  simp [feed, clear]

theorem drift_succ (poly difference : BitVec w) (steps : Nat) :
    drift poly (steps + 1) difference = feed poly (drift poly steps difference) false :=
  Function.iterate_succ_apply' ..

/-- A single bit moves up through the register. -/
theorem drift_one (poly : BitVec w) (steps : Nat) (inside : steps < w) :
    drift poly steps 1#w = 1#w <<< steps := by
  induction steps with
  | zero => simp [drift]
  | succ steps ih =>
    have clear : (1#w <<< steps).msb = false := by
      rw [BitVec.msb_shiftLeft, BitVec.getMsbD_one]
      simp
      omega
    rw [drift_succ, ih (by omega), feed_of_msb_clear clear, BitVec.shiftLeft_add]

/-- A bit that has come through the whole register leaves the polynomial. -/
theorem drift_width (poly : BitVec w) : drift poly w 1#w = poly := by
  by_cases empty : w = 0
  · subst empty
    exact Subsingleton.elim _ _
  · have width : w - 1 + 1 = w := by omega
    have last : (1#w <<< (w - 1)).msb = true := by
      rw [BitVec.msb_shiftLeft, BitVec.getMsbD_one]
      simp
      omega
    have gone : 1#w <<< w = 0#w := by
      apply BitVec.eq_of_getLsbD_eq
      intro i inside
      simp [inside]
    calc drift poly w 1#w = drift poly (w - 1 + 1) 1#w := by rw [width]
      _ = poly := by
        rw [drift_succ, drift_one poly _ (by omega), feed, last, ← BitVec.shiftLeft_add, width, gone]
        simp

theorem one_eq_ofBool : BitVec.setWidth w (BitVec.ofBool true) = 1#w := by
  apply BitVec.eq_of_toNat_eq
  simp

theorem feed_bit (poly register : BitVec w) (bit : Bool) :
    feed poly register bit = feed poly register false ^^^ if bit then 1#w else 0 := by
  have step := feed_xor poly register 0 false bit
  have same : register ^^^ 0 = register := BitVec.xor_zero
  rw [same, Bool.false_xor] at step
  rw [step]
  cases bit with
  | false => simp [feed]
  | true =>
    have alone : feed poly 0 true = 1#w := by
      rw [feed, one_eq_ofBool]
      simp
    rw [alone, if_pos rfl]

/-- Feeding a string ahead is feeding it and as many zeros as the width. -/
theorem foldl_feedAhead (poly register : BitVec w) (bits : List Bool) :
    bits.foldl (feedAhead poly) (drift poly w register) = drift poly w (bits.foldl (feed poly) register) := by
  induction bits generalizing register with
  | nil => rfl
  | cons bit bits ih =>
    have step : feedAhead poly (drift poly w register) bit = drift poly w (feed poly register bit) := by
      rw [feedAhead_eq, feed_bit poly register, drift_xor]
      congr 1
      · exact (drift_succ poly register w).symm
      · cases bit with
        | false => exact (drift_zero poly w).symm
        | true => exact (drift_width poly).symm
    rw [List.foldl_cons, step, ih, List.foldl_cons]

/-- From a clear register a string leaves its parity. -/
theorem foldl_feedAhead_zero (poly : BitVec w) (bits : List Bool) :
    bits.foldl (feedAhead poly) 0 = parity poly bits := by
  have all := foldl_feedAhead poly 0 bits
  rw [drift_zero] at all
  rw [all, parity, remainder, List.foldl_append, foldl_feed_zeros]

theorem feedAhead_xor (poly register register' : BitVec w) (bit bit' : Bool) :
    feedAhead poly (register ^^^ register') (bit ^^ bit') =
      feedAhead poly register bit ^^^ feedAhead poly register' bit' := by
  have step := feed_xor poly register register' false false
  rw [Bool.xor_false] at step
  have both : (if (bit ^^ bit') then poly else 0) = (if bit then poly else 0) ^^^ (if bit' then poly else 0) := by
    cases bit <;> cases bit' <;> simp
  rw [feedAhead_eq, feedAhead_eq, feedAhead_eq, step, both]
  ac_rfl

/-- Two registers and two strings add up. -/
theorem foldl_feedAhead_xor (poly register register' : BitVec w) (bits bits' : List Bool)
    (same : bits.length = bits'.length) :
    (List.zipWith xor bits bits').foldl (feedAhead poly) (register ^^^ register') =
      bits.foldl (feedAhead poly) register ^^^ bits'.foldl (feedAhead poly) register' := by
  induction bits generalizing bits' register register' with
  | nil =>
    obtain rfl := List.eq_nil_of_length_eq_zero same.symm
    rfl
  | cons bit bits ih =>
    cases bits' with
    | nil => cases same
    | cons bit' bits' =>
      rw [List.zipWith_cons_cons, List.foldl_cons, feedAhead_xor, ih _ _ _ (Nat.succ.inj same), List.foldl_cons,
        List.foldl_cons]

/-- What a register held and what comes in add up. -/
theorem foldl_feedAhead_eq (poly register : BitVec w) (bits : List Bool) :
    bits.foldl (feedAhead poly) register = drift poly bits.length register ^^^ parity poly bits := by
  have alone : (List.replicate bits.length false).foldl (feedAhead poly) register = drift poly bits.length register := by
    generalize bits.length = count
    induction count generalizing register with
    | zero => rfl
    | succ count ih =>
      have step : feedAhead poly register false = feed poly register false := by simp [feedAhead_eq]
      rw [List.replicate_succ, List.foldl_cons, step, ih]
      rfl
  have zeros : List.zipWith xor (List.replicate bits.length false) bits = bits := by
    apply List.ext_getElem
    · simp
    · intro i inside inside'
      simp
  have sum := foldl_feedAhead_xor poly register 0 (List.replicate bits.length false) bits (by simp)
  have same : register ^^^ 0 = register := BitVec.xor_zero
  rwa [zeros, same, alone, foldl_feedAhead_zero] at sum

/-- A register's own bits pass it by. -/
theorem foldl_feedAhead_own (poly register : BitVec w) (count : Nat) :
    ((List.range count).map register.getMsbD).foldl (feedAhead poly) register = register <<< count := by
  induction count with
  | zero => simp
  | succ count ih =>
    have leading : (register <<< count).msb = register.getMsbD count := by simp [BitVec.msb_shiftLeft]
    rw [List.range_succ, List.map_append, List.foldl_append, ih, BitVec.shiftLeft_add]
    simp [feedAhead, leading]

theorem bits_xor (register register' : BitVec w) :
    bits (register ^^^ register') = List.zipWith xor (bits register) (bits register') := by
  simp [bits, List.zipWith_map, List.zipWith_self]

/-! ## Bursts -/

/-- With a constant term in the polynomial no difference dies out. -/
theorem feed_eq_zero {poly register : BitVec w} (odd : poly.getLsbD 0 = true) (zero : feed poly register false = 0) :
    register = 0 := by
  have clear : register.msb = false := by
    have low := congrArg (fun register => BitVec.getLsbD register 0) zero
    cases msb : register.msb with
    | false => rfl
    | true =>
      have positive := BitVec.lt_of_getLsbD odd
      simp [feed, msb, odd] at low
  rw [feed_of_msb_clear clear] at zero
  apply BitVec.eq_of_getLsbD_eq
  intro i inside
  by_cases last : i = w - 1
  · rw [last, ← BitVec.msb_eq_getLsbD_last, clear]
    simp
  · have bit := congrArg (fun register => BitVec.getLsbD register (i + 1)) zero
    have next : i + 1 < w := by omega
    simpa [next, ← BitVec.getLsbD_eq_getElem] using bit

theorem drift_eq_zero {poly difference : BitVec w} (odd : poly.getLsbD 0 = true) (steps : Nat)
    (zero : drift poly steps difference = 0) : difference = 0 := by
  induction steps with
  | zero => exact zero
  | succ steps ih =>
    rw [drift_succ] at zero
    exact ih (feed_eq_zero odd zero)

theorem eq_zeros {string : List Bool} (clean : true ∉ string) : string = List.replicate string.length false := by
  apply List.eq_replicate_of_mem
  intro bit found
  cases bit with
  | false => rfl
  | true => exact absurd found clean

theorem eq_zero_of_bits {register : BitVec w} (clean : true ∉ bits register) : register = 0 := by
  have own := remainder_bits 0 register
  rw [eq_zeros clean, remainder, foldl_feed_zeros, drift_zero] at own
  exact own.symm

/-- A string no longer than the register is its own remainder. -/
theorem remainder_short {poly : BitVec w} {string : List Bool} (short : string.length ≤ w)
    (zero : remainder poly string = 0) : true ∉ string := by
  have padded : (List.replicate (w - string.length) false ++ string).length = w := by
    rw [List.length_append, List.length_replicate]
    omega
  have same : remainder poly (List.replicate (w - string.length) false ++ string) = 0 := by
    rw [remainder, List.foldl_append, foldl_feed_zeros, drift_zero]
    exact zero
  generalize whole : List.replicate (w - string.length) false ++ string = bits' at padded same
  have register : bits' = bits ((BitVec.ofBoolListBE bits').cast padded) := by
    apply List.ext_getElem
    · simp [padded]
    · intro i inside inside'
      simp [bits, List.getD_eq_getElem?_getD, inside]
  rw [register, remainder_bits] at same
  intro wrong
  have found : true ∈ bits' := by
    rw [← whole]
    exact List.mem_append_right _ wrong
  rw [register, same] at found
  simp [bits] at found

/-- Wrong bits no further apart than the width are never a multiple of a polynomial with a constant term. -/
theorem remainder_burst {poly : BitVec w} (odd : poly.getLsbD 0 = true) {error : List Bool} {start : Nat}
    (burst : ∀ i, error[i]? = some true → start ≤ i ∧ i < start + w) (wrong : true ∈ error) :
    remainder poly error ≠ 0 := by
  intro zero
  have parts : error = error.take start ++ ((error.drop start).take w ++ error.drop (start + w)) := by
    rw [← List.drop_drop, List.take_append_drop, List.take_append_drop]
  have front : true ∉ error.take start := by
    intro found
    obtain ⟨i, here⟩ := List.mem_iff_getElem?.mp found
    rw [List.getElem?_take] at here
    split at here
    · have := (burst i here).1
      omega
    · cases here
  have back : true ∉ error.drop (start + w) := by
    intro found
    obtain ⟨i, here⟩ := List.mem_iff_getElem?.mp found
    rw [List.getElem?_drop] at here
    have := (burst _ here).2
    omega
  rw [parts, remainder, List.foldl_append, List.foldl_append, eq_zeros front, foldl_feed_zeros, drift_zero,
    eq_zeros back, foldl_feed_zeros] at zero
  have none := remainder_short (List.length_take_le _ _) (drift_eq_zero odd _ zero)
  rw [parts, List.mem_append, List.mem_append] at wrong
  exact wrong.elim front (fun wrong => wrong.elim none back)

end ZephyrCcsds.Remainder
