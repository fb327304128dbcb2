import ZephyrCcsds.Remainder
import ZephyrCcsds.Tc.Coding

/-! # The BCH code

`ccsds_bch_decode_block` on every block of eight octets.

* The syndrome register of the decoder and its parity bit are together the remainder by the generator
  `x⁷ + x⁶ + x² + 1`, and the decoder tells from this remainder and the data octets.
* The remainder is the check bits plus the parity of the data (`bchRemainder_block`), so that it vanishes
  for codewords only.
* A wrong bit adds the remainder of its place.  Two of them cancel in the parity bit and not in the
  syndrome.
-/

namespace ZephyrCcsds.Tc

open Remainder

/-! ## Codeblocks -/

/-- A bit of some octets, the leading bit of the first octet first -/
def bitAt (octets : Bytes) (i : Nat) : Bool := (octets.getD (i / 8) 0).toNat.testBit (7 - i % 8)

/-- The generator `x⁷ + x⁶ + x² + 1` without its leading term -/
def bchGenerator : BitVec 7 := 0x45

/-- The parity of the 56 bits of data -/
def bchParity (data : Bytes) : BitVec 7 := parity bchGenerator ((List.range 56).map (bitAt data))

/-- A codeblock: the data, the complemented parity and a filler bit `0` -/
def bchEncodeBlock (data : Bytes) : Bytes := data ++ [UInt8.ofNat ((~~~bchParity data).toNat * 2)]

/-- A codeword: the data, its parity complemented, and a filler bit -/
def bchCodeword (data : Bytes) (filler : Bool) : Bytes :=
  data ++ [UInt8.ofNat ((~~~bchParity data).toNat * 2 + filler.toNat)]

/-- One bit is wrong. -/
def flipBit (block : Bytes) (i : Nat) : Bytes := block.modify (i / 8) (· ^^^ (0x80 >>> UInt8.ofNat (i % 8)))

/-- At most one of the bits that the decoder looks at is wrong. -/
def garble (error : Option (Fin 63)) (block : Bytes) : Bytes :=
  match error with
  | none => block
  | some i => flipBit block i

/-! ## The register -/

/-- The bits that the decoder divides: the parity is complemented back. -/
def checkBit (block : Bytes) (i : Nat) : Bool := bitAt block i ^^ decide (56 ≤ i)

/-- The two parts of the decoder's register that stand for a remainder -/
def registerOf (remainder : BitVec 7) : BchRegister where
  syndrome := UInt8.ofNat (remainder.toNat % 64) ^^^ if remainder.msb then 0x03 else 0
  oddParity := (bits remainder).foldl xor false

/-- One bit into the decoder's register -/
def BchRegister.take (register : BchRegister) (bit : Bool) : BchRegister :=
  let carry := decide (register.syndrome &&& 0x20 ≠ 0)
  let shifted := ((register.syndrome <<< 1) &&& 0x3f) ||| if bit then 1 else 0
  { syndrome := if carry then shifted ^^^ 0x03 else shifted
    oddParity := register.oddParity ^^ bit }

theorem registerOf_feed (remainder : BitVec 7) (bit : Bool) :
    registerOf (feed bchGenerator remainder bit) = (registerOf remainder).take bit := by
  revert remainder bit
  decide +kernel

theorem received_eq (octet : UInt8) (place : Nat) (inside : place < 8) :
    (octet >>> UInt8.ofNat place) &&& 1 = if octet.toNat.testBit place then 1 else 0 := by
  apply UInt8.toNat_inj.mp
  have small : place % 2 ^ 8 % 8 = place := by omega
  rw [UInt8.toNat_and, UInt8.toNat_shiftRight, UInt8.toNat_ofNat', small, Nat.testBit_eq_decide_div_mod_eq,
    Nat.shiftRight_eq_div_pow]
  show _ &&& 1 = _
  rw [Nat.and_one_is_mod]
  by_cases odd : octet.toNat / 2 ^ place % 2 = 1
  · simp [odd]
  · have even : octet.toNat / 2 ^ place % 2 = 0 := by omega
    simp [even]

theorem shift_eq_take (register : BchRegister) (block : Bytes) (i : Nat) :
    register.shift block i = register.take (checkBit block i) := by
  have received : (block.getD (i / 8) 0).toNat.testBit (7 - i % 8) = bitAt block i := rfl
  unfold BchRegister.shift
  rw [received_eq _ _ (by omega), received]
  unfold BchRegister.take checkBit
  cases bitAt block i <;> by_cases parity : 56 ≤ i <;> simp [parity]

theorem foldl_shift_eq (block : Bytes) :
    (List.range 63).foldl (fun register i => register.shift block i) ⟨0, false⟩ =
      registerOf (remainder bchGenerator ((List.range 63).map (checkBit block))) := by
  have step : ∀ (places : List Nat) (register : BitVec 7),
      places.foldl (fun register i => register.shift block i) (registerOf register) =
        registerOf ((places.map (checkBit block)).foldl (feed bchGenerator) register) := by
    intro places
    induction places with
    | nil => intro register; rfl
    | cons place places ih =>
      intro register
      rw [List.foldl_cons, shift_eq_take, ← registerOf_feed, ih]
      rfl
  exact step _ 0

/-- The remainder of a block, with the complement taken back -/
def bchRemainder (block : Bytes) : BitVec 7 := remainder bchGenerator ((List.range 63).map (checkBit block))

/-- The decoder's register after the sixty-three bits -/
def bchRegister (block : Bytes) : BchRegister :=
  (List.range 63).foldl (fun register i => register.shift block i) ⟨0, false⟩

theorem bchRegister_eq (block : Bytes) : bchRegister block = registerOf (bchRemainder block) :=
  foldl_shift_eq block

/-! ## What the decoder answers -/

theorem registerOf_clear (remainder : BitVec 7) : registerOf remainder = ⟨0, false⟩ ↔ remainder = 0 := by
  revert remainder
  decide +kernel

/-- The decoder tells from the remainder and the data. -/
theorem bchDecodeBlock_congr {block block' : Bytes} (remainder : bchRemainder block = bchRemainder block')
    (data : block.slice 0 bchDataSize = block'.slice 0 bchDataSize) :
    bchDecodeBlock block = bchDecodeBlock block' := by
  have register : bchRegister block = bchRegister block' := by
    rw [bchRegister_eq, bchRegister_eq, remainder]
  unfold bchRegister at register
  rw [bchDecodeBlock, bchDecodeBlock, register, data]

theorem bchDecodeBlock_clear {block : Bytes} (clear : bchRemainder block = 0) :
    bchDecodeBlock block = ⟨.ok, block.slice 0 bchDataSize, none⟩ := by
  have register : bchRegister block = ⟨0, false⟩ := by
    rw [bchRegister_eq, registerOf_clear]
    exact clear
  unfold bchRegister at register
  rw [bchDecodeBlock, register]
  rfl

/-- Only a block without remainder is taken as it is. -/
theorem bchRemainder_of_ok {block : Bytes} (accepted : (bchDecodeBlock block).result = .ok) :
    bchRemainder block = 0 := by
  rw [← registerOf_clear, ← bchRegister_eq]
  unfold bchDecodeBlock at accepted
  dsimp only at accepted
  have register : (List.range 63).foldl (fun register i => register.shift block i) ⟨0, false⟩ =
      bchRegister block := rfl
  rw [register] at accepted
  cases state : bchRegister block with
  | mk syndrome oddParity =>
    rw [state] at accepted
    by_cases clear : syndrome = 0
    · cases oddParity with
      | false => rw [clear]
      | true => simp [clear] at accepted
    · simp only [clear, if_false] at accepted
      cases oddParity with
      | false => cases accepted
      | true =>
        simp only [not_true_eq_false, if_false] at accepted
        split at accepted <;> cases accepted

/-! ## Remainders -/

/-- The check bits of a block as they are compared with the parity -/
def checkOctet (last : UInt8) : BitVec 7 := ~~~BitVec.ofNat 7 (last.toNat / 2)

theorem checkOctet_bit (last : UInt8) (j : Nat) (inside : j < 7) :
    (!last.toNat.testBit (7 - j)) = (checkOctet last).getMsbD j := by
  have next : 7 - 1 - j + 1 = 7 - j := by omega
  have low : 7 - 1 - j < 7 := by omega
  rw [checkOctet, BitVec.getMsbD_not, BitVec.getMsbD_eq_getLsbD, BitVec.getLsbD_ofNat, Nat.testBit_div_two, next]
  simp [inside, low]

theorem bitAt_append_left (front back : Bytes) (i : Nat) (inside : i / 8 < front.length) :
    bitAt (front ++ back) i = bitAt front i := by
  rw [bitAt, bitAt, List.getD_eq_getElem?_getD, List.getD_eq_getElem?_getD, List.getElem?_append_left inside]

theorem checkBits_block (data : Bytes) (length : data.length = 7) (last : UInt8) :
    (List.range 63).map (checkBit (data ++ [last])) =
      (List.range 56).map (bitAt data) ++ bits (checkOctet last) := by
  have split : List.range 63 = List.range 56 ++ (List.range 7).map (56 + ·) := @List.range_add 56 7
  rw [split, List.map_append, List.map_map, bits]
  congr 1
  · apply List.map_congr_left
    intro i inside
    rw [List.mem_range] at inside
    have data_bit : decide (56 ≤ i) = false := decide_eq_false (by omega)
    rw [checkBit, data_bit, Bool.xor_false, bitAt_append_left _ _ _ (by omega)]
  · apply List.map_congr_left
    intro j inside
    rw [List.mem_range] at inside
    have lastOctet : (data ++ [last]).getD ((56 + j) / 8) 0 = last := by
      have seventh : (56 + j) / 8 = data.length := by omega
      rw [seventh, List.getD_eq_getElem?_getD, List.getElem?_append_right (Nat.le_refl _), Nat.sub_self]
      rfl
    have place : 7 - (56 + j) % 8 = 7 - j := by omega
    have check_bit : decide (56 ≤ 56 + j) = true := decide_eq_true (by omega)
    show checkBit (data ++ [last]) (56 + j) = _
    rw [checkBit, bitAt, lastOctet, place, check_bit, Bool.xor_true, checkOctet_bit _ _ inside]

theorem bchRemainder_block (data : Bytes) (length : data.length = 7) (last : UInt8) :
    bchRemainder (data ++ [last]) = checkOctet last ^^^ bchParity data := by
  rw [bchRemainder, checkBits_block data length, remainder_append_bits]
  rfl

theorem checkOctet_codeword (parity : BitVec 7) (filler : Bool) :
    checkOctet (UInt8.ofNat ((~~~parity).toNat * 2 + filler.toNat)) = parity := by
  have bound := (~~~parity).isLt
  have bit := Bool.toNat_lt filler
  have half : ((~~~parity).toNat * 2 + filler.toNat) % 2 ^ 8 / 2 = (~~~parity).toNat := by omega
  rw [checkOctet, UInt8.toNat_ofNat', half, BitVec.ofNat_toNat, BitVec.setWidth_eq, BitVec.not_not]

theorem octet_of_check (last : UInt8) :
    last = UInt8.ofNat ((~~~checkOctet last).toNat * 2 + (decide (last.toNat % 2 = 1)).toNat) := by
  have bound := last.toNat_lt
  have check : (~~~checkOctet last).toNat = last.toNat / 2 := by
    rw [checkOctet, BitVec.not_not, BitVec.toNat_ofNat]
    omega
  apply UInt8.toNat_inj.mp
  rw [check, UInt8.toNat_ofNat']
  by_cases odd : last.toNat % 2 = 1
  · simp only [odd, decide_true, Bool.toNat_true]
    omega
  · simp only [odd, decide_false, Bool.toNat_false]
    omega

theorem bchCodeword_remainder (data : Bytes) (length : data.length = 7) (filler : Bool) :
    bchRemainder (bchCodeword data filler) = 0 := by
  rw [bchCodeword, bchRemainder_block data length, checkOctet_codeword, BitVec.xor_self]
  rfl

theorem bchCodeword_length (data : Bytes) (length : data.length = 7) (filler : Bool) :
    (bchCodeword data filler).length = 8 := by
  rw [bchCodeword, List.length_append, length]
  rfl

theorem bchCodeword_data (data : Bytes) (length : data.length = 7) (filler : Bool) :
    (bchCodeword data filler).slice 0 bchDataSize = data := by
  have field := Bytes.slice_append_left data [UInt8.ofNat ((~~~bchParity data).toNat * 2 + filler.toNat)]
  rwa [length] at field

/-- A block without remainder is a codeword. -/
theorem codeword_of_remainder {block : Bytes} (length : block.length = 8) (clear : bchRemainder block = 0) :
    ∃ filler, block = bchCodeword (block.slice 0 bchDataSize) filler := by
  have dataLength : (block.slice 0 bchDataSize).length = 7 := by
    rw [Bytes.slice_length, length]
    rfl
  obtain ⟨last, split⟩ : ∃ last, block = block.slice 0 bchDataSize ++ [last] := by
    refine ⟨block.getD 7 0, ?_⟩
    have back : block.drop 7 = [block.getD 7 0] := by
      rw [List.drop_eq_getElem_cons (by omega), List.getD_eq_getElem?_getD, List.getElem?_eq_getElem (by omega)]
      rw [List.drop_eq_nil_of_le (by omega), Option.getD_some]
    rw [← back]
    exact (List.take_append_drop 7 block).symm
  generalize block.slice 0 bchDataSize = data at dataLength split
  subst split
  rw [bchRemainder_block data dataLength] at clear
  have parity : checkOctet last = bchParity data := BitVec.xor_eq_zero_iff.mp clear
  refine ⟨decide (last.toNat % 2 = 1), ?_⟩
  rw [bchCodeword, ← parity, ← octet_of_check]

/-! ## Wrong bits -/

theorem bitAt_flipBit (block : Bytes) (i j : Nat) (inside : i / 8 < block.length) :
    bitAt (flipBit block i) j = (bitAt block j ^^ decide (i = j)) := by
  have mask : ∀ a < 8, ∀ b < 8, (0x80 >>> UInt8.ofNat a : UInt8).toNat.testBit (7 - b) = decide (a = b) := by
    decide +kernel
  rw [bitAt, bitAt, flipBit, List.getD_eq_getElem?_getD, List.getElem?_modify, List.getD_eq_getElem?_getD]
  by_cases octet : i / 8 = j / 8
  · rw [octet] at inside
    simp only [octet, if_true]
    rw [List.getElem?_eq_getElem inside]
    show (block[j / 8] ^^^ 0x80 >>> UInt8.ofNat (i % 8)).toNat.testBit (7 - j % 8) = _
    have same : decide (i % 8 = j % 8) = decide (i = j) := decide_eq_decide.mpr (by omega)
    rw [UInt8.toNat_xor, Nat.testBit_xor, mask _ (by omega) _ (by omega), same]
    rfl
  · have other : decide (i = j) = false := decide_eq_false (by intro equal; exact octet (by rw [equal]))
    simp only [octet, if_false]
    rw [other, Bool.xor_false]
    cases block[j / 8]? <;> rfl

/-- The places before and after one of the sixty-three -/
theorem range_split (i : Nat) (inside : i < 63) :
    List.range 63 = List.range i ++ i :: List.range' (i + 1) (62 - i) := by
  rw [List.range_eq_range', List.range_eq_range', ← List.range'_succ,
    show 62 - i + 1 = 63 - i by omega]
  have join := @List.range'_append_1 0 i (63 - i)
  rw [Nat.zero_add, show i + (63 - i) = 63 by omega] at join
  exact join.symm

/-- A wrong bit leaves the remainder of its place. -/
theorem remainder_flipBit (block : Bytes) (length : block.length = 8) (i : Nat) (inside : i < 63) :
    remainder bchGenerator ((List.range 63).map (checkBit (flipBit block i))) =
      remainder bchGenerator ((List.range 63).map (checkBit block)) ^^^ drift bchGenerator (62 - i) 1 := by
  have wrong : ∀ j, checkBit (flipBit block i) j = (checkBit block j ^^ decide (i = j)) := by
    intro j
    rw [checkBit, bitAt_flipBit _ _ _ (by omega), checkBit, Bool.xor_right_comm]
  have kept : ∀ places : List Nat, i ∉ places →
      places.map (checkBit (flipBit block i)) = places.map (checkBit block) := by
    intro places absent
    apply List.map_congr_left
    intro j member
    rw [wrong, decide_eq_false (by intro equal; exact absent (equal ▸ member)), Bool.xor_false]
  have front : i ∉ List.range i := by simp
  have back : i ∉ List.range' (i + 1) (62 - i) := by
    rw [List.mem_range'_1]
    omega
  have flipped : checkBit (flipBit block i) i = !checkBit block i := by
    rw [wrong, decide_eq_true rfl, Bool.xor_true]
  rw [range_split i inside, List.map_append, List.map_cons, kept _ front, kept _ back, flipped,
    remainder_flip, List.map_append, List.map_cons, List.length_map, List.length_range']
  rfl

/-- The search finds the place that a remainder is of. -/
theorem bchSearch_place : ∀ i < 63,
    (registerOf (drift bchGenerator (62 - i) 1)).oddParity = true ∧
      (registerOf (drift bchGenerator (62 - i) 1)).syndrome ≠ 0 ∧
      bchSearch (registerOf (drift bchGenerator (62 - i) 1)).syndrome 63 0 0x21 = some i := by
  decide +kernel

theorem flipBit_flipBit (octets : Bytes) (i : Nat) : flipBit (flipBit octets i) i = octets := by
  have twice : ∀ octet mask : UInt8, octet ^^^ mask ^^^ mask = octet := by
    intro octet mask
    rw [UInt8.xor_assoc, UInt8.xor_self, UInt8.xor_zero]
  apply List.ext_getElem?
  intro j
  rw [flipBit, flipBit, List.getElem?_modify, List.getElem?_modify]
  cases octets[j]? with
  | none => rfl
  | some octet => by_cases here : i / 8 = j <;> simp [here, twice]

theorem slice_flipBit (octets : Bytes) (i len : Nat) :
    (flipBit octets i).slice 0 len = flipBit (octets.slice 0 len) i := by
  apply List.ext_getElem?
  intro j
  rw [flipBit, flipBit, List.getElem?_modify]
  by_cases inside : j < len
  · simp [Bytes.slice, inside, List.getElem?_modify]
  · simp [Bytes.slice, inside]

theorem flipBit_length (block : Bytes) (i : Nat) : (flipBit block i).length = block.length :=
  List.length_modify ..

/-- What a wrong bit at one of the sixty-three places adds to the remainder -/
def bchPlace (i : Nat) : BitVec 7 := drift bchGenerator (62 - i) 1

theorem bchRemainder_flipBit {block : Bytes} (length : block.length = 8) {i : Nat} (inside : i < 63) :
    bchRemainder (flipBit block i) = bchRemainder block ^^^ bchPlace i :=
  remainder_flipBit block length i inside

theorem bchRemainder_filler {block : Bytes} (length : block.length = 8) :
    bchRemainder (flipBit block 63) = bchRemainder block := by
  rw [bchRemainder, bchRemainder]
  congr 1
  apply List.map_congr_left
  intro i inside
  rw [List.mem_range] at inside
  have other : decide (63 = i) = false := decide_eq_false (by omega)
  rw [checkBit, checkBit, bitAt_flipBit _ _ _ (by omega), other, Bool.xor_false]

/-- The decoder does not look at the filler bit. -/
theorem bchDecodeBlock_filler {block : Bytes} (length : block.length = 8) :
    bchDecodeBlock (flipBit block 63) = bchDecodeBlock block := by
  apply bchDecodeBlock_congr (bchRemainder_filler length)
  have front : (block.slice 0 bchDataSize).length ≤ 7 := by
    rw [Bytes.slice_length, bchDataSize]
    omega
  rw [slice_flipBit, flipBit, List.modify_eq_self front]

theorem bchDecodeBlock_flipBit {block : Bytes} (length : block.length = 8) (clear : bchRemainder block = 0)
    {i : Nat} (inside : i < 63) :
    bchDecodeBlock (flipBit block i) = ⟨.corrected, block.slice 0 bchDataSize, some i⟩ := by
  obtain ⟨odd, nonzero, found⟩ := bchSearch_place i inside
  have register : bchRegister (flipBit block i) = registerOf (drift bchGenerator (62 - i) 1) := by
    rw [bchRegister_eq, bchRemainder_flipBit length inside, clear]
    exact congrArg registerOf BitVec.zero_xor
  have repaired : (if i < 56 then flipBit ((flipBit block i).slice 0 bchDataSize) i
      else (flipBit block i).slice 0 bchDataSize) = block.slice 0 bchDataSize := by
    rw [slice_flipBit]
    by_cases inData : i < 56
    · rw [if_pos inData, flipBit_flipBit]
    · have beyond : (block.slice 0 bchDataSize).length ≤ i / 8 := by
        rw [Bytes.slice_length, bchDataSize]
        omega
      rw [if_neg inData, flipBit, List.modify_eq_self beyond]
  unfold bchRegister at register
  rw [bchDecodeBlock, register]
  simp only [odd, nonzero, found, if_false, not_true_eq_false]
  rw [← flipBit, repaired]

theorem bchEncodeBlock_eq (data : Bytes) : bchEncodeBlock data = bchCodeword data false := rfl

/-- The decoder returns the data of a codeblock, whichever of the sixty-three bits is wrong. -/
theorem bchDecodeBlock_garble (data : Bytes) (length : data.length = 7) (error : Option (Fin 63)) :
    (bchDecodeBlock (garble error (bchEncodeBlock data))).data = data ∧
      ((bchDecodeBlock (garble error (bchEncodeBlock data))).result = .ok ∨
        (bchDecodeBlock (garble error (bchEncodeBlock data))).result = .corrected) := by
  have clear := bchCodeword_remainder data length false
  have front := bchCodeword_data data length false
  rw [bchEncodeBlock_eq]
  cases error with
  | none =>
    rw [garble, bchDecodeBlock_clear clear, front]
    exact ⟨rfl, .inl rfl⟩
  | some i =>
    rw [garble, bchDecodeBlock_flipBit (bchCodeword_length data length false) clear i.isLt, front]
    exact ⟨rfl, .inr rfl⟩

/-! ### Two of them -/

theorem foldl_xor_map {α : Type} (places : List α) (f g : α → Bool) (start start' : Bool) :
    (places.map fun place => f place ^^ g place).foldl xor (start ^^ start') =
      ((places.map f).foldl xor start ^^ (places.map g).foldl xor start') := by
  induction places generalizing start start' with
  | nil => rfl
  | cons place places ih =>
    have shuffle : (start ^^ start' ^^ (f place ^^ g place)) = (start ^^ f place ^^ (start' ^^ g place)) := by
      cases start <;> cases start' <;> cases f place <;> cases g place <;> rfl
    simp only [List.map_cons, List.foldl_cons]
    rw [shuffle, ih]

theorem registerOf_xor_parity (remainder remainder' : BitVec 7) :
    (registerOf (remainder ^^^ remainder')).oddParity =
      ((registerOf remainder).oddParity ^^ (registerOf remainder').oddParity) := by
  have sum := foldl_xor_map (List.range 7) remainder.getMsbD remainder'.getMsbD false false
  have pointwise : (remainder ^^^ remainder').getMsbD =
      fun place => remainder.getMsbD place ^^ remainder'.getMsbD place := funext fun _ => BitVec.getMsbD_xor
  simp only [registerOf, bits, pointwise]
  exact sum

theorem bchPlace_injective {i j : Nat} (insideI : i < 63) (insideJ : j < 63) (same : bchPlace i = bchPlace j) :
    i = j := by
  have foundI := (bchSearch_place i insideI).2.2
  have foundJ := (bchSearch_place j insideJ).2.2
  unfold bchPlace at same
  rw [same, foundJ] at foundI
  exact (Option.some.inj foundI).symm

theorem bchDecodeBlock_two {block : Bytes} (length : block.length = 8) (clear : bchRemainder block = 0)
    {i j : Nat} (insideI : i < 63) (insideJ : j < 63) (different : i ≠ j) :
    (bchDecodeBlock (flipBit (flipBit block i) j)).result = .detectedEven := by
  have remainder : bchRemainder (flipBit (flipBit block i) j) = bchPlace i ^^^ bchPlace j := by
    rw [bchRemainder_flipBit (by rw [flipBit_length]; exact length) insideJ, bchRemainder_flipBit length insideI,
      clear]
    exact congrArg (· ^^^ bchPlace j) BitVec.zero_xor
  have even : (bchRegister (flipBit (flipBit block i) j)).oddParity = false := by
    have oddI : (registerOf (bchPlace i)).oddParity = true := (bchSearch_place i insideI).1
    have oddJ : (registerOf (bchPlace j)).oddParity = true := (bchSearch_place j insideJ).1
    rw [bchRegister_eq, remainder, registerOf_xor_parity, oddI, oddJ]
    rfl
  have nonzero : (bchRegister (flipBit (flipBit block i) j)).syndrome ≠ 0 := by
    intro zero
    -- Then the two places would have the same remainder.
    have cleared : bchRegister (flipBit (flipBit block i) j) = ⟨0, false⟩ := by
      rw [← zero, ← even]
    rw [bchRegister_eq, registerOf_clear, remainder] at cleared
    exact different (bchPlace_injective insideI insideJ (BitVec.xor_eq_zero_iff.mp cleared))
  unfold bchRegister at even nonzero
  rw [bchDecodeBlock]
  simp [even, nonzero]

theorem registerOf_syndrome_lt (remainder : BitVec 7) : (registerOf remainder).syndrome.toNat < 64 := by
  have low : (UInt8.ofNat (remainder.toNat % 64)).toNat < 2 ^ 6 := by
    rw [UInt8.toNat_ofNat']
    omega
  have wrapped : (if remainder.msb then (0x03 : UInt8) else 0).toNat < 2 ^ 6 := by
    split <;> decide
  rw [registerOf, UInt8.toNat_xor]
  exact Nat.xor_lt_two_pow low wrapped

/-- The search finds a place for every syndrome that the register can hold. -/
theorem bchSearch_finds (remainder : BitVec 7) (nonzero : (registerOf remainder).syndrome ≠ 0) :
    ∃ i < 63, bchSearch (registerOf remainder).syndrome 63 0 0x21 = some i := by
  have all : ∀ syndrome < 64, syndrome ≠ 0 →
      ((bchSearch (UInt8.ofNat syndrome) 63 0 0x21).any (· < 63)) = true := by
    decide +kernel
  have this := all _ (registerOf_syndrome_lt remainder) fun zero => nonzero (UInt8.toNat_inj.mp zero)
  rw [UInt8.ofNat_toNat] at this
  cases found : bchSearch (registerOf remainder).syndrome 63 0 0x21 with
  | none =>
    rw [found] at this
    cases this
  | some i =>
    rw [found] at this
    exact ⟨i, of_decide_eq_true this, rfl⟩

/-! ## The code -/

/-- All that `ccsds_bch_decode_block` promises: it takes codewords and only these, puts one wrong bit right,
detects two, and its search for the wrong bit succeeds whenever it is made. -/
structure DecodesBch : Prop where
  codeword : ∀ data : Bytes, data.length = 7 → ∀ filler,
    bchDecodeBlock (bchCodeword data filler) = ⟨.ok, data, none⟩
  oneWrong : ∀ data : Bytes, data.length = 7 → ∀ filler, ∀ i < 63,
    bchDecodeBlock (flipBit (bchCodeword data filler) i) = ⟨.corrected, data, some i⟩
  twoWrong : ∀ data : Bytes, data.length = 7 → ∀ filler, ∀ i < 63, ∀ j < 63, i ≠ j →
    (bchDecodeBlock (flipBit (flipBit (bchCodeword data filler) i) j)).result = .detectedEven
  exact : ∀ block : Bytes, block.length = 8 → (bchDecodeBlock block).result = .ok →
    ∃ filler, block = bchCodeword (block.slice 0 7) filler
  filler : ∀ block : Bytes, block.length = 8 → bchDecodeBlock (flipBit block 63) = bchDecodeBlock block
  search : ∀ block : Bytes, (bchRegister block).oddParity = true → (bchRegister block).syndrome ≠ 0 →
    ∃ i < 63, bchSearch (bchRegister block).syndrome 63 0 0x21 = some i

theorem bch_code_decoded : DecodesBch where
  codeword := by
    intro data length filler
    rw [bchDecodeBlock_clear (bchCodeword_remainder data length filler), bchCodeword_data data length filler]
  oneWrong := by
    intro data length filler i inside
    rw [bchDecodeBlock_flipBit (bchCodeword_length data length filler) (bchCodeword_remainder data length filler)
      inside, bchCodeword_data data length filler]
  twoWrong := by
    intro data length filler i insideI j insideJ different
    exact bchDecodeBlock_two (bchCodeword_length data length filler) (bchCodeword_remainder data length filler)
      insideI insideJ different
  exact := by
    intro block length accepted
    exact codeword_of_remainder length (bchRemainder_of_ok accepted)
  filler := by
    intro block length
    exact bchDecodeBlock_filler length
  search := by
    intro block _ nonzero
    rw [bchRegister_eq] at nonzero ⊢
    exact bchSearch_finds _ nonzero

end ZephyrCcsds.Tc
