import ZephyrCcsds.Tc.Types

/-! # Channel coding

The decoders below the transfer frame: BCH(63,56) blocks (`ccsds_bch.c`), the CLTU
(`ccsds_cltu.c`) and the randomizer (`ccsds_rnd.c`).  The CLTU decoder writes every block
to the frame buffer before it looks at the result, so a failure leaves a changed buffer.
-/

namespace ZephyrCcsds.Tc

/-! ## BCH blocks -/

inductive BchResult where
  | ok
  | corrected
  | detectedEven
  | detectedOdd
  deriving DecidableEq, Repr

/-- The shift register and the parity after some bits of a block -/
structure BchRegister where
  syndrome : UInt8
  oddParity : Bool
  deriving DecidableEq, Repr

/-- One turn of the syndrome loop -/
def BchRegister.shift (register : BchRegister) (block : Bytes) (i : Nat) : BchRegister :=
  let received := (block.getD (i / 8) 0 >>> UInt8.ofNat (7 - i % 8)) &&& 1
  let carry := decide (register.syndrome &&& 0x20 ≠ 0)
  let bit := if 56 ≤ i then received ^^^ 1 else received
  let shifted := ((register.syndrome <<< 1) &&& 0x3f) ||| bit
  { syndrome := if carry then shifted ^^^ 0x03 else shifted
    oddParity := register.oddParity ^^ decide (bit ≠ 0) }

/-- The search for the bit that explains a syndrome, `remaining` positions long from `i` on -/
def bchSearch (syndrome : UInt8) : (remaining i : Nat) → (single : UInt8) → Option Nat
  | 0, _, _ => none
  | remaining + 1, i, single =>
    if syndrome = single then some i
    else
      bchSearch syndrome remaining (i + 1)
        (if single &&& 1 ≠ 0 then ((single ^^^ 0x03) >>> 1) ||| 0x20 else single >>> 1)

/-- What `ccsds_bch_decode_block` returns and writes -/
structure BchDecoded where
  result : BchResult
  data : Bytes
  correctedBit : Option Nat
  deriving DecidableEq, Repr

/-- `ccsds_bch_decode_block` -/
def bchDecodeBlock (block : Bytes) : BchDecoded :=
  let data := block.slice 0 bchDataSize
  let register : BchRegister :=
    (List.range 63).foldl (fun register i => register.shift block i) ⟨0, false⟩
  if register.syndrome = 0 then
    ⟨if register.oddParity then .detectedOdd else .ok, data, none⟩
  else if ¬ register.oddParity then
    ⟨.detectedEven, data, none⟩
  else
    match bchSearch register.syndrome 63 0 0x21 with
    | some i =>
      let corrected :=
        if i < 56 then data.modify (i / 8) (· ^^^ (0x80 >>> UInt8.ofNat (i % 8))) else data
      ⟨.corrected, corrected, some i⟩
    | none => ⟨.detectedOdd, data, none⟩

theorem bchDecodeBlock_data_length (block : Bytes) : (bchDecodeBlock block).data.length ≤ bchDataSize := by
  have bound : (block.slice 0 bchDataSize).length ≤ bchDataSize := by
    rw [Bytes.slice_length]
    omega
  unfold bchDecodeBlock
  dsimp only
  split
  · exact bound
  · split
    · exact bound
    · split
      · split
        · rwa [List.length_modify]
        · exact bound
      · exact bound

/-! ## CLTU -/

/-- `cltu_tail_sequence` -/
def cltuTailSequence : Bytes := [0xc5, 0xc5, 0xc5, 0xc5, 0xc5, 0xc5, 0xc5, 0x79]

/-- `__builtin_popcount` of an octet -/
def popcount (byte : UInt8) : Nat :=
  ((List.range 8).map fun i => ((byte >>> UInt8.ofNat i) &&& 1).toNat).sum

/-- `ccsds_cltu_is_start_sequence` -/
def cltuIsStartSequence (candidate : Bytes) : Bool :=
  let errors := popcount (candidate.getD 0 0 ^^^ 0xeb)
  if errors > 1 then false
  else decide (errors + popcount (candidate.getD 1 0 ^^^ 0x90) ≤ 1)

/-- `ccsds_cltu_has_tail_sequence` -/
def cltuHasTailSequence (cltu : Bytes) : Bool :=
  decide (cltu.slice (cltu.length - bchBlockSize) bchBlockSize = cltuTailSequence)

/-- The block loop of `ccsds_cltu_decode_message`, `remaining` blocks from `blockIndex` on -/
def decodeBlocks (cltu : Bytes) : (remaining blockIndex : Nat) → (tcFrame : Bytes) → Bytes × Except Errno Unit
  | 0, _, tcFrame => (tcFrame, .ok ())
  | remaining + 1, blockIndex, tcFrame =>
    let decoded := bchDecodeBlock (cltu.slice (2 + blockIndex * bchBlockSize) bchBlockSize)
    let tcFrame := tcFrame.overwrite (blockIndex * bchDataSize) decoded.data
    match decoded.result with
    | .ok | .corrected => decodeBlocks cltu remaining (blockIndex + 1) tcFrame
    | .detectedEven | .detectedOdd => (tcFrame, .error .eio)

/-- `ccsds_cltu_decode_message`: the frame buffer it leaves and, on success, the frame length.  The
length is `0` on every failure. -/
def cltuDecodeMessage [Kconfig] (cltu tcFrame : Bytes) : Bytes × Except Errno Nat :=
  if cltu.length < 2 + 2 * bchBlockSize then (tcFrame, .error .einval)
  else if cltu.length > maxCltuLen then (tcFrame, .error .einval)
  else if ¬ cltuIsStartSequence cltu then (tcFrame, .error .einval)
  else if (cltu.length - 2) % bchBlockSize ≠ 0 then (tcFrame, .error .einval)
  else if ¬ cltuHasTailSequence cltu then (tcFrame, .error .einval)
  else
    let decodedBlockCount := (cltu.length - 2) / bchBlockSize - 1
    let decodedLen := decodedBlockCount * bchDataSize
    if tcFrame.length < decodedLen then (tcFrame, .error .enospc)
    else
      match decodeBlocks cltu decodedBlockCount 0 tcFrame with
      | (tcFrame, .ok ()) => (tcFrame, .ok decodedLen)
      | (tcFrame, .error e) => (tcFrame, .error e)

theorem decodeBlocks_length {cltu : Bytes} {remaining blockIndex : Nat} {tcFrame : Bytes}
    (fits : (blockIndex + remaining) * bchDataSize ≤ tcFrame.length) :
    (decodeBlocks cltu remaining blockIndex tcFrame).1.length = tcFrame.length := by
  induction remaining generalizing blockIndex tcFrame with
  | zero => rfl
  | succ remaining ih =>
    have written := bchDecodeBlock_data_length (cltu.slice (2 + blockIndex * bchBlockSize) bchBlockSize)
    unfold bchDataSize at fits written
    have kept := @Bytes.overwrite_length tcFrame _ (blockIndex * bchDataSize)
      (by unfold bchDataSize; omega : blockIndex * bchDataSize + (bchDecodeBlock
        (cltu.slice (2 + blockIndex * bchBlockSize) bchBlockSize)).data.length ≤ tcFrame.length)
    have next : (blockIndex + 1 + remaining) * bchDataSize ≤ tcFrame.length := by
      unfold bchDataSize
      omega
    rw [decodeBlocks]
    cases (bchDecodeBlock (cltu.slice (2 + blockIndex * bchBlockSize) bchBlockSize)).result with
    | ok | corrected => exact (ih (by rw [kept]; exact next)).trans kept
    | detectedEven | detectedOdd => exact kept

/-- The frame buffer keeps its length, and a decoded frame lies in it. -/
theorem cltuDecodeMessage_length [Kconfig] {cltu tcFrame tcFrame' : Bytes} {len : Nat}
    (decoded : cltuDecodeMessage cltu tcFrame = (tcFrame', .ok len)) :
    tcFrame'.length = tcFrame.length ∧ len ≤ tcFrame.length := by
  unfold cltuDecodeMessage at decoded
  simp only at decoded
  split_ifs at decoded with short long start whole tail small
  all_goals try cases decoded
  split at decoded
  · rename_i blocks
    cases decoded
    have kept := @decodeBlocks_length cltu ((cltu.length - 2) / bchBlockSize - 1) 0 tcFrame
      (by rw [Nat.zero_add]; omega)
    rw [blocks] at kept
    exact ⟨kept, by omega⟩
  · cases decoded

/-! ## Randomizer -/

/-- `ccsds_rnd_seq` -/
def rndSeq : Bytes := [
    0xff, 0x48, 0x0e, 0xc0, 0x9a, 0x0d, 0x70, 0xbc, 0x8e, 0x2c, 0x93, 0xad, 0xa7, 0xb7, 0x46,
    0xce, 0x5a, 0x97, 0x7d, 0xcc, 0x32, 0xa2, 0xbf, 0x3e, 0x0a, 0x10, 0xf1, 0x88, 0x94, 0xcd,
    0xea, 0xb1, 0xfe, 0x90, 0x1d, 0x81, 0x34, 0x1a, 0xe1, 0x79, 0x1c, 0x59, 0x27, 0x5b, 0x4f,
    0x6e, 0x8d, 0x9c, 0xb5, 0x2e, 0xfb, 0x98, 0x65, 0x45, 0x7e, 0x7c, 0x14, 0x21, 0xe3, 0x11,
    0x29, 0x9b, 0xd5, 0x63, 0xfd, 0x20, 0x3b, 0x02, 0x68, 0x35, 0xc2, 0xf2, 0x38, 0xb2, 0x4e,
    0xb6, 0x9e, 0xdd, 0x1b, 0x39, 0x6a, 0x5d, 0xf7, 0x30, 0xca, 0x8a, 0xfc, 0xf8, 0x28, 0x43,
    0xc6, 0x22, 0x53, 0x37, 0xaa, 0xc7, 0xfa, 0x40, 0x76, 0x04, 0xd0, 0x6b, 0x85, 0xe4, 0x71,
    0x64, 0x9d, 0x6d, 0x3d, 0xba, 0x36, 0x72, 0xd4, 0xbb, 0xee, 0x61, 0x95, 0x15, 0xf9, 0xf0,
    0x50, 0x87, 0x8c, 0x44, 0xa6, 0x6f, 0x55, 0x8f, 0xf4, 0x80, 0xec, 0x09, 0xa0, 0xd7, 0x0b,
    0xc8, 0xe2, 0xc9, 0x3a, 0xda, 0x7b, 0x74, 0x6c, 0xe5, 0xa9, 0x77, 0xdc, 0xc3, 0x2a, 0x2b,
    0xf3, 0xe0, 0xa1, 0x0f, 0x18, 0x89, 0x4c, 0xde, 0xab, 0x1f, 0xe9, 0x01, 0xd8, 0x13, 0x41,
    0xae, 0x17, 0x91, 0xc5, 0x92, 0x75, 0xb4, 0xf6, 0xe8, 0xd9, 0xcb, 0x52, 0xef, 0xb9, 0x86,
    0x54, 0x57, 0xe7, 0xc1, 0x42, 0x1e, 0x31, 0x12, 0x99, 0xbd, 0x56, 0x3f, 0xd2, 0x03, 0xb0,
    0x26, 0x83, 0x5c, 0x2f, 0x23, 0x8b, 0x24, 0xeb, 0x69, 0xed, 0xd1, 0xb3, 0x96, 0xa5, 0xdf,
    0x73, 0x0c, 0xa8, 0xaf, 0xcf, 0x82, 0x84, 0x3c, 0x62, 0x25, 0x33, 0x7a, 0xac, 0x7f, 0xa4,
    0x07, 0x60, 0x4d, 0x06, 0xb8, 0x5e, 0x47, 0x16, 0x49, 0xd6, 0xd3, 0xdb, 0xa3, 0x67, 0x2d,
    0x4b, 0xbe, 0xe6, 0x19, 0x51, 0x5f, 0x9f, 0x05, 0x08, 0x78, 0xc4, 0x4a, 0x66, 0xf5, 0x58]

/-- The loop of `ccsds_rnd_apply` from an index into the sequence on -/
def rndApplyFrom : (seqIndex : Nat) → Bytes → Bytes
  | _, [] => []
  | seqIndex, byte :: data =>
    let next := if seqIndex + 1 = rndSeq.length then 0 else seqIndex + 1
    (byte ^^^ rndSeq.getD seqIndex 0) :: rndApplyFrom next data

/-- `ccsds_rnd_apply` -/
def rndApply (data : Bytes) : Bytes := rndApplyFrom 0 data

theorem rndApplyFrom_length (seqIndex : Nat) (data : Bytes) : (rndApplyFrom seqIndex data).length = data.length := by
  induction data generalizing seqIndex with
  | nil => rfl
  | cons byte data ih => simp only [rndApplyFrom, List.length_cons, ih]

end ZephyrCcsds.Tc
