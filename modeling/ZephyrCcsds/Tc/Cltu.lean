import ZephyrCcsds.Tc.BchCode
import ZephyrCcsds.Tc.Frame

/-! # Telecommand transfer units

The sending side of `ccsds_cltu.c` as the standard has it, and the receiving side against it: whatever
frame is sent, and whichever bit of each codeblock is wrong, the frame comes out.
-/

namespace ZephyrCcsds.Tc

/-! ## Transfer units -/

/-- `CLTU_START_SEQUENCE` -/
def cltuStartSequence : Bytes := [0xeb, 0x90]

def codeblockCount (frame : Bytes) : Nat := (frame.length + 6) / 7

/-- A frame with fill octets up to a whole number of codeblocks -/
def filled (frame : Bytes) : Bytes :=
  frame ++ List.replicate (codeblockCount frame * 7 - frame.length) tcFillByte

/-- The transfer unit of a frame, with the bits that come over wrong -/
def cltuSent (errors : Nat → Option (Fin 63)) (frame : Bytes) : Bytes :=
  cltuStartSequence ++
    ((List.range (codeblockCount frame)).flatMap fun k =>
      garble (errors k) (bchEncodeBlock ((filled frame).slice (k * 7) 7))) ++
    cltuTailSequence

theorem filled_length (frame : Bytes) : (filled frame).length = codeblockCount frame * 7 := by
  rw [filled, codeblockCount, List.length_append, List.length_replicate]
  omega

section Pieces

variable {piece : Nat → Bytes} {size : Nat}

theorem flatMap_length (n : Nat) (sized : ∀ k < n, (piece k).length = size) :
    ((List.range n).flatMap piece).length = n * size := by
  induction n with
  | zero => simp
  | succ n ih =>
    rw [List.range_succ, List.flatMap_append, List.length_append, ih (by intro k inside; exact sized k (by omega)),
      List.flatMap_singleton, sized n (by omega), Nat.add_mul, Nat.one_mul]

/-- Pieces of one size lie end to end. -/
theorem slice_flatMap (n k : Nat) (sized : ∀ k < n, (piece k).length = size) (inside : k < n) :
    Bytes.slice ((List.range n).flatMap piece) (k * size) size = piece k := by
  induction n with
  | zero => omega
  | succ n ih =>
    have sized' : ∀ k < n, (piece k).length = size := by
      intro k before
      exact sized k (by omega)
    have front := flatMap_length n sized'
    rw [List.range_succ, List.flatMap_append, List.flatMap_singleton]
    by_cases last : k = n
    · rw [last, Bytes.slice_append_right _ (by rw [front]), front, Nat.sub_self, ← sized n (by omega)]
      have whole := Bytes.slice_append_left (piece n) []
      rwa [List.append_nil] at whole
    · have earlier : k < n := by omega
      have room : (k + 1) * size ≤ n * size := Nat.mul_le_mul_right _ earlier
      rw [Nat.add_mul, Nat.one_mul] at room
      rw [← ih sized' earlier, Bytes.slice, Bytes.slice, List.drop_append_of_le_length (by rw [front]; omega),
        List.take_append_of_le_length (by rw [List.length_drop, front]; omega)]

end Pieces

/-- Octets are the pieces that they are cut into. -/
theorem flatMap_slice (octets : Bytes) (size n : Nat) :
    ((List.range n).flatMap fun k => octets.slice (k * size) size) = octets.take (n * size) := by
  induction n with
  | zero => simp
  | succ n ih =>
    rw [List.range_succ, List.flatMap_append, ih, List.flatMap_singleton, Bytes.slice, Nat.add_mul,
      Nat.one_mul, List.take_add]

theorem garble_length (error : Option (Fin 63)) (data : Bytes) (length : data.length = 7) :
    (garble error (bchEncodeBlock data)).length = 8 := by
  have whole : (bchEncodeBlock data).length = 8 := by
    rw [bchEncodeBlock, List.length_append, length]
    rfl
  cases error with
  | none => exact whole
  | some i => rw [garble, flipBit, List.length_modify, whole]

/-! ### The decoder's loop -/

/-- Blocks that decode to some pieces put the pieces into the buffer, one after the other. -/
theorem decodeBlocks_eq (cltu : Bytes) (piece : Nat → Bytes) (n : Nat)
    (decodes : ∀ k < n, (bchDecodeBlock (cltu.slice (2 + k * bchBlockSize) bchBlockSize)).data = piece k ∧
      ((bchDecodeBlock (cltu.slice (2 + k * bchBlockSize) bchBlockSize)).result = .ok ∨
        (bchDecodeBlock (cltu.slice (2 + k * bchBlockSize) bchBlockSize)).result = .corrected))
    (sized : ∀ k < n, (piece k).length = bchDataSize) (remaining k : Nat) (rest : k + remaining = n)
    (tcFrame : Bytes) (room : n * bchDataSize ≤ tcFrame.length) :
    decodeBlocks cltu remaining k tcFrame =
      (tcFrame.overwrite (k * bchDataSize) ((List.range' k remaining).flatMap piece), .ok ()) := by
  induction remaining generalizing k tcFrame with
  | zero => simp [decodeBlocks, Bytes.overwrite]
  | succ remaining ih =>
    obtain ⟨data, accepted⟩ := decodes k (by omega)
    have width := sized k (by omega)
    have bound : (k + 1) * bchDataSize ≤ tcFrame.length :=
      (Nat.mul_le_mul_right _ (by omega : k + 1 ≤ n)).trans room
    rw [Nat.add_mul, Nat.one_mul] at bound
    have kept : (tcFrame.overwrite (k * bchDataSize) (piece k)).length = tcFrame.length :=
      Bytes.overwrite_length (by omega)
    have next := ih (k + 1) (by omega) (tcFrame.overwrite (k * bchDataSize) (piece k)) (by rwa [kept])
    have joined := @Bytes.overwrite_overwrite tcFrame (piece k) ((List.range' (k + 1) remaining).flatMap piece)
      (k * bchDataSize) (by omega)
    rw [width, ← Nat.succ_mul] at joined
    rw [decodeBlocks, data]
    rcases accepted with ok | corrected
    · simp only [ok]
      rw [next, joined, List.range'_succ, List.flatMap_cons]
    · simp only [corrected]
      rw [next, joined, List.range'_succ, List.flatMap_cons]

section Unit

variable (errors : Nat → Option (Fin 63)) (frame : Bytes)

theorem piece_length (k : Nat) (inside : k < codeblockCount frame) :
    ((filled frame).slice (k * 7) 7).length = 7 := by
  apply Bytes.slice_length_of_le
  rw [filled_length]
  omega

theorem codeblocks_length : ((List.range (codeblockCount frame)).flatMap fun k =>
    garble (errors k) (bchEncodeBlock ((filled frame).slice (k * 7) 7))).length = codeblockCount frame * 8 := by
  apply flatMap_length
  intro k inside
  exact garble_length _ _ (piece_length frame k inside)

theorem cltuSent_length : (cltuSent errors frame).length = codeblockCount frame * 8 + 10 := by
  rw [cltuSent, List.length_append, List.length_append, codeblocks_length]
  show 2 + _ + 8 = _
  omega

theorem cltuSent_slice (k : Nat) (inside : k < codeblockCount frame) :
    (cltuSent errors frame).slice (2 + k * bchBlockSize) bchBlockSize =
      garble (errors k) (bchEncodeBlock ((filled frame).slice (k * 7) 7)) := by
  have block := slice_flatMap (codeblockCount frame) k
    (fun k inside => garble_length (errors k) _ (piece_length frame k inside)) inside
  have bodyLen := codeblocks_length errors frame
  rw [← block, cltuSent, List.append_assoc, Bytes.slice_append_right _ (Nat.le_add_right 2 _)]
  show Bytes.slice _ (2 + k * 8 - 2) 8 = _
  rw [Nat.add_sub_cancel_left, Bytes.slice, Bytes.slice, List.drop_append_of_le_length (by omega),
    List.take_append_of_le_length (by rw [List.length_drop]; omega)]

theorem cltuSent_tail : cltuHasTailSequence (cltuSent errors frame) = true := by
  have bodyLen := codeblocks_length errors frame
  have start : (cltuSent errors frame).length - bchBlockSize = codeblockCount frame * 8 + 2 := by
    rw [cltuSent_length]
    rfl
  rw [cltuHasTailSequence, start, decide_eq_true_eq, cltuSent, Bytes.slice_append_right]
  · rw [List.length_append, bodyLen]
    show Bytes.slice cltuTailSequence (codeblockCount frame * 8 + 2 - (2 + codeblockCount frame * 8)) 8 = _
    rw [Nat.add_comm 2, Nat.sub_self]
    rfl
  · rw [List.length_append, bodyLen]
    show 2 + _ ≤ _
    omega

/-- The decoder puts the frame and its fill into the buffer. -/
theorem cltuDecodeMessage_sent [Kconfig] (tcFrame : Bytes) (some : frame ≠ [])
    (limit : (cltuSent errors frame).length ≤ maxCltuLen) (room : (filled frame).length ≤ tcFrame.length) :
    cltuDecodeMessage (cltuSent errors frame) tcFrame =
      (tcFrame.overwrite 0 (filled frame), .ok (filled frame).length) := by
  have total := cltuSent_length errors frame
  have fill := filled_length frame
  have positive : 1 ≤ codeblockCount frame := by
    have := List.length_pos_of_ne_nil some
    rw [codeblockCount]
    omega
  have start : cltuIsStartSequence (cltuSent errors frame) = true := by
    rw [cltuSent, List.append_assoc]
    show cltuIsStartSequence cltuStartSequence = true
    decide
  have pieces : (List.range' 0 (codeblockCount frame)).flatMap (fun k => (filled frame).slice (k * 7) 7) =
      filled frame := by
    rw [← List.range_eq_range', flatMap_slice, ← fill, List.take_length]
  have blocks := decodeBlocks_eq (cltuSent errors frame) (fun k => (filled frame).slice (k * 7) 7)
    (codeblockCount frame)
    (by
      intro k inside
      rw [cltuSent_slice errors frame k inside]
      exact bchDecodeBlock_garble _ (piece_length frame k inside) _)
    (piece_length frame) (codeblockCount frame) 0 (Nat.zero_add _) tcFrame (by rw [bchDataSize]; omega)
  rw [Nat.zero_mul, pieces] at blocks
  have count : ((cltuSent errors frame).length - 2) / bchBlockSize - 1 = codeblockCount frame := by
    rw [total, bchBlockSize]
    omega
  have decodedLen : codeblockCount frame * bchDataSize = (filled frame).length := fill.symm
  unfold cltuDecodeMessage
  simp only [count, blocks, decodedLen, start, cltuSent_tail, not_true_eq_false, if_false]
  rw [if_neg (by rw [total, bchBlockSize]; omega), if_neg (by omega),
    if_neg (by rw [total, bchBlockSize]; omega), if_neg (by omega)]

end Unit

/-! ## Frames -/

/-- A transfer frame of the configured spacecraft as a ground station has it -/
structure SentFrame where
  bypass : Bool
  controlCommand : Bool
  reserved : Fin 4
  virtualChannelId : Fin 64
  frameSequenceNumber : UInt8
  data : Bytes
  short : tcPrimaryHdrLen + data.length ≤ 1024

namespace SentFrame

variable [Kconfig] (frame : SentFrame)

/-- Version `0`, the flags, the reserved bits and the spacecraft -/
def word0 : Nat :=
  (if frame.bypass then 8192 else 0) + (if frame.controlCommand then 4096 else 0) + frame.reserved * 1024 +
    spacecraftId

/-- The virtual channel and the length of the frame, less one -/
def word1 : Nat := frame.virtualChannelId * 1024 + (tcPrimaryHdrLen + frame.data.length - 1)

def encode : Bytes :=
  Bytes.putBe 2 frame.word0 ++ Bytes.putBe 2 frame.word1 ++ [frame.frameSequenceNumber] ++ frame.data

/-- What the decoder says of the frame when it stands at the front of the frame buffer -/
def decoded : TcFrame where
  spacecraftId := Tc.spacecraftId
  virtualChannelId := frame.virtualChannelId
  bypass := frame.bypass
  controlCommand := frame.controlCommand
  frameSequenceNumber := frame.frameSequenceNumber
  data := tcPrimaryHdrLen
  dataLen := frame.data.length

theorem encode_length : frame.encode.length = tcPrimaryHdrLen + frame.data.length := by
  simp [encode, tcPrimaryHdrLen]
  omega

theorem word0_fields :
    frame.word0 / 256 % 256 / 64 % 4 = 0 ∧ frame.word0 % 1024 = spacecraftId ∧ frame.word0 < 256 ^ 2 ∧
      decide (frame.word0 / 256 % 256 / 32 % 2 = 1) = frame.bypass ∧
      decide (frame.word0 / 256 % 256 / 16 % 2 = 1) = frame.controlCommand := by
  have spacecraft := Kconfig.spacecraftId_range
  have reserved := frame.reserved.isLt
  unfold word0
  cases frame.bypass <;> cases frame.controlCommand <;>
    simp only [if_true, Bool.false_eq_true, if_false, decide_eq_true_eq, decide_eq_false_iff_not] <;> omega

omit [Kconfig] in
theorem word1_fields :
    frame.word1 % 1024 + 1 = tcPrimaryHdrLen + frame.data.length ∧
      frame.word1 / 1024 % 64 = frame.virtualChannelId ∧ frame.word1 < 256 ^ 2 := by
  have short := frame.short
  have channel := frame.virtualChannelId.isLt
  unfold word1
  unfold tcPrimaryHdrLen at short ⊢
  omega

omit [Kconfig] in
/-- Behind the frame there is nothing but fill. -/
theorem getD_fill (octets rest : Bytes) (fill i : Nat) (behind : octets.length ≤ i)
    (inside : i < octets.length + fill) :
    (octets ++ List.replicate fill tcFillByte ++ rest).getD i 0 = tcFillByte := by
  have place : i - octets.length < fill := by omega
  rw [List.append_assoc, List.getD_eq_getElem?_getD, List.getElem?_append_right behind,
    List.getElem?_append_left (by rwa [List.length_replicate]), List.getElem?_replicate_of_lt place]
  rfl

theorem tcFrameDecode_encode (fill : Nat) (rest : Bytes) :
    tcFrameDecode (frame.encode ++ List.replicate fill tcFillByte ++ rest) (frame.encode.length + fill) =
      .ok frame.decoded := by
  obtain ⟨version, spacecraft, bound0, bypass, control⟩ := frame.word0_fields
  obtain ⟨length, channel, bound1⟩ := frame.word1_fields
  have total := frame.encode_length
  have filler := getD_fill frame.encode rest fill
  have octet0 : ((frame.encode ++ List.replicate fill tcFillByte ++ rest).getD 0 0).toNat =
      frame.word0 / 256 % 256 := UInt8.toNat_ofNat'
  have first : Bytes.getBe ((frame.encode ++ List.replicate fill tcFillByte ++ rest).slice 0 2) = frame.word0 :=
    Bytes.getBe_putBe_of_lt bound0
  have second : Bytes.getBe ((frame.encode ++ List.replicate fill tcFillByte ++ rest).slice 2 2) = frame.word1 :=
    Bytes.getBe_putBe_of_lt bound1
  have sequence : (frame.encode ++ List.replicate fill tcFillByte ++ rest).getD 4 0 =
      frame.frameSequenceNumber := rfl
  generalize frame.encode ++ List.replicate fill tcFillByte ++ rest = buf at *
  unfold tcFrameDecode
  simp only [octet0, first, second, sequence, version, spacecraft, length, channel, bypass, control, total,
    ne_eq, not_true_eq_false, if_false]
  rw [if_neg (by omega), if_neg (by omega), if_neg (by omega), if_neg]
  · simp [decoded]
  · intro wrong
    obtain ⟨short, differs⟩ := wrong
    rcases differs with differs | differs
    · exact differs (filler _ (by omega) (by omega))
    · exact differs (filler _ (by omega) (by omega))

/-- The data of the frame, as the decoder finds it in the frame buffer -/
theorem octets_encode (rest : Bytes) : frame.decoded.octets (frame.encode ++ rest) = frame.data := by
  have header : frame.encode = (Bytes.putBe 2 frame.word0 ++ Bytes.putBe 2 frame.word1 ++
      [frame.frameSequenceNumber]) ++ frame.data := rfl
  rw [TcFrame.octets, header, List.append_assoc, Bytes.slice_append_right _ (Nat.le_refl 5)]
  exact Bytes.slice_append_left _ _

end SentFrame

/-! ## The whole receiving side -/

/-- What `ccsds_cltu_decode_message` returns and leaves: `ret` is `none` for `0`. -/
structure CltuOutcome where
  ret : Option Errno
  tcFrame : Bytes
  tcFrameLen : Nat
  deriving DecidableEq, Repr

/-- `ccsds_cltu_decode_message` with its out-parameter, which holds anything at the call -/
def cltuDecodeMessageInto [Kconfig] (cltu tcFrame : Bytes) (_tcFrameLen : Nat) : CltuOutcome :=
  let tcFrameLen := 0
  if cltu.length < 2 + 2 * bchBlockSize then ⟨some .einval, tcFrame, tcFrameLen⟩
  else if cltu.length > maxCltuLen then ⟨some .einval, tcFrame, tcFrameLen⟩
  else if ¬ cltuIsStartSequence cltu then ⟨some .einval, tcFrame, tcFrameLen⟩
  else if (cltu.length - 2) % bchBlockSize ≠ 0 then ⟨some .einval, tcFrame, tcFrameLen⟩
  else if ¬ cltuHasTailSequence cltu then ⟨some .einval, tcFrame, tcFrameLen⟩
  else
    let decodedBlockCount := (cltu.length - 2) / bchBlockSize - 1
    let decodedLen := decodedBlockCount * bchDataSize
    if tcFrame.length < decodedLen then ⟨some .enospc, tcFrame, tcFrameLen⟩
    else
      match decodeBlocks cltu decodedBlockCount 0 tcFrame with
      | (tcFrame, .ok ()) =>
        let tcFrameLen := decodedLen
        ⟨none, tcFrame, tcFrameLen⟩
      | (tcFrame, .error e) => ⟨some e, tcFrame, tcFrameLen⟩

/-- What the receive path goes on with, from what the function returns and leaves -/
def CltuOutcome.reception (outcome : CltuOutcome) : Bytes × Except Errno Nat :=
  (outcome.tcFrame, match outcome.ret with
    | none => .ok outcome.tcFrameLen
    | some e => .error e)

theorem cltuDecodeMessageInto_reception [Kconfig] (cltu tcFrame : Bytes) (tcFrameLen : Nat) :
    (cltuDecodeMessageInto cltu tcFrame tcFrameLen).reception = cltuDecodeMessage cltu tcFrame := by
  unfold cltuDecodeMessageInto cltuDecodeMessage
  dsimp only
  split_ifs
  all_goals try rfl
  obtain ⟨buffer, result⟩ := decodeBlocks cltu ((cltu.length - 2) / bchBlockSize - 1) 0 tcFrame
  cases result <;> rfl

theorem cltuDecodeMessageInto_failure [Kconfig] (cltu tcFrame : Bytes) (tcFrameLen : Nat)
    (failed : (cltuDecodeMessageInto cltu tcFrame tcFrameLen).ret ≠ none) :
    (cltuDecodeMessageInto cltu tcFrame tcFrameLen).tcFrameLen = 0 := by
  unfold cltuDecodeMessageInto at failed ⊢
  dsimp only at failed ⊢
  split_ifs at failed ⊢
  all_goals try rfl
  split at failed
  · exact absurd rfl failed
  · rfl

/-- Any frame of this spacecraft comes out as it was sent, with up to one wrong bit in each codeblock; and a
failure reports no octets. -/
theorem sent_frames_are_decoded [Kconfig] :
    (∀ (frame : SentFrame) (errors : Nat → Option (Fin 63)) (tcFrame : Bytes) (tcFrameLen : Nat),
      (cltuSent errors frame.encode).length ≤ maxCltuLen → (filled frame.encode).length ≤ tcFrame.length →
        ∃ outcome, cltuDecodeMessageInto (cltuSent errors frame.encode) tcFrame tcFrameLen = outcome ∧
          outcome.ret = none ∧ tcFrameDecode outcome.tcFrame outcome.tcFrameLen = .ok frame.decoded ∧
          frame.decoded.octets outcome.tcFrame = frame.data) ∧
    (∀ (cltu tcFrame : Bytes) (tcFrameLen : Nat),
      (cltuDecodeMessageInto cltu tcFrame tcFrameLen).ret ≠ none →
        (cltuDecodeMessageInto cltu tcFrame tcFrameLen).tcFrameLen = 0) := by
  constructor
  · intro frame errors tcFrame tcFrameLen limit room
    have some : frame.encode ≠ [] := by
      apply List.ne_nil_of_length_pos
      rw [frame.encode_length]
      exact Nat.lt_add_right _ (by decide)
    have decoded := cltuDecodeMessageInto_reception (cltuSent errors frame.encode) tcFrame tcFrameLen
    rw [cltuDecodeMessage_sent errors frame.encode tcFrame some limit room] at decoded
    refine ⟨_, rfl, ?_⟩
    generalize cltuDecodeMessageInto (cltuSent errors frame.encode) tcFrame tcFrameLen = outcome at decoded
    obtain ⟨ret, buffer, len⟩ := outcome
    have front : tcFrame.overwrite 0 (filled frame.encode) =
        frame.encode ++ List.replicate (codeblockCount frame.encode * 7 - frame.encode.length) tcFillByte ++
          tcFrame.drop (0 + (filled frame.encode).length) := rfl
    have total : (filled frame.encode).length =
        frame.encode.length + (codeblockCount frame.encode * 7 - frame.encode.length) := by
      rw [filled, List.length_append, List.length_replicate]
    rw [front, total] at decoded
    cases ret with
    | some e =>
      rw [CltuOutcome.reception, Prod.mk.injEq] at decoded
      cases decoded.2
    | none =>
      simp only [CltuOutcome.reception, Prod.mk.injEq, Except.ok.injEq] at decoded
      obtain ⟨holds, reported⟩ := decoded
      dsimp only
      rw [holds, reported, frame.tcFrameDecode_encode, List.append_assoc, frame.octets_encode]
      exact ⟨rfl, rfl, rfl⟩
  · intro cltu tcFrame tcFrameLen failed
    exact cltuDecodeMessageInto_failure cltu tcFrame tcFrameLen failed

end ZephyrCcsds.Tc

namespace ZephyrCcsds.Tc

attribute [local instance] defaultKconfig

/-- A bypass frame on virtual channel 3 whose last codeblock has five fill octets -/
def sampleSentFrame : SentFrame where
  bypass := true
  controlCommand := false
  reserved := 0
  virtualChannelId := 3
  frameSequenceNumber := 9
  data := [0xc2, 0x10, 0x05, 0x00]
  short := by decide

theorem sent_frames_are_decoded_sample :
    ∃ outcome, cltuDecodeMessageInto (cltuSent (fun k => if k = 0 then some 4 else some 62) sampleSentFrame.encode)
        (List.replicate maxFrameLen 0) 7 = outcome ∧
      outcome.ret = none ∧ tcFrameDecode outcome.tcFrame outcome.tcFrameLen = .ok sampleSentFrame.decoded ∧
      sampleSentFrame.decoded.octets outcome.tcFrame = sampleSentFrame.data :=
  sent_frames_are_decoded.1 sampleSentFrame _ _ 7 (by decide +kernel) (by
    rw [List.length_replicate]
    decide +kernel)

end ZephyrCcsds.Tc
