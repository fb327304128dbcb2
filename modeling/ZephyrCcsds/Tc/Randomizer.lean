import Mathlib.NumberTheory.Divisors
import ZephyrCcsds.ShiftRegister
import ZephyrCcsds.Tc.Cltu
import ZephyrCcsds.Tc.Dispatch

/-! # The two randomizers

The table of `ccsds_rnd.c` against the generators of the standards.  It holds the telemetry sequence
(`rndApply_eq`), and the receive path applies it to telecommand frames, which are randomized with
another one: the two agree in their first octet only.
-/

namespace ZephyrCcsds.Tc

open ShiftRegister

/-! ## Generators -/

/-- Both registers start with ones. -/
def onesSeed : List Bool := List.replicate 8 true

/-- `x⁸ + x⁷ + x⁵ + x³ + 1`, the telemetry generator -/
def tmGenerator : List Nat := [0, 3, 5, 7]

/-- `x⁸ + x⁶ + x⁴ + x³ + x² + x + 1`, the telecommand generator -/
def tcGenerator : List Nat := [0, 1, 2, 3, 4, 6]

/-- The telecommand randomizer, restarted for each frame -/
def tcRandomize (frame : Bytes) : Bytes := scramble tcGenerator onesSeed frame

/-- The telemetry sequence satisfies the recurrence of its generator. -/
theorem tmSequence_recurrence (n : Nat) :
    bit tmGenerator onesSeed (n + 8) =
      (bit tmGenerator onesSeed n ^^ bit tmGenerator onesSeed (n + 3) ^^ bit tmGenerator onesSeed (n + 5) ^^
        bit tmGenerator onesSeed (n + 7)) := by
  have recurrence := @bit_recurrence tmGenerator onesSeed (by decide) (by decide) n
  have degree : onesSeed.length = 8 := rfl
  rw [degree] at recurrence
  simpa [tmGenerator] using recurrence

/-! ## The table -/

/-- The value of some bits, the leading one first -/
def packed (bits : List Bool) : Nat := bits.foldl (fun sum bit => sum * 2 + bit.toNat) 0

/-- One bit of the telemetry sequence, with the window as a number -/
def tmSlide (window : Nat) : Nat :=
  window * 2 % 256 + (window.testBit 7 ^^ window.testBit 4 ^^ window.testBit 2 ^^ window.testBit 0).toNat

def tmMasks : (count window : Nat) → Bytes
  | 0, _ => []
  | count + 1, window => UInt8.ofNat window :: tmMasks count (tmSlide^[8] window)

theorem eight_bits {window : List Bool} (width : window.length = 8) :
    ∃ a b c d e f g h, window = [a, b, c, d, e, f, g, h] := by
  rcases window with _ | ⟨a, _ | ⟨b, _ | ⟨c, _ | ⟨d, _ | ⟨e, _ | ⟨f, _ | ⟨g, _ | ⟨h, rest⟩⟩⟩⟩⟩⟩⟩⟩
  case cons.cons.cons.cons.cons.cons.cons.cons =>
    have none : rest.length = 0 := by simpa using width
    obtain rfl := List.eq_nil_of_length_eq_zero none
    exact ⟨a, b, c, d, e, f, g, h, rfl⟩
  all_goals cases width

theorem packed_slide (window : List Bool) (width : window.length = 8) :
    packed (slide tmGenerator window) = tmSlide (packed window) := by
  have all : ∀ a b c d e f g h : Bool, packed (slide tmGenerator [a, b, c, d, e, f, g, h]) =
      tmSlide (packed [a, b, c, d, e, f, g, h]) := by
    decide +kernel
  obtain ⟨a, b, c, d, e, f, g, h, rfl⟩ := eight_bits width
  exact all a b c d e f g h

theorem packed_iterate (window : List Bool) (width : window.length = 8) (n : Nat) :
    ((slide tmGenerator)^[n] window).length = 8 ∧
      packed ((slide tmGenerator)^[n] window) = tmSlide^[n] (packed window) := by
  induction n with
  | zero => exact ⟨width, rfl⟩
  | succ n ih =>
    obtain ⟨length, same⟩ := ih
    rw [Function.iterate_succ_apply', Function.iterate_succ_apply', packed_slide _ length, same]
    exact ⟨by rw [slide, List.length_append, List.length_tail, length]; rfl, rfl⟩

theorem masks_eq_tmMasks (count : Nat) (window : List Bool) (width : window.length = 8) :
    masks tmGenerator count window = tmMasks count (packed window) := by
  induction count generalizing window with
  | zero => rfl
  | succ count ih =>
    obtain ⟨length, same⟩ := packed_iterate window width 8
    rw [masks, ih _ length, same]
    rfl

/-- The table, and the octet that it begins with again -/
theorem rndSeq_round : rndSeq ++ [0xff] = masks tmGenerator 255 onesSeed ++ [octet tmGenerator onesSeed 255] := by
  have numbers : rndSeq ++ [0xff] = tmMasks 256 255 := by decide +kernel
  have split : masks tmGenerator 256 onesSeed = _ := masks_eq 256
  rw [List.range_succ, List.map_append, ← masks_eq] at split
  rw [numbers]
  exact (masks_eq_tmMasks 256 onesSeed rfl).symm.trans split

theorem append_octet_inj {front front' : Bytes} {last last' : UInt8} (same : front ++ [last] = front' ++ [last']) :
    front = front' ∧ last = last' := by
  obtain ⟨fronts, lasts⟩ := List.append_inj' same rfl
  exact ⟨fronts, List.head_eq_of_cons_eq lasts⟩

theorem rndSeq_eq_masks : rndSeq = masks tmGenerator 255 onesSeed := (append_octet_inj rndSeq_round).1

theorem rndSeq_length : rndSeq.length = 255 := by
  rw [rndSeq_eq_masks, masks_eq, List.length_map, List.length_range]

/-- Only ones make up the octet of ones. -/
theorem ones_of_pack (window : List Bool) (width : window.length = 8) (ones : pack window = 0xff) :
    window = onesSeed := by
  have all : ∀ a b c d e f g h : Bool, pack [a, b, c, d, e, f, g, h] = 0xff →
      [a, b, c, d, e, f, g, h] = onesSeed := by
    decide +kernel
  obtain ⟨a, b, c, d, e, f, g, h, rfl⟩ := eight_bits width
  exact all a b c d e f g h ones

/-- The telemetry sequence repeats after 255 octets. -/
theorem tmSequence_back : windowAt tmGenerator onesSeed (8 * 255) = onesSeed :=
  ones_of_pack _ (windowAt_length (by decide) _) (append_octet_inj rndSeq_round).2.symm

theorem rndSeq_getD (k : Nat) : rndSeq.getD (k % 255) 0 = octet tmGenerator onesSeed k := by
  have inside : k % 255 < 255 := Nat.mod_lt k (by decide)
  rw [rndSeq_eq_masks, masks_eq, List.getD_eq_getElem?_getD, List.getElem?_map, List.getElem?_range inside,
    Option.map_some, Option.getD_some, octet_mod tmSequence_back]

theorem rndApplyFrom_eq (offset : Nat) (data : Bytes) :
    rndApplyFrom (offset % 255) data = data.mapIdx fun k byte => byte ^^^ octet tmGenerator onesSeed (offset + k) := by
  induction data generalizing offset with
  | nil => rfl
  | cons byte data ih =>
    have advance : (if offset % 255 + 1 = rndSeq.length then 0 else offset % 255 + 1) = (offset + 1) % 255 := by
      rw [rndSeq_length]
      split <;> omega
    rw [rndApplyFrom, advance, ih, rndSeq_getD, List.mapIdx_cons]
    simp only [Nat.add_zero, Nat.add_assoc, Nat.add_comm 1]

/-- `ccsds_rnd_apply` is the telemetry randomizer, for data of any length. -/
theorem rndApply_eq (data : Bytes) : rndApply data = scramble tmGenerator onesSeed data := by
  have all := rndApplyFrom_eq 0 data
  simp only [Nat.zero_add] at all
  exact all

/-- The eight bits of a packed window, the leading one first -/
theorem pack_getMsbD (window : List Bool) (width : window.length = 8) (j : Nat) (inside : j < 8) :
    (pack window).toBitVec.getMsbD j = window.getD j false := by
  have all : ∀ a b c d e f g h : Bool, ∀ j : Fin 8,
      (pack [a, b, c, d, e, f, g, h]).toBitVec.getMsbD j = [a, b, c, d, e, f, g, h].getD j false := by
    decide +kernel
  obtain ⟨a, b, c, d, e, f, g, h, rfl⟩ := eight_bits width
  exact all a b c d e f g h ⟨j, inside⟩

theorem octet_getMsbD (k j : Nat) (inside : j < 8) :
    (octet tmGenerator onesSeed k).toBitVec.getMsbD j = bit tmGenerator onesSeed (8 * k + j) := by
  have width : (windowAt tmGenerator onesSeed (8 * k)).length = 8 := windowAt_length (by decide) _
  rw [octet, pack_getMsbD _ width j inside]
  exact windowAt_getD (by decide) _ j inside

/-- The register is back at its seed when its number is. -/
theorem slide_back_iff (n : Nat) : (slide tmGenerator)^[n] onesSeed = onesSeed ↔ tmSlide^[n] 255 = 255 := by
  obtain ⟨length, same⟩ := packed_iterate onesSeed rfl n
  constructor
  · intro back
    rw [back] at same
    exact same.symm
  · intro back
    apply ones_of_pack _ length
    show UInt8.ofNat (packed _) = 0xff
    rw [same]
    exact congrArg UInt8.ofNat back

/-- The register is back at its seed after 255 bits, and not earlier. -/
theorem tmSequence_minimalPeriod : Function.minimalPeriod (slide tmGenerator) onesSeed = 255 := by
  have back : Function.IsPeriodicPt (slide tmGenerator) 255 onesSeed := (slide_back_iff 255).mpr (by decide +kernel)
  have early : tmSlide^[85] 255 ≠ 255 ∧ tmSlide^[51] 255 ≠ 255 ∧ tmSlide^[15] 255 ≠ 255 := by decide +kernel
  have divisors : Nat.divisors 255 = {1, 3, 5, 15, 17, 51, 85, 255} := by decide +kernel
  have least := Function.isPeriodicPt_minimalPeriod (slide tmGenerator) onesSeed
  have divides : Function.minimalPeriod (slide tmGenerator) onesSeed ∈ Nat.divisors 255 :=
    Nat.mem_divisors.mpr ⟨back.minimalPeriod_dvd, by decide⟩
  generalize Function.minimalPeriod (slide tmGenerator) onesSeed = period at least divides
  -- A shorter period would divide a third, a fifth or a seventeenth of 255.
  have third : ¬ period ∣ 85 := fun divides => early.1 ((slide_back_iff 85).mp (least.trans_dvd divides))
  have fifth : ¬ period ∣ 51 := fun divides => early.2.1 ((slide_back_iff 51).mp (least.trans_dvd divides))
  have seventeenth : ¬ period ∣ 15 := fun divides => early.2.2 ((slide_back_iff 15).mp (least.trans_dvd divides))
  simp only [divisors, Finset.mem_insert, Finset.mem_singleton] at divides
  rcases divides with rfl | rfl | rfl | rfl | rfl | rfl | rfl | rfl
  all_goals first | rfl | (exfalso; omega)

/-- The bits repeat after 255, and after no fewer. -/
theorem tmSequence_period : (∀ n, bit tmGenerator onesSeed (n + 255) = bit tmGenerator onesSeed n) ∧
    ∀ period, 0 < period → period < 255 →
      ∃ n, bit tmGenerator onesSeed (n + period) ≠ bit tmGenerator onesSeed n := by
  have least := Function.isPeriodicPt_minimalPeriod (slide tmGenerator) onesSeed
  rw [tmSequence_minimalPeriod] at least
  constructor
  · intro n
    rw [bit, bit, windowAt, windowAt, Function.iterate_add_apply, least.eq]
  · intro period positive short
    by_contra repeats
    rw [not_exists] at repeats
    have back : windowAt tmGenerator onesSeed period = onesSeed := by
      have width : (windowAt tmGenerator onesSeed period).length = 8 := windowAt_length (by decide) _
      apply List.ext_getElem (width.trans rfl)
      intro i inside inside'
      have bits := @windowAt_getD tmGenerator onesSeed (by decide) period i inside'
      have start : onesSeed.getD i false = _ := @windowAt_getD tmGenerator onesSeed (by decide) 0 i inside'
      have same := not_not.mp (repeats i)
      rw [Nat.zero_add] at start
      rw [Nat.add_comm, same, ← start] at bits
      simpa [List.getD_eq_getElem?_getD, inside, inside'] using bits
    have divides : 255 ∣ period := by
      rw [← tmSequence_minimalPeriod]
      exact Function.IsPeriodicPt.minimalPeriod_dvd back
    have := Nat.le_of_dvd positive divides
    omega

/-- `ccsds_rnd_apply` bit by bit: what it adds is the sequence of the register that starts with ones, for data of
any length, and the table goes on with it at every wrap. -/
theorem randomizer_bits :
    (∀ n < 8, bit tmGenerator onesSeed n = true) ∧
    (∀ n, bit tmGenerator onesSeed (n + 8) =
      (bit tmGenerator onesSeed n ^^ bit tmGenerator onesSeed (n + 3) ^^ bit tmGenerator onesSeed (n + 5) ^^
        bit tmGenerator onesSeed (n + 7))) ∧
    (∀ n, bit tmGenerator onesSeed (n + 255) = bit tmGenerator onesSeed n) ∧
    (∀ period, 0 < period → period < 255 →
      ∃ n, bit tmGenerator onesSeed (n + period) ≠ bit tmGenerator onesSeed n) ∧
    rndSeq.length = 255 ∧
    (∀ k, ∀ j < 8, (rndSeq.getD (k % 255) 0).toBitVec.getMsbD j = bit tmGenerator onesSeed (8 * k + j)) ∧
    ∀ data : Bytes, (rndApply data).length = data.length ∧ ∀ k < data.length, ∀ j < 8,
      ((rndApply data).getD k 0).toBitVec.getMsbD j =
        ((data.getD k 0).toBitVec.getMsbD j ^^ bit tmGenerator onesSeed (8 * k + j)) := by
  refine ⟨by decide, tmSequence_recurrence, tmSequence_period.1, tmSequence_period.2, rndSeq_length, ?_, ?_⟩
  · intro k j inside
    rw [rndSeq_getD]
    exact octet_getMsbD k j inside
  · intro data
    rw [rndApply_eq, scramble]
    refine ⟨List.length_mapIdx, ?_⟩
    intro k inside j low
    have here : (data.mapIdx fun k byte => byte ^^^ octet tmGenerator onesSeed k).getD k 0 =
        data.getD k 0 ^^^ octet tmGenerator onesSeed k := by
      simp [List.getD_eq_getElem?_getD, inside]
    rw [here, UInt8.toBitVec_xor, BitVec.getMsbD_xor, octet_getMsbD k j low]

/-- The telecommand randomizer and the receive path together, whatever follows the randomized octets -/
theorem rndApply_tcRandomize (frame back : Bytes) :
    (rndApply (tcRandomize frame ++ back)).take frame.length = frame.mapIdx fun k byte =>
      byte ^^^ octet tcGenerator onesSeed k ^^^ octet tmGenerator onesSeed k := by
  have length : (tcRandomize frame).length = frame.length := List.length_mapIdx
  rw [rndApply_eq, scramble, List.mapIdx_append]
  rw [List.take_append_of_le_length (by rw [List.length_mapIdx, length])]
  rw [List.take_of_length_le (by rw [List.length_mapIdx, length])]
  rw [tcRandomize, scramble, List.mapIdx_mapIdx]
  rfl

/-- The receive path gives back the octets that were randomized up to the first, in which the two sequences
agree. -/
theorem rndApply_tcRandomize_iff (frame back : Bytes) :
    (rndApply (tcRandomize frame ++ back)).take frame.length = frame ↔ frame.length ≤ 1 := by
  have first : octet tcGenerator onesSeed 0 = octet tmGenerator onesSeed 0 := by decide
  have second : octet tcGenerator onesSeed 1 ≠ octet tmGenerator onesSeed 1 := by decide
  have cancel : ∀ byte mask : UInt8, byte ^^^ mask ^^^ mask = byte := by
    intro byte mask
    rw [UInt8.xor_assoc, UInt8.xor_self, UInt8.xor_zero]
  rw [rndApply_tcRandomize]
  cases frame with
  | nil => simp
  | cons byte frame =>
    cases frame with
    | nil =>
      rw [List.mapIdx_cons, first, cancel]
      simp
    | cons byte' frame =>
      simp only [List.mapIdx_cons, List.cons.injEq, List.length_cons]
      constructor
      · intro same
        -- The second octet would have to be unchanged by two different masks.
        have masks := same.2.1
        rw [UInt8.xor_assoc] at masks
        have agree : octet tcGenerator onesSeed (0 + 1) ^^^ octet tmGenerator onesSeed (0 + 1) = 0 := by
          have := congrArg (byte' ^^^ ·) masks
          simpa [← UInt8.xor_assoc] using this
        exact absurd (UInt8.xor_eq_zero_iff.mp agree) second
      · intro short
        omega

/-! ## Reception -/

/-- The buffer and the length that `ccsds_profile_tc_cltu_dispatch` gives `ccsds_tc_frame_decode` -/
def tcFrameInput [Kconfig] (cltu frameBuf : Bytes) : Option (Bytes × Nat) :=
  if maxCltuLen < cltu.length then none
  else
    match cltuDecodeMessage cltu frameBuf with
    | (_, .error _) => none
    | (frameBuf, .ok tcFrameLen) => some (derandomize frameBuf tcFrameLen, tcFrameLen)

/-- The frame that the dispatch goes on with is decoded from this input. -/
theorem receiveCltu_tcFrameInput [Kconfig] {cltu frameBuf buffer : Bytes} {len : Nat}
    (input : tcFrameInput cltu frameBuf = some (buffer, len)) :
    (receiveCltu cltu frameBuf).1 = buffer ∧
      ∀ frame, tcFrameDecode buffer len = .ok frame ↔
        (receiveCltu cltu frameBuf).2 = .ok { cltuLen := cltu.length, tcFrameLen := len, frame } := by
  unfold tcFrameInput at input
  unfold receiveCltu
  by_cases oversize : maxCltuLen < cltu.length
  · rw [if_pos oversize] at input
    cases input
  · rw [if_neg oversize] at input
    simp only [if_neg oversize]
    obtain ⟨decodedBuf, result, received⟩ : ∃ decodedBuf result,
        cltuDecodeMessage cltu frameBuf = (decodedBuf, result) := ⟨_, _, rfl⟩
    rw [received] at input ⊢
    cases result with
    | error e => cases input
    | ok tcFrameLen =>
      cases input
      dsimp only
      cases decoded : tcFrameDecode (derandomize decodedBuf len) len with
      | error e => simp
      | ok frame => simp

/-- No frame of the telecommand standard reaches the frame decoder: with a primary header the octets that it
is given differ from the frame, whether the fill is added before or after the randomization. -/
theorem telecommand_frame_not_derandomized [Kconfig] (rnd : tcRnd = true) (frame back : Bytes)
    (header : tcPrimaryHdrLen ≤ frame.length) (errors : Nat → Option (Fin 63)) (frameBuf : Bytes)
    (limit : (cltuSent errors (tcRandomize frame ++ back)).length ≤ maxCltuLen)
    (room : (filled (tcRandomize frame ++ back)).length ≤ frameBuf.length) :
    ∃ buffer len, tcFrameInput (cltuSent errors (tcRandomize frame ++ back)) frameBuf = some (buffer, len) ∧
      frame.length ≤ len ∧ buffer.take frame.length ≠ frame := by
  have header : 5 ≤ frame.length := header
  have length : (tcRandomize frame).length = frame.length := List.length_mapIdx
  obtain ⟨sent, isSent⟩ : ∃ sent, sent = tcRandomize frame ++ back := ⟨_, rfl⟩
  have longer : frame.length ≤ sent.length := by
    rw [isSent, List.length_append, length]
    omega
  rw [← isSent] at limit room ⊢
  have some : sent ≠ [] := List.ne_nil_of_length_pos (by omega)
  have received := cltuDecodeMessage_sent errors sent frameBuf some limit room
  have total : sent.length ≤ (filled sent).length := by
    rw [filled, List.length_append]
    omega
  have whole : (frameBuf.overwrite 0 (filled sent)).take (filled sent).length = filled sent := by
    show List.take _ (filled sent ++ _) = _
    rw [List.take_append_of_le_length (Nat.le_refl _), List.take_length]
  refine ⟨derandomize (frameBuf.overwrite 0 (filled sent)) (filled sent).length, (filled sent).length, ?_,
    by omega, ?_⟩
  · unfold tcFrameInput
    rw [if_neg (by omega), received]
  · intro same
    have inside : frame.length ≤ (rndApply (filled sent)).length := by
      rw [rndApply, rndApplyFrom_length]
      omega
    rw [derandomize, if_pos rnd, whole, List.take_append_of_le_length inside, filled, isSent, List.append_assoc,
      rndApply_tcRandomize_iff] at same
    omega

end ZephyrCcsds.Tc

namespace ZephyrCcsds.Tc

/-- The build with `CONFIG_CCSDS_TC_RND` -/
@[reducible] def rndKconfig : Kconfig := { defaultKconfig with tcRnd := true }

attribute [local instance] rndKconfig

/-- A frame of two data octets; with it, its codeblock is whole. -/
def sampleRandomizedFrame : Bytes := [0x20, 0x7b, 0x00, 0x06, 0x00, 0xc0, 0x01]

/-- What is decoded from the randomized frame is not the frame. -/
theorem randomized_frame_lost : ¬ ∃ buffer, tcFrameInput (cltuSent (fun _ => none) (tcRandomize sampleRandomizedFrame))
    (List.replicate maxFrameLen 0) = some (buffer, 7) ∧ buffer.take 7 = sampleRandomizedFrame := by
  intro arrives
  obtain ⟨buffer, input, same⟩ := arrives
  have computed : (tcFrameInput (cltuSent (fun _ => none) (tcRandomize sampleRandomizedFrame))
      (List.replicate maxFrameLen 0)).map (fun input => input.1.take 7) ≠ some sampleRandomizedFrame := by
    decide +kernel
  rw [input, Option.map_some, same] at computed
  exact computed rfl

/-- The reception leaves other octets than the frame in the buffer that it is decoded from. -/
theorem telecommand_frame_not_derandomized_sample :
    ∃ buffer len, tcFrameInput (cltuSent (fun _ => none) (tcRandomize sampleRandomizedFrame ++ []))
        (List.replicate maxFrameLen 0) = some (buffer, len) ∧
      sampleRandomizedFrame.length ≤ len ∧ buffer.take sampleRandomizedFrame.length ≠ sampleRandomizedFrame ∧
      (receiveCltu (cltuSent (fun _ => none) (tcRandomize sampleRandomizedFrame ++ []))
        (List.replicate maxFrameLen 0)).1 = buffer := by
  obtain ⟨buffer, len, input, inside, differs⟩ := telecommand_frame_not_derandomized rfl sampleRandomizedFrame []
    (by decide) (fun _ => none) (List.replicate maxFrameLen 0) (by decide +kernel) (by decide +kernel)
  exact ⟨buffer, len, input, inside, differs, (receiveCltu_tcFrameInput input).1⟩

end ZephyrCcsds.Tc
