import ZephyrCcsds.Tc.Frame

/-! # Space Packets there and back

`ccsds_space_packet.c` in both directions.

* `spacePacketEncode_ok_iff` — which packets are encoded, and to what.
* `spacePacketDecode_encoded` — the octets of a packet decode to it, whatever follows them.
* `spacePacketEncode_decoded` — what has been decoded encodes to the octets it was decoded from.
-/

namespace ZephyrCcsds.Tc

open Bytes

/-- The header has room for the fields that the encoder does not check. -/
structure SpacePacket.InRange (packet : SpacePacket) : Prop where
  version : packet.version ≤ 7
  type : packet.type ≤ 1
  sequenceFlags : packet.sequenceFlags ≤ 3

/-- The fields that the encoder checks are in range. -/
structure SpacePacket.Encodable (packet : SpacePacket) : Prop where
  apid : packet.apid ≤ 2047
  sequenceCount : packet.sequenceCount < 2 ^ 14
  positive : 1 ≤ packet.payload.length
  payload : packet.payload.length ≤ 65536

variable {packet : SpacePacket} {cap : Nat} {octets buf suffix : Bytes}

/-! ## The header words -/

/-- Version, type, secondary header flag and APID -/
def SpacePacket.word0 (packet : SpacePacket) : Nat :=
  packet.version % 8 * 8192 + packet.type % 2 * 4096 + (if packet.secondaryHeader then 2048 else 0) + packet.apid % 2048

/-- Sequence flags and count -/
def SpacePacket.word1 (packet : SpacePacket) : Nat :=
  packet.sequenceFlags % 4 * 16384 + packet.sequenceCount % 16384

def SpacePacket.encoded (packet : SpacePacket) : Bytes :=
  putBe 2 packet.word0 ++ (putBe 2 packet.word1 ++ (putBe 2 (packet.payload.length - 1) ++ packet.payload))

theorem spacePacketEncode_ok_iff : spacePacketEncode packet cap = .ok octets ↔
    packet.Encodable ∧ spacePacketPrimaryHdrLen + packet.payload.length ≤ cap ∧ octets = packet.encoded := by
  have same : putBe 2 packet.word0 ++ putBe 2 packet.word1 ++ putBe 2 (packet.payload.length - 1) ++ packet.payload =
      packet.encoded := by
    simp only [SpacePacket.encoded, List.append_assoc]
  unfold spacePacketEncode
  by_cases refused : apidMax < packet.apid ∨ 0x3fff < packet.sequenceCount ∨ packet.payload.length = 0 ∨
      0x10000 < packet.payload.length
  · rw [if_pos refused]
    constructor
    · intro never
      cases never
    · intro encodes
      obtain ⟨⟨apid, count, positive, payload⟩, -⟩ := encodes
      unfold apidMax at refused
      omega
  · rw [if_neg refused]
    unfold apidMax at refused
    by_cases short : cap < spacePacketPrimaryHdrLen + packet.payload.length
    · rw [if_pos short]
      constructor
      · intro never
        cases never
      · intro encodes
        exact absurd encodes.2.1 (by omega)
    · rw [if_neg short]
      show Except.ok (putBe 2 packet.word0 ++ putBe 2 packet.word1 ++ _ ++ _) = _ ↔ _
      rw [same, Except.ok.injEq]
      constructor
      · intro encoded
        exact ⟨⟨by omega, by omega, by omega, by omega⟩, by omega, encoded.symm⟩
      · intro encodes
        exact encodes.2.2.symm

/-- The fields of the first word -/
theorem SpacePacket.word0_fields (range : packet.InRange) (apid : packet.apid ≤ 2047) :
    packet.word0 < 65536 ∧ packet.word0 / 8192 % 8 = packet.version ∧ packet.word0 / 4096 % 2 = packet.type ∧
      decide (packet.word0 / 2048 % 2 = 1) = packet.secondaryHeader ∧ packet.word0 % 2048 = packet.apid := by
  obtain ⟨version, type, -⟩ := range
  unfold SpacePacket.word0
  cases packet.secondaryHeader
  · simp
    omega
  · simp
    omega

theorem SpacePacket.word1_fields (range : packet.InRange) (count : packet.sequenceCount < 2 ^ 14) :
    packet.word1 < 65536 ∧ packet.word1 / 16384 % 4 = packet.sequenceFlags ∧
      packet.word1 % 16384 = packet.sequenceCount := by
  obtain ⟨-, -, flags⟩ := range
  unfold SpacePacket.word1
  omega

/-! ## Round trips -/

theorem SpacePacket.encoded_length : packet.encoded.length = spacePacketPrimaryHdrLen + packet.payload.length := by
  simp [SpacePacket.encoded, spacePacketPrimaryHdrLen]
  omega

/-- What the decoder reads of a packet -/
theorem SpacePacket.encoded_fields (packet : SpacePacket) (suffix : Bytes) :
    (packet.encoded ++ suffix).slice 0 2 = putBe 2 packet.word0 ∧
      (packet.encoded ++ suffix).slice 2 2 = putBe 2 packet.word1 ∧
      (packet.encoded ++ suffix).slice 4 2 = putBe 2 (packet.payload.length - 1) ∧
      (packet.encoded ++ suffix).slice 6 packet.payload.length = packet.payload := by
  have first : ∀ front back : Bytes, front.length = 2 → (front ++ back).slice 0 2 = front := by
    intro front back two
    rw [← two, slice_append_left]
  simp only [SpacePacket.encoded, List.append_assoc]
  refine ⟨first _ _ (putBe_length _ _), ?_, ?_, ?_⟩
  · rw [slice_append_right _ (by simp), putBe_length]
    exact first _ _ (putBe_length _ _)
  · rw [slice_append_right _ (by simp), putBe_length, slice_append_right _ (by simp), putBe_length]
    exact first _ _ (putBe_length _ _)
  · rw [slice_append_right _ (by simp), putBe_length, slice_append_right _ (by simp), putBe_length,
      slice_append_right _ (by simp), putBe_length]
    exact slice_append_left _ _

/-- The octets of a packet decode to it, whatever follows them. -/
theorem spacePacketDecode_encoded (range : packet.InRange) (encodes : spacePacketEncode packet cap = .ok octets)
    (suffix : Bytes) : spacePacketDecode (octets ++ suffix) = .ok packet := by
  obtain ⟨encodable, -, rfl⟩ := spacePacketEncode_ok_iff.mp encodes
  obtain ⟨bound0, version, type, secondary, apid⟩ := SpacePacket.word0_fields range encodable.apid
  obtain ⟨bound1, flags, count⟩ := SpacePacket.word1_fields range encodable.sequenceCount
  obtain ⟨field0, field1, field2, payload⟩ := packet.encoded_fields suffix
  have positive := encodable.positive
  have limit := encodable.payload
  have payloadLen : packet.payload.length - 1 + 1 = packet.payload.length := by omega
  have long : spacePacketPrimaryHdrLen + packet.payload.length ≤ (packet.encoded ++ suffix).length := by
    rw [List.length_append, SpacePacket.encoded_length]
    omega
  have word0 : getBe (putBe 2 packet.word0) = packet.word0 := getBe_putBe_of_lt bound0
  have word1 : getBe (putBe 2 packet.word1) = packet.word1 := getBe_putBe_of_lt bound1
  have lengthField : getBe (putBe 2 (packet.payload.length - 1)) = packet.payload.length - 1 :=
    getBe_putBe_of_lt (by omega)
  have header : spacePacketPrimaryHdrLen = 6 := rfl
  simp only [spacePacketDecode, field0, field1, field2, word0, word1, lengthField, payloadLen]
  rw [if_neg (by omega), if_neg (by omega), header, payload, version, type, secondary, apid, flags, count]

/-- The fields of the first header word make up the word. -/
theorem packetWord0 {word : Nat} (bound : word < 65536) :
    word / 8192 % 8 % 8 * 8192 + word / 4096 % 2 % 2 * 4096 +
      (if decide (word / 2048 % 2 = 1) = true then 2048 else 0) + word % 2048 % 2048 = word := by
  by_cases secondary : word / 2048 % 2 = 1
  · simp only [secondary, decide_true, if_true]
    omega
  · simp only [secondary, decide_false, Bool.false_eq_true, if_false]
    omega

/-- What has been decoded encodes to the octets that it was decoded from. -/
theorem spacePacketEncode_decoded (decoded : spacePacketDecode buf = .ok packet) :
    packet.Encodable ∧ packet.encoded = buf.take (spacePacketPrimaryHdrLen + packet.payload.length) := by
  unfold spacePacketDecode at decoded
  by_cases short : buf.length < spacePacketPrimaryHdrLen
  · rw [if_pos short] at decoded
    cases decoded
  · rw [if_neg short] at decoded
    have header : 6 ≤ buf.length := Nat.le_of_not_lt short
    have two : ∀ offset, offset ≤ 4 → (buf.slice offset 2).length = 2 := by
      intro offset inside
      exact slice_length_of_le (by omega)
    have bound : ∀ offset, offset ≤ 4 → getBe (buf.slice offset 2) < 65536 := by
      intro offset inside
      have bound := getBe_lt (buf.slice offset 2)
      rwa [two offset inside] at bound
    have putGet : ∀ offset, offset ≤ 4 → putBe 2 (getBe (buf.slice offset 2)) = buf.slice offset 2 := by
      intro offset inside
      have same := putBe_getBe (buf.slice offset 2)
      rwa [two offset inside] at same
    have bound0 := bound 0 (by omega)
    have bound1 := bound 2 (by omega)
    have bound2 := bound 4 (by omega)
    by_cases incomplete : buf.length < spacePacketPrimaryHdrLen + (getBe (buf.slice 4 2) + 1)
    · simp only [if_pos incomplete] at decoded
      cases decoded
    · simp only [if_neg incomplete, Except.ok.injEq] at decoded
      have whole : 6 + (getBe (buf.slice 4 2) + 1) ≤ buf.length := Nat.le_of_not_lt incomplete
      have payloadLen : (buf.slice spacePacketPrimaryHdrLen (getBe (buf.slice 4 2) + 1)).length =
          getBe (buf.slice 4 2) + 1 := slice_length_of_le whole
      have word1 : ∀ word : Nat, word < 65536 → word / 16384 % 4 % 4 * 16384 + word % 16384 % 16384 = word := by
        omega
      subst decoded
      refine ⟨⟨?_, ?_, ?_, ?_⟩, ?_⟩
      · show _ % 2048 ≤ 2047
        omega
      · show _ % 16384 < 16384
        omega
      · rw [payloadLen]
        omega
      · rw [payloadLen]
        omega
      · simp only [SpacePacket.encoded, SpacePacket.word0, SpacePacket.word1, payloadLen, Nat.add_sub_cancel]
        rw [packetWord0 bound0, word1 _ bound1, putGet 0 (by omega), putGet 2 (by omega), putGet 4 (by omega)]
        -- The four fields are the front of the buffer.
        have front := take_slice buf spacePacketPrimaryHdrLen (getBe (buf.slice 4 2) + 1)
        have front2 : _ = buf.take spacePacketPrimaryHdrLen := take_slice buf 4 2
        have front1 := take_slice buf 2 2
        have front0 := take_slice buf 0 2
        rw [← front2, ← front1, ← front0] at front
        simpa only [List.take_zero, List.nil_append, List.append_assoc] using front

/-- What is decoded from a complete packet encodes to the same octets. -/
theorem EncodedPacket.decoded (encoded : EncodedPacket) : ∃ packet, spacePacketDecode encoded.octets = .ok packet ∧
    packet.apid ≤ apidMax ∧ spacePacketEncode packet encoded.octets.length = .ok encoded.octets := by
  have header := encoded.header_lt
  have complete : 6 + getBe (encoded.octets.slice 4 2) + 1 = encoded.octets.length := encoded.complete
  have payloadLen : (encoded.octets.slice spacePacketPrimaryHdrLen (getBe (encoded.octets.slice 4 2) + 1)).length =
      getBe (encoded.octets.slice 4 2) + 1 := slice_length_of_le (by rw [spacePacketPrimaryHdrLen]; omega)
  have whole : ¬ encoded.octets.length < spacePacketPrimaryHdrLen + (getBe (encoded.octets.slice 4 2) + 1) := by
    rw [spacePacketPrimaryHdrLen]
    omega
  obtain ⟨packet, decodes, length⟩ : ∃ packet, spacePacketDecode encoded.octets = .ok packet ∧
      packet.payload.length = getBe (encoded.octets.slice 4 2) + 1 :=
    ⟨_, by rw [spacePacketDecode, if_neg (by omega), if_neg whole], payloadLen⟩
  have total : spacePacketPrimaryHdrLen + packet.payload.length = encoded.octets.length := by
    rw [length, spacePacketPrimaryHdrLen]
    omega
  obtain ⟨encodable, front⟩ := spacePacketEncode_decoded decodes
  rw [total, List.take_length] at front
  exact ⟨packet, decodes, encodable.apid, spacePacketEncode_ok_iff.mpr ⟨encodable, Nat.le_of_eq total, front.symm⟩⟩

/-- Space Packets: what is encoded decodes to itself, what is decoded encodes to itself, and the encoder accepts
what fits into the header and the buffer. -/
theorem spacePacket_there_and_back :
    (∀ (packet : SpacePacket) (cap : Nat) (octets suffix : Bytes), packet.version ≤ 7 → packet.type ≤ 1 →
      packet.sequenceFlags ≤ 3 → spacePacketEncode packet cap = .ok octets →
        spacePacketDecode (octets ++ suffix) = .ok packet) ∧
    (∀ (buf : Bytes) (packet : SpacePacket) (cap : Nat), spacePacketDecode buf = .ok packet →
      6 + packet.payload.length ≤ cap →
        spacePacketEncode packet cap = .ok (buf.take (6 + packet.payload.length))) ∧
    ∀ (packet : SpacePacket) (cap : Nat), 6 + packet.payload.length ≤ cap →
      ((∃ octets, spacePacketEncode packet cap = .ok octets) ↔
        packet.apid ≤ 2047 ∧ packet.sequenceCount < 2 ^ 14 ∧ 1 ≤ packet.payload.length ∧
          packet.payload.length ≤ 65536) := by
  refine ⟨?_, ?_, ?_⟩
  · intro packet cap octets suffix version type flags encodes
    exact spacePacketDecode_encoded ⟨version, type, flags⟩ encodes suffix
  · intro buf packet cap decoded room
    obtain ⟨encodable, front⟩ := spacePacketEncode_decoded decoded
    exact spacePacketEncode_ok_iff.mpr ⟨encodable, room, front.symm⟩
  · intro packet cap room
    constructor
    · intro accepted
      obtain ⟨octets, encodes⟩ := accepted
      obtain ⟨⟨apid, count, positive, payload⟩, -⟩ := spacePacketEncode_ok_iff.mp encodes
      exact ⟨apid, count, positive, payload⟩
    · intro fields
      obtain ⟨apid, count, positive, payload⟩ := fields
      exact ⟨_, spacePacketEncode_ok_iff.mpr ⟨⟨apid, count, positive, payload⟩, room, rfl⟩⟩

end ZephyrCcsds.Tc
