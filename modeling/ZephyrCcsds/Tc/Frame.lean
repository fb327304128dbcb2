import ZephyrCcsds.Tc.Types

/-! # Transfer frames, segments and Space Packets

The decoders of `ccsds_tc_frame.c`, `ccsds_tc_segment.c` and `ccsds_space_packet.c`.  A
transfer frame points into the frame buffer, because the receive path moves its data there;
a segment and a packet hold the octets they point to.
-/

namespace ZephyrCcsds.Tc

/-! ## Transfer frames -/

/-- `struct ccsds_tc_frame`; `data` is an offset into the frame buffer. -/
structure TcFrame where
  spacecraftId : Nat
  virtualChannelId : Nat
  bypass : Bool
  controlCommand : Bool
  frameSequenceNumber : UInt8
  data : Nat
  dataLen : Nat
  deriving DecidableEq, Repr

/-- The data of a frame while the frame buffer holds `frameBuf` -/
def TcFrame.octets (frame : TcFrame) (frameBuf : Bytes) : Bytes := frameBuf.slice frame.data frame.dataLen

/-- `ccsds_tc_frame_decode` of the first `len` octets of a buffer -/
def tcFrameDecode [Kconfig] (buf : Bytes) (len : Nat) : Except Errno TcFrame :=
  if len < tcPrimaryHdrLen then .error .einval
  else
    let octet0 := (buf.getD 0 0).toNat
    if octet0 / 64 % 4 ≠ 0 then .error .einval
    else
      let word1 := Bytes.getBe (buf.slice 2 2)
      let frameLen := word1 % 1024 + 1
      if frameLen < tcPrimaryHdrLen then .error .emsgsize
      else if len < frameLen then .error .emsgsize
      else if frameLen < len ∧ (buf.getD frameLen 0 ≠ tcFillByte ∨ buf.getD (len - 1) 0 ≠ tcFillByte) then
        .error .emsgsize
      else
        let spacecraftId := Bytes.getBe (buf.slice 0 2) % 1024
        if spacecraftId ≠ Tc.spacecraftId then .error .eacces
        else
          .ok {
            spacecraftId
            virtualChannelId := word1 / 1024 % 64
            bypass := octet0 / 32 % 2 = 1
            controlCommand := octet0 / 16 % 2 = 1
            frameSequenceNumber := buf.getD 4 0
            data := tcPrimaryHdrLen
            dataLen := frameLen - tcPrimaryHdrLen }

theorem tcFrameDecode_fits [Kconfig] {buf : Bytes} {len : Nat} {frame : TcFrame}
    (decoded : tcFrameDecode buf len = .ok frame) : frame.data + frame.dataLen ≤ len := by
  unfold tcFrameDecode at decoded
  simp only at decoded
  split_ifs at decoded with headless version short long fill spacecraft
  cases decoded
  dsimp only
  omega

/-! ## Segments -/

/-- `enum ccsds_tc_segment_boundary` -/
inductive SegmentBoundary where
  | continuation
  | first
  | last
  | unsegmented
  deriving DecidableEq, Repr

def SegmentBoundary.ofCode (code : Nat) : SegmentBoundary :=
  match code % 4 with
  | 0 => .continuation
  | 1 => .first
  | 2 => .last
  | _ => .unsegmented

/-- `segment_ends_packet` -/
def SegmentBoundary.endsPacket (boundary : SegmentBoundary) : Bool :=
  boundary = .last || boundary = .unsegmented

/-- `struct ccsds_tc_segment` -/
structure TcSegment where
  boundary : SegmentBoundary
  mapId : Nat
  data : Bytes
  deriving DecidableEq, Repr

/-- `ccsds_tc_segment_decode` -/
def tcSegmentDecode (buf : Bytes) : Except Errno TcSegment :=
  if buf.length < tcSegmentHdrLen then .error .einval
  else
    let header := (buf.getD 0 0).toNat
    .ok {
      boundary := .ofCode (header / 64)
      mapId := header % 64
      data := buf.drop tcSegmentHdrLen }

/-- `struct ccsds_tc_segment_part` -/
structure TcSegmentPart where
  mapId : Nat
  segmentBoundary : SegmentBoundary
  startsPacket : Bool
  endsPacket : Bool
  data : Bytes
  packetLen : Nat
  deriving DecidableEq, Repr

/-- `encoded_packet_len` -/
def encodedPacketLen (packet : Bytes) : Nat :=
  spacePacketPrimaryHdrLen + Bytes.getBe (packet.slice 4 2) + 1

/-! ## Space Packets -/

/-- `struct ccsds_space_packet`; the type and the sequence flags are the field values. -/
structure SpacePacket where
  version : Nat
  type : Nat
  secondaryHeader : Bool
  apid : Nat
  sequenceFlags : Nat
  sequenceCount : Nat
  payload : Bytes
  deriving DecidableEq, Repr

/-- `ccsds_space_packet_decode` -/
def spacePacketDecode (buf : Bytes) : Except Errno SpacePacket :=
  if buf.length < spacePacketPrimaryHdrLen then .error .einval
  else
    let word0 := Bytes.getBe (buf.slice 0 2)
    let word1 := Bytes.getBe (buf.slice 2 2)
    let payloadLen := Bytes.getBe (buf.slice 4 2) + 1
    if buf.length < spacePacketPrimaryHdrLen + payloadLen then .error .emsgsize
    else
      .ok {
        version := word0 / 8192 % 8
        type := word0 / 4096 % 2
        secondaryHeader := word0 / 2048 % 2 = 1
        apid := word0 % 2048
        sequenceFlags := word1 / 16384 % 4
        sequenceCount := word1 % 16384
        payload := buf.slice spacePacketPrimaryHdrLen payloadLen }

/-- `ccsds_space_packet_encode` into a buffer of `cap` octets -/
def spacePacketEncode (packet : SpacePacket) (cap : Nat) : Except Errno Bytes :=
  if apidMax < packet.apid ∨ 0x3fff < packet.sequenceCount ∨ packet.payload.length = 0 ∨
      0x10000 < packet.payload.length then .error .einval
  else if cap < spacePacketPrimaryHdrLen + packet.payload.length then .error .enospc
  else
    let word0 := packet.version % 8 * 8192 + packet.type % 2 * 4096 +
      (if packet.secondaryHeader then 2048 else 0) + packet.apid % 2048
    let word1 := packet.sequenceFlags % 4 * 16384 + packet.sequenceCount % 16384
    .ok (Bytes.putBe 2 word0 ++ Bytes.putBe 2 word1 ++ Bytes.putBe 2 (packet.payload.length - 1) ++ packet.payload)

/-- A Space Packet as it is transmitted, with the length that its header declares -/
structure EncodedPacket where
  octets : Bytes
  complete : encodedPacketLen octets = octets.length

theorem EncodedPacket.header_lt (packet : EncodedPacket) : spacePacketPrimaryHdrLen < packet.octets.length := by
  have complete := packet.complete
  unfold encodedPacketLen at complete
  omega

/-- The length field is in the header. -/
theorem encodedPacketLen_append {front : Bytes} (header : spacePacketPrimaryHdrLen ≤ front.length) (back : Bytes) :
    encodedPacketLen (front ++ back) = encodedPacketLen front := by
  have header : 6 ≤ front.length := header
  unfold encodedPacketLen Bytes.slice
  rw [List.drop_append_of_le_length (by omega), List.take_append_of_le_length (by rw [List.length_drop]; omega)]

end ZephyrCcsds.Tc
