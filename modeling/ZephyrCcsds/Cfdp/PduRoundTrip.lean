import Mathlib.Data.List.GetD
import ZephyrCcsds.Cfdp.Pdu

/-! # What the decoders make of an encoded PDU

Every PDU that an encoder produces is decoded to itself by its decoder, with the data field
length that the encoder fills in, and the decoder uses up the whole PDU.  Values that a C type
bounds (a `uint32_t` size, offset or checksum) appear with that bound as a hypothesis.
-/

namespace ZephyrCcsds.Cfdp

open Bytes

/-! ## Fields of an octet string -/

section Fields

variable {buf : Bytes} {offset len value : Nat}

/-- A field that follows `front`. -/
theorem slice_field (front : Bytes) {field : Bytes} (whole : front ++ field <+: buf)
    (start : front.length = offset) (size : field.length = len) : slice buf offset len = field := by
  obtain ⟨back, rfl⟩ := whole
  rw [List.append_assoc, slice_append_right len start.le, ← start, Nat.sub_self, ← size,
    slice_append_left]

theorem readBeUint_field (front : Bytes) (whole : front ++ putBe len value <+: buf)
    (start : front.length = offset) (bound : value < 256 ^ len) :
    readBeUint buf offset len = value := by
  rw [readBeUint, slice_field front whole start (putBe_length len value), getBe_putBe_of_lt bound]

theorem byteAt_field (front : Bytes) (whole : front ++ putBe 1 value <+: buf)
    (start : front.length = offset) (bound : value < 256) : byteAt buf offset = value := by
  have octet : (UInt8.ofNat value).toNat = value := by
    rw [UInt8.toNat_ofNat']
    exact Nat.mod_eq_of_lt bound
  obtain ⟨back, rfl⟩ := whole
  rw [byteAt, List.append_assoc, List.getD_append_right _ _ _ _ start.le, ← start, Nat.sub_self]
  simpa only [putBe, Nat.pow_zero, Nat.div_one, List.cons_append, List.nil_append,
    List.getD_cons_zero] using octet

end Fields

variable [Kconfig]

omit [Kconfig] in
theorem valueFitsLen_lt {value len : Nat} (fits : valueFitsLen value len = true)
    (short : len ≤ maxEncodedIntLen) (bound : value < 2 ^ 64) : value < 256 ^ len := by
  rw [valueFitsLen, Bool.or_eq_true, decide_eq_true_eq, decide_eq_true_eq] at fits
  rw [show (256 : Nat) = 2 ^ 8 from rfl, ← pow_mul, Nat.mul_comm]
  rcases fits with long | small
  · have full : len = 8 := le_antisymm short long
    rw [full]
    exact bound
  · exact Nat.lt_of_div_eq_zero (Nat.two_pow_pos _) small

/-! ## Fixed header -/

/-- The addresses of a header are 64-bit numbers in the source. -/
structure PduHeader.Bounded (header : PduHeader) : Prop where
  source : header.sourceEntityId < 2 ^ 64
  sequence : header.transactionSequenceNumber < 2 ^ 64
  destination : header.destinationEntityId < 2 ^ 64

/-- What a header must satisfy for `ccsds_cfdp_encode_header` to encode it. -/
theorem encodeHeader_ok {header : PduHeader} {cap : Nat} {front : Bytes}
    (encoded : encodeHeader header cap = .ok front) :
    header.version = cfdpVersion1 ∧ header.fileSizeMode = .small ∧
      headerLengthsAreValid header = true ∧
      valueFitsLen header.sourceEntityId header.entityIdLen = true ∧
      valueFitsLen header.transactionSequenceNumber header.transactionSequenceNumberLen = true ∧
      valueFitsLen header.destinationEntityId header.entityIdLen = true ∧
      headerEncodedLen header ≤ cap ∧
      front = putBe 1 (headerFlags header) ++ putBe 2 header.pduDataFieldLen ++
        putBe 1 (headerLengths header) ++ putBe header.entityIdLen header.sourceEntityId ++
        putBe header.transactionSequenceNumberLen header.transactionSequenceNumber ++
        putBe header.entityIdLen header.destinationEntityId := by
  rw [encodeHeader] at encoded
  split_ifs at encoded with version size fields room
  simp only [Bool.or_eq_true, Bool.not_eq_true', not_or, Bool.not_eq_false] at fields
  obtain ⟨⟨⟨lengths, source⟩, sequence⟩, destination⟩ := fields
  exact ⟨not_not.mp version, not_not.mp size, lengths, source, sequence, destination,
    not_lt.mp room, (Except.ok.inj encoded).symm⟩

theorem headerLengthsAreValid_iff {header : PduHeader} :
    headerLengthsAreValid header = true ↔
      encodedIntLenIsValid header.entityIdLen maxEntityIdLen = true ∧
        encodedIntLenIsValid header.transactionSequenceNumberLen maxTransSeqLen = true := by
  rw [headerLengthsAreValid, Bool.and_eq_true]

omit [Kconfig] in
theorem encodedIntLenIsValid_iff {len maxLen : Nat} :
    encodedIntLenIsValid len maxLen = true ↔ 1 ≤ len ∧ len ≤ maxLen ∧ len ≤ maxEncodedIntLen := by
  simp only [encodedIntLenIsValid, Bool.and_eq_true, decide_eq_true_eq, and_assoc]

theorem encodeHeader_length {header : PduHeader} {cap : Nat} {front : Bytes}
    (encoded : encodeHeader header cap = .ok front) :
    front.length = 4 + 2 * header.entityIdLen + header.transactionSequenceNumberLen := by
  obtain ⟨_, _, _, _, _, _, _, rfl⟩ := encodeHeader_ok encoded
  simp only [List.length_append, putBe_length]
  omega

section Octets

variable {header : PduHeader}

omit [Kconfig]

/-- The first octet, with the version and the file size mode that are encoded. -/
theorem headerFlags_eq (version : header.version = cfdpVersion1) (size : header.fileSizeMode = .small) :
    headerFlags header = 32 + header.pduType.code * 16 + header.direction.code * 8 +
      header.transmissionMode.code * 4 + header.crcFlag.code * 2 := by
  rw [headerFlags, version, size]
  rfl

theorem headerFlags_fields (version : header.version = cfdpVersion1)
    (size : header.fileSizeMode = .small) :
    headerFlags header < 256 ∧ headerFlags header / 32 % 8 = cfdpVersion1 ∧
      headerFlags header / 16 % 2 = header.pduType.code ∧
      headerFlags header / 8 % 2 = header.direction.code ∧
      headerFlags header / 4 % 2 = header.transmissionMode.code ∧
      headerFlags header / 2 % 2 = header.crcFlag.code ∧ headerFlags header % 2 = 0 := by
  have kind := header.pduType.code_lt
  have direction := header.direction.code_lt
  have mode := header.transmissionMode.code_lt
  have crc := header.crcFlag.code_lt
  rw [headerFlags_eq version size, cfdpVersion1]
  omega

theorem headerLengths_fields (entityPos : 1 ≤ header.entityIdLen)
    (entityMax : header.entityIdLen ≤ maxEncodedIntLen)
    (seqPos : 1 ≤ header.transactionSequenceNumberLen)
    (seqMax : header.transactionSequenceNumberLen ≤ maxEncodedIntLen) :
    headerLengths header < 256 ∧ headerLengths header / 128 % 2 = header.segmentationControl.code ∧
      headerLengths header / 16 % 8 + 1 = header.entityIdLen ∧
      headerLengths header / 8 % 2 = (if header.segmentMetadataPresent then 1 else 0) ∧
      headerLengths header % 8 + 1 = header.transactionSequenceNumberLen := by
  have control := header.segmentationControl.code_lt
  rw [maxEncodedIntLen] at entityMax seqMax
  rw [headerLengths]
  cases header.segmentMetadataPresent <;> simp only [if_true, Bool.false_eq_true, if_false] <;> omega

end Octets

theorem decodeHeader_encodeHeader {header : PduHeader} {cap : Nat} {front : Bytes}
    (encoded : encodeHeader header cap = .ok front) (bounded : header.Bounded)
    (size16 : header.pduDataFieldLen ≤ uint16Max) (rest : Bytes) :
    decodeHeader (front ++ rest) = .ok (header, front.length) := by
  have total := encodeHeader_length encoded
  obtain ⟨version, size, lengths, source, sequence, destination, _, octets⟩ := encodeHeader_ok encoded
  obtain ⟨entityLen, seqLen⟩ := headerLengthsAreValid_iff.mp lengths
  obtain ⟨entityPos, _, entityMax⟩ := encodedIntLenIsValid_iff.mp entityLen
  obtain ⟨seqPos, _, seqMax⟩ := encodedIntLenIsValid_iff.mp seqLen
  obtain ⟨flags_lt, isVersion, isKind, isDirection, isMode, isCrc, isSize⟩ :=
    headerFlags_fields version size
  obtain ⟨lengths_lt, isControl, isEntityLen, isMetadata, isSeqLen⟩ :=
    headerLengths_fields entityPos entityMax seqPos seqMax
  have data : header.pduDataFieldLen < 256 ^ 2 := Nat.lt_succ_of_le size16
  -- the fields, one after the other
  have flags : byteAt (front ++ rest) 0 = headerFlags header := by
    refine byteAt_field [] ?_ rfl flags_lt
    simp only [octets, List.append_assoc, List.nil_append, List.prefix_append]
  have dataLen : readBeUint (front ++ rest) 1 2 = header.pduDataFieldLen := by
    refine readBeUint_field (putBe 1 (headerFlags header)) ?_ (putBe_length _ _) data
    simp only [octets, List.append_assoc, List.prefix_append_right_inj, List.prefix_append]
  have octet3 : byteAt (front ++ rest) 3 = headerLengths header := by
    refine byteAt_field (putBe 1 (headerFlags header) ++ putBe 2 header.pduDataFieldLen) ?_ ?_ lengths_lt
    · simp only [octets, List.append_assoc, List.prefix_append_right_inj, List.prefix_append]
    · simp only [List.length_append, putBe_length]
  have sourceId : readBeUint (front ++ rest) fixedHeaderMinLen header.entityIdLen =
      header.sourceEntityId := by
    refine readBeUint_field (putBe 1 (headerFlags header) ++ putBe 2 header.pduDataFieldLen ++
      putBe 1 (headerLengths header)) ?_ ?_ (valueFitsLen_lt source entityMax bounded.source)
    · simp only [octets, List.append_assoc, List.prefix_append_right_inj, List.prefix_append]
    · simp only [List.length_append, putBe_length, fixedHeaderMinLen]
  have sequenceNumber : readBeUint (front ++ rest) (fixedHeaderMinLen + header.entityIdLen)
      header.transactionSequenceNumberLen = header.transactionSequenceNumber := by
    refine readBeUint_field (putBe 1 (headerFlags header) ++ putBe 2 header.pduDataFieldLen ++
      putBe 1 (headerLengths header) ++ putBe header.entityIdLen header.sourceEntityId) ?_ ?_
      (valueFitsLen_lt sequence seqMax bounded.sequence)
    · simp only [octets, List.append_assoc, List.prefix_append_right_inj, List.prefix_append]
    · simp only [List.length_append, putBe_length, fixedHeaderMinLen]
  have destinationId : readBeUint (front ++ rest) (fixedHeaderMinLen + header.entityIdLen +
      header.transactionSequenceNumberLen) header.entityIdLen = header.destinationEntityId := by
    refine readBeUint_field (putBe 1 (headerFlags header) ++ putBe 2 header.pduDataFieldLen ++
      putBe 1 (headerLengths header) ++ putBe header.entityIdLen header.sourceEntityId ++
      putBe header.transactionSequenceNumberLen header.transactionSequenceNumber) ?_ ?_
      (valueFitsLen_lt destination entityMax bounded.destination)
    · simp only [octets, List.append_assoc, List.prefix_append_right_inj, List.prefix_append]
    · simp only [List.length_append, putBe_length, fixedHeaderMinLen]
  have long : ¬ (front ++ rest).length < fixedHeaderMinLen := by
    rw [List.length_append, total, fixedHeaderMinLen]
    omega
  have enough : ¬ (front ++ rest).length <
      fixedHeaderMinLen + 2 * header.entityIdLen + header.transactionSequenceNumberLen := by
    rw [List.length_append, total, fixedHeaderMinLen]
    omega
  have metadata : decide ((if header.segmentMetadataPresent then 1 else 0) ≠ 0) =
      header.segmentMetadataPresent := by
    cases header.segmentMetadataPresent <;> rfl
  have small : FileSizeMode.ofCode 0 = .small := rfl
  rw [decodeHeader, if_neg long]
  simp only [flags, octet3, isVersion, isKind, isDirection, isMode, isCrc, isSize, isControl,
    isEntityLen, isMetadata, isSeqLen, entityLen, seqLen, enough, dataLen, sourceId, sequenceNumber,
    destinationId, small, metadata, PduType.ofCode_code, Direction.ofCode_code,
    TransmissionMode.ofCode_code, CrcFlag.ofCode_code, SegmentationControl.ofCode_code, ne_eq,
    not_true_eq_false, if_false, Bool.not_true, Bool.or_self, Bool.false_eq_true]
  rw [total, fixedHeaderMinLen, ← version, ← size]

/-- The header as an encoder completes it. -/
def PduHeader.withDataLen (header : PduHeader) (len : Nat) : PduHeader :=
  { header with pduDataFieldLen := len }

theorem decodeHeader_of_front {header : PduHeader} {cap len : Nat} {front pdu : Bytes}
    (encoded : encodeHeader { header with pduDataFieldLen := len } cap = .ok front)
    (bounded : header.Bounded) (size16 : len ≤ uint16Max) (starts : front <+: pdu) :
    decodeHeader pdu = .ok (header.withDataLen len, front.length) := by
  obtain ⟨data, rfl⟩ := starts
  exact decodeHeader_encodeHeader encoded ⟨bounded.source, bounded.sequence, bounded.destination⟩
    size16 data

/-- The directive of an encoded file directive PDU. -/
theorem isDirective_of_front {header : PduHeader} {cap len directive : Nat} {front pdu : Bytes}
    (encoded : encodeHeader { header with pduDataFieldLen := len } cap = .ok front)
    (bounded : header.Bounded) (size16 : len ≤ uint16Max) (kind : header.pduType = .fileDirective)
    (starts : front ++ putBe 1 directive <+: pdu) (octet : directive < 256) :
    IsDirective pdu (header.withDataLen len) directive := by
  refine ⟨front.length, ?_, kind, byteAt_field front starts rfl octet⟩
  exact decodeHeader_of_front encoded bounded size16 ((List.prefix_append _ _).trans starts)

/-- A header that a decoder returns is made of 64-bit numbers. -/
theorem decodeHeader_bounded {buf : Bytes} {header : PduHeader} {headerLen : Nat}
    (decoded : decodeHeader buf = .ok (header, headerLen)) : header.Bounded := by
  have read : ∀ {offset len maxLen : Nat}, encodedIntLenIsValid len maxLen = true →
      readBeUint buf offset len < 2 ^ 64 := by
    intro offset len maxLen valid
    obtain ⟨_, _, short⟩ := encodedIntLenIsValid_iff.mp valid
    have taken : (slice buf offset len).length ≤ 8 := by
      rw [slice_length]
      exact (min_le_left _ _).trans short
    calc readBeUint buf offset len < 256 ^ (slice buf offset len).length := getBe_lt _
      _ ≤ 256 ^ 8 := Nat.pow_le_pow_right (by decide) taken
      _ = 2 ^ 64 := by decide
  simp only [decodeHeader] at decoded
  split_ifs at decoded with short version size lengths
  simp only [Bool.or_eq_true, Bool.not_eq_true', not_or, Bool.not_eq_false] at lengths
  cases decoded
  exact ⟨read lengths.1, read lengths.2, read lengths.1⟩

/-! ## EOF, Finished and ACK -/

omit [Kconfig] in
theorem conditionCodeIsValid_iff {code : Nat} : conditionCodeIsValid code = true ↔ code < 16 := by
  rw [conditionCodeIsValid, Bool.and_eq_true, decide_eq_true_eq, decide_eq_true_eq, conditionNoError,
    conditionCancelRequestReceived]
  omega

theorem decodeEof_encodeEof {eof : EofPdu} {cap : Nat} {pdu : Bytes}
    (encoded : encodeEof eof cap = .ok pdu) (bounded : eof.header.Bounded)
    (checksum : eof.fileChecksum ≤ uint32Max) (size : eof.fileSize ≤ uint32Max) :
    decodeEof pdu = .ok ({ eof with header := eof.header.withDataLen eofDataLen }, pdu.length) := by
  unfold encodeEof at encoded
  split_ifs at encoded with kind small code
  rw [not_or, not_not] at kind
  rw [Bool.not_eq_true', Bool.not_eq_false, conditionCodeIsValid_iff] at code
  cases front : encodeHeader { eof.header with pduDataFieldLen := eofDataLen } cap with
  | error status =>
    rw [front] at encoded
    cases encoded
  | ok octets =>
    simp only [front] at encoded
    split_ifs at encoded
    rw [Except.ok.injEq] at encoded
    have total : pdu.length = octets.length + 10 := by
      rw [← encoded]
      simp only [List.length_append, putBe_length]
    have header : decodeHeader pdu = .ok (eof.header.withDataLen eofDataLen, octets.length) := by
      refine decodeHeader_of_front front bounded (by decide) ?_
      simp only [← encoded, List.append_assoc, List.prefix_append]
    have directive : byteAt pdu octets.length = directiveEof := by
      refine byteAt_field octets ?_ rfl (by decide)
      simp only [← encoded, List.append_assoc, List.prefix_append_right_inj, List.prefix_append]
    have condition : byteAt pdu (octets.length + 1) = eof.conditionCode % 16 * 16 := by
      refine byteAt_field (octets ++ putBe 1 directiveEof) ?_ ?_ (by omega)
      · simp only [← encoded, List.append_assoc, List.prefix_append_right_inj, List.prefix_append]
      · simp only [List.length_append, putBe_length]
    have checksum' : readBeUint pdu (octets.length + 2) 4 = eof.fileChecksum := by
      refine readBeUint_field (octets ++ putBe 1 directiveEof ++ putBe 1 (eof.conditionCode % 16 * 16))
        ?_ ?_ (Nat.lt_succ_of_le checksum)
      · simp only [← encoded, List.append_assoc, List.prefix_append_right_inj, List.prefix_append]
      · simp only [List.length_append, putBe_length]
    have size' : readBeUint pdu (octets.length + 6) 4 = eof.fileSize := by
      refine readBeUint_field (octets ++ putBe 1 directiveEof ++
        putBe 1 (eof.conditionCode % 16 * 16) ++ putBe 4 eof.fileChecksum) ?_ ?_
        (Nat.lt_succ_of_le size)
      · simp only [← encoded, List.append_assoc, List.prefix_rfl]
      · simp only [List.length_append, putBe_length]
    have code' : eof.conditionCode % 16 * 16 / 16 = eof.conditionCode := by omega
    have fits : ¬ ((eof.header.withDataLen eofDataLen).pduDataFieldLen ≠ eofDataLen ∨
        pdu.length - octets.length < (eof.header.withDataLen eofDataLen).pduDataFieldLen) := by
      simp only [PduHeader.withDataLen, eofDataLen, total]
      omega
    have kind' : ¬ ((eof.header.withDataLen eofDataLen).pduType ≠ .fileDirective ∨
        (eof.header.withDataLen eofDataLen).segmentMetadataPresent = true) :=
      fun wrong => wrong.elim (fun wrong => wrong kind.1) kind.2
    have small' : ¬ (eof.header.withDataLen eofDataLen).fileSizeMode ≠ .small := small
    simp only [decodeEof, header, if_neg kind', if_neg small', if_neg fits]
    rw [if_neg, if_neg, if_neg, if_neg, if_neg]
    · simp only [condition, checksum', size', code', total]
    all_goals
      simp only [PduHeader.withDataLen, eofDataLen, directive, ne_eq, not_true_eq_false, not_false_eq_true]
      try omega

theorem encodeEof_isDirective {eof : EofPdu} {cap : Nat} {pdu : Bytes}
    (encoded : encodeEof eof cap = .ok pdu) (bounded : eof.header.Bounded) :
    IsDirective pdu (eof.header.withDataLen eofDataLen) directiveEof := by
  unfold encodeEof at encoded
  split_ifs at encoded with kind
  rw [not_or, not_not] at kind
  split at encoded
  · cases encoded
  · next octets front =>
    split_ifs at encoded
    apply isDirective_of_front front bounded (by decide) kind.1 _ (by decide)
    simp only [← Except.ok.inj encoded, List.append_assoc, List.prefix_append_right_inj,
      List.prefix_append]

theorem decodeFinished_encodeFinished {finished : FinishedPdu} {cap : Nat} {pdu : Bytes}
    (encoded : encodeFinished finished cap = .ok pdu) (bounded : finished.header.Bounded) :
    decodeFinished pdu =
      .ok ({ finished with header := finished.header.withDataLen finishedDataLen }, pdu.length) := by
  unfold encodeFinished at encoded
  split_ifs at encoded with kind small code
  rw [not_or, not_not] at kind
  rw [Bool.not_eq_true', Bool.not_eq_false] at code
  have code_lt := conditionCodeIsValid_iff.mp code
  have delivery := finished.deliveryCode.code_lt
  have file := finished.fileStatus.code_lt
  cases front : encodeHeader { finished.header with pduDataFieldLen := finishedDataLen } cap with
  | error status =>
    rw [front] at encoded
    cases encoded
  | ok octets =>
    simp only [front] at encoded
    split_ifs at encoded
    rw [Except.ok.injEq] at encoded
    have total : pdu.length = octets.length + 2 := by
      rw [← encoded]
      simp only [List.length_append, putBe_length]
    have header : decodeHeader pdu =
        .ok (finished.header.withDataLen finishedDataLen, octets.length) := by
      refine decodeHeader_of_front front bounded (by decide) ?_
      simp only [← encoded, List.append_assoc, List.prefix_append]
    have directive : byteAt pdu octets.length = directiveFinished := by
      refine byteAt_field octets ?_ rfl (by decide)
      simp only [← encoded, List.append_assoc, List.prefix_append_right_inj, List.prefix_append]
    have status : byteAt pdu (octets.length + 1) = finished.conditionCode % 16 * 16 +
        finished.deliveryCode.code * 4 + finished.fileStatus.code := by
      refine byteAt_field (octets ++ putBe 1 directiveFinished) ?_ ?_ (by omega)
      · simp only [← encoded, List.append_assoc, List.prefix_rfl]
      · simp only [List.length_append, putBe_length]
    have spare : (finished.conditionCode % 16 * 16 + finished.deliveryCode.code * 4 +
        finished.fileStatus.code) / 8 % 2 = 0 := by omega
    have code' : (finished.conditionCode % 16 * 16 + finished.deliveryCode.code * 4 +
        finished.fileStatus.code) / 16 = finished.conditionCode := by omega
    have delivery' : (finished.conditionCode % 16 * 16 + finished.deliveryCode.code * 4 +
        finished.fileStatus.code) / 4 % 2 = finished.deliveryCode.code := by omega
    have file' : (finished.conditionCode % 16 * 16 + finished.deliveryCode.code * 4 +
        finished.fileStatus.code) % 4 = finished.fileStatus.code := by omega
    have fits : ¬ ((finished.header.withDataLen finishedDataLen).pduDataFieldLen ≠ finishedDataLen ∨
        pdu.length - octets.length < (finished.header.withDataLen finishedDataLen).pduDataFieldLen) := by
      simp only [PduHeader.withDataLen, finishedDataLen, total]
      omega
    have kind' : ¬ ((finished.header.withDataLen finishedDataLen).pduType ≠ .fileDirective ∨
        (finished.header.withDataLen finishedDataLen).segmentMetadataPresent = true) :=
      fun wrong => wrong.elim (fun wrong => wrong kind.1) kind.2
    have small' : ¬ (finished.header.withDataLen finishedDataLen).fileSizeMode ≠ .small := small
    simp only [decodeFinished, header, if_neg kind', if_neg small', if_neg fits]
    rw [if_neg, if_neg, if_neg]
    · simp only [status, spare, code', code, delivery', file', total, DeliveryCode.ofCode_code,
        FileStatus.ofCode_code, ne_eq, not_true_eq_false, if_false, Bool.not_true, Bool.false_eq_true]
    all_goals
      simp only [PduHeader.withDataLen, finishedDataLen, directive, ne_eq, not_true_eq_false,
        not_false_eq_true]
      try omega

omit [Kconfig] in
theorem ackDirective_lt {directive : Nat} (supported : ackDirectiveIsSupported directive = true) :
    directive < 16 := by
  rw [ackDirectiveIsSupported, Bool.or_eq_true, beq_iff_eq, beq_iff_eq] at supported
  rcases supported with rfl | rfl <;> decide

omit [Kconfig] in
theorem ackSubtype_lt {directive subtype : Nat}
    (valid : ackSubtypeIsValid directive subtype = true) : subtype < 16 := by
  rw [ackSubtypeIsValid] at valid
  split_ifs at valid <;> rw [beq_iff_eq] at valid <;> rw [valid] <;> decide

theorem decodeAck_encodeAck {ack : AckPdu} {cap : Nat} {pdu : Bytes}
    (encoded : encodeAck ack cap = .ok pdu) (bounded : ack.header.Bounded) :
    decodeAck pdu = .ok ({ ack with header := ack.header.withDataLen ackDataLen }, pdu.length) := by
  unfold encodeAck at encoded
  split_ifs at encoded with kind small
  simp only [not_or, Bool.not_eq_true', Bool.not_eq_false] at kind
  rw [not_not] at kind
  obtain ⟨kind, segment, supported, subtype, code⟩ := kind
  have code_lt := conditionCodeIsValid_iff.mp code
  have directive_lt := ackDirective_lt supported
  have subtype_lt := ackSubtype_lt subtype
  have status_lt := ack.transactionStatus.code_lt
  cases front : encodeHeader { ack.header with pduDataFieldLen := ackDataLen } cap with
  | error status =>
    rw [front] at encoded
    cases encoded
  | ok octets =>
    simp only [front] at encoded
    split_ifs at encoded
    rw [Except.ok.injEq] at encoded
    have total : pdu.length = octets.length + 3 := by
      rw [← encoded]
      simp only [List.length_append, putBe_length]
    have header : decodeHeader pdu = .ok (ack.header.withDataLen ackDataLen, octets.length) := by
      refine decodeHeader_of_front front bounded (by decide) ?_
      simp only [← encoded, List.append_assoc, List.prefix_append]
    have directive : byteAt pdu octets.length = directiveAck := by
      refine byteAt_field octets ?_ rfl (by decide)
      simp only [← encoded, List.append_assoc, List.prefix_append_right_inj, List.prefix_append]
    have first : byteAt pdu (octets.length + 1) =
        ack.acknowledgedDirective % 16 * 16 + ack.directiveSubtype % 16 := by
      refine byteAt_field (octets ++ putBe 1 directiveAck) ?_ ?_ (by omega)
      · simp only [← encoded, List.append_assoc, List.prefix_append_right_inj, List.prefix_append]
      · simp only [List.length_append, putBe_length]
    have second : byteAt pdu (octets.length + 2) =
        ack.conditionCode % 16 * 16 + ack.transactionStatus.code := by
      refine byteAt_field (octets ++ putBe 1 directiveAck ++
        putBe 1 (ack.acknowledgedDirective % 16 * 16 + ack.directiveSubtype % 16)) ?_ ?_ (by omega)
      · simp only [← encoded, List.append_assoc, List.prefix_rfl]
      · simp only [List.length_append, putBe_length]
    have directive' : (ack.acknowledgedDirective % 16 * 16 + ack.directiveSubtype % 16) / 16 =
        ack.acknowledgedDirective := by omega
    have subtype' : (ack.acknowledgedDirective % 16 * 16 + ack.directiveSubtype % 16) % 16 =
        ack.directiveSubtype := by omega
    have spare : (ack.conditionCode % 16 * 16 + ack.transactionStatus.code) / 4 % 4 = 0 := by omega
    have code' : (ack.conditionCode % 16 * 16 + ack.transactionStatus.code) / 16 =
        ack.conditionCode := by omega
    have status' : (ack.conditionCode % 16 * 16 + ack.transactionStatus.code) % 4 =
        ack.transactionStatus.code := by omega
    have fits : ¬ ((ack.header.withDataLen ackDataLen).pduDataFieldLen ≠ ackDataLen ∨
        pdu.length - octets.length < (ack.header.withDataLen ackDataLen).pduDataFieldLen) := by
      simp only [PduHeader.withDataLen, ackDataLen, total]
      omega
    have kind' : ¬ ((ack.header.withDataLen ackDataLen).pduType ≠ .fileDirective ∨
        (ack.header.withDataLen ackDataLen).segmentMetadataPresent = true) :=
      fun wrong => wrong.elim (fun wrong => wrong kind) segment
    have small' : ¬ (ack.header.withDataLen ackDataLen).fileSizeMode ≠ .small := small
    simp only [decodeAck, header, if_neg kind', if_neg small', if_neg fits, directive, first, second,
      directive', subtype', supported, subtype, spare, code', code, status', ne_eq, not_true_eq_false,
      if_false, Bool.not_true, Bool.or_self, Bool.false_eq_true, TransactionStatus.ofCode_code]
    rw [total]
    rfl

/-! ## NAK -/

omit [Kconfig] in
theorem writeRanges_length (ranges : List NakRange) :
    (writeRanges ranges).length = ranges.length * nakRangeLen := by
  induction ranges with
  | nil => simp only [writeRanges, List.length_nil, Nat.zero_mul]
  | cons range ranges ih =>
    simp only [writeRanges, List.length_append, putBe_length, ih, List.length_cons, nakRangeLen]
    omega

omit [Kconfig] in
theorem readRanges_field {ranges : List NakRange} {buf : Bytes} {offset : Nat} (front : Bytes)
    (whole : front ++ writeRanges ranges <+: buf) (start : front.length = offset)
    (bounds : ∀ range ∈ ranges, range.start ≤ uint32Max ∧ range.stop ≤ uint32Max) :
    readRanges buf offset ranges.length = ranges := by
  induction ranges generalizing front offset with
  | nil => rfl
  | cons range ranges ih =>
    have bound := bounds range List.mem_cons_self
    simp only [writeRanges, List.append_assoc] at whole
    have first : readBeUint buf offset 4 = range.start := by
      refine readBeUint_field front (List.IsPrefix.trans ?_ whole) start (Nat.lt_succ_of_le bound.1)
      simp only [List.prefix_append_right_inj, List.prefix_append]
    have second : readBeUint buf (offset + 4) 4 = range.stop := by
      refine readBeUint_field (front ++ putBe 4 range.start) (List.IsPrefix.trans ?_ whole) ?_
        (Nat.lt_succ_of_le bound.2)
      · simp only [List.append_assoc, List.prefix_append_right_inj, List.prefix_append]
      · rw [List.length_append, putBe_length, start]
    have rest : readRanges buf (offset + 8) ranges.length = ranges := by
      refine ih (front ++ putBe 4 range.start ++ putBe 4 range.stop) ?_ ?_
        fun range mem => bounds range (List.mem_cons_of_mem _ mem)
      · simpa only [List.append_assoc] using whole
      · rw [List.length_append, List.length_append, putBe_length, putBe_length, start]
    rw [List.length_cons, readRanges, first, second, rest]

theorem decodeNak_encodeNak {nak : NakPdu} {cap : Nat} {pdu : Bytes}
    (encoded : encodeNak nak cap = .ok pdu) (bounded : nak.header.Bounded)
    (scope : nak.scopeEnd ≤ uint32Max) :
    decodeNak pdu = .ok (
      { nak with header := nak.header.withDataLen (nakMinDataLen + nak.ranges.length * nakRangeLen) },
      pdu.length) := by
  unfold encodeNak at encoded
  split_ifs at encoded with kind small valid
  rw [not_or, not_not] at kind
  rw [Bool.not_eq_true', Bool.not_eq_false] at valid
  have ordered := valid
  simp only [nakValidateRanges, nakRangeIsValid, Bool.and_eq_true, decide_eq_true_eq,
    List.all_eq_true] at ordered
  obtain ⟨⟨window, count⟩, inside⟩ := ordered
  simp only [] at encoded
  split_ifs at encoded with long
  cases front : encodeHeader
      { nak.header with pduDataFieldLen := nakMinDataLen + nak.ranges.length * nakRangeLen } cap with
  | error status =>
    rw [front] at encoded
    cases encoded
  | ok octets =>
    simp only [front] at encoded
    split_ifs at encoded
    rw [Except.ok.injEq] at encoded
    have total : pdu.length = octets.length + (nakMinDataLen + nak.ranges.length * nakRangeLen) := by
      rw [← encoded]
      simp only [List.length_append, putBe_length, writeRanges_length, nakMinDataLen]
      omega
    have header : decodeHeader pdu = .ok (
        nak.header.withDataLen (nakMinDataLen + nak.ranges.length * nakRangeLen), octets.length) := by
      refine decodeHeader_of_front front bounded (not_lt.mp long) ?_
      simp only [← encoded, List.append_assoc, List.prefix_append]
    have directive : byteAt pdu octets.length = directiveNak := by
      refine byteAt_field octets ?_ rfl (by decide)
      simp only [← encoded, List.append_assoc, List.prefix_append_right_inj, List.prefix_append]
    have scopeStart : readBeUint pdu (octets.length + 1) 4 = nak.scopeStart := by
      refine readBeUint_field (octets ++ putBe 1 directiveNak) ?_ ?_
        (Nat.lt_succ_of_le (window.le.trans scope))
      · simp only [← encoded, List.append_assoc, List.prefix_append_right_inj, List.prefix_append]
      · simp only [List.length_append, putBe_length]
    have scopeEnd : readBeUint pdu (octets.length + 5) 4 = nak.scopeEnd := by
      refine readBeUint_field (octets ++ putBe 1 directiveNak ++ putBe 4 nak.scopeStart) ?_ ?_
        (Nat.lt_succ_of_le scope)
      · simp only [← encoded, List.append_assoc, List.prefix_append_right_inj, List.prefix_append]
      · simp only [List.length_append, putBe_length]
    have ranges : readRanges pdu (octets.length + 9) nak.ranges.length = nak.ranges := by
      refine readRanges_field (octets ++ putBe 1 directiveNak ++ putBe 4 nak.scopeStart ++
        putBe 4 nak.scopeEnd) ?_ ?_ fun range mem => ?_
      · simp only [← encoded, List.append_assoc, List.prefix_rfl]
      · simp only [List.length_append, putBe_length]
      · have bounds := inside range mem
        omega
    have fits : ¬ (nakMinDataLen + nak.ranges.length * nakRangeLen < nakMinDataLen ∨
        pdu.length - octets.length < nakMinDataLen + nak.ranges.length * nakRangeLen) := by
      rw [total]
      omega
    have remaining : nakMinDataLen + nak.ranges.length * nakRangeLen - nakMinDataLen =
        nak.ranges.length * nakRangeLen := Nat.add_sub_cancel_left _ _
    have whole : nak.ranges.length * nakRangeLen % nakRangeLen = 0 := Nat.mul_mod_left _ _
    have count' : nak.ranges.length * nakRangeLen / nakRangeLen = nak.ranges.length :=
      Nat.mul_div_cancel _ (by decide)
    have few : ¬ maxNakRanges < nak.ranges.length := not_lt.mpr count
    have kind' : ¬ (nak.header.pduType ≠ .fileDirective ∨ nak.header.segmentMetadataPresent = true) :=
      fun wrong => wrong.elim (fun wrong => wrong kind.1) kind.2
    simp only [decodeNak, header, PduHeader.withDataLen, if_neg kind', if_neg small, if_neg fits,
      remaining, whole, few, directive, scopeStart, scopeEnd, count', ranges, ne_eq,
      not_true_eq_false, or_self, if_false]
    exact (if_neg (by rw [Bool.not_eq_true', Bool.not_eq_false]; exact valid)).trans (by rw [total])

theorem encodeNak_isDirective {nak : NakPdu} {cap : Nat} {pdu : Bytes}
    (encoded : encodeNak nak cap = .ok pdu) (bounded : nak.header.Bounded) :
    IsDirective pdu (nak.header.withDataLen (nakMinDataLen + nak.ranges.length * nakRangeLen))
      directiveNak := by
  unfold encodeNak at encoded
  split_ifs at encoded with kind small valid
  rw [not_or, not_not] at kind
  simp only [] at encoded
  split_ifs at encoded with long
  split at encoded
  · cases encoded
  · next octets front =>
    split_ifs at encoded
    apply isDirective_of_front front bounded (not_lt.mp long) kind.1 _ (by decide)
    simp only [← Except.ok.inj encoded, List.append_assoc, List.prefix_append_right_inj,
      List.prefix_append]

/-! ## File Data -/

theorem decodeFiledata_encodeFiledata {filedata : FiledataPdu} {cap : Nat} {pdu : Bytes}
    (encoded : encodeFiledata filedata cap = .ok pdu) (bounded : filedata.header.Bounded)
    (offset : filedata.offset ≤ uint32Max) :
    decodeFiledata pdu = .ok (
      { filedata with
        header := filedata.header.withDataLen (filedataOffsetLen + filedata.data.length) },
      pdu.length) := by
  unfold encodeFiledata at encoded
  split_ifs at encoded with kind small size
  rw [not_or, not_not] at kind
  rw [not_or] at size
  simp only [] at encoded
  cases front : encodeHeader
      { filedata.header with pduDataFieldLen := filedataOffsetLen + filedata.data.length } cap with
  | error status =>
    rw [front] at encoded
    cases encoded
  | ok octets =>
    simp only [front] at encoded
    split_ifs at encoded
    rw [Except.ok.injEq] at encoded
    have total : pdu.length = octets.length + (filedataOffsetLen + filedata.data.length) := by
      rw [← encoded]
      simp only [List.length_append, putBe_length, filedataOffsetLen]
      omega
    have header : decodeHeader pdu = .ok (
        filedata.header.withDataLen (filedataOffsetLen + filedata.data.length), octets.length) := by
      refine decodeHeader_of_front front bounded ?_ ?_
      · have bound := size.2
        rw [uint16Max, filedataOffsetLen] at *
        omega
      · simp only [← encoded, List.append_assoc, List.prefix_append]
    have offset' : readBeUint pdu octets.length 4 = filedata.offset := by
      refine readBeUint_field octets ?_ rfl (Nat.lt_succ_of_le offset)
      simp only [← encoded, List.append_assoc, List.prefix_append_right_inj, List.prefix_append]
    have data : slice pdu (octets.length + filedataOffsetLen) filedata.data.length = filedata.data := by
      refine slice_field (octets ++ putBe 4 filedata.offset) ?_ ?_ rfl
      · simp only [← encoded, List.append_assoc, List.prefix_rfl]
      · simp only [List.length_append, putBe_length, filedataOffsetLen]
    have fits : ¬ (filedataOffsetLen + filedata.data.length ≤ filedataOffsetLen ∨
        pdu.length - octets.length < filedataOffsetLen + filedata.data.length) := by
      rw [total]
      omega
    have room : ¬ octets.length + (filedataOffsetLen + filedata.data.length) - octets.length <
        filedataOffsetLen := by omega
    have rest : octets.length + (filedataOffsetLen + filedata.data.length) -
        (octets.length + filedataOffsetLen) = filedata.data.length := by omega
    have kind' : ¬ (filedata.header.pduType ≠ .fileData ∨
        filedata.header.segmentMetadataPresent = true) :=
      fun wrong => wrong.elim (fun wrong => wrong kind.1) kind.2
    simp only [decodeFiledata, header, PduHeader.withDataLen, if_neg kind', if_neg small, if_neg fits,
      if_neg room, rest, offset', data]
    rw [total]

theorem encodeFiledata_header {filedata : FiledataPdu} {cap : Nat} {pdu : Bytes}
    (encoded : encodeFiledata filedata cap = .ok pdu) (bounded : filedata.header.Bounded) :
    ∃ header headerLen, decodeHeader pdu = .ok (header, headerLen) ∧ header.pduType = .fileData := by
  unfold encodeFiledata at encoded
  split_ifs at encoded with kind small size
  rw [not_or, not_not] at kind
  rw [not_or, not_lt, uint16Max] at size
  simp only [] at encoded
  split at encoded
  · cases encoded
  · next octets front =>
    split_ifs at encoded
    refine ⟨_, _, decodeHeader_of_front front bounded ?_ ?_, kind.1⟩
    · rw [filedataOffsetLen, uint16Max] at *
      omega
    · simp only [← Except.ok.inj encoded, List.append_assoc, List.prefix_append]

/-! ## Metadata -/

omit [Kconfig] in
theorem lvRead_lvWrite {value written : Bytes} {cap : Nat} (short : value.length < 256)
    (wrote : lvWrite value cap = .ok written) (rest : Bytes) :
    written.length = 1 + value.length ∧
      lvRead (written ++ rest) = .ok (value, 1 + value.length) := by
  rw [lvWrite] at wrote
  split_ifs at wrote
  obtain rfl := Except.ok.inj wrote
  have size : byteAt (putBe 1 value.length ++ value ++ rest) 0 = value.length := by
    refine byteAt_field [] ?_ rfl short
    simp only [List.append_assoc, List.nil_append, List.prefix_append]
  have field : slice (putBe 1 value.length ++ value ++ rest) 1 value.length = value :=
    slice_field (putBe 1 value.length) (List.prefix_append _ _) (putBe_length _ _) rfl
  refine ⟨by rw [List.length_append, putBe_length], ?_⟩
  simp only [lvRead, size, field]
  rw [if_neg, if_neg]
  all_goals
    simp only [List.length_append, putBe_length]
    omega

omit [Kconfig] in
theorem ChecksumType.ofCode_code {type : ChecksumType} (supported : type.isSupported = true) :
    ChecksumType.ofCode (type.code % 16) = type ∧ type.code < 16 := by
  cases type with
  | modular | crc32c | ieee8023Fcs | null => exact ⟨rfl, by decide⟩
  | other => cases supported

theorem filenameLenIsValid_lt {filename : Bytes} (valid : filenameLenIsValid filename = true) :
    filename.length < 256 := by
  have range := Kconfig.maxFilenameLen_range
  rw [filenameLenIsValid, Bool.and_eq_true, decide_eq_true_eq, decide_eq_true_eq] at valid
  omega

/-- In acknowledged mode the closure flag is not sent. -/
def MetadataPdu.sent (metadata : MetadataPdu) : MetadataPdu :=
  { metadata with
    header := metadata.header.withDataLen (metadataMinDataLen + metadata.sourceFilename.length +
      metadata.destinationFilename.length)
    closureRequested :=
      metadata.closureRequested && metadata.header.transmissionMode != .acknowledged }

/-- The octet of the closure flag and the checksum type. -/
def metadataControl (metadata : MetadataPdu) : Nat :=
  (if metadata.closureRequested ∧ metadata.header.transmissionMode ≠ .acknowledged then 64 else 0) +
    metadata.checksumType.code % 16

omit [Kconfig] in
theorem metadataControl_fields (metadata : MetadataPdu)
    (supported : metadata.checksumType.isSupported = true) :
    metadataControl metadata < 256 ∧ metadataControl metadata / 128 % 2 = 0 ∧
      metadataControl metadata / 16 % 4 = 0 ∧
      ChecksumType.ofCode (metadataControl metadata % 16) = metadata.checksumType ∧
      decide (metadataControl metadata / 64 % 2 ≠ 0) = metadata.sent.closureRequested := by
  obtain ⟨ofCode, code_lt⟩ := ChecksumType.ofCode_code supported
  have low : metadataControl metadata % 16 = metadata.checksumType.code % 16 := by
    unfold metadataControl
    split <;> omega
  rw [low]
  unfold metadataControl MetadataPdu.sent
  by_cases closure : metadata.closureRequested ∧ metadata.header.transmissionMode ≠ .acknowledged
  · have flag : (metadata.closureRequested && metadata.header.transmissionMode != .acknowledged) = true := by
      rw [Bool.and_eq_true, bne_iff_ne]
      exact closure
    simp only [if_pos closure, flag, decide_eq_true_eq]
    refine ⟨?_, ?_, ?_, ofCode, ?_⟩ <;> omega
  · have flag : (metadata.closureRequested && metadata.header.transmissionMode != .acknowledged) =
        false := by
      rw [← Bool.not_eq_true, Bool.and_eq_true, bne_iff_ne]
      exact closure
    simp only [if_neg closure, flag, decide_eq_false_iff_not]
    refine ⟨?_, ?_, ?_, ofCode, ?_⟩ <;> omega

theorem encodeMetadata_ok {metadata : MetadataPdu} {cap : Nat} {pdu : Bytes}
    (encoded : encodeMetadata metadata cap = .ok pdu) :
    metadata.header.pduType = .fileDirective ∧ metadata.header.fileSizeMode = .small ∧
      metadata.header.segmentMetadataPresent = false ∧ metadata.checksumType.isSupported = true ∧
      filenameLenIsValid metadata.sourceFilename = true ∧
      filenameLenIsValid metadata.destinationFilename = true ∧
      metadataMinDataLen + metadata.sourceFilename.length + metadata.destinationFilename.length ≤
        uint16Max ∧
      ∃ octets source destination cap' cap'', encodeHeader
          { metadata.header with
            pduDataFieldLen := metadataMinDataLen + metadata.sourceFilename.length +
              metadata.destinationFilename.length } cap = .ok octets ∧
        lvWrite metadata.sourceFilename cap' = .ok source ∧
        lvWrite metadata.destinationFilename cap'' = .ok destination ∧
        pdu = octets ++ putBe 1 directiveMetadata ++ putBe 1 (metadataControl metadata) ++
          putBe 4 metadata.fileSize ++ source ++ destination := by
  unfold encodeMetadata at encoded
  by_cases kind : metadata.header.pduType ≠ .fileDirective ∨ metadata.header.fileSizeMode ≠ .small ∨
      metadata.header.segmentMetadataPresent = true
  · rw [if_pos kind] at encoded
    cases encoded
  rw [if_neg kind] at encoded
  by_cases unsupported : (!metadata.checksumType.isSupported) = true
  · rw [if_pos unsupported] at encoded
    cases encoded
  rw [if_neg unsupported] at encoded
  by_cases names : (!filenameLenIsValid metadata.sourceFilename ||
      !filenameLenIsValid metadata.destinationFilename) = true
  · rw [if_pos names] at encoded
    cases encoded
  rw [if_neg names] at encoded
  simp only [] at encoded
  by_cases long : uint16Max < metadataMinDataLen + metadata.sourceFilename.length +
      metadata.destinationFilename.length
  · rw [if_pos long] at encoded
    cases encoded
  rw [if_neg long] at encoded
  simp only [not_or, not_not, Bool.not_eq_true] at kind
  rw [Bool.not_eq_true', Bool.not_eq_false] at unsupported
  simp only [Bool.or_eq_true, Bool.not_eq_true', not_or, Bool.not_eq_false] at names
  refine ⟨kind.1, kind.2.1, kind.2.2, unsupported, names.1, names.2, not_lt.mp long, ?_⟩
  split at encoded
  · cases encoded
  · rename_i octets front
    by_cases short : cap - octets.length < metadataMinDataLen + metadata.sourceFilename.length +
        metadata.destinationFilename.length
    · rw [if_pos short] at encoded
      cases encoded
    rw [if_neg short] at encoded
    split at encoded
    · cases encoded
    · rename_i source wroteSource
      split at encoded
      · cases encoded
      · rename_i destination wroteDestination
        exact ⟨octets, source, destination, _, _, front, wroteSource, wroteDestination,
          (Except.ok.inj encoded).symm⟩

theorem decodeMetadata_encodeMetadata {metadata : MetadataPdu} {cap : Nat} {pdu : Bytes}
    (encoded : encodeMetadata metadata cap = .ok pdu) (bounded : metadata.header.Bounded)
    (size : metadata.fileSize ≤ uint32Max) :
    decodeMetadata pdu = .ok (metadata.sent, pdu.length) := by
  obtain ⟨kind, small, segment, supported, sourceValid, destinationValid, long, octets, source,
    destination, _, _, front, wroteSource, wroteDestination, whole⟩ := encodeMetadata_ok encoded
  obtain ⟨control_lt, reserved, reserved', ofCode, closure⟩ := metadataControl_fields metadata supported
  obtain ⟨sourceLen, readSource⟩ := lvRead_lvWrite (filenameLenIsValid_lt sourceValid) wroteSource
    destination
  obtain ⟨destinationLen, readDestination⟩ := lvRead_lvWrite (filenameLenIsValid_lt destinationValid)
    wroteDestination []
  rw [List.append_nil] at readDestination
  have total : pdu.length = octets.length + (metadataMinDataLen + metadata.sourceFilename.length +
      metadata.destinationFilename.length) := by
    rw [whole]
    simp only [List.length_append, putBe_length, sourceLen, destinationLen, metadataMinDataLen]
    omega
  have header : decodeHeader pdu = .ok (metadata.sent.header, octets.length) := by
    refine decodeHeader_of_front front bounded long ?_
    simp only [whole, List.append_assoc, List.prefix_append]
  have directive : byteAt pdu octets.length = directiveMetadata := by
    refine byteAt_field octets ?_ rfl (by decide)
    simp only [whole, List.append_assoc, List.prefix_append_right_inj, List.prefix_append]
  have control : byteAt pdu (octets.length + 1) = metadataControl metadata := by
    refine byteAt_field (octets ++ putBe 1 directiveMetadata) ?_ ?_ control_lt
    · simp only [whole, List.append_assoc, List.prefix_append_right_inj, List.prefix_append]
    · simp only [List.length_append, putBe_length]
  have fileSize : readBeUint pdu (octets.length + 2) 4 = metadata.fileSize := by
    refine readBeUint_field (octets ++ putBe 1 directiveMetadata ++
      putBe 1 (metadataControl metadata)) ?_ ?_ (Nat.lt_succ_of_le size)
    · simp only [whole, List.append_assoc, List.prefix_append_right_inj, List.prefix_append]
    · simp only [List.length_append, putBe_length]
  have names : slice pdu (octets.length + 6) (octets.length + (metadataMinDataLen +
      metadata.sourceFilename.length + metadata.destinationFilename.length) - (octets.length + 6)) =
      source ++ destination := by
    refine slice_field (octets ++ putBe 1 directiveMetadata ++ putBe 1 (metadataControl metadata) ++
      putBe 4 metadata.fileSize) ?_ ?_ ?_
    · simp only [whole, List.append_assoc, List.prefix_rfl]
    · simp only [List.length_append, putBe_length]
    · rw [List.length_append, sourceLen, destinationLen, metadataMinDataLen]
      omega
  have name : slice pdu (octets.length + 6 + (1 + metadata.sourceFilename.length)) (octets.length +
      (metadataMinDataLen + metadata.sourceFilename.length + metadata.destinationFilename.length) -
      (octets.length + 6 + (1 + metadata.sourceFilename.length))) = destination := by
    refine slice_field (octets ++ putBe 1 directiveMetadata ++ putBe 1 (metadataControl metadata) ++
      putBe 4 metadata.fileSize ++ source) ?_ ?_ ?_
    · simp only [whole, List.append_assoc, List.prefix_rfl]
    · simp only [List.length_append, putBe_length, sourceLen]
    · rw [destinationLen, metadataMinDataLen]
      omega
  have kind' : ¬ (metadata.sent.header.pduType ≠ .fileDirective ∨
      metadata.sent.header.fileSizeMode ≠ .small ∨ metadata.sent.header.segmentMetadataPresent = true) := by
    rintro (wrong | wrong | wrong)
    · exact wrong kind
    · exact wrong small
    · exact Bool.false_ne_true (segment.symm.trans wrong)
  have fits : ¬ (metadataMinDataLen + metadata.sourceFilename.length +
        metadata.destinationFilename.length < metadataMinDataLen ∨
      pdu.length - octets.length < metadataMinDataLen + metadata.sourceFilename.length +
        metadata.destinationFilename.length) := by
    rw [total]
    omega
  have dataLen : metadata.sent.header.pduDataFieldLen = metadataMinDataLen +
      metadata.sourceFilename.length + metadata.destinationFilename.length := rfl
  have room : ¬ octets.length + (metadataMinDataLen + metadata.sourceFilename.length +
      metadata.destinationFilename.length) - (octets.length + 2) < 4 := by
    rw [metadataMinDataLen]
    omega
  have done : ¬ octets.length + 6 + (1 + metadata.sourceFilename.length) +
      (1 + metadata.destinationFilename.length) < octets.length + (metadataMinDataLen +
        metadata.sourceFilename.length + metadata.destinationFilename.length) := by
    rw [metadataMinDataLen]
    omega
  simp only [decodeMetadata, header, if_neg kind', if_neg fits, directive, control, reserved, reserved',
    ofCode, supported, if_neg room, fileSize, dataLen, names, readSource, sourceValid, name,
    readDestination, destinationValid, if_neg done, closure, ne_eq, not_true_eq_false, or_self,
    if_false, Bool.not_true, Bool.false_eq_true]
  rw [total]
  rfl

/-! ## The whole codec -/

/-- What is encoded is decoded, to its last octet.  The numbers of a PDU are those that the source's types
can hold, and the encoder says which values it accepts. -/
theorem pdus_round_trip :
    (∀ (header : PduHeader) (cap : Nat) (octets : Bytes), header.Bounded →
      header.pduDataFieldLen ≤ uint16Max → encodeHeader header cap = .ok octets →
        decodeHeader octets = .ok (header, octets.length)) ∧
    (∀ (metadata : MetadataPdu) (cap : Nat) (pdu : Bytes), metadata.header.Bounded →
      metadata.fileSize ≤ uint32Max → encodeMetadata metadata cap = .ok pdu →
        decodeMetadata pdu = .ok (metadata.sent, pdu.length)) ∧
    (∀ (filedata : FiledataPdu) (cap : Nat) (pdu : Bytes), filedata.header.Bounded →
      filedata.offset ≤ uint32Max → encodeFiledata filedata cap = .ok pdu →
        decodeFiledata pdu = .ok (
          { filedata with
            header := filedata.header.withDataLen (filedataOffsetLen + filedata.data.length) },
          pdu.length)) ∧
    (∀ (eof : EofPdu) (cap : Nat) (pdu : Bytes), eof.header.Bounded →
      eof.fileChecksum ≤ uint32Max → eof.fileSize ≤ uint32Max → encodeEof eof cap = .ok pdu →
        decodeEof pdu = .ok ({ eof with header := eof.header.withDataLen eofDataLen }, pdu.length)) ∧
    (∀ (finished : FinishedPdu) (cap : Nat) (pdu : Bytes), finished.header.Bounded →
      encodeFinished finished cap = .ok pdu →
        decodeFinished pdu = .ok (
          { finished with header := finished.header.withDataLen finishedDataLen }, pdu.length)) ∧
    (∀ (ack : AckPdu) (cap : Nat) (pdu : Bytes), ack.header.Bounded → encodeAck ack cap = .ok pdu →
        decodeAck pdu = .ok ({ ack with header := ack.header.withDataLen ackDataLen }, pdu.length)) ∧
    (∀ (nak : NakPdu) (cap : Nat) (pdu : Bytes), nak.header.Bounded → nak.scopeEnd ≤ uint32Max →
      encodeNak nak cap = .ok pdu →
        decodeNak pdu = .ok (
          { nak with
            header := nak.header.withDataLen (nakMinDataLen + nak.ranges.length * nakRangeLen) },
          pdu.length)) := by
  refine ⟨?_, ?_, ?_, ?_, ?_, ?_, ?_⟩
  · intro header cap octets bounded size encoded
    simpa only [List.append_nil] using decodeHeader_encodeHeader encoded bounded size []
  · intro metadata cap pdu bounded size encoded
    exact decodeMetadata_encodeMetadata encoded bounded size
  · intro filedata cap pdu bounded offset encoded
    exact decodeFiledata_encodeFiledata encoded bounded offset
  · intro eof cap pdu bounded checksum size encoded
    exact decodeEof_encodeEof encoded bounded checksum size
  · intro finished cap pdu bounded encoded
    exact decodeFinished_encodeFinished encoded bounded
  · intro ack cap pdu bounded encoded
    exact decodeAck_encodeAck encoded bounded
  · intro nak cap pdu bounded scope encoded
    exact decodeNak_encodeNak encoded bounded scope

end ZephyrCcsds.Cfdp

namespace ZephyrCcsds.Cfdp

attribute [local instance] defaultKconfig

/-- A Finished PDU of entity 2 about transaction 7 of entity 1 -/
def sampleFinished : FinishedPdu where
  header :=
    { version := cfdpVersion1, pduType := .fileDirective, direction := .towardSender
      transmissionMode := .acknowledged, crcFlag := .notPresent, fileSizeMode := .small
      pduDataFieldLen := 0, segmentationControl := .recordBoundariesNotPreserved
      segmentMetadataPresent := false, entityIdLen := 2, transactionSequenceNumberLen := 1
      sourceEntityId := 1, transactionSequenceNumber := 7, destinationEntityId := 2 }
  conditionCode := conditionNoError
  deliveryCode := .dataComplete
  fileStatus := .retained

theorem pdus_round_trip_sample :
    ∃ pdu, encodeFinished sampleFinished 64 = .ok pdu ∧
      decodeFinished pdu = .ok (
        { sampleFinished with header := sampleFinished.header.withDataLen finishedDataLen }, pdu.length) := by
  have encoded : encodeFinished sampleFinished 64 =
      .ok [0x28, 0x00, 0x02, 0x10, 0x00, 0x01, 0x07, 0x00, 0x02, 0x05, 0x02] := by
    decide +kernel
  exact ⟨_, encoded, pdus_round_trip.2.2.2.2.1 sampleFinished 64 _ ⟨by decide, by decide, by decide⟩ encoded⟩

end ZephyrCcsds.Cfdp
