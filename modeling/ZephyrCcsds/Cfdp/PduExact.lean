import Mathlib.Tactic.IntervalCases
import ZephyrCcsds.Cfdp.PduBody

/-! # Encoding what was decoded

The encoder of a PDU gives the octets back that its decoder accepted.  Two octets are not in the decoded
value: `ccsds_cfdp_decode_eof` does not look at the spare bits behind the condition code, and
`ccsds_cfdp_encode_metadata` clears the closure bit in acknowledged mode.
-/

namespace ZephyrCcsds.Cfdp

open Bytes

/-! ## Fields written back -/

section Fields

variable {buf : Bytes} {i len : Nat}

theorem putBe_readBeUint (inside : i + len ≤ buf.length) : putBe len (readBeUint buf i len) = slice buf i len := by
  have written := putBe_getBe (slice buf i len)
  rw [slice_length_of_le inside] at written
  exact written

theorem putBe_byteAt (inside : i < buf.length) : putBe 1 (byteAt buf i) = slice buf i 1 := by
  have octet : slice buf i 1 = [buf.getD i 0] := by
    rw [slice, List.drop_eq_getElem_cons inside, List.take_succ_cons, List.take_zero, List.getD_eq_getElem _ _ inside]
  rw [← putBe_readBeUint inside, readBeUint, octet]
  simp [byteAt, getBe]

theorem slice_zero (buf : Bytes) (len : Nat) : slice buf 0 len = buf.take len := by
  rw [slice, List.drop_zero]

end Fields

/-! ## Codes -/

section Codes

variable {code : Nat}

theorem PduType.code_ofCode (bit : code < 2) : (PduType.ofCode code).code = code := by
  interval_cases code <;> rfl

theorem Direction.code_ofCode (bit : code < 2) : (Direction.ofCode code).code = code := by
  interval_cases code <;> rfl

theorem TransmissionMode.code_ofCode (bit : code < 2) : (TransmissionMode.ofCode code).code = code := by
  interval_cases code <;> rfl

theorem CrcFlag.code_ofCode (bit : code < 2) : (CrcFlag.ofCode code).code = code := by
  interval_cases code <;> rfl

theorem FileSizeMode.code_ofCode (bit : code < 2) : (FileSizeMode.ofCode code).code = code := by
  interval_cases code <;> rfl

theorem SegmentationControl.code_ofCode (bit : code < 2) : (SegmentationControl.ofCode code).code = code := by
  interval_cases code <;> rfl

theorem DeliveryCode.code_ofCode (bit : code < 2) : (DeliveryCode.ofCode code).code = code := by
  interval_cases code <;> rfl

theorem FileStatus.code_ofCode (bits : code < 4) : (FileStatus.ofCode code).code = code := by
  interval_cases code <;> rfl

theorem TransactionStatus.code_ofCode (bits : code < 4) : (TransactionStatus.ofCode code).code = code := by
  interval_cases code <;> rfl

theorem ChecksumType.code_ofCode (bits : code < 16) : (ChecksumType.ofCode code).code = code := by
  interval_cases code <;> rfl

end Codes

/-! ## The header -/

section Header

variable {buf : Bytes} {header : PduHeader} {n cap : Nat}

theorem headerFlags_headerOf (buf : Bytes) : headerFlags (headerOf buf) = byteAt buf 0 := by
  have octet := byteAt_lt buf 0
  simp only [headerFlags, headerOf, PduType.code_ofCode (Nat.mod_lt _ Nat.two_pos),
    Direction.code_ofCode (Nat.mod_lt _ Nat.two_pos), TransmissionMode.code_ofCode (Nat.mod_lt _ Nat.two_pos),
    CrcFlag.code_ofCode (Nat.mod_lt _ Nat.two_pos), FileSizeMode.code_ofCode (Nat.mod_lt _ Nat.two_pos)]
  omega

theorem headerLengths_headerOf (buf : Bytes) : headerLengths (headerOf buf) = byteAt buf 3 := by
  have octet := byteAt_lt buf 3
  simp only [headerLengths, headerOf, SegmentationControl.code_ofCode (Nat.mod_lt _ Nat.two_pos),
    decide_eq_true_eq]
  split_ifs with present <;> omega

variable [Kconfig]

omit [Kconfig] in
/-- A number that was read from so many octets fits into them. -/
theorem valueFitsLen_read (buf : Bytes) (i len : Nat) : valueFitsLen (readBeUint buf i len) len = true := by
  have short : (slice buf i len).length ≤ len := by
    rw [slice_length]
    exact Nat.min_le_left _ _
  have bound : readBeUint buf i len < 2 ^ (len * 8) := by
    calc readBeUint buf i len < 256 ^ (slice buf i len).length := getBe_lt _
      _ ≤ 256 ^ len := Nat.pow_le_pow_right (by decide) short
      _ = 2 ^ (len * 8) := by rw [show (256 : Nat) = 2 ^ 8 from rfl, ← pow_mul, Nat.mul_comm]
  rw [valueFitsLen, Nat.div_eq_of_lt bound, decide_eq_true (rfl : 0 = 0), Bool.or_true]

theorem encodeHeader_decoded (decoded : decodeHeader buf = .ok (header, n)) (room : n ≤ cap) :
    encodeHeader header cap = .ok (buf.take n) := by
  obtain ⟨rfl, rfl, fits, version, size, lengths⟩ := decodeHeader_iff.mp decoded
  have enough : ¬ cap < headerEncodedLen (headerOf buf) := by
    rw [headerEncodedLen, if_pos lengths]
    exact not_lt.mpr room
  have octets : putBe 1 (headerFlags (headerOf buf)) ++ putBe 2 (headerOf buf).pduDataFieldLen ++
      putBe 1 (headerLengths (headerOf buf)) ++ putBe (headerOf buf).entityIdLen (headerOf buf).sourceEntityId ++
      putBe (headerOf buf).transactionSequenceNumberLen (headerOf buf).transactionSequenceNumber ++
      putBe (headerOf buf).entityIdLen (headerOf buf).destinationEntityId = buf.take (headerOf buf).size := by
    rw [headerFlags_headerOf, headerLengths_headerOf]
    simp only [PduHeader.size, headerOf, fixedHeaderMinLen] at fits ⊢
    rw [putBe_byteAt (by omega), putBe_byteAt (by omega), putBe_readBeUint (by omega), putBe_readBeUint (by omega),
      putBe_readBeUint (by omega), putBe_readBeUint (by omega), slice_zero]
    -- the fields lie one behind the other
    rw [take_slice, take_slice, take_slice, take_slice, take_slice]
    congr 1
    omega
  unfold encodeHeader
  rw [if_neg (not_not.mpr version), if_neg (not_not.mpr size), lengths, if_neg, if_neg enough, octets]
  simp only [headerOf, valueFitsLen_read]
  decide

theorem headerOf_dataLen (decoded : decodeHeader buf = .ok (header, n)) : header.pduDataFieldLen ≤ uint16Max := by
  obtain ⟨rfl, _⟩ := decodeHeader_iff.mp decoded
  have short : (slice buf 1 2).length ≤ 2 := by
    rw [slice_length]
    exact Nat.min_le_left _ _
  have bound : readBeUint buf 1 2 < 256 ^ 2 := (getBe_lt _).trans_le (Nat.pow_le_pow_right (by decide) short)
  exact Nat.le_of_lt_succ bound

end Header

/-! ## The PDUs -/

section Pdus

variable [Kconfig] {buf : Bytes} {n cap : Nat}

section Carried

variable {header : PduHeader} {Body : Bytes → Prop}

theorem Carries.body_length (carries : Carries header Body buf n) :
    (slice buf header.size header.pduDataFieldLen).length = header.pduDataFieldLen :=
  slice_length_of_le (carries.total.ge.trans carries.fits)

theorem Carries.octets (carries : Carries header Body buf n) :
    buf.take n = buf.take header.size ++ slice buf header.size header.pduDataFieldLen := by
  rw [take_slice, carries.total]

/-- The header with the data field length that the encoder fills in -/
theorem Carries.encodeHeader (carries : Carries header Body buf n) (room : n ≤ cap) {len : Nat}
    (size : header.pduDataFieldLen = len) :
    encodeHeader { header with pduDataFieldLen := len } cap = .ok (buf.take header.size) ∧
      ¬ cap - (buf.take header.size).length < len := by
  have total := carries.total
  have fits := carries.fits
  constructor
  · rw [← size]
    exact encodeHeader_decoded carries.front (by omega)
  · rw [List.length_take]
    omega

theorem Carries.small (carries : Carries header Body buf n) : header.fileSizeMode = .small :=
  (decodeHeader_iff.mp carries.front).2.2.2.2.1

end Carried

/-- The spare bits behind the condition code of an EOF PDU are zero. -/
def EofPdu.Plain (eof : EofPdu) (buf : Bytes) : Prop := byteAt buf (eof.header.size + 1) % 16 = 0

omit [Kconfig] in
theorem EofBody.octets {eof : EofPdu} {body : Bytes} (isBody : EofBody eof body) (len : body.length = 10)
    (spare : byteAt body 1 % 16 = 0) :
    putBe 1 directiveEof ++ putBe 1 (eof.conditionCode % 16 * 16) ++ putBe 4 eof.fileChecksum ++
      putBe 4 eof.fileSize = body := by
  have octet := byteAt_lt body 1
  have condition : eof.conditionCode % 16 * 16 = byteAt body 1 := by
    rw [isBody.conditionCode]
    omega
  rw [← isBody.directive, condition, isBody.fileChecksum, isBody.fileSize, putBe_byteAt (by omega),
    putBe_byteAt (by omega), putBe_readBeUint (by omega), putBe_readBeUint (by omega), slice_zero, take_slice,
    take_slice, take_slice, List.take_of_length_le (by omega)]

/-- An EOF PDU without spare bits is encoded as it was decoded. -/
theorem encodeEof_decoded {eof : EofPdu} (decoded : decodeEof buf = .ok (eof, n)) (room : n ≤ cap)
    (plain : eof.Plain buf) : encodeEof eof cap = .ok (buf.take n) := by
  have carries := decodeEof_iff.mp decoded
  have isBody := carries.body
  have len := carries.body_length
  obtain ⟨front, enough⟩ := carries.encodeHeader room isBody.size
  have valid : conditionCodeIsValid eof.conditionCode = true := by
    rw [isBody.conditionCode]
    exact conditionCode_of_octet _ _
  have size := isBody.size
  rw [eofDataLen] at size
  have spare : byteAt (slice buf eof.header.size eof.header.pduDataFieldLen) 1 % 16 = 0 := by
    rw [byteAt_slice _ (by omega)]
    exact plain
  have octets := isBody.octets (len.trans size) spare
  unfold encodeEof
  rw [if_neg (by simp [isBody.kind.kind, isBody.kind.plain]), if_neg (by simp [carries.small]),
    if_neg (by simp [valid])]
  simp only [front, if_neg enough]
  rw [carries.octets, ← octets]
  simp only [List.append_assoc]

omit [Kconfig] in
theorem FinishedBody.octets {finished : FinishedPdu} {body : Bytes} (isBody : FinishedBody finished body)
    (len : body.length = 2) :
    putBe 1 directiveFinished ++ putBe 1 (finished.conditionCode % 16 * 16 + finished.deliveryCode.code * 4 +
      finished.fileStatus.code) = body := by
  have octet := byteAt_lt body 1
  have spare := isBody.spare
  have status : finished.conditionCode % 16 * 16 + finished.deliveryCode.code * 4 + finished.fileStatus.code =
      byteAt body 1 := by
    rw [isBody.conditionCode, isBody.deliveryCode, isBody.fileStatus,
      DeliveryCode.code_ofCode (Nat.mod_lt _ Nat.two_pos), FileStatus.code_ofCode (Nat.mod_lt _ (by decide))]
    omega
  rw [← isBody.directive, status, putBe_byteAt (by omega), putBe_byteAt (by omega), slice_zero, take_slice,
    List.take_of_length_le (by omega)]

theorem encodeFinished_decoded {finished : FinishedPdu} (decoded : decodeFinished buf = .ok (finished, n))
    (room : n ≤ cap) : encodeFinished finished cap = .ok (buf.take n) := by
  have carries := decodeFinished_iff.mp decoded
  have isBody := carries.body
  obtain ⟨front, enough⟩ := carries.encodeHeader room isBody.size
  have valid : conditionCodeIsValid finished.conditionCode = true := by
    rw [isBody.conditionCode]
    exact conditionCode_of_octet _ _
  have octets := isBody.octets (carries.body_length.trans isBody.size)
  unfold encodeFinished
  rw [if_neg (by simp [isBody.kind.kind, isBody.kind.plain]), if_neg (by simp [carries.small]),
    if_neg (by simp [valid])]
  simp only [front, if_neg enough]
  rw [carries.octets, ← octets, List.append_assoc]

omit [Kconfig] in
theorem AckBody.octets {ack : AckPdu} {body : Bytes} (isBody : AckBody ack body) (len : body.length = 3) :
    putBe 1 directiveAck ++ putBe 1 (ack.acknowledgedDirective % 16 * 16 + ack.directiveSubtype % 16) ++
      putBe 1 (ack.conditionCode % 16 * 16 + ack.transactionStatus.code) = body := by
  have octet1 := byteAt_lt body 1
  have octet2 := byteAt_lt body 2
  have spare := isBody.spare
  have directive : ack.acknowledgedDirective % 16 * 16 + ack.directiveSubtype % 16 = byteAt body 1 := by
    rw [isBody.acknowledgedDirective, isBody.directiveSubtype]
    omega
  have status : ack.conditionCode % 16 * 16 + ack.transactionStatus.code = byteAt body 2 := by
    rw [isBody.conditionCode, isBody.transactionStatus, TransactionStatus.code_ofCode (Nat.mod_lt _ (by decide))]
    omega
  rw [← isBody.directive, directive, status, putBe_byteAt (by omega), putBe_byteAt (by omega),
    putBe_byteAt (by omega), slice_zero, take_slice, take_slice, List.take_of_length_le (by omega)]

theorem encodeAck_decoded {ack : AckPdu} (decoded : decodeAck buf = .ok (ack, n)) (room : n ≤ cap) :
    encodeAck ack cap = .ok (buf.take n) := by
  have carries := decodeAck_iff.mp decoded
  have isBody := carries.body
  obtain ⟨front, enough⟩ := carries.encodeHeader room isBody.size
  have valid : conditionCodeIsValid ack.conditionCode = true := by
    rw [isBody.conditionCode]
    exact conditionCode_of_octet _ _
  have acknowledged : ackDirectiveIsSupported ack.acknowledgedDirective = true := by
    rw [isBody.acknowledgedDirective]
    exact isBody.acknowledged
  have subtype : ackSubtypeIsValid ack.acknowledgedDirective ack.directiveSubtype = true := by
    rw [isBody.acknowledgedDirective, isBody.directiveSubtype]
    exact isBody.subtype
  have octets := isBody.octets (carries.body_length.trans isBody.size)
  unfold encodeAck
  rw [if_neg (by simp [isBody.kind.kind, isBody.kind.plain, acknowledged, subtype, valid]),
    if_neg (by simp [carries.small])]
  simp only [front, if_neg enough]
  rw [carries.octets, ← octets]
  simp only [List.append_assoc]

theorem encodeFiledata_decoded {filedata : FiledataPdu} (decoded : decodeFiledata buf = .ok (filedata, n))
    (room : n ≤ cap) : encodeFiledata filedata cap = .ok (buf.take n) := by
  have carries := decodeFiledata_iff.mp decoded
  have isBody := carries.body
  have len := carries.body_length
  have size := isBody.size
  have word : filedata.header.pduDataFieldLen ≤ uint16Max := headerOf_dataLen carries.front
  rw [filedataOffsetLen] at size
  rw [uint16Max] at word
  have dataLen : filedata.data.length = filedata.header.pduDataFieldLen - 4 := by
    rw [isBody.data, List.length_drop, len]
    rfl
  have total : filedata.header.pduDataFieldLen = filedataOffsetLen + filedata.data.length := by
    rw [dataLen, filedataOffsetLen]
    omega
  have some : ¬ (filedata.data.length = 0 ∨ uint16Max - filedataOffsetLen < filedata.data.length) := by
    rw [dataLen, uint16Max, filedataOffsetLen]
    omega
  obtain ⟨front, enough⟩ := carries.encodeHeader room total
  have octets : putBe 4 filedata.offset ++ filedata.data =
      slice buf filedata.header.size filedata.header.pduDataFieldLen := by
    rw [isBody.offset, putBe_readBeUint (by omega), slice_zero, isBody.data]
    exact List.take_append_drop _ _
  unfold encodeFiledata
  rw [if_neg (by simp [isBody.kind, isBody.plain]), if_neg (by simp [carries.small]), if_neg some]
  simp only [front, if_neg enough]
  rw [carries.octets, ← octets, List.append_assoc]

/-! ### NAK -/

omit [Kconfig] in
theorem readRanges_length (body : Bytes) (count : Nat) : ∀ i, (readRanges body i count).length = count := by
  induction count with
  | zero =>
    intro i
    rfl
  | succ count ih =>
    intro i
    rw [readRanges, List.length_cons, ih]

omit [Kconfig] in
theorem writeRanges_readRanges (body : Bytes) (count : Nat) : ∀ i, i + 8 * count ≤ body.length →
    body.take i ++ writeRanges (readRanges body i count) = body.take (i + 8 * count) := by
  induction count with
  | zero =>
    intro i _
    rw [readRanges, writeRanges, List.append_nil, Nat.mul_zero, Nat.add_zero]
  | succ count ih =>
    intro i inside
    rw [readRanges, writeRanges, putBe_readBeUint (by omega), putBe_readBeUint (by omega), ← List.append_assoc,
      ← List.append_assoc, take_slice, take_slice]
    show body.take (i + 8) ++ _ = _
    rw [ih (i + 8) (by omega)]
    congr 1
    omega

theorem encodeNak_decoded {nak : NakPdu} (decoded : decodeNak buf = .ok (nak, n)) (room : n ≤ cap) :
    encodeNak nak cap = .ok (buf.take n) := by
  have carries := decodeNak_iff.mp decoded
  have isBody := carries.body
  have len := carries.body_length
  have size := isBody.size
  have whole := isBody.whole
  have word : nak.header.pduDataFieldLen ≤ uint16Max := headerOf_dataLen carries.front
  generalize body : slice buf nak.header.size nak.header.pduDataFieldLen = octets at isBody len
  have count : nak.ranges.length = (nak.header.pduDataFieldLen - nakMinDataLen) / nakRangeLen := by
    rw [isBody.ranges, readRanges_length]
  have total : nak.header.pduDataFieldLen = nakMinDataLen + nak.ranges.length * nakRangeLen := by
    rw [nakRangeLen] at whole
    rw [count, nakRangeLen]
    omega
  obtain ⟨front, enough⟩ := carries.encodeHeader room total
  have fits : ¬ uint16Max < nakMinDataLen + nak.ranges.length * nakRangeLen := by
    rw [← total]
    exact not_lt.mpr word
  have written : putBe 1 directiveNak ++ putBe 4 nak.scopeStart ++ putBe 4 nak.scopeEnd ++ writeRanges nak.ranges =
      octets := by
    rw [nakMinDataLen, nakRangeLen] at total
    rw [← isBody.directive, isBody.scopeStart, isBody.scopeEnd, isBody.ranges, ← count, putBe_byteAt (by omega),
      putBe_readBeUint (by omega), putBe_readBeUint (by omega), slice_zero, take_slice, take_slice,
      writeRanges_readRanges _ _ _ (by omega)]
    exact List.take_of_length_le (by omega)
  unfold encodeNak
  rw [if_neg (by simp [isBody.kind.kind, isBody.kind.plain]), if_neg (by simp [carries.small]),
    if_neg (by simp [isBody.valid])]
  simp only [if_neg fits, front, if_neg enough]
  rw [carries.octets, body, ← written]
  simp only [List.append_assoc]

/-! ### Metadata -/

/-- The data field of a Metadata PDU with this octet of closure bit and checksum type -/
def MetadataPdu.octets (metadata : MetadataPdu) (control : Nat) : Bytes :=
  putBe 1 directiveMetadata ++ putBe 1 control ++ putBe 4 metadata.fileSize ++
    putBe 1 metadata.sourceFilename.length ++ metadata.sourceFilename ++
    putBe 1 metadata.destinationFilename.length ++ metadata.destinationFilename

/-- The octet of closure bit and checksum type as it was received -/
def MetadataPdu.control (metadata : MetadataPdu) : Nat :=
  (if metadata.closureRequested then 64 else 0) + metadata.checksumType.code % 16

omit [Kconfig] in
theorem lvRead_octets {body value : Bytes} {i n : Nat} (read : lvRead (body.drop i) = .ok (value, n))
    (start : i ≤ body.length) :
    body.take i ++ putBe 1 value.length ++ value = body.take (i + 1 + value.length) := by
  obtain ⟨rfl, fits, size, octets⟩ := lvRead_iff.mp read
  rw [List.length_drop] at fits
  have first : byteAt (body.drop i) 0 = byteAt body i := by
    simp [byteAt, List.getD_eq_getElem?_getD]
  have rest : slice (body.drop i) 1 value.length = slice body (i + 1) value.length := by
    rw [slice, slice, List.drop_drop]
  rw [first] at size
  rw [rest] at octets
  rw [← size, putBe_byteAt (by omega), take_slice, size]
  conv_lhs => rw [octets]
  rw [take_slice]

theorem MetadataBody.octets {metadata : MetadataPdu} {body : Bytes} (isBody : MetadataBody metadata body)
    (len : body.length = metadata.header.pduDataFieldLen) : metadata.octets metadata.control = body := by
  have size := isBody.size
  rw [metadataMinDataLen] at size
  have octet := byteAt_lt body 1
  have reserved := isBody.reserved
  have control : metadata.control = byteAt body 1 := by
    rw [MetadataPdu.control, isBody.closureRequested, isBody.checksumType,
      ChecksumType.code_ofCode (Nat.mod_lt _ (by decide))]
    simp only [decide_eq_true_eq]
    split_ifs with closure <;> omega
  rw [MetadataPdu.octets, ← isBody.directive, control, isBody.fileSize, putBe_byteAt (by omega),
    putBe_byteAt (by omega), putBe_readBeUint (by omega), slice_zero, take_slice, take_slice,
    lvRead_octets isBody.source (by omega)]
  rw [show 2 + 4 + 1 + metadata.sourceFilename.length = 7 + metadata.sourceFilename.length by omega,
    lvRead_octets isBody.destination (by omega), List.take_of_length_le (by omega)]

omit [Kconfig] in
theorem lvWrite_ok {value : Bytes} {cap : Nat} (room : 1 + value.length ≤ cap) :
    lvWrite value cap = .ok (putBe 1 value.length ++ value) := by
  rw [lvWrite, if_neg (by omega)]

/-- A decoded Metadata PDU is encoded as it came, but for the octet with the closure bit. -/
theorem encodeMetadata_control {metadata : MetadataPdu} (decoded : decodeMetadata buf = .ok (metadata, n))
    (room : n ≤ cap) : encodeMetadata metadata cap =
      .ok (buf.take metadata.header.size ++ metadata.octets (metadataControl metadata)) := by
  have carries := decodeMetadata_iff.mp decoded
  have isBody := carries.body
  have word : metadata.header.pduDataFieldLen ≤ uint16Max := headerOf_dataLen carries.front
  obtain ⟨front, enough⟩ := carries.encodeHeader room isBody.size
  have fits : ¬ uint16Max <
      metadataMinDataLen + metadata.sourceFilename.length + metadata.destinationFilename.length := by
    rw [← isBody.size]
    exact not_lt.mpr word
  have size := isBody.size
  have total := carries.total
  have within := carries.fits
  have headLen : (buf.take metadata.header.size).length = metadata.header.size := by
    rw [List.length_take]
    omega
  rw [metadataMinDataLen] at enough size
  unfold encodeMetadata
  rw [if_neg (by simp [isBody.kind.kind, isBody.kind.plain, carries.small]), if_neg (by simp [isBody.supported]),
    if_neg (by simp [isBody.sourceValid, isBody.destinationValid])]
  simp only [if_neg fits, front]
  rw [metadataMinDataLen, if_neg enough, lvWrite_ok (by simp only [List.length_append, putBe_length, headLen]; omega)]
  dsimp only
  rw [lvWrite_ok (by simp only [List.length_append, putBe_length, headLen]; omega)]
  simp only [MetadataPdu.octets, metadataControl, List.append_assoc]

/-- What is sent for a Metadata PDU that was received: in acknowledged mode, the PDU without the closure bit -/
def MetadataPdu.resent (metadata : MetadataPdu) (pdu : Bytes) : Bytes :=
  if metadata.header.transmissionMode = .acknowledged then
    pdu.set (metadata.header.size + 1) (pdu.getD (metadata.header.size + 1) 0 &&& 0xbf)
  else pdu

omit [Kconfig] in
/-- The mask `0xbf` takes the closure bit out of the octet. -/
theorem control_masked (metadata : MetadataPdu) :
    UInt8.ofNat metadata.control &&& 0xbf = UInt8.ofNat (metadata.checksumType.code % 16) := by
  have type : metadata.checksumType.code % 16 < 16 := Nat.mod_lt _ (by decide)
  unfold MetadataPdu.control
  generalize metadata.checksumType.code % 16 = code at type
  cases metadata.closureRequested <;> interval_cases code <;> rfl

omit [Kconfig] in
theorem octets_masked (metadata : MetadataPdu) (front : Bytes) :
    (front ++ metadata.octets metadata.control).set (front.length + 1)
        ((front ++ metadata.octets metadata.control).getD (front.length + 1) 0 &&& 0xbf) =
      front ++ metadata.octets (metadata.checksumType.code % 16) := by
  have second : (front ++ metadata.octets metadata.control).getD (front.length + 1) 0 =
      UInt8.ofNat metadata.control := by
    simp [MetadataPdu.octets, putBe, List.getD_eq_getElem?_getD]
  rw [second, control_masked, List.set_append_right _ _ (by omega)]
  simp [MetadataPdu.octets, putBe]

theorem encodeMetadata_decoded {metadata : MetadataPdu} (decoded : decodeMetadata buf = .ok (metadata, n))
    (room : n ≤ cap) : encodeMetadata metadata cap = .ok (metadata.resent (buf.take n)) := by
  have carries := decodeMetadata_iff.mp decoded
  have total := carries.total
  have within := carries.fits
  have headLen : (buf.take metadata.header.size).length = metadata.header.size := by
    rw [List.length_take]
    omega
  rw [encodeMetadata_control decoded room, carries.octets, ← carries.body.octets carries.body_length,
    MetadataPdu.resent]
  by_cases acknowledged : metadata.header.transmissionMode = .acknowledged
  · have control : metadataControl metadata = metadata.checksumType.code % 16 := by
      simp [metadataControl, acknowledged]
    have masked := octets_masked metadata (buf.take metadata.header.size)
    rw [headLen] at masked
    rw [if_pos acknowledged, control, masked]
  · have control : metadataControl metadata = metadata.control := by
      simp [metadataControl, MetadataPdu.control, acknowledged]
    rw [if_neg acknowledged, control]

theorem decodeMetadata_injective {metadata : MetadataPdu} {buf' : Bytes} {n' : Nat}
    (decoded : decodeMetadata buf = .ok (metadata, n)) (decoded' : decodeMetadata buf' = .ok (metadata, n')) :
    buf.take n = buf'.take n' := by
  have carries := decodeMetadata_iff.mp decoded
  have carries' := decodeMetadata_iff.mp decoded'
  have front := encodeHeader_decoded carries.front le_rfl
  rw [encodeHeader_decoded carries'.front le_rfl, Except.ok.injEq] at front
  rw [carries.octets, carries'.octets, ← carries.body.octets carries.body_length,
    ← carries'.body.octets carries'.body_length, front]

/-! ## All PDUs -/

/-- The encoder gives back what the decoder consumed, so that no two octet strings are decoded to one value. -/
structure Reencoded {α : Type} (decode : Bytes → Except Status (α × Nat)) (encode : α → Nat → Except Status Bytes) :
    Prop where
  encodes : ∀ {buf x n cap}, decode buf = .ok (x, n) → n ≤ cap → encode x cap = .ok (buf.take n)
  injective : ∀ {buf buf' x n n'}, decode buf = .ok (x, n) → decode buf' = .ok (x, n') → buf.take n = buf'.take n'

omit [Kconfig] in
theorem Reencoded.of_encodes {α : Type} {decode : Bytes → Except Status (α × Nat)}
    {encode : α → Nat → Except Status Bytes}
    (encodes : ∀ {buf x n cap}, decode buf = .ok (x, n) → n ≤ cap → encode x cap = .ok (buf.take n)) :
    Reencoded decode encode where
  encodes := encodes
  injective := by
    intro buf buf' x n n' decoded decoded'
    have first := encodes decoded (Nat.le_max_left n n')
    rw [encodes decoded' (Nat.le_max_right n n'), Except.ok.injEq] at first
    exact first.symm

structure PdusExact : Prop where
  filedata : Reencoded decodeFiledata encodeFiledata
  finished : Reencoded decodeFinished encodeFinished
  ack : Reencoded decodeAck encodeAck
  nak : Reencoded decodeNak encodeNak
  eof : ∀ {buf eof n cap}, decodeEof buf = .ok (eof, n) → eof.Plain buf → n ≤ cap →
    encodeEof eof cap = .ok (buf.take n)
  eofInjective : ∀ {buf buf' eof n n'}, decodeEof buf = .ok (eof, n) → eof.Plain buf →
    decodeEof buf' = .ok (eof, n') → eof.Plain buf' → buf.take n = buf'.take n'
  metadata : ∀ {buf metadata n cap}, decodeMetadata buf = .ok (metadata, n) → n ≤ cap →
    encodeMetadata metadata cap = .ok (metadata.resent (buf.take n))
  metadataInjective : ∀ {buf buf' metadata n n'}, decodeMetadata buf = .ok (metadata, n) →
    decodeMetadata buf' = .ok (metadata, n') → buf.take n = buf'.take n'
  /-- the bits `0xb0` of the octet behind the directive -/
  metadataReserved : ∀ {buf metadata n}, decodeMetadata buf = .ok (metadata, n) →
    byteAt buf (metadata.header.size + 1) / 128 % 2 = 0 ∧ byteAt buf (metadata.header.size + 1) / 16 % 4 = 0
  /-- the bit `0x08` of the octet behind the directive -/
  finishedSpare : ∀ {buf finished n}, decodeFinished buf = .ok (finished, n) →
    byteAt buf (finished.header.size + 1) / 8 % 2 = 0
  /-- the bits `0x0c` of the last octet -/
  ackSpare : ∀ {buf ack n}, decodeAck buf = .ok (ack, n) → byteAt buf (ack.header.size + 2) / 4 % 4 = 0

theorem pdus_exact : PdusExact where
  filedata := .of_encodes encodeFiledata_decoded
  finished := .of_encodes encodeFinished_decoded
  ack := .of_encodes encodeAck_decoded
  nak := .of_encodes encodeNak_decoded
  eof decoded plain room := encodeEof_decoded decoded room plain
  eofInjective := by
    intro buf buf' eof n n' decoded plain decoded' plain'
    have first := encodeEof_decoded decoded (Nat.le_max_left n n') plain
    rw [encodeEof_decoded decoded' (Nat.le_max_right n n') plain', Except.ok.injEq] at first
    exact first.symm
  metadata := encodeMetadata_decoded
  metadataInjective := decodeMetadata_injective
  metadataReserved := by
    intro buf metadata n decoded
    have carries := decodeMetadata_iff.mp decoded
    have size := carries.body.size
    rw [metadataMinDataLen] at size
    have reserved := carries.body.reserved
    rw [byteAt_slice _ (by omega)] at reserved
    exact reserved
  finishedSpare := by
    intro buf finished n decoded
    have carries := decodeFinished_iff.mp decoded
    have size := carries.body.size
    rw [finishedDataLen] at size
    have spare := carries.body.spare
    rw [byteAt_slice _ (by omega)] at spare
    exact spare
  ackSpare := by
    intro buf ack n decoded
    have carries := decodeAck_iff.mp decoded
    have size := carries.body.size
    rw [ackDataLen] at size
    have spare := carries.body.spare
    rw [byteAt_slice _ (by omega)] at spare
    exact spare

end Pdus

end ZephyrCcsds.Cfdp

namespace ZephyrCcsds.Cfdp

attribute [local instance] defaultKconfig

/-- A Metadata PDU of acknowledged mode with the closure bit -/
def closureMetadata : Bytes := [0x20, 0, 10, 0, 2, 0, 1, 7, 0x40, 0, 0, 0, 1, 1, 98, 1, 99]

/-- It is accepted, and encoded without the bit. -/
theorem closure_bit_cleared :
    ∃ metadata, decodeMetadata closureMetadata = .ok (metadata, closureMetadata.length) ∧
      metadata.closureRequested = true ∧
      encodeMetadata metadata closureMetadata.length =
        .ok [0x20, 0, 10, 0, 2, 0, 1, 7, 0, 0, 0, 0, 1, 1, 98, 1, 99] ∧
      encodeMetadata metadata closureMetadata.length ≠ .ok closureMetadata := by
  refine ⟨
    { header :=
        { version := cfdpVersion1, pduType := .fileDirective, direction := .towardReceiver
          transmissionMode := .acknowledged, crcFlag := .notPresent, fileSizeMode := .small
          pduDataFieldLen := 10, segmentationControl := .recordBoundariesNotPreserved
          segmentMetadataPresent := false, entityIdLen := 1, transactionSequenceNumberLen := 1
          sourceEntityId := 2, transactionSequenceNumber := 0, destinationEntityId := 1 }
      closureRequested := true
      checksumType := .modular
      fileSize := 1
      sourceFilename := [98]
      destinationFilename := [99] }, ?_, rfl, ?_, ?_⟩
  · decide +kernel
  · decide +kernel
  · decide +kernel

end ZephyrCcsds.Cfdp
