import ZephyrCcsds.Cfdp.PduRoundTrip
import ZephyrCcsds.SelfDelimiting

/-! # What the decoders accept

A decoded PDU as a relation to its octets: the header at the front (`headerOf`), and behind it a data field
of the length that the header gives (`Carries`).  For each PDU a structure says which data fields its decoder
accepts, and a theorem that these are all.
-/

namespace ZephyrCcsds.Cfdp

open Bytes

/-! ## Octets that two buffers share -/

section Shared

variable {buf buf' : Bytes} {n : Nat}

theorem slice_take (buf : Bytes) {n offset len : Nat} (inside : offset + len ≤ n) :
    slice (buf.take n) offset len = slice buf offset len := by
  rw [slice, slice, List.drop_take, List.take_take, Nat.min_eq_left (by omega)]

theorem slice_of_take (same : buf.take n = buf'.take n) {offset len : Nat} (inside : offset + len ≤ n) :
    slice buf offset len = slice buf' offset len := by
  rw [← slice_take buf inside, same, slice_take buf' inside]

theorem readBeUint_of_take (same : buf.take n = buf'.take n) {offset len : Nat} (inside : offset + len ≤ n) :
    readBeUint buf offset len = readBeUint buf' offset len := by
  rw [readBeUint, slice_of_take same inside, readBeUint]

theorem byteAt_take (buf : Bytes) {n i : Nat} (inside : i < n) : byteAt (buf.take n) i = byteAt buf i := by
  simp [byteAt, List.getD_eq_getElem?_getD, inside]

theorem byteAt_of_take (same : buf.take n = buf'.take n) {i : Nat} (inside : i < n) :
    byteAt buf i = byteAt buf' i := by
  rw [← byteAt_take buf inside, same, byteAt_take buf' inside]

/-! ### Octets of a field -/

theorem byteAt_slice (buf : Bytes) {offset len i : Nat} (inside : i < len) :
    byteAt (slice buf offset len) i = byteAt buf (offset + i) := by
  rw [slice, byteAt_take _ inside]
  simp [byteAt, List.getD_eq_getElem?_getD]

theorem readBeUint_slice (buf : Bytes) {offset len i width : Nat} (inside : i + width ≤ len) :
    readBeUint (slice buf offset len) i width = readBeUint buf (offset + i) width := by
  rw [readBeUint, slice_drop _ _ _ _ _ inside, readBeUint]

theorem slice_tail (buf : Bytes) {offset len i : Nat} :
    slice buf (offset + i) (offset + len - (offset + i)) = (slice buf offset len).drop i := by
  rw [slice, slice, List.drop_take, List.drop_drop]
  congr 1
  omega

end Shared

variable [Kconfig]

/-! ## The header -/

/-- The header in the first octets of a buffer -/
def headerOf (buf : Bytes) : PduHeader where
  version := byteAt buf 0 / 32 % 8
  pduType := .ofCode (byteAt buf 0 / 16 % 2)
  direction := .ofCode (byteAt buf 0 / 8 % 2)
  transmissionMode := .ofCode (byteAt buf 0 / 4 % 2)
  crcFlag := .ofCode (byteAt buf 0 / 2 % 2)
  fileSizeMode := .ofCode (byteAt buf 0 % 2)
  pduDataFieldLen := readBeUint buf 1 2
  segmentationControl := .ofCode (byteAt buf 3 / 128 % 2)
  segmentMetadataPresent := decide (byteAt buf 3 / 8 % 2 ≠ 0)
  entityIdLen := byteAt buf 3 / 16 % 8 + 1
  transactionSequenceNumberLen := byteAt buf 3 % 8 + 1
  sourceEntityId := readBeUint buf fixedHeaderMinLen (byteAt buf 3 / 16 % 8 + 1)
  transactionSequenceNumber :=
    readBeUint buf (fixedHeaderMinLen + (byteAt buf 3 / 16 % 8 + 1)) (byteAt buf 3 % 8 + 1)
  destinationEntityId :=
    readBeUint buf (fixedHeaderMinLen + (byteAt buf 3 / 16 % 8 + 1) + (byteAt buf 3 % 8 + 1))
      (byteAt buf 3 / 16 % 8 + 1)

/-- The octets of a header -/
def PduHeader.size (header : PduHeader) : Nat :=
  fixedHeaderMinLen + 2 * header.entityIdLen + header.transactionSequenceNumberLen

section Header

variable {buf buf' : Bytes} {header : PduHeader} {n : Nat}

theorem decodeHeader_iff : decodeHeader buf = .ok (header, n) ↔
    header = headerOf buf ∧ n = header.size ∧ n ≤ buf.length ∧ header.version = cfdpVersion1 ∧
      header.fileSizeMode = .small ∧ headerLengthsAreValid header = true := by
  constructor
  · intro decoded
    simp only [decodeHeader] at decoded
    split_ifs at decoded with short version size lengths room
    rw [Except.ok.injEq, Prod.mk.injEq] at decoded
    obtain ⟨rfl, rfl⟩ := decoded
    simp only [Bool.or_eq_true, Bool.not_eq_true', not_or, Bool.not_eq_false] at lengths
    exact ⟨rfl, rfl, not_lt.mp room, not_not.mp version, not_not.mp size, headerLengthsAreValid_iff.mpr lengths⟩
  · rintro ⟨rfl, rfl, room, version, size, lengths⟩
    rw [headerLengthsAreValid_iff] at lengths
    have version' : byteAt buf 0 / 32 % 8 = cfdpVersion1 := version
    have size' : FileSizeMode.ofCode (byteAt buf 0 % 2) = .small := size
    have room' : ¬ buf.length < fixedHeaderMinLen + 2 * (byteAt buf 3 / 16 % 8 + 1) + (byteAt buf 3 % 8 + 1) :=
      not_lt.mpr room
    have long : ¬ buf.length < fixedHeaderMinLen := by
      rw [PduHeader.size] at room
      omega
    have lengths' : ¬ ((!encodedIntLenIsValid (byteAt buf 3 / 16 % 8 + 1) maxEntityIdLen ||
        !encodedIntLenIsValid (byteAt buf 3 % 8 + 1) maxTransSeqLen) = true) := by
      simp only [Bool.or_eq_true, Bool.not_eq_true', not_or, Bool.not_eq_false]
      exact lengths
    simp only [decodeHeader]
    rw [if_neg long, if_neg (not_not.mpr version'), if_neg (not_not.mpr size'), if_neg lengths', if_neg room']
    rfl

omit [Kconfig] in
theorem headerSize_pos (header : PduHeader) : fixedHeaderMinLen ≤ header.size := by
  rw [PduHeader.size, Nat.add_assoc]
  exact Nat.le_add_right _ _

omit [Kconfig] in
/-- A header is in its own octets. -/
theorem headerOf_of_take (same : buf.take n = buf'.take n) (inside : (headerOf buf).size ≤ n) :
    headerOf buf' = headerOf buf := by
  have four := (headerSize_pos _).trans inside
  rw [fixedHeaderMinLen] at four
  simp only [PduHeader.size, headerOf] at inside
  have octet0 := byteAt_of_take same (show 0 < n by omega)
  have octet3 := byteAt_of_take same (show 3 < n by omega)
  have dataLen := readBeUint_of_take same (show 1 + 2 ≤ n by omega)
  have source := readBeUint_of_take same
    (show fixedHeaderMinLen + (byteAt buf 3 / 16 % 8 + 1) ≤ n by omega)
  have sequence := readBeUint_of_take same
    (show fixedHeaderMinLen + (byteAt buf 3 / 16 % 8 + 1) + (byteAt buf 3 % 8 + 1) ≤ n by omega)
  have destination := readBeUint_of_take same
    (show fixedHeaderMinLen + (byteAt buf 3 / 16 % 8 + 1) + (byteAt buf 3 % 8 + 1) +
      (byteAt buf 3 / 16 % 8 + 1) ≤ n by omega)
  simp only [headerOf, ← octet0, ← octet3, ← dataLen, ← source, ← sequence, ← destination]

theorem decodeHeader_of_take {m : Nat} (decoded : decodeHeader buf = .ok (header, m))
    (same : buf.take n = buf'.take n) (inside : m ≤ n) (long : n ≤ buf'.length) :
    decodeHeader buf' = .ok (header, m) := by
  obtain ⟨rfl, rfl, _, accepted⟩ := decodeHeader_iff.mp decoded
  rw [decodeHeader_iff, headerOf_of_take same inside]
  exact ⟨rfl, rfl, inside.trans long, accepted⟩

theorem decodeHeader_selfDelimiting : SelfDelimiting decodeHeader where
  fits decoded := (decodeHeader_iff.mp decoded).2.2.1
  agrees decoded same long := decodeHeader_of_take decoded same le_rfl long

end Header

/-! ## A PDU -/

/-- A PDU of `consumed` octets at the front of a buffer: a header, and a data field of the length in the
header. -/
structure Carries (header : PduHeader) (Body : Bytes → Prop) (buf : Bytes) (consumed : Nat) : Prop where
  front : decodeHeader buf = .ok (header, header.size)
  total : consumed = header.size + header.pduDataFieldLen
  fits : consumed ≤ buf.length
  body : Body (slice buf header.size header.pduDataFieldLen)

section Carried

variable {header : PduHeader} {Body : Bytes → Prop} {buf buf' : Bytes} {n : Nat}

theorem Carries.of_take (carries : Carries header Body buf n) (same : buf.take n = buf'.take n)
    (long : n ≤ buf'.length) : Carries header Body buf' n where
  front := decodeHeader_of_take carries.front same (by rw [carries.total]; exact Nat.le_add_right _ _) long
  total := carries.total
  fits := long
  body := by
    rw [← slice_of_take same carries.total.ge]
    exact carries.body

/-- A decoder that accepts what carries its data fields is self-delimiting. -/
theorem selfDelimiting_of_carries {α : Type} {decode : Bytes → Except Status (α × Nat)} {headerOf : α → PduHeader}
    {IsBody : α → Bytes → Prop}
    (accepts : ∀ {buf x n}, decode buf = .ok (x, n) ↔ Carries (headerOf x) (IsBody x) buf n) :
    SelfDelimiting decode where
  fits decoded := (accepts.mp decoded).fits
  agrees decoded same long := accepts.mpr ((accepts.mp decoded).of_take same long)

end Carried

/-! ## The data fields -/

/-- The header of a file directive -/
structure DirectiveHeader (header : PduHeader) : Prop where
  kind : header.pduType = .fileDirective
  plain : header.segmentMetadataPresent = false

structure EofBody (eof : EofPdu) (body : Bytes) : Prop where
  kind : DirectiveHeader eof.header
  size : eof.header.pduDataFieldLen = eofDataLen
  directive : byteAt body 0 = directiveEof
  conditionCode : eof.conditionCode = byteAt body 1 / 16
  fileChecksum : eof.fileChecksum = readBeUint body 2 4
  fileSize : eof.fileSize = readBeUint body 6 4

theorem decodeEof_iff {buf : Bytes} {eof : EofPdu} {n : Nat} :
    decodeEof buf = .ok (eof, n) ↔ Carries eof.header (EofBody eof) buf n := by
  constructor
  · intro decoded
    unfold decodeEof at decoded
    cases front : decodeHeader buf with
    | error status =>
      rw [front] at decoded
      cases decoded
    | ok result =>
      obtain ⟨header, headerLen⟩ := result
      obtain ⟨_, rfl, room, _⟩ := decodeHeader_iff.mp front
      simp only [front] at decoded
      split_ifs at decoded with kind _ sized _ directive
      simp only [not_or, not_not, Bool.not_eq_true, not_lt] at kind sized
      rw [Except.ok.injEq, Prod.mk.injEq] at decoded
      obtain ⟨rfl, rfl⟩ := decoded
      have len := sized.1
      rw [eofDataLen] at len
      refine ⟨front, by rw [len], by omega, ⟨kind.1, kind.2⟩, sized.1, ?_, ?_, ?_, ?_⟩ <;> dsimp only
      · rw [byteAt_slice _ (by omega)]
        exact not_not.mp directive
      · rw [byteAt_slice _ (by omega)]
      · rw [readBeUint_slice _ (by omega)]
      · rw [readBeUint_slice _ (by omega)]
  · rintro ⟨front, rfl, room, ⟨kind, plain⟩, size, directive, conditionCode, fileChecksum, fileSize⟩
    have small := (decodeHeader_iff.mp front).2.2.2.2.1
    have len := size
    rw [eofDataLen] at len
    rw [byteAt_slice _ (by omega), Nat.add_zero] at directive
    rw [byteAt_slice _ (by omega)] at conditionCode
    rw [readBeUint_slice _ (by omega)] at fileChecksum fileSize
    simp only [decodeEof, front, kind, plain, small, directive, len]
    rw [if_neg (by simp), if_neg (by simp), if_neg (by rw [eofDataLen]; omega), if_neg (by omega), if_neg (by simp),
      if_neg (by omega), if_neg (by omega), if_neg (by omega), ← conditionCode, ← fileChecksum, ← fileSize]

structure FinishedBody (finished : FinishedPdu) (body : Bytes) : Prop where
  kind : DirectiveHeader finished.header
  size : finished.header.pduDataFieldLen = finishedDataLen
  directive : byteAt body 0 = directiveFinished
  spare : byteAt body 1 / 8 % 2 = 0
  conditionCode : finished.conditionCode = byteAt body 1 / 16
  deliveryCode : finished.deliveryCode = .ofCode (byteAt body 1 / 4 % 2)
  fileStatus : finished.fileStatus = .ofCode (byteAt body 1 % 4)

omit [Kconfig] in
theorem byteAt_lt (buf : Bytes) (i : Nat) : byteAt buf i < 256 := (buf.getD i 0).toNat_lt

omit [Kconfig] in
/-- Every condition code of four bits is valid. -/
theorem conditionCode_of_octet (buf : Bytes) (i : Nat) : conditionCodeIsValid (byteAt buf i / 16) = true := by
  have octet := byteAt_lt buf i
  rw [conditionCodeIsValid_iff]
  omega

theorem decodeFinished_iff {buf : Bytes} {finished : FinishedPdu} {n : Nat} :
    decodeFinished buf = .ok (finished, n) ↔ Carries finished.header (FinishedBody finished) buf n := by
  constructor
  · intro decoded
    unfold decodeFinished at decoded
    cases front : decodeHeader buf with
    | error status =>
      rw [front] at decoded
      cases decoded
    | ok result =>
      obtain ⟨header, headerLen⟩ := result
      obtain ⟨_, rfl, room, _⟩ := decodeHeader_iff.mp front
      simp only [front] at decoded
      split_ifs at decoded with kind _ sized _ directive _ spare
      simp only [not_or, not_not, Bool.not_eq_true, not_lt] at kind sized
      rw [Except.ok.injEq, Prod.mk.injEq] at decoded
      obtain ⟨rfl, rfl⟩ := decoded
      have len := sized.1
      rw [finishedDataLen] at len
      have octet : byteAt (slice buf header.size header.pduDataFieldLen) 1 = byteAt buf (header.size + 1) :=
        byteAt_slice _ (by omega)
      refine ⟨front, by rw [len], by omega, ⟨kind.1, kind.2⟩, sized.1, ?_, ?_, ?_, ?_, ?_⟩ <;> dsimp only
      · rw [byteAt_slice _ (by omega)]
        exact not_not.mp directive
      · rw [octet]
        exact not_not.mp spare
      · rw [octet]
      · rw [octet]
      · rw [octet]
  · rintro ⟨front, rfl, room, ⟨kind, plain⟩, size, directive, spare, conditionCode, deliveryCode, fileStatus⟩
    have small := (decodeHeader_iff.mp front).2.2.2.2.1
    have len := size
    rw [finishedDataLen] at len
    rw [byteAt_slice _ (by omega), Nat.add_zero] at directive
    rw [byteAt_slice _ (by omega)] at spare conditionCode deliveryCode fileStatus
    simp only [decodeFinished, front, kind, plain, small, directive, spare, len, conditionCode_of_octet]
    rw [if_neg (by simp), if_neg (by simp), if_neg (by rw [finishedDataLen]; omega), if_neg (by omega),
      if_neg (by simp), if_neg (by omega), if_neg (by simp), if_neg (by simp), ← conditionCode, ← deliveryCode,
      ← fileStatus]

structure AckBody (ack : AckPdu) (body : Bytes) : Prop where
  kind : DirectiveHeader ack.header
  size : ack.header.pduDataFieldLen = ackDataLen
  directive : byteAt body 0 = directiveAck
  acknowledged : ackDirectiveIsSupported (byteAt body 1 / 16) = true
  subtype : ackSubtypeIsValid (byteAt body 1 / 16) (byteAt body 1 % 16) = true
  spare : byteAt body 2 / 4 % 4 = 0
  acknowledgedDirective : ack.acknowledgedDirective = byteAt body 1 / 16
  directiveSubtype : ack.directiveSubtype = byteAt body 1 % 16
  conditionCode : ack.conditionCode = byteAt body 2 / 16
  transactionStatus : ack.transactionStatus = .ofCode (byteAt body 2 % 4)

theorem decodeAck_iff {buf : Bytes} {ack : AckPdu} {n : Nat} :
    decodeAck buf = .ok (ack, n) ↔ Carries ack.header (AckBody ack) buf n := by
  constructor
  · intro decoded
    unfold decodeAck at decoded
    cases front : decodeHeader buf with
    | error status =>
      rw [front] at decoded
      cases decoded
    | ok result =>
      obtain ⟨header, headerLen⟩ := result
      obtain ⟨_, rfl, room, _⟩ := decodeHeader_iff.mp front
      simp only [front] at decoded
      split_ifs at decoded with kind _ sized directive supported spare
      simp only [not_or, not_not, Bool.not_eq_true, not_lt] at kind sized
      simp only [Bool.or_eq_true, Bool.not_eq_true', not_or, Bool.not_eq_false] at supported
      rw [Except.ok.injEq, Prod.mk.injEq] at decoded
      obtain ⟨rfl, rfl⟩ := decoded
      have len := sized.1
      rw [ackDataLen] at len
      have octet1 : byteAt (slice buf header.size header.pduDataFieldLen) 1 = byteAt buf (header.size + 1) :=
        byteAt_slice _ (by omega)
      have octet2 : byteAt (slice buf header.size header.pduDataFieldLen) 2 = byteAt buf (header.size + 2) :=
        byteAt_slice _ (by omega)
      refine ⟨front, rfl, by omega, ⟨kind.1, kind.2⟩, sized.1, ?_, ?_, ?_, ?_, ?_, ?_, ?_, ?_⟩ <;>
        simp only [octet1, octet2]
      · rw [byteAt_slice _ (by omega)]
        exact not_not.mp directive
      · exact supported.1
      · exact supported.2
      · exact not_not.mp spare
  · rintro ⟨front, rfl, room, ⟨kind, plain⟩, size, directive, acknowledged, subtype, spare, acknowledgedDirective,
      directiveSubtype, conditionCode, transactionStatus⟩
    have small := (decodeHeader_iff.mp front).2.2.2.2.1
    have len := size
    rw [ackDataLen] at len
    rw [byteAt_slice _ (by omega), Nat.add_zero] at directive
    rw [byteAt_slice _ (by omega)] at acknowledged acknowledgedDirective directiveSubtype
    rw [byteAt_slice _ (by omega)] at spare conditionCode transactionStatus
    rw [byteAt_slice _ (by omega)] at subtype
    simp only [decodeAck, front, kind, plain, small, directive, acknowledged, subtype, spare, len,
      conditionCode_of_octet]
    rw [if_neg (by simp), if_neg (by simp), if_neg (by rw [ackDataLen]; omega), if_neg (by simp), if_neg (by simp),
      if_neg (by simp), if_neg (by simp), ← acknowledgedDirective, ← directiveSubtype, ← conditionCode,
      ← transactionStatus]

structure FiledataBody (filedata : FiledataPdu) (body : Bytes) : Prop where
  kind : filedata.header.pduType = .fileData
  plain : filedata.header.segmentMetadataPresent = false
  size : filedataOffsetLen < filedata.header.pduDataFieldLen
  offset : filedata.offset = readBeUint body 0 4
  data : filedata.data = body.drop filedataOffsetLen

theorem decodeFiledata_iff {buf : Bytes} {filedata : FiledataPdu} {n : Nat} :
    decodeFiledata buf = .ok (filedata, n) ↔ Carries filedata.header (FiledataBody filedata) buf n := by
  constructor
  · intro decoded
    unfold decodeFiledata at decoded
    cases front : decodeHeader buf with
    | error status =>
      rw [front] at decoded
      cases decoded
    | ok result =>
      obtain ⟨header, headerLen⟩ := result
      obtain ⟨_, rfl, room, _⟩ := decodeHeader_iff.mp front
      simp only [front] at decoded
      split_ifs at decoded with kind _ sized
      simp only [not_or, not_not, Bool.not_eq_true, not_lt, not_le] at kind sized
      rw [Except.ok.injEq, Prod.mk.injEq] at decoded
      obtain ⟨rfl, rfl⟩ := decoded
      have len := sized.1
      rw [filedataOffsetLen] at len
      refine ⟨front, rfl, by omega, kind.1, kind.2, sized.1, ?_, ?_⟩ <;> dsimp only
      · rw [readBeUint_slice _ (by omega), Nat.add_zero]
      · rw [slice_tail]
  · rintro ⟨front, rfl, room, kind, plain, size, offset, data⟩
    have small := (decodeHeader_iff.mp front).2.2.2.2.1
    have len := size
    rw [filedataOffsetLen] at len
    rw [readBeUint_slice _ (by omega), Nat.add_zero] at offset
    rw [← slice_tail] at data
    simp only [decodeFiledata, front, kind, plain, small]
    rw [if_neg (by simp), if_neg (by simp), if_neg (by omega), if_neg (by omega), ← offset, ← data]

/-! ### NAK -/

omit [Kconfig] in
theorem readRanges_slice (buf : Bytes) {offset len : Nat} (count : Nat) : ∀ i, i + 8 * count ≤ len →
    readRanges (slice buf offset len) i count = readRanges buf (offset + i) count := by
  induction count with
  | zero =>
    intro i _
    rfl
  | succ count ih =>
    intro i inside
    rw [readRanges, readRanges, readBeUint_slice _ (by omega), readBeUint_slice _ (by omega), ih _ (by omega)]
    rfl

structure NakBody (nak : NakPdu) (body : Bytes) : Prop where
  kind : DirectiveHeader nak.header
  size : nakMinDataLen ≤ nak.header.pduDataFieldLen
  whole : (nak.header.pduDataFieldLen - nakMinDataLen) % nakRangeLen = 0
  few : (nak.header.pduDataFieldLen - nakMinDataLen) / nakRangeLen ≤ maxNakRanges
  directive : byteAt body 0 = directiveNak
  scopeStart : nak.scopeStart = readBeUint body 1 4
  scopeEnd : nak.scopeEnd = readBeUint body 5 4
  ranges : nak.ranges = readRanges body 9 ((nak.header.pduDataFieldLen - nakMinDataLen) / nakRangeLen)
  valid : nakValidateRanges nak = true

theorem decodeNak_iff {buf : Bytes} {nak : NakPdu} {n : Nat} :
    decodeNak buf = .ok (nak, n) ↔ Carries nak.header (NakBody nak) buf n := by
  constructor
  · intro decoded
    unfold decodeNak at decoded
    cases front : decodeHeader buf with
    | error status =>
      rw [front] at decoded
      cases decoded
    | ok result =>
      obtain ⟨header, headerLen⟩ := result
      obtain ⟨_, rfl, room, _⟩ := decodeHeader_iff.mp front
      simp only [front] at decoded
      split_ifs at decoded with kind _ sized counted directive valid
      simp only [not_or, not_not, Bool.not_eq_true, not_lt] at kind sized counted
      rw [Bool.not_eq_true', Bool.not_eq_false] at valid
      rw [Except.ok.injEq, Prod.mk.injEq] at decoded
      obtain ⟨rfl, rfl⟩ := decoded
      have len := sized.1
      rw [nakMinDataLen] at len
      refine ⟨front, rfl, by omega, ⟨kind.1, kind.2⟩, sized.1, counted.1, counted.2, ?_, ?_, ?_, ?_, valid⟩ <;>
        dsimp only
      · rw [byteAt_slice _ (by omega)]
        exact not_not.mp directive
      · rw [readBeUint_slice _ (by omega)]
      · rw [readBeUint_slice _ (by omega)]
      · rw [readRanges_slice _ _ _ (by rw [nakMinDataLen, nakRangeLen]; omega)]
  · rintro ⟨front, rfl, room, ⟨kind, plain⟩, size, whole, few, directive, scopeStart, scopeEnd, ranges, valid⟩
    have small := (decodeHeader_iff.mp front).2.2.2.2.1
    have len := size
    rw [nakMinDataLen] at len
    rw [byteAt_slice _ (by omega), Nat.add_zero] at directive
    rw [readBeUint_slice _ (by omega)] at scopeStart scopeEnd
    rw [readRanges_slice _ _ _ (by rw [nakMinDataLen, nakRangeLen]; omega)] at ranges
    simp only [decodeNak, front, kind, plain, small, directive]
    rw [if_neg (by simp), if_neg (by simp), if_neg (by omega), if_neg (by omega), if_neg (by simp), ← scopeStart,
      ← scopeEnd, ← ranges, valid]
    rfl

/-! ### Metadata -/

omit [Kconfig] in
theorem lvRead_iff {buf value : Bytes} {n : Nat} : lvRead buf = .ok (value, n) ↔
    n = 1 + value.length ∧ n ≤ buf.length ∧ byteAt buf 0 = value.length ∧ value = slice buf 1 value.length := by
  unfold lvRead
  constructor
  · intro read
    simp only [] at read
    split_ifs at read with empty short
    rw [Except.ok.injEq, Prod.mk.injEq] at read
    obtain ⟨rfl, rfl⟩ := read
    have len : (slice buf 1 (byteAt buf 0)).length = byteAt buf 0 := slice_length_of_le (by omega)
    rw [len]
    exact ⟨rfl, by omega, rfl, rfl⟩
  · rintro ⟨rfl, fits, size, octets⟩
    simp only [size]
    rw [if_neg (by omega), if_neg (by omega), ← octets]

structure MetadataBody (metadata : MetadataPdu) (body : Bytes) : Prop where
  kind : DirectiveHeader metadata.header
  size : metadata.header.pduDataFieldLen =
    metadataMinDataLen + metadata.sourceFilename.length + metadata.destinationFilename.length
  directive : byteAt body 0 = directiveMetadata
  reserved : byteAt body 1 / 128 % 2 = 0 ∧ byteAt body 1 / 16 % 4 = 0
  closureRequested : metadata.closureRequested = decide (byteAt body 1 / 64 % 2 ≠ 0)
  checksumType : metadata.checksumType = .ofCode (byteAt body 1 % 16)
  supported : metadata.checksumType.isSupported = true
  fileSize : metadata.fileSize = readBeUint body 2 4
  source : lvRead (body.drop 6) = .ok (metadata.sourceFilename, 1 + metadata.sourceFilename.length)
  sourceValid : filenameLenIsValid metadata.sourceFilename = true
  destination : lvRead (body.drop (7 + metadata.sourceFilename.length)) =
    .ok (metadata.destinationFilename, 1 + metadata.destinationFilename.length)
  destinationValid : filenameLenIsValid metadata.destinationFilename = true

theorem decodeMetadata_iff {buf : Bytes} {metadata : MetadataPdu} {n : Nat} :
    decodeMetadata buf = .ok (metadata, n) ↔ Carries metadata.header (MetadataBody metadata) buf n := by
  constructor
  · intro decoded
    unfold decodeMetadata at decoded
    cases front : decodeHeader buf with
    | error status =>
      rw [front] at decoded
      cases decoded
    | ok result =>
      obtain ⟨header, headerLen⟩ := result
      obtain ⟨_, rfl, room, _⟩ := decodeHeader_iff.mp front
      simp only [front, Nat.add_assoc, slice_tail] at decoded
      split_ifs at decoded with kind sized directive reserved unsupported
      simp only [not_or, not_not, Bool.not_eq_true, not_lt] at kind sized reserved
      rw [Bool.not_eq_true', Bool.not_eq_false] at unsupported
      have len := sized.1
      rw [metadataMinDataLen] at len
      have bodyLen : (slice buf header.size header.pduDataFieldLen).length = header.pduDataFieldLen :=
        slice_length_of_le (by omega)
      have control : byteAt (slice buf header.size header.pduDataFieldLen) 1 = byteAt buf (header.size + 1) :=
        byteAt_slice _ (by omega)
      cases source : lvRead ((slice buf header.size header.pduDataFieldLen).drop 6) with
      | error status =>
        rw [source] at decoded
        cases decoded
      | ok result =>
        obtain ⟨sourceFilename, sourceLen⟩ := result
        obtain ⟨rfl, sourceFits, _⟩ := lvRead_iff.mp source
        simp only [source] at decoded
        split_ifs at decoded with sourceValid
        rw [Bool.not_eq_true', Bool.not_eq_false] at sourceValid
        have behind : 6 + (1 + sourceFilename.length) = 7 + sourceFilename.length := by omega
        rw [behind] at decoded
        cases destination : lvRead ((slice buf header.size header.pduDataFieldLen).drop
            (7 + sourceFilename.length)) with
        | error status =>
          rw [destination] at decoded
          cases decoded
        | ok result =>
          obtain ⟨destinationFilename, destinationLen⟩ := result
          obtain ⟨rfl, destinationFits, _⟩ := lvRead_iff.mp destination
          simp only [destination] at decoded
          split_ifs at decoded with destinationValid options
          · -- options are refused, whatever they are
            split at decoded <;> cases decoded
          · rw [Bool.not_eq_true', Bool.not_eq_false] at destinationValid
            rw [Except.ok.injEq, Prod.mk.injEq] at decoded
            obtain ⟨rfl, rfl⟩ := decoded
            rw [List.length_drop, bodyLen] at sourceFits destinationFits
            refine ⟨front, rfl, by omega, ⟨kind.1, kind.2.2⟩, ?_, ?_, ?_, ?_, ?_, unsupported, ?_, source,
              sourceValid, destination, destinationValid⟩ <;> simp only [control]
            · rw [metadataMinDataLen]
              omega
            · rw [byteAt_slice _ (by omega)]
              exact not_not.mp directive
            · exact reserved
            · rw [readBeUint_slice _ (by omega)]
  · rintro ⟨front, rfl, room, ⟨kind, plain⟩, size, directive, reserved, closureRequested, checksumType, supported,
      fileSize, source, sourceValid, destination, destinationValid⟩
    have small := (decodeHeader_iff.mp front).2.2.2.2.1
    have len := size
    rw [metadataMinDataLen] at len
    rw [byteAt_slice _ (by omega), Nat.add_zero] at directive
    rw [byteAt_slice _ (by omega)] at reserved closureRequested checksumType
    rw [readBeUint_slice _ (by omega)] at fileSize
    have behind : 6 + (1 + metadata.sourceFilename.length) = 7 + metadata.sourceFilename.length := by omega
    simp only [decodeMetadata, front, kind, plain, small, directive, reserved, Nat.add_assoc, slice_tail, source,
      sourceValid, behind, destination, destinationValid, ← checksumType, supported]
    rw [if_neg (by simp), if_neg (by rw [metadataMinDataLen]; omega), if_neg (by simp), if_neg (by simp),
      if_neg (by simp), if_neg (by omega), if_neg (by simp), if_neg (by simp), if_neg (by omega), ← closureRequested,
      ← fileSize]

end ZephyrCcsds.Cfdp
