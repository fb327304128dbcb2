import ZephyrCcsds.Cfdp.Types

/-! # The CFDP PDU codec

`ccsds_cfdp_pdu.c`: the fixed header, length-value and type-length-value fields, and the
Metadata, File Data, EOF, Finished, ACK and NAK PDUs.  An encoder takes the capacity of the
output buffer and returns the octets written; a decoder returns the PDU and the number of
octets consumed.  Views into the input buffer are the octets viewed.
-/

namespace ZephyrCcsds.Cfdp

open Bytes

variable [Kconfig]

def cfdpVersion1 : Nat := 1
def fixedHeaderMinLen : Nat := 4
def maxEncodedIntLen : Nat := 8
def filedataOffsetLen : Nat := 4
def eofDataLen : Nat := 10
def finishedDataLen : Nat := 2
def ackDataLen : Nat := 3
def nakMinDataLen : Nat := 9
def nakRangeLen : Nat := 8
def metadataMinDataLen : Nat := 8

def encodedIntLenIsValid (len maxLen : Nat) : Bool :=
  decide (1 ≤ len) && decide (len ≤ maxLen) && decide (len ≤ maxEncodedIntLen)

def valueFitsLen (value len : Nat) : Bool :=
  decide (maxEncodedIntLen ≤ len) || decide (value / 2 ^ (len * 8) = 0)

/-- The octet at an offset, `0` behind the end. -/
def byteAt (buf : Bytes) (offset : Nat) : Nat := (buf.getD offset 0).toNat

def readBeUint (buf : Bytes) (offset len : Nat) : Nat := getBe (slice buf offset len)

namespace ChecksumType

def isSupported : ChecksumType → Bool
  | modular | crc32c | ieee8023Fcs | null => true
  | other _ => false

end ChecksumType

def filenameLenIsValid (filename : Bytes) : Bool :=
  decide (0 < filename.length) && decide (filename.length ≤ maxFilenameLen)

def conditionCodeIsValid (code : Nat) : Bool :=
  decide (conditionNoError ≤ code) && decide (code ≤ conditionCancelRequestReceived)

def ackDirectiveIsSupported (directive : Nat) : Bool :=
  directive == directiveEof || directive == directiveFinished

def ackSubtypeIsValid (directive subtype : Nat) : Bool :=
  if directive = directiveFinished then subtype == ackDirectiveSubtypeFinished
  else subtype == ackDirectiveSubtypeOther

/-! ## Fixed header -/

structure PduHeader where
  version : Nat
  pduType : PduType
  direction : Direction
  transmissionMode : TransmissionMode
  crcFlag : CrcFlag
  fileSizeMode : FileSizeMode
  pduDataFieldLen : Nat
  segmentationControl : SegmentationControl
  segmentMetadataPresent : Bool
  entityIdLen : Nat
  transactionSequenceNumberLen : Nat
  sourceEntityId : Nat
  transactionSequenceNumber : Nat
  destinationEntityId : Nat
  deriving DecidableEq, Repr

def headerLengthsAreValid (header : PduHeader) : Bool :=
  encodedIntLenIsValid header.entityIdLen maxEntityIdLen &&
    encodedIntLenIsValid header.transactionSequenceNumberLen maxTransSeqLen

def headerEncodedLen (header : PduHeader) : Nat :=
  if headerLengthsAreValid header then
    fixedHeaderMinLen + 2 * header.entityIdLen + header.transactionSequenceNumberLen
  else 0

/-- The octet of version, PDU type, direction, mode, CRC flag and file size mode. -/
def headerFlags (header : PduHeader) : Nat :=
  header.version % 8 * 32 + header.pduType.code * 16 + header.direction.code * 8 +
    header.transmissionMode.code * 4 + header.crcFlag.code * 2 + header.fileSizeMode.code

/-- The octet of segmentation control and the two field lengths. -/
def headerLengths (header : PduHeader) : Nat :=
  header.segmentationControl.code * 128 + (header.entityIdLen - 1) % 8 * 16 +
    (if header.segmentMetadataPresent then 8 else 0) + (header.transactionSequenceNumberLen - 1) % 8

def encodeHeader (header : PduHeader) (cap : Nat) : Except Status Bytes :=
  if header.version ≠ cfdpVersion1 then .error .invalidArgument
  else if header.fileSizeMode ≠ .small then .error .unsupported
  else if !headerLengthsAreValid header ||
      !valueFitsLen header.sourceEntityId header.entityIdLen ||
      !valueFitsLen header.transactionSequenceNumber header.transactionSequenceNumberLen ||
      !valueFitsLen header.destinationEntityId header.entityIdLen then .error .invalidArgument
  else if cap < headerEncodedLen header then .error .bufferTooSmall
  else .ok (putBe 1 (headerFlags header) ++ putBe 2 header.pduDataFieldLen ++
    putBe 1 (headerLengths header) ++
    putBe header.entityIdLen header.sourceEntityId ++
    putBe header.transactionSequenceNumberLen header.transactionSequenceNumber ++
    putBe header.entityIdLen header.destinationEntityId)

def decodeHeader (buf : Bytes) : Except Status (PduHeader × Nat) :=
  if buf.length < fixedHeaderMinLen then .error .malformedPdu
  else
    let version := byteAt buf 0 / 32 % 8
    if version ≠ cfdpVersion1 then .error .unsupported
    else
      let fileSizeMode := FileSizeMode.ofCode (byteAt buf 0 % 2)
      if fileSizeMode ≠ .small then .error .unsupported
      else
        let entityIdLen := byteAt buf 3 / 16 % 8 + 1
        let transSeqLen := byteAt buf 3 % 8 + 1
        if !encodedIntLenIsValid entityIdLen maxEntityIdLen ||
            !encodedIntLenIsValid transSeqLen maxTransSeqLen then .error .unsupported
        else
          let needed := fixedHeaderMinLen + 2 * entityIdLen + transSeqLen
          if buf.length < needed then .error .malformedPdu
          else .ok (
            { version
              pduType := .ofCode (byteAt buf 0 / 16 % 2)
              direction := .ofCode (byteAt buf 0 / 8 % 2)
              transmissionMode := .ofCode (byteAt buf 0 / 4 % 2)
              crcFlag := .ofCode (byteAt buf 0 / 2 % 2)
              fileSizeMode
              pduDataFieldLen := readBeUint buf 1 2
              segmentationControl := .ofCode (byteAt buf 3 / 128 % 2)
              segmentMetadataPresent := decide (byteAt buf 3 / 8 % 2 ≠ 0)
              entityIdLen
              transactionSequenceNumberLen := transSeqLen
              sourceEntityId := readBeUint buf fixedHeaderMinLen entityIdLen
              transactionSequenceNumber :=
                readBeUint buf (fixedHeaderMinLen + entityIdLen) transSeqLen
              destinationEntityId :=
                readBeUint buf (fixedHeaderMinLen + entityIdLen + transSeqLen) entityIdLen },
            needed)

/-! ## Length-value and type-length-value fields -/

def lvRead (buf : Bytes) : Except Status (Bytes × Nat) :=
  if buf.length < 1 then .error .malformedPdu
  else
    let valueLen := byteAt buf 0
    if buf.length - 1 < valueLen then .error .malformedPdu
    else .ok (slice buf 1 valueLen, 1 + valueLen)

def lvWrite (value : Bytes) (cap : Nat) : Except Status Bytes :=
  if cap < 1 + value.length then .error .bufferTooSmall
  else .ok (putBe 1 value.length ++ value)

structure Tlv where
  type : Nat
  value : Bytes
  deriving DecidableEq, Repr

def tlvRead (buf : Bytes) : Except Status (Tlv × Nat) :=
  if buf.length < 1 then .error .malformedPdu
  else if buf.length < 2 then .error .malformedPdu
  else
    let valueLen := byteAt buf 1
    if buf.length - 2 < valueLen then .error .malformedPdu
    else .ok ({ type := byteAt buf 0, value := slice buf 2 valueLen }, 2 + valueLen)

/-! ## Metadata -/

structure MetadataPdu where
  header : PduHeader
  closureRequested : Bool
  checksumType : ChecksumType
  fileSize : Nat
  sourceFilename : Bytes
  destinationFilename : Bytes
  deriving DecidableEq, Repr

def encodeMetadata (metadata : MetadataPdu) (cap : Nat) : Except Status Bytes :=
  if metadata.header.pduType ≠ .fileDirective ∨ metadata.header.fileSizeMode ≠ .small ∨
      metadata.header.segmentMetadataPresent then .error .invalidArgument
  else if !metadata.checksumType.isSupported then .error .unsupportedChecksum
  else if !filenameLenIsValid metadata.sourceFilename ||
      !filenameLenIsValid metadata.destinationFilename then .error .invalidArgument
  else
    let pduDataLen := metadataMinDataLen + metadata.sourceFilename.length +
      metadata.destinationFilename.length
    if uint16Max < pduDataLen then .error .invalidArgument
    else
      let header := { metadata.header with pduDataFieldLen := pduDataLen }
      match encodeHeader header cap with
      | .error status => .error status
      | .ok front =>
        if cap - front.length < pduDataLen then .error .bufferTooSmall
        else
          let control :=
            (if metadata.closureRequested ∧ header.transmissionMode ≠ .acknowledged then 64 else 0) +
              metadata.checksumType.code % 16
          let fixed := front ++ putBe 1 directiveMetadata ++ putBe 1 control ++
            putBe 4 metadata.fileSize
          match lvWrite metadata.sourceFilename (cap - fixed.length) with
          | .error status => .error status
          | .ok source =>
            match lvWrite metadata.destinationFilename (cap - (fixed ++ source).length) with
            | .error status => .error status
            | .ok destination => .ok (fixed ++ source ++ destination)

def decodeMetadata (buf : Bytes) : Except Status (MetadataPdu × Nat) :=
  match decodeHeader buf with
  | .error status => .error status
  | .ok (header, headerLen) =>
    if header.pduType ≠ .fileDirective ∨ header.fileSizeMode ≠ .small ∨
        header.segmentMetadataPresent then .error .malformedPdu
    else if header.pduDataFieldLen < metadataMinDataLen ∨
        buf.length - headerLen < header.pduDataFieldLen then .error .malformedPdu
    else
      let pduEnd := headerLen + header.pduDataFieldLen
      if byteAt buf headerLen ≠ directiveMetadata then .error .malformedPdu
      else
        let control := byteAt buf (headerLen + 1)
        -- the reserved bits are 0x80, 0x20 and 0x10
        if control / 128 % 2 ≠ 0 ∨ control / 16 % 4 ≠ 0 then .error .malformedPdu
        else
          let checksumType := ChecksumType.ofCode (control % 16)
          if !checksumType.isSupported then .error .unsupportedChecksum
          else if pduEnd - (headerLen + 2) < 4 then .error .malformedPdu
          else
            let fileSize := readBeUint buf (headerLen + 2) 4
            let offset := headerLen + 6
            match lvRead (slice buf offset (pduEnd - offset)) with
            | .error status => .error status
            | .ok (sourceFilename, consumed) =>
              if !filenameLenIsValid sourceFilename then .error .invalidArgument
              else
                let offset := offset + consumed
                match lvRead (slice buf offset (pduEnd - offset)) with
                | .error status => .error status
                | .ok (destinationFilename, consumed) =>
                  if !filenameLenIsValid destinationFilename then .error .invalidArgument
                  else
                    let offset := offset + consumed
                    if offset < pduEnd then
                      match tlvRead (slice buf offset (pduEnd - offset)) with
                      | .error status => .error status
                      | .ok _ => .error .unsupported
                    else .ok (
                      { header
                        closureRequested := decide (control / 64 % 2 ≠ 0)
                        checksumType
                        fileSize
                        sourceFilename
                        destinationFilename },
                      pduEnd)

/-! ## File Data -/

structure FiledataPdu where
  header : PduHeader
  offset : Nat
  data : Bytes
  deriving DecidableEq, Repr

def encodeFiledata (filedata : FiledataPdu) (cap : Nat) : Except Status Bytes :=
  if filedata.header.pduType ≠ .fileData ∨ filedata.header.segmentMetadataPresent then
    .error .invalidArgument
  else if filedata.header.fileSizeMode ≠ .small then .error .unsupported
  else if filedata.data.length = 0 ∨ uint16Max - filedataOffsetLen < filedata.data.length then
    .error .invalidArgument
  else
    let pduDataLen := filedataOffsetLen + filedata.data.length
    match encodeHeader { filedata.header with pduDataFieldLen := pduDataLen } cap with
    | .error status => .error status
    | .ok front =>
      if cap - front.length < pduDataLen then .error .bufferTooSmall
      else .ok (front ++ putBe 4 filedata.offset ++ filedata.data)

def decodeFiledata (buf : Bytes) : Except Status (FiledataPdu × Nat) :=
  match decodeHeader buf with
  | .error status => .error status
  | .ok (header, headerLen) =>
    if header.pduType ≠ .fileData ∨ header.segmentMetadataPresent then .error .malformedPdu
    else if header.fileSizeMode ≠ .small then .error .unsupported
    else if header.pduDataFieldLen ≤ filedataOffsetLen ∨
        buf.length - headerLen < header.pduDataFieldLen then .error .malformedPdu
    else
      let pduEnd := headerLen + header.pduDataFieldLen
      if pduEnd - headerLen < filedataOffsetLen then .error .malformedPdu
      else
        let offset := headerLen + filedataOffsetLen
        .ok (
          { header
            offset := readBeUint buf headerLen 4
            data := slice buf offset (pduEnd - offset) },
          pduEnd)

/-! ## EOF -/

structure EofPdu where
  header : PduHeader
  conditionCode : Nat
  fileChecksum : Nat
  fileSize : Nat
  deriving DecidableEq, Repr

def encodeEof (eof : EofPdu) (cap : Nat) : Except Status Bytes :=
  if eof.header.pduType ≠ .fileDirective ∨ eof.header.segmentMetadataPresent then
    .error .invalidArgument
  else if eof.header.fileSizeMode ≠ .small then .error .unsupported
  else if !conditionCodeIsValid eof.conditionCode then .error .invalidArgument
  else
    match encodeHeader { eof.header with pduDataFieldLen := eofDataLen } cap with
    | .error status => .error status
    | .ok front =>
      if cap - front.length < eofDataLen then .error .bufferTooSmall
      else .ok (front ++ putBe 1 directiveEof ++ putBe 1 (eof.conditionCode % 16 * 16) ++
        putBe 4 eof.fileChecksum ++ putBe 4 eof.fileSize)

def decodeEof (buf : Bytes) : Except Status (EofPdu × Nat) :=
  match decodeHeader buf with
  | .error status => .error status
  | .ok (header, headerLen) =>
    if header.pduType ≠ .fileDirective ∨ header.segmentMetadataPresent then .error .malformedPdu
    else if header.fileSizeMode ≠ .small then .error .unsupported
    else if header.pduDataFieldLen ≠ eofDataLen ∨
        buf.length - headerLen < header.pduDataFieldLen then .error .malformedPdu
    else
      let pduEnd := headerLen + header.pduDataFieldLen
      if pduEnd - headerLen < 1 then .error .malformedPdu
      else if byteAt buf headerLen ≠ directiveEof then .error .malformedPdu
      else if pduEnd - (headerLen + 1) < 1 then .error .malformedPdu
      else if pduEnd - (headerLen + 2) < 4 then .error .malformedPdu
      else if pduEnd - (headerLen + 6) < 4 then .error .malformedPdu
      else .ok (
        { header
          conditionCode := byteAt buf (headerLen + 1) / 16
          fileChecksum := readBeUint buf (headerLen + 2) 4
          fileSize := readBeUint buf (headerLen + 6) 4 },
        headerLen + 10)

/-! ## Finished -/

structure FinishedPdu where
  header : PduHeader
  conditionCode : Nat
  deliveryCode : DeliveryCode
  fileStatus : FileStatus
  deriving DecidableEq, Repr

def encodeFinished (finished : FinishedPdu) (cap : Nat) : Except Status Bytes :=
  if finished.header.pduType ≠ .fileDirective ∨ finished.header.segmentMetadataPresent then
    .error .invalidArgument
  else if finished.header.fileSizeMode ≠ .small then .error .unsupported
  else if !conditionCodeIsValid finished.conditionCode then .error .invalidArgument
  else
    match encodeHeader { finished.header with pduDataFieldLen := finishedDataLen } cap with
    | .error status => .error status
    | .ok front =>
      if cap - front.length < finishedDataLen then .error .bufferTooSmall
      else .ok (front ++ putBe 1 directiveFinished ++
        putBe 1 (finished.conditionCode % 16 * 16 + finished.deliveryCode.code * 4 +
          finished.fileStatus.code))

def decodeFinished (buf : Bytes) : Except Status (FinishedPdu × Nat) :=
  match decodeHeader buf with
  | .error status => .error status
  | .ok (header, headerLen) =>
    if header.pduType ≠ .fileDirective ∨ header.segmentMetadataPresent then .error .malformedPdu
    else if header.fileSizeMode ≠ .small then .error .unsupported
    else if header.pduDataFieldLen ≠ finishedDataLen ∨
        buf.length - headerLen < header.pduDataFieldLen then .error .malformedPdu
    else
      let pduEnd := headerLen + header.pduDataFieldLen
      if pduEnd - headerLen < 1 then .error .malformedPdu
      else if byteAt buf headerLen ≠ directiveFinished then .error .malformedPdu
      else if pduEnd - (headerLen + 1) < 1 then .error .malformedPdu
      else
        let statusByte := byteAt buf (headerLen + 1)
        if statusByte / 8 % 2 ≠ 0 then .error .malformedPdu
        else if !conditionCodeIsValid (statusByte / 16) then .error .malformedPdu
        else .ok (
          { header
            conditionCode := statusByte / 16
            deliveryCode := .ofCode (statusByte / 4 % 2)
            fileStatus := .ofCode (statusByte % 4) },
          headerLen + 2)

/-! ## ACK -/

structure AckPdu where
  header : PduHeader
  acknowledgedDirective : Nat
  directiveSubtype : Nat
  conditionCode : Nat
  transactionStatus : TransactionStatus
  deriving DecidableEq, Repr

def encodeAck (ack : AckPdu) (cap : Nat) : Except Status Bytes :=
  if ack.header.pduType ≠ .fileDirective ∨ ack.header.segmentMetadataPresent ∨
      !ackDirectiveIsSupported ack.acknowledgedDirective ∨
      !ackSubtypeIsValid ack.acknowledgedDirective ack.directiveSubtype ∨
      !conditionCodeIsValid ack.conditionCode then .error .invalidArgument
  else if ack.header.fileSizeMode ≠ .small then .error .unsupported
  else
    match encodeHeader { ack.header with pduDataFieldLen := ackDataLen } cap with
    | .error status => .error status
    | .ok front =>
      if cap - front.length < ackDataLen then .error .bufferTooSmall
      else .ok (front ++ putBe 1 directiveAck ++
        putBe 1 (ack.acknowledgedDirective % 16 * 16 + ack.directiveSubtype % 16) ++
        putBe 1 (ack.conditionCode % 16 * 16 + ack.transactionStatus.code))

def decodeAck (buf : Bytes) : Except Status (AckPdu × Nat) :=
  match decodeHeader buf with
  | .error status => .error status
  | .ok (header, headerLen) =>
    if header.pduType ≠ .fileDirective ∨ header.segmentMetadataPresent then .error .malformedPdu
    else if header.fileSizeMode ≠ .small then .error .unsupported
    else if header.pduDataFieldLen ≠ ackDataLen ∨
        buf.length - headerLen < header.pduDataFieldLen then .error .malformedPdu
    else
      let pduEnd := headerLen + header.pduDataFieldLen
      if byteAt buf headerLen ≠ directiveAck then .error .malformedPdu
      else
        let directiveByte := byteAt buf (headerLen + 1)
        if !ackDirectiveIsSupported (directiveByte / 16) ||
            !ackSubtypeIsValid (directiveByte / 16) (directiveByte % 16) then .error .unsupported
        else
          let statusByte := byteAt buf (headerLen + 2)
          if statusByte / 4 % 4 ≠ 0 then .error .malformedPdu
          else if !conditionCodeIsValid (statusByte / 16) then .error .malformedPdu
          else .ok (
            { header
              acknowledgedDirective := directiveByte / 16
              directiveSubtype := directiveByte % 16
              conditionCode := statusByte / 16
              transactionStatus := .ofCode (statusByte % 4) },
            pduEnd)

/-! ## NAK -/

structure NakRange where
  start : Nat
  stop : Nat
  deriving DecidableEq, Repr

/-- `range_count` is the length of `ranges`. -/
structure NakPdu where
  header : PduHeader
  scopeStart : Nat
  scopeEnd : Nat
  ranges : List NakRange
  deriving DecidableEq, Repr

def nakRangeIsValid (nak : NakPdu) (range : NakRange) : Bool :=
  decide (range.start < range.stop) && decide (nak.scopeStart ≤ range.start) &&
    decide (range.stop ≤ nak.scopeEnd)

def nakValidateRanges (nak : NakPdu) : Bool :=
  decide (nak.scopeStart < nak.scopeEnd) && decide (nak.ranges.length ≤ maxNakRanges) &&
    nak.ranges.all (nakRangeIsValid nak)

def writeRanges : List NakRange → Bytes
  | [] => []
  | range :: ranges => putBe 4 range.start ++ putBe 4 range.stop ++ writeRanges ranges

def encodeNak (nak : NakPdu) (cap : Nat) : Except Status Bytes :=
  if nak.header.pduType ≠ .fileDirective ∨ nak.header.segmentMetadataPresent then
    .error .invalidArgument
  else if nak.header.fileSizeMode ≠ .small then .error .unsupported
  else if !nakValidateRanges nak then .error .invalidArgument
  else
    let pduDataLen := nakMinDataLen + nak.ranges.length * nakRangeLen
    if uint16Max < pduDataLen then .error .invalidArgument
    else
      match encodeHeader { nak.header with pduDataFieldLen := pduDataLen } cap with
      | .error status => .error status
      | .ok front =>
        if cap - front.length < pduDataLen then .error .bufferTooSmall
        else .ok (front ++ putBe 1 directiveNak ++ putBe 4 nak.scopeStart ++ putBe 4 nak.scopeEnd ++
          writeRanges nak.ranges)

def readRanges (buf : Bytes) (offset : Nat) : Nat → List NakRange
  | 0 => []
  | count + 1 =>
      { start := readBeUint buf offset 4, stop := readBeUint buf (offset + 4) 4 } ::
        readRanges buf (offset + 8) count

def decodeNak (buf : Bytes) : Except Status (NakPdu × Nat) :=
  match decodeHeader buf with
  | .error status => .error status
  | .ok (header, headerLen) =>
    if header.pduType ≠ .fileDirective ∨ header.segmentMetadataPresent then .error .malformedPdu
    else if header.fileSizeMode ≠ .small then .error .unsupported
    else if header.pduDataFieldLen < nakMinDataLen ∨
        buf.length - headerLen < header.pduDataFieldLen then .error .malformedPdu
    else
      let pduEnd := headerLen + header.pduDataFieldLen
      let remaining := header.pduDataFieldLen - nakMinDataLen
      if remaining % nakRangeLen ≠ 0 ∨ maxNakRanges < remaining / nakRangeLen then
        .error .malformedPdu
      else if byteAt buf headerLen ≠ directiveNak then .error .malformedPdu
      else
        let nak : NakPdu :=
          { header
            scopeStart := readBeUint buf (headerLen + 1) 4
            scopeEnd := readBeUint buf (headerLen + 5) 4
            ranges := readRanges buf (headerLen + 9) (remaining / nakRangeLen) }
        if !nakValidateRanges nak then .error .malformedPdu else .ok (nak, pduEnd)

/-! ## The header of a decoded PDU -/

/-- `buf` starts with this header, followed by the octet of the directive. -/
def IsDirective (buf : Bytes) (header : PduHeader) (directive : Nat) : Prop :=
  ∃ headerLen, decodeHeader buf = .ok (header, headerLen) ∧ header.pduType = .fileDirective ∧
    byteAt buf headerLen = directive

section Headers

variable {buf : Bytes} {consumed : Nat}

theorem decodeMetadata_header {metadata : MetadataPdu}
    (decoded : decodeMetadata buf = .ok (metadata, consumed)) :
    IsDirective buf metadata.header directiveMetadata := by
  unfold decodeMetadata at decoded
  cases header : decodeHeader buf with
  | error status =>
    rw [header] at decoded
    cases decoded
  | ok result =>
    obtain ⟨header', headerLen⟩ := result
    simp only [header] at decoded
    split_ifs at decoded with kind short directive reserved unsupported size
    rw [not_or, not_not] at kind
    split at decoded
    · cases decoded
    · split_ifs at decoded
      split at decoded
      · cases decoded
      · split_ifs at decoded
        · split at decoded <;> cases decoded
        · cases decoded
          exact ⟨headerLen, header, kind.1, not_not.mp directive⟩

/-- A Metadata PDU has a data field behind its header. -/
theorem decodeMetadata_fits {metadata : MetadataPdu}
    (decoded : decodeMetadata buf = .ok (metadata, consumed)) :
    ∃ headerLen, decodeHeader buf = .ok (metadata.header, headerLen) ∧
      metadata.header.pduDataFieldLen ≠ 0 ∧ headerLen < buf.length := by
  unfold decodeMetadata at decoded
  cases header : decodeHeader buf with
  | error status =>
    rw [header] at decoded
    cases decoded
  | ok result =>
    obtain ⟨header', headerLen⟩ := result
    simp only [header] at decoded
    split_ifs at decoded with kind short directive reserved unsupported size
    rw [not_or, not_lt, not_lt, metadataMinDataLen] at short
    split at decoded
    · cases decoded
    · split_ifs at decoded
      split at decoded
      · cases decoded
      · split_ifs at decoded
        · split at decoded <;> cases decoded
        · cases decoded
          refine ⟨headerLen, rfl, ?_, ?_⟩
          · dsimp only
            omega
          · omega

theorem decodeFiledata_header {filedata : FiledataPdu}
    (decoded : decodeFiledata buf = .ok (filedata, consumed)) :
    ∃ headerLen, decodeHeader buf = .ok (filedata.header, headerLen) ∧
      filedata.header.pduType = .fileData := by
  unfold decodeFiledata at decoded
  cases header : decodeHeader buf with
  | error status =>
    rw [header] at decoded
    cases decoded
  | ok result =>
    obtain ⟨header', headerLen⟩ := result
    simp only [header] at decoded
    split_ifs at decoded with kind
    rw [not_or, not_not] at kind
    cases decoded
    exact ⟨headerLen, rfl, kind.1⟩

theorem decodeEof_header {eof : EofPdu} (decoded : decodeEof buf = .ok (eof, consumed)) :
    IsDirective buf eof.header directiveEof := by
  unfold decodeEof at decoded
  cases header : decodeHeader buf with
  | error status =>
    rw [header] at decoded
    cases decoded
  | ok result =>
    obtain ⟨header', headerLen⟩ := result
    simp only [header] at decoded
    split_ifs at decoded with kind _ _ _ directive
    rw [not_or, not_not] at kind
    cases decoded
    exact ⟨headerLen, header, kind.1, not_not.mp directive⟩

theorem decodeEof_fits {eof : EofPdu} (decoded : decodeEof buf = .ok (eof, buf.length)) :
    ∃ headerLen, decodeHeader buf = .ok (eof.header, headerLen) ∧
      eof.header.pduDataFieldLen = eofDataLen ∧ headerLen < buf.length := by
  unfold decodeEof at decoded
  cases header : decodeHeader buf with
  | error status =>
    rw [header] at decoded
    cases decoded
  | ok result =>
    obtain ⟨header', headerLen⟩ := result
    simp only [header] at decoded
    split_ifs at decoded with _ _ sized
    rw [not_or, not_not] at sized
    rw [Except.ok.injEq, Prod.mk.injEq] at decoded
    obtain ⟨rfl, consumed⟩ := decoded
    exact ⟨headerLen, rfl, sized.1, by omega⟩

theorem decodeFinished_header {finished : FinishedPdu}
    (decoded : decodeFinished buf = .ok (finished, consumed)) :
    IsDirective buf finished.header directiveFinished := by
  unfold decodeFinished at decoded
  cases header : decodeHeader buf with
  | error status =>
    rw [header] at decoded
    cases decoded
  | ok result =>
    obtain ⟨header', headerLen⟩ := result
    simp only [header] at decoded
    split_ifs at decoded with kind _ _ _ directive
    rw [not_or, not_not] at kind
    cases decoded
    exact ⟨headerLen, header, kind.1, not_not.mp directive⟩

theorem decodeAck_header {ack : AckPdu} (decoded : decodeAck buf = .ok (ack, consumed)) :
    IsDirective buf ack.header directiveAck := by
  unfold decodeAck at decoded
  cases header : decodeHeader buf with
  | error status =>
    rw [header] at decoded
    cases decoded
  | ok result =>
    obtain ⟨header', headerLen⟩ := result
    simp only [header] at decoded
    split_ifs at decoded with kind _ _ directive
    rw [not_or, not_not] at kind
    cases decoded
    exact ⟨headerLen, header, kind.1, not_not.mp directive⟩

theorem decodeNak_header {nak : NakPdu} (decoded : decodeNak buf = .ok (nak, consumed)) :
    IsDirective buf nak.header directiveNak := by
  unfold decodeNak at decoded
  cases header : decodeHeader buf with
  | error status =>
    rw [header] at decoded
    cases decoded
  | ok result =>
    obtain ⟨header', headerLen⟩ := result
    simp only [header] at decoded
    split_ifs at decoded with kind _ _ _ directive
    rw [not_or, not_not] at kind
    cases decoded
    exact ⟨headerLen, header, kind.1, not_not.mp directive⟩

end Headers

/-! ## The errors of the encoders -/

theorem encodeHeader_ne_error_ok (header : PduHeader) (cap : Nat) :
    encodeHeader header cap ≠ .error .ok := by
  unfold encodeHeader
  split_ifs <;> simp

/-- What follows the header adds no other error than a full buffer. -/
theorem behindHeader_ne_error_ok (header : PduHeader) (cap len : Nat) (rest : Bytes → Bytes) :
    (match encodeHeader header cap with
      | .error status => .error status
      | .ok front => if cap - front.length < len then .error .bufferTooSmall else .ok (rest front)) ≠
      (.error .ok : Except Status Bytes) := by
  have front := encodeHeader_ne_error_ok header cap
  cases encoded : encodeHeader header cap with
  | error status =>
    rw [encoded] at front
    exact front
  | ok octets =>
    simp only []
    split_ifs <;> simp

omit [Kconfig] in
theorem lvWrite_ne_error_ok (value : Bytes) (cap : Nat) : lvWrite value cap ≠ .error .ok := by
  unfold lvWrite
  split_ifs <;> simp

theorem encodeMetadata_ne_error_ok (metadata : MetadataPdu) (cap : Nat) :
    encodeMetadata metadata cap ≠ .error .ok := by
  intro failed
  unfold encodeMetadata at failed
  simp only [] at failed
  generalize control : (if metadata.closureRequested ∧
    metadata.header.transmissionMode ≠ .acknowledged then 64 else 0) = closure at failed
  split_ifs at failed
  · cases failed
  · cases failed
  · cases failed
  · cases failed
  split at failed
  · next status front =>
    rw [Except.error.inj failed] at front
    exact encodeHeader_ne_error_ok _ _ front
  · split_ifs at failed
    · cases failed
    split at failed
    · next status source =>
      rw [Except.error.inj failed] at source
      exact lvWrite_ne_error_ok _ _ source
    · split at failed
      · next status destination =>
        rw [Except.error.inj failed] at destination
        exact lvWrite_ne_error_ok _ _ destination
      · cases failed

theorem encodeFiledata_ne_error_ok (filedata : FiledataPdu) (cap : Nat) :
    encodeFiledata filedata cap ≠ .error .ok := by
  unfold encodeFiledata
  split_ifs
  · simp
  · simp
  · simp
  · exact behindHeader_ne_error_ok _ _ _ _

theorem encodeEof_ne_error_ok (eof : EofPdu) (cap : Nat) : encodeEof eof cap ≠ .error .ok := by
  unfold encodeEof
  split_ifs
  · simp
  · simp
  · simp
  · exact behindHeader_ne_error_ok _ _ _ fun front => front ++ _ ++ _ ++ _ ++ _

theorem encodeFinished_ne_error_ok (finished : FinishedPdu) (cap : Nat) :
    encodeFinished finished cap ≠ .error .ok := by
  unfold encodeFinished
  split_ifs
  · simp
  · simp
  · simp
  · exact behindHeader_ne_error_ok _ _ _ _

end ZephyrCcsds.Cfdp
