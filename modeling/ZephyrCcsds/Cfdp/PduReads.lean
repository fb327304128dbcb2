import ZephyrCcsds.Cfdp.PduBody
import ZephyrCcsds.Memory

/-! # What the decoders read

The decoders of `ccsds_cfdp_pdu.c` with every access to the input buffer and every subtraction of lengths
checked: none of them goes wrong, whatever the buffer holds.
-/

namespace ZephyrCcsds.Cfdp

open Bytes Memory

/-! ## The decoders with their reads -/

namespace Checked

/-- `buf[i]` as a number -/
def octet (buf : Bytes) (i : Nat) : Checked Nat := do
  let octet ← load buf i
  pure octet.toNat

/-- `sys_get_be16` and `sys_get_be32` -/
def sysGetBe (buf : Bytes) (offset len : Nat) : Checked Nat := do
  let octets ← loadSpan buf offset len
  pure (getBe octets)

/-- `read_be_uint`, which copies into the end of an array of eight octets -/
def readBeUint (buf : Bytes) (offset len : Nat) : Checked Nat := do
  let _ ← sub maxEncodedIntLen len
  let octets ← loadSpan buf offset len
  pure (getBe octets)

/-- `ccsds_cfdp_lv_read` at `buf + base` -/
def lvRead (buf : Bytes) (base len : Nat) : Checked (Except Status (Bytes × Nat)) := do
  if len < 1 then pure (.error .malformedPdu)
  else
    let valueLen ← octet buf base
    let rest ← sub len 1
    if rest < valueLen then pure (.error .malformedPdu)
    else
      let value ← loadSpan buf (base + 1) valueLen
      pure (.ok (value, 1 + valueLen))

/-- `ccsds_cfdp_tlv_read` at `buf + base` -/
def tlvRead (buf : Bytes) (base len : Nat) : Checked (Except Status (Tlv × Nat)) := do
  if len < 1 then pure (.error .malformedPdu)
  else if len < 2 then pure (.error .malformedPdu)
  else
    let valueLen ← octet buf (base + 1)
    let rest ← sub len 2
    if rest < valueLen then pure (.error .malformedPdu)
    else
      let type ← octet buf base
      let value ← loadSpan buf (base + 2) valueLen
      pure (.ok ({ type, value }, 2 + valueLen))

variable [Kconfig]

/-- `ccsds_cfdp_decode_header` -/
def decodeHeader (buf : Bytes) : Checked (Except Status (PduHeader × Nat)) := do
  if buf.length < fixedHeaderMinLen then pure (.error .malformedPdu)
  else
    let flags ← octet buf 0
    let version := flags / 32 % 8
    if version ≠ cfdpVersion1 then pure (.error .unsupported)
    else
      let fileSizeMode := FileSizeMode.ofCode (flags % 2)
      if fileSizeMode ≠ .small then pure (.error .unsupported)
      else
        let lengths ← octet buf 3
        let entityIdLen := lengths / 16 % 8 + 1
        let transSeqLen := lengths % 8 + 1
        if !encodedIntLenIsValid entityIdLen maxEntityIdLen || !encodedIntLenIsValid transSeqLen maxTransSeqLen then
          pure (.error .unsupported)
        else
          let needed := fixedHeaderMinLen + 2 * entityIdLen + transSeqLen
          if buf.length < needed then pure (.error .malformedPdu)
          else
            let pduDataFieldLen ← sysGetBe buf 1 2
            let sourceEntityId ← readBeUint buf fixedHeaderMinLen entityIdLen
            let transactionSequenceNumber ← readBeUint buf (fixedHeaderMinLen + entityIdLen) transSeqLen
            let destinationEntityId ← readBeUint buf (fixedHeaderMinLen + entityIdLen + transSeqLen) entityIdLen
            pure (.ok (
              { version
                pduType := .ofCode (flags / 16 % 2)
                direction := .ofCode (flags / 8 % 2)
                transmissionMode := .ofCode (flags / 4 % 2)
                crcFlag := .ofCode (flags / 2 % 2)
                fileSizeMode
                pduDataFieldLen
                segmentationControl := .ofCode (lengths / 128 % 2)
                segmentMetadataPresent := decide (lengths / 8 % 2 ≠ 0)
                entityIdLen
                transactionSequenceNumberLen := transSeqLen
                sourceEntityId
                transactionSequenceNumber
                destinationEntityId },
              needed))

/-- `ccsds_cfdp_decode_filedata` -/
def decodeFiledata (buf : Bytes) : Checked (Except Status (FiledataPdu × Nat)) := do
  match ← decodeHeader buf with
  | .error status => pure (.error status)
  | .ok (header, headerLen) =>
    if header.pduType ≠ .fileData ∨ header.segmentMetadataPresent then pure (.error .malformedPdu)
    else if header.fileSizeMode ≠ .small then pure (.error .unsupported)
    else
      let rest ← sub buf.length headerLen
      if header.pduDataFieldLen ≤ filedataOffsetLen ∨ rest < header.pduDataFieldLen then pure (.error .malformedPdu)
      else
        let pduEnd := headerLen + header.pduDataFieldLen
        let left ← sub pduEnd headerLen
        if left < filedataOffsetLen then pure (.error .malformedPdu)
        else
          let fileOffset ← sysGetBe buf headerLen 4
          let offset := headerLen + filedataOffsetLen
          let dataLen ← sub pduEnd offset
          let data ← loadSpan buf offset dataLen
          pure (.ok ({ header, offset := fileOffset, data }, pduEnd))

/-- `ccsds_cfdp_decode_eof` -/
def decodeEof (buf : Bytes) : Checked (Except Status (EofPdu × Nat)) := do
  match ← decodeHeader buf with
  | .error status => pure (.error status)
  | .ok (header, headerLen) =>
    if header.pduType ≠ .fileDirective ∨ header.segmentMetadataPresent then pure (.error .malformedPdu)
    else if header.fileSizeMode ≠ .small then pure (.error .unsupported)
    else
      let rest ← sub buf.length headerLen
      if header.pduDataFieldLen ≠ eofDataLen ∨ rest < header.pduDataFieldLen then pure (.error .malformedPdu)
      else
        let pduEnd := headerLen + header.pduDataFieldLen
        let left ← sub pduEnd headerLen
        if left < 1 then pure (.error .malformedPdu)
        else
          let directive ← octet buf headerLen
          if directive ≠ directiveEof then pure (.error .malformedPdu)
          else
            let left ← sub pduEnd (headerLen + 1)
            if left < 1 then pure (.error .malformedPdu)
            else
              let condition ← octet buf (headerLen + 1)
              let left ← sub pduEnd (headerLen + 2)
              if left < 4 then pure (.error .malformedPdu)
              else
                let fileChecksum ← sysGetBe buf (headerLen + 2) 4
                let left ← sub pduEnd (headerLen + 6)
                if left < 4 then pure (.error .malformedPdu)
                else
                  let fileSize ← sysGetBe buf (headerLen + 6) 4
                  pure (.ok ({ header, conditionCode := condition / 16, fileChecksum, fileSize }, headerLen + 10))

/-- `ccsds_cfdp_decode_finished` -/
def decodeFinished (buf : Bytes) : Checked (Except Status (FinishedPdu × Nat)) := do
  match ← decodeHeader buf with
  | .error status => pure (.error status)
  | .ok (header, headerLen) =>
    if header.pduType ≠ .fileDirective ∨ header.segmentMetadataPresent then pure (.error .malformedPdu)
    else if header.fileSizeMode ≠ .small then pure (.error .unsupported)
    else
      let rest ← sub buf.length headerLen
      if header.pduDataFieldLen ≠ finishedDataLen ∨ rest < header.pduDataFieldLen then pure (.error .malformedPdu)
      else
        let pduEnd := headerLen + header.pduDataFieldLen
        let left ← sub pduEnd headerLen
        if left < 1 then pure (.error .malformedPdu)
        else
          let directive ← octet buf headerLen
          if directive ≠ directiveFinished then pure (.error .malformedPdu)
          else
            let left ← sub pduEnd (headerLen + 1)
            if left < 1 then pure (.error .malformedPdu)
            else
              let statusByte ← octet buf (headerLen + 1)
              if statusByte / 8 % 2 ≠ 0 then pure (.error .malformedPdu)
              else if !conditionCodeIsValid (statusByte / 16) then pure (.error .malformedPdu)
              else
                pure (.ok (
                  { header
                    conditionCode := statusByte / 16
                    deliveryCode := .ofCode (statusByte / 4 % 2)
                    fileStatus := .ofCode (statusByte % 4) },
                  headerLen + 2))

/-- `ccsds_cfdp_decode_ack` -/
def decodeAck (buf : Bytes) : Checked (Except Status (AckPdu × Nat)) := do
  match ← decodeHeader buf with
  | .error status => pure (.error status)
  | .ok (header, headerLen) =>
    if header.pduType ≠ .fileDirective ∨ header.segmentMetadataPresent then pure (.error .malformedPdu)
    else if header.fileSizeMode ≠ .small then pure (.error .unsupported)
    else
      let rest ← sub buf.length headerLen
      if header.pduDataFieldLen ≠ ackDataLen ∨ rest < header.pduDataFieldLen then pure (.error .malformedPdu)
      else
        let pduEnd := headerLen + header.pduDataFieldLen
        let directive ← octet buf headerLen
        if directive ≠ directiveAck then pure (.error .malformedPdu)
        else
          let directiveByte ← octet buf (headerLen + 1)
          if !ackDirectiveIsSupported (directiveByte / 16) ||
              !ackSubtypeIsValid (directiveByte / 16) (directiveByte % 16) then pure (.error .unsupported)
          else
            let statusByte ← octet buf (headerLen + 2)
            if statusByte / 4 % 4 ≠ 0 then pure (.error .malformedPdu)
            else if !conditionCodeIsValid (statusByte / 16) then pure (.error .malformedPdu)
            else
              pure (.ok (
                { header
                  acknowledgedDirective := directiveByte / 16
                  directiveSubtype := directiveByte % 16
                  conditionCode := statusByte / 16
                  transactionStatus := .ofCode (statusByte % 4) },
                pduEnd))

/-- The loop of `ccsds_cfdp_decode_nak` -/
def readRanges (buf : Bytes) (offset : Nat) : Nat → Checked (List NakRange)
  | 0 => pure []
  | count + 1 => do
    let start ← sysGetBe buf offset 4
    let stop ← sysGetBe buf (offset + 4) 4
    let ranges ← readRanges buf (offset + 8) count
    pure ({ start, stop } :: ranges)

/-- `ccsds_cfdp_decode_nak` -/
def decodeNak (buf : Bytes) : Checked (Except Status (NakPdu × Nat)) := do
  match ← decodeHeader buf with
  | .error status => pure (.error status)
  | .ok (header, headerLen) =>
    if header.pduType ≠ .fileDirective ∨ header.segmentMetadataPresent then pure (.error .malformedPdu)
    else if header.fileSizeMode ≠ .small then pure (.error .unsupported)
    else
      let rest ← sub buf.length headerLen
      if header.pduDataFieldLen < nakMinDataLen ∨ rest < header.pduDataFieldLen then pure (.error .malformedPdu)
      else
        let pduEnd := headerLen + header.pduDataFieldLen
        let remaining ← sub header.pduDataFieldLen nakMinDataLen
        if remaining % nakRangeLen ≠ 0 ∨ maxNakRanges < remaining / nakRangeLen then pure (.error .malformedPdu)
        else
          let directive ← octet buf headerLen
          if directive ≠ directiveNak then pure (.error .malformedPdu)
          else
            let scopeStart ← sysGetBe buf (headerLen + 1) 4
            let scopeEnd ← sysGetBe buf (headerLen + 5) 4
            let ranges ← readRanges buf (headerLen + 9) (remaining / nakRangeLen)
            let nak : NakPdu := { header, scopeStart, scopeEnd, ranges }
            if !nakValidateRanges nak then pure (.error .malformedPdu) else pure (.ok (nak, pduEnd))

/-- `ccsds_cfdp_decode_metadata` -/
def decodeMetadata (buf : Bytes) : Checked (Except Status (MetadataPdu × Nat)) := do
  match ← decodeHeader buf with
  | .error status => pure (.error status)
  | .ok (header, headerLen) =>
    if header.pduType ≠ .fileDirective ∨ header.fileSizeMode ≠ .small ∨ header.segmentMetadataPresent then
      pure (.error .malformedPdu)
    else
      let rest ← sub buf.length headerLen
      if header.pduDataFieldLen < metadataMinDataLen ∨ rest < header.pduDataFieldLen then pure (.error .malformedPdu)
      else
        let pduEnd := headerLen + header.pduDataFieldLen
        let directive ← octet buf headerLen
        if directive ≠ directiveMetadata then pure (.error .malformedPdu)
        else
          let control ← octet buf (headerLen + 1)
          if control / 128 % 2 ≠ 0 ∨ control / 16 % 4 ≠ 0 then pure (.error .malformedPdu)
          else
            let checksumType := ChecksumType.ofCode (control % 16)
            if !checksumType.isSupported then pure (.error .unsupportedChecksum)
            else
              let left ← sub pduEnd (headerLen + 2)
              if left < 4 then pure (.error .malformedPdu)
              else
                let fileSize ← readBeUint buf (headerLen + 2) 4
                let offset := headerLen + 6
                let left ← sub pduEnd offset
                match ← lvRead buf offset left with
                | .error status => pure (.error status)
                | .ok (sourceFilename, consumed) =>
                  if !filenameLenIsValid sourceFilename then pure (.error .invalidArgument)
                  else
                    let offset := offset + consumed
                    let left ← sub pduEnd offset
                    match ← lvRead buf offset left with
                    | .error status => pure (.error status)
                    | .ok (destinationFilename, consumed) =>
                      if !filenameLenIsValid destinationFilename then pure (.error .invalidArgument)
                      else
                        let offset := offset + consumed
                        if offset < pduEnd then
                          let left ← sub pduEnd offset
                          match ← tlvRead buf offset left with
                          | .error status => pure (.error status)
                          | .ok _ => pure (.error .unsupported)
                        else
                          pure (.ok (
                            { header
                              closureRequested := decide (control / 64 % 2 ≠ 0)
                              checksumType
                              fileSize
                              sourceFilename
                              destinationFilename },
                            pduEnd))

end Checked

/-! ## No read goes wrong -/

section Reads

variable {buf : Bytes} {offset len : Nat}

theorem octet_checked (inside : offset < buf.length) : Checked.octet buf offset = .ok (byteAt buf offset) := by
  rw [Checked.octet, load_ok inside]
  rfl

theorem sysGetBe_checked (inside : offset + len ≤ buf.length) :
    Checked.sysGetBe buf offset len = .ok (readBeUint buf offset len) := by
  rw [Checked.sysGetBe, loadSpan_ok inside]
  rfl

theorem readBeUint_checked (inside : offset + len ≤ buf.length) (short : len ≤ maxEncodedIntLen) :
    Checked.readBeUint buf offset len = .ok (readBeUint buf offset len) := by
  rw [Checked.readBeUint, sub_ok short, ok_bind, loadSpan_ok inside]
  rfl

theorem lvRead_checked (inside : offset + len ≤ buf.length) :
    Checked.lvRead buf offset len = .ok (lvRead (slice buf offset len)) := by
  rw [Checked.lvRead, lvRead, slice_length_of_le inside]
  apply ite_ok fun _ => rfl
  intro some
  have first : byteAt (slice buf offset len) 0 = byteAt buf offset := byteAt_slice _ (by omega)
  rw [octet_checked (by omega), ok_bind, sub_ok (by omega), ok_bind, first]
  apply ite_ok fun _ => rfl
  intro enough
  rw [loadSpan_ok (by omega), ok_bind, slice_drop _ _ _ _ _ (by omega)]
  rfl

theorem tlvRead_checked (inside : offset + len ≤ buf.length) :
    Checked.tlvRead buf offset len = .ok (tlvRead (slice buf offset len)) := by
  rw [Checked.tlvRead, tlvRead, slice_length_of_le inside]
  apply ite_ok fun _ => rfl
  intro some
  apply ite_ok fun _ => rfl
  intro two
  have first : byteAt (slice buf offset len) 0 = byteAt buf offset := byteAt_slice _ (by omega)
  have second : byteAt (slice buf offset len) 1 = byteAt buf (offset + 1) := byteAt_slice _ (by omega)
  rw [octet_checked (by omega), ok_bind, sub_ok (by omega), ok_bind, first, second]
  apply ite_ok fun _ => rfl
  intro enough
  rw [octet_checked (by omega), ok_bind, loadSpan_ok (by omega), ok_bind, slice_drop _ _ _ _ _ (by omega)]
  rfl

variable [Kconfig]

theorem decodeHeader_checked (buf : Bytes) : Checked.decodeHeader buf = .ok (decodeHeader buf) := by
  unfold Checked.decodeHeader decodeHeader
  apply ite_ok fun _ => rfl
  intro long
  rw [fixedHeaderMinLen] at long
  rw [octet_checked (by omega), ok_bind]
  apply ite_ok fun _ => rfl
  intro _
  apply ite_ok fun _ => rfl
  intro _
  rw [octet_checked (by omega), ok_bind]
  apply ite_ok fun _ => rfl
  intro lengths
  simp only [Bool.or_eq_true, Bool.not_eq_true', not_or, Bool.not_eq_false] at lengths
  obtain ⟨_, _, entityMax⟩ := encodedIntLenIsValid_iff.mp lengths.1
  obtain ⟨_, _, seqMax⟩ := encodedIntLenIsValid_iff.mp lengths.2
  apply ite_ok fun _ => rfl
  intro room
  rw [fixedHeaderMinLen] at room
  rw [sysGetBe_checked (by omega), ok_bind, readBeUint_checked (by rw [fixedHeaderMinLen]; omega) entityMax,
    ok_bind, readBeUint_checked (by rw [fixedHeaderMinLen]; omega) seqMax, ok_bind,
    readBeUint_checked (by rw [fixedHeaderMinLen]; omega) entityMax, ok_bind]
  rfl

theorem decodeFiledata_checked (buf : Bytes) : Checked.decodeFiledata buf = .ok (decodeFiledata buf) := by
  unfold Checked.decodeFiledata decodeFiledata
  rw [decodeHeader_checked, ok_bind]
  cases front : decodeHeader buf with
  | error status => rfl
  | ok result =>
    obtain ⟨header, headerLen⟩ := result
    have room : headerLen ≤ buf.length := (decodeHeader_iff.mp front).2.2.1
    apply ite_ok fun _ => rfl
    intro _
    apply ite_ok fun _ => rfl
    intro _
    rw [sub_ok room, ok_bind]
    apply ite_ok fun _ => rfl
    intro fits
    rw [filedataOffsetLen] at fits
    dsimp only
    rw [sub_ok (by omega), ok_bind]
    apply ite_ok fun _ => rfl
    intro _
    rw [sysGetBe_checked (by omega), ok_bind, filedataOffsetLen, sub_ok (by omega), ok_bind, loadSpan_ok (by omega),
      ok_bind]
    rfl

theorem decodeEof_checked (buf : Bytes) : Checked.decodeEof buf = .ok (decodeEof buf) := by
  unfold Checked.decodeEof decodeEof
  rw [decodeHeader_checked, ok_bind]
  cases front : decodeHeader buf with
  | error status => rfl
  | ok result =>
    obtain ⟨header, headerLen⟩ := result
    have room : headerLen ≤ buf.length := (decodeHeader_iff.mp front).2.2.1
    apply ite_ok fun _ => rfl
    intro _
    apply ite_ok fun _ => rfl
    intro _
    rw [sub_ok room, ok_bind]
    apply ite_ok fun _ => rfl
    intro fits
    rw [eofDataLen] at fits
    dsimp only
    rw [sub_ok (by omega), ok_bind]
    apply ite_ok fun _ => rfl
    intro _
    rw [octet_checked (by omega), ok_bind]
    apply ite_ok fun _ => rfl
    intro _
    rw [sub_ok (by omega), ok_bind]
    apply ite_ok fun _ => rfl
    intro _
    rw [octet_checked (by omega), ok_bind, sub_ok (by omega), ok_bind]
    apply ite_ok fun _ => rfl
    intro _
    rw [sysGetBe_checked (by omega), ok_bind, sub_ok (by omega), ok_bind]
    apply ite_ok fun _ => rfl
    intro _
    rw [sysGetBe_checked (by omega), ok_bind]
    rfl

theorem decodeFinished_checked (buf : Bytes) : Checked.decodeFinished buf = .ok (decodeFinished buf) := by
  unfold Checked.decodeFinished decodeFinished
  rw [decodeHeader_checked, ok_bind]
  cases front : decodeHeader buf with
  | error status => rfl
  | ok result =>
    obtain ⟨header, headerLen⟩ := result
    have room : headerLen ≤ buf.length := (decodeHeader_iff.mp front).2.2.1
    apply ite_ok fun _ => rfl
    intro _
    apply ite_ok fun _ => rfl
    intro _
    rw [sub_ok room, ok_bind]
    apply ite_ok fun _ => rfl
    intro fits
    rw [finishedDataLen] at fits
    dsimp only
    rw [sub_ok (by omega), ok_bind]
    apply ite_ok fun _ => rfl
    intro _
    rw [octet_checked (by omega), ok_bind]
    apply ite_ok fun _ => rfl
    intro _
    rw [sub_ok (by omega), ok_bind]
    apply ite_ok fun _ => rfl
    intro _
    rw [octet_checked (by omega), ok_bind]
    apply ite_ok fun _ => rfl
    intro _
    apply ite_ok fun _ => rfl
    intro _
    rfl

theorem decodeAck_checked (buf : Bytes) : Checked.decodeAck buf = .ok (decodeAck buf) := by
  unfold Checked.decodeAck decodeAck
  rw [decodeHeader_checked, ok_bind]
  cases front : decodeHeader buf with
  | error status => rfl
  | ok result =>
    obtain ⟨header, headerLen⟩ := result
    have room : headerLen ≤ buf.length := (decodeHeader_iff.mp front).2.2.1
    apply ite_ok fun _ => rfl
    intro _
    apply ite_ok fun _ => rfl
    intro _
    rw [sub_ok room, ok_bind]
    apply ite_ok fun _ => rfl
    intro fits
    rw [ackDataLen] at fits
    rw [octet_checked (by omega), ok_bind]
    apply ite_ok fun _ => rfl
    intro _
    rw [octet_checked (by omega), ok_bind]
    apply ite_ok fun _ => rfl
    intro _
    rw [octet_checked (by omega), ok_bind]
    apply ite_ok fun _ => rfl
    intro _
    apply ite_ok fun _ => rfl
    intro _
    rfl

omit [Kconfig] in
theorem readRanges_checked (count : Nat) : ∀ {offset : Nat}, offset + 8 * count ≤ buf.length →
    Checked.readRanges buf offset count = .ok (readRanges buf offset count) := by
  induction count with
  | zero =>
    intro offset _
    rfl
  | succ count ih =>
    intro offset inside
    rw [Checked.readRanges, sysGetBe_checked (by omega), ok_bind, sysGetBe_checked (by omega), ok_bind,
      ih (by omega), ok_bind]
    rfl

theorem decodeNak_checked (buf : Bytes) : Checked.decodeNak buf = .ok (decodeNak buf) := by
  unfold Checked.decodeNak decodeNak
  rw [decodeHeader_checked, ok_bind]
  cases front : decodeHeader buf with
  | error status => rfl
  | ok result =>
    obtain ⟨header, headerLen⟩ := result
    have room : headerLen ≤ buf.length := (decodeHeader_iff.mp front).2.2.1
    apply ite_ok fun _ => rfl
    intro _
    apply ite_ok fun _ => rfl
    intro _
    rw [sub_ok room, ok_bind]
    apply ite_ok fun _ => rfl
    intro fits
    rw [nakMinDataLen] at fits
    dsimp only
    rw [sub_ok (by rw [nakMinDataLen]; omega), ok_bind]
    apply ite_ok fun _ => rfl
    intro _
    rw [octet_checked (by omega), ok_bind]
    apply ite_ok fun _ => rfl
    intro _
    rw [sysGetBe_checked (by omega), ok_bind, sysGetBe_checked (by omega), ok_bind,
      readRanges_checked _ (by rw [nakMinDataLen, nakRangeLen]; omega), ok_bind]
    apply ite_ok fun _ => rfl
    intro _
    rfl

theorem decodeMetadata_checked (buf : Bytes) : Checked.decodeMetadata buf = .ok (decodeMetadata buf) := by
  unfold Checked.decodeMetadata decodeMetadata
  rw [decodeHeader_checked, ok_bind]
  cases front : decodeHeader buf with
  | error status => rfl
  | ok result =>
    obtain ⟨header, headerLen⟩ := result
    have room : headerLen ≤ buf.length := (decodeHeader_iff.mp front).2.2.1
    apply ite_ok fun _ => rfl
    intro _
    rw [sub_ok room, ok_bind]
    apply ite_ok fun _ => rfl
    intro fits
    rw [metadataMinDataLen] at fits
    rw [octet_checked (by omega), ok_bind]
    apply ite_ok fun _ => rfl
    intro _
    rw [octet_checked (by omega), ok_bind]
    apply ite_ok fun _ => rfl
    intro _
    apply ite_ok fun _ => rfl
    intro _
    dsimp only
    rw [sub_ok (by omega), ok_bind]
    apply ite_ok fun _ => rfl
    intro _
    rw [readBeUint_checked (by omega) (by decide), ok_bind, sub_ok (by omega), ok_bind, lvRead_checked (by omega),
      ok_bind]
    cases source : lvRead (slice buf (headerLen + 6) (headerLen + header.pduDataFieldLen - (headerLen + 6))) with
    | error status => rfl
    | ok result =>
      obtain ⟨sourceFilename, sourceLen⟩ := result
      have sourceFits := (lvRead_iff.mp source).2.1
      rw [slice_length] at sourceFits
      apply ite_ok fun _ => rfl
      intro _
      rw [sub_ok (by omega), ok_bind, lvRead_checked (by omega), ok_bind]
      cases destination : lvRead (slice buf (headerLen + 6 + sourceLen)
          (headerLen + header.pduDataFieldLen - (headerLen + 6 + sourceLen))) with
      | error status => rfl
      | ok result =>
        obtain ⟨destinationFilename, destinationLen⟩ := result
        apply ite_ok fun _ => rfl
        intro _
        apply ite_ok
        · intro options
          rw [sub_ok (by omega), ok_bind, tlvRead_checked (by omega), ok_bind]
          cases tlvRead (slice buf (headerLen + 6 + sourceLen + destinationLen)
              (headerLen + header.pduDataFieldLen - (headerLen + 6 + sourceLen + destinationLen))) with
          | error status => rfl
          | ok option => rfl
        · intro _
          rfl

end Reads

/-! ## All decoders -/

section Decoders

variable {buf : Bytes}

theorem lvRead_selfDelimiting : SelfDelimiting lvRead where
  fits decoded := (lvRead_iff.mp decoded).2.1
  agrees := by
    intro buf buf' value n decoded same long
    obtain ⟨rfl, _, size, octets⟩ := lvRead_iff.mp decoded
    refine lvRead_iff.mpr ⟨rfl, long, ?_, ?_⟩
    · rw [← byteAt_of_take same (by omega), size]
    · rw [← slice_of_take same le_rfl, ← octets]

theorem tlvRead_iff {tlv : Tlv} {n : Nat} : tlvRead buf = .ok (tlv, n) ↔
    n = 2 + tlv.value.length ∧ n ≤ buf.length ∧ byteAt buf 0 = tlv.type ∧ byteAt buf 1 = tlv.value.length ∧
      tlv.value = slice buf 2 tlv.value.length := by
  unfold tlvRead
  constructor
  · intro read
    simp only [] at read
    split_ifs at read with empty one short
    rw [Except.ok.injEq, Prod.mk.injEq] at read
    obtain ⟨rfl, rfl⟩ := read
    have len : (slice buf 2 (byteAt buf 1)).length = byteAt buf 1 := slice_length_of_le (by omega)
    dsimp only
    rw [len]
    exact ⟨rfl, by omega, rfl, rfl, rfl⟩
  · rintro ⟨rfl, fits, type, size, octets⟩
    simp only [size, type]
    rw [if_neg (by omega), if_neg (by omega), if_neg (by omega), ← octets]

theorem tlvRead_selfDelimiting : SelfDelimiting tlvRead where
  fits decoded := (tlvRead_iff.mp decoded).2.1
  agrees := by
    intro buf buf' tlv n decoded same long
    obtain ⟨rfl, _, type, size, octets⟩ := tlvRead_iff.mp decoded
    refine tlvRead_iff.mpr ⟨rfl, long, ?_, ?_, ?_⟩
    · rw [← byteAt_of_take same (by omega), type]
    · rw [← byteAt_of_take same (by omega), size]
    · rw [← slice_of_take same le_rfl, ← octets]

/-- A decoder that reads nothing outside of its buffer, and whose result is decided by what it consumes -/
structure ReadsWithin {α : Type} (decode : Bytes → Except Status (α × Nat))
    (checked : Bytes → Checked (Except Status (α × Nat))) : Prop where
  reads : ∀ buf, checked buf = .ok (decode buf)
  fits : ∀ {buf x n}, decode buf = .ok (x, n) → n ≤ buf.length
  determined : ∀ {buf buf' x n}, decode buf = .ok (x, n) → buf.take n = buf'.take n → n ≤ buf'.length →
    decode buf' = .ok (x, n)
  appended : ∀ {buf x n}, decode buf = .ok (x, n) → ∀ more, decode (buf ++ more) = .ok (x, n)
  refused : ∀ {buf x n}, decode buf = .ok (x, n) → ∀ k < n, ∃ status, decode (buf.take k) = .error status

theorem ReadsWithin.of_selfDelimiting {α : Type} {decode : Bytes → Except Status (α × Nat)}
    {checked : Bytes → Checked (Except Status (α × Nat))} (reads : ∀ buf, checked buf = .ok (decode buf))
    (delimits : SelfDelimiting decode) : ReadsWithin decode checked where
  reads := reads
  fits := delimits.fits
  determined := delimits.agrees
  appended := delimits.append
  refused decoded _ proper := delimits.prefix_refused decoded proper

variable [Kconfig]

/-- A PDU ends where its header says. -/
def EndsByHeader {α : Type} (decode : Bytes → Except Status (α × Nat)) (headerOf : α → PduHeader) : Prop :=
  ∀ {buf x n}, decode buf = .ok (x, n) →
    ∃ headerLen, decodeHeader buf = .ok (headerOf x, headerLen) ∧ n = headerLen + (headerOf x).pduDataFieldLen

theorem endsByHeader_of_carries {α : Type} {decode : Bytes → Except Status (α × Nat)} {headerOf : α → PduHeader}
    {IsBody : α → Bytes → Prop}
    (accepts : ∀ {buf x n}, decode buf = .ok (x, n) ↔ Carries (headerOf x) (IsBody x) buf n) :
    EndsByHeader decode headerOf := by
  intro buf x n decoded
  have carries := accepts.mp decoded
  exact ⟨_, carries.front, carries.total⟩

structure DecodersReadWithin : Prop where
  header : ReadsWithin decodeHeader Checked.decodeHeader
  lv : ReadsWithin lvRead fun buf => Checked.lvRead buf 0 buf.length
  tlv : ReadsWithin tlvRead fun buf => Checked.tlvRead buf 0 buf.length
  metadata : ReadsWithin decodeMetadata Checked.decodeMetadata
  filedata : ReadsWithin decodeFiledata Checked.decodeFiledata
  eof : ReadsWithin decodeEof Checked.decodeEof
  finished : ReadsWithin decodeFinished Checked.decodeFinished
  ack : ReadsWithin decodeAck Checked.decodeAck
  nak : ReadsWithin decodeNak Checked.decodeNak
  metadataEnd : EndsByHeader decodeMetadata MetadataPdu.header
  filedataEnd : EndsByHeader decodeFiledata FiledataPdu.header
  eofEnd : EndsByHeader decodeEof EofPdu.header
  finishedEnd : EndsByHeader decodeFinished FinishedPdu.header
  ackEnd : EndsByHeader decodeAck AckPdu.header
  nakEnd : EndsByHeader decodeNak NakPdu.header

omit [Kconfig] in
theorem whole_slice (buf : Bytes) : slice buf 0 buf.length = buf := by
  rw [slice, List.drop_zero, List.take_length]

/-- No decoder reads behind its input, and each takes from it exactly what it consumes. -/
theorem decoders_read_within : DecodersReadWithin where
  header := .of_selfDelimiting decodeHeader_checked decodeHeader_selfDelimiting
  lv := by
    apply ReadsWithin.of_selfDelimiting _ lvRead_selfDelimiting
    intro buf
    rw [lvRead_checked (by omega), whole_slice]
  tlv := by
    apply ReadsWithin.of_selfDelimiting _ tlvRead_selfDelimiting
    intro buf
    rw [tlvRead_checked (by omega), whole_slice]
  metadata := .of_selfDelimiting decodeMetadata_checked (selfDelimiting_of_carries decodeMetadata_iff)
  filedata := .of_selfDelimiting decodeFiledata_checked (selfDelimiting_of_carries decodeFiledata_iff)
  eof := .of_selfDelimiting decodeEof_checked (selfDelimiting_of_carries decodeEof_iff)
  finished := .of_selfDelimiting decodeFinished_checked (selfDelimiting_of_carries decodeFinished_iff)
  ack := .of_selfDelimiting decodeAck_checked (selfDelimiting_of_carries decodeAck_iff)
  nak := .of_selfDelimiting decodeNak_checked (selfDelimiting_of_carries decodeNak_iff)
  metadataEnd := endsByHeader_of_carries decodeMetadata_iff
  filedataEnd := endsByHeader_of_carries decodeFiledata_iff
  eofEnd := endsByHeader_of_carries decodeEof_iff
  finishedEnd := endsByHeader_of_carries decodeFinished_iff
  ackEnd := endsByHeader_of_carries decodeAck_iff
  nakEnd := endsByHeader_of_carries decodeNak_iff

end Decoders

end ZephyrCcsds.Cfdp
