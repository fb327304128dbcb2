import ZephyrCcsds.Cfdp.Entity

/-! # The sender of a file

The `sender_*` functions of `ccsds_cfdp_entity.c`, `ccsds_cfdp_entity_create_sender_transaction`
and `ccsds_cfdp_entity_send_file`.
-/

namespace ZephyrCcsds.Cfdp

open Callback

variable [Kconfig]

/-- The status of the file transfer that a Finished PDU reports. -/
def statusFromFinished (finished : FinishedPdu) : Status :=
  if finished.conditionCode = conditionNoError ∧ finished.deliveryCode = .dataComplete then .ok
  else if finished.conditionCode = conditionFileChecksumFailure then .checksumFailure
  else if finished.conditionCode = conditionFileSizeError then .fileSizeError
  else if finished.conditionCode = conditionFilestoreRejection then .filestoreRejection
  else .cancelRequest

def senderHandleFinished (pdu : Bytes) : EntityM Status := do
  let entity ← Prog.read
  match decodeFinished pdu with
  | .error status => pure status
  | .ok (finished, consumed) =>
    if consumed ≠ pdu.length ∨ !incomingFinishedHeaderIsSupported entity finished.header then
      pure .unsupported
    else if !senderActiveMatchesHeader entity finished.header then pure .invalidArgument
    else
      let finishedStatus := statusFromFinished finished
      updateSender fun sender => { sender with finishedReceived := true, finishedStatus }
      Prog.modify fun entity =>
        { entity with
          senderCompletionAvailable := true, senderCompletionStatus := finishedStatus }
      if entity.sender.transmissionMode = .acknowledged then
        let status ← sendAckFinished finished.conditionCode
        if status ≠ .ok then senderFail status
        else
          releaseSenderTerminal finishedStatus
          pure finishedStatus
      else pure finishedStatus

def senderHandleAck (pdu : Bytes) : EntityM Status := do
  let entity ← Prog.read
  match decodeAck pdu with
  | .error status => pure status
  | .ok (ack, consumed) =>
    if consumed ≠ pdu.length ∨ !incomingFinishedHeaderIsSupported entity ack.header then
      pure .unsupported
    else if ack.acknowledgedDirective ≠ directiveEof ∨
        ack.directiveSubtype ≠ ackDirectiveSubtypeOther ∨
        ack.header.transmissionMode ≠ .acknowledged then pure .unsupported
    else if !senderActiveMatchesHeader entity ack.header then pure .invalidArgument
    else pure .ok

/-- The read and send loop of `sender_retransmit_range`, with `stop - offset` turns. -/
def senderRetransmitLoop (fs : FilestoreOps) (stop : Nat) : Nat → Nat → EntityM Status
  | 0, _ => pure .ok
  | fuel + 1, offset => do
    if offset < stop then
      let remaining := stop - offset
      let requestLen := min remaining maxSegmentSize
      let entity ← Prog.read
      let (rc, nread) ← readSegment fs entity.sender.fileHandle offset requestLen
      if rc ≠ 0 then pure .filestoreRejection
      else if nread = 0 ∨ requestLen < nread ∨ remaining < nread then pure .fileSizeError
      else
        let entity ← Prog.read
        let status ← sendFiledata offset (entity.fileSegmentBuf.take nread)
        if status ≠ .ok then pure status
        else senderRetransmitLoop fs stop fuel (offset + nread)
    else pure .ok

def senderRetransmitRange (fs : FilestoreOps) (start stop : Nat) : EntityM Status :=
  senderRetransmitLoop fs stop (stop - start) start

/-- The loop over the requested ranges. -/
def senderRetransmitRanges (fs : FilestoreOps) : List NakRange → EntityM Status
  | [] => pure .ok
  | range :: ranges => do
    let entity ← Prog.read
    if entity.sender.fileSize < range.stop then pure .fileSizeError
    else
      let status ← senderRetransmitRange fs range.start range.stop
      if status ≠ .ok then pure status else senderRetransmitRanges fs ranges

/-- The end of `sender_handle_nak`: the checks and sends for a NAK of the active transaction. -/
def senderAnswerNak (fs : FilestoreOps) (nak : NakPdu) : EntityM Status := do
  updateSender fun sender => { sender with nakRetryCount := (sender.nakRetryCount + 1) % 2 ^ 32 }
  let entity ← Prog.read
  if maxNakRounds < entity.sender.nakRetryCount then senderFail .nakLimitReached
  else if nak.scopeStart ≠ 0 ∨ nak.scopeEnd ≠ entity.sender.fileSize then senderFail .fileSizeError
  else
    let status ← senderRetransmitRanges fs nak.ranges
    if status ≠ .ok then senderFail status
    else
      let entity ← Prog.read
      let status ← sendEof entity.sender.eofChecksum entity.sender.fileSize
      if status ≠ .ok then senderFail status else pure .ok

def senderHandleNak (pdu : Bytes) : EntityM Status := do
  let entity ← Prog.read
  match decodeNak pdu with
  | .error status => pure status
  | .ok (nak, consumed) =>
    if consumed ≠ pdu.length ∨ !senderNakHeaderIsSupported entity nak.header then pure .unsupported
    else if !senderActiveMatchesHeader entity nak.header then pure .invalidArgument
    else
      match entity.sender.filestore with
      | none => senderFail .filestoreRejection
      | some fs =>
        if !filestoreIsValid (some fs) || !entity.sender.fileHandleOpen ||
            entity.sender.fileHandle == 0 then senderFail .filestoreRejection
        else if entity.sender.transmissionMode ≠ .acknowledged then
          senderFail .invalidTransmissionMode
        else senderAnswerNak fs nak

/-! ## Sending a file -/

def createSenderTransaction : EntityM (Except Status TransactionId) := do
  let entity ← Prog.read
  if entity.sender.active then pure (.error .transactionBusy)
  else
    let allocated : TransactionId :=
      { sourceEntityId := entity.localEntityId
        transactionSequenceNumber := entity.nextTransactionSequenceNumber }
    Prog.modify advanceTransactionSequenceNumber
    updateSender fun sender =>
      { sender with
        active := true
        id := allocated
        peerEntityId := entity.remoteEntityId
        transmissionMode := .unacknowledged
        finishedStatus := .ok }
    pure (.ok allocated)

variable [ZephyrCrc]

/-- The read and send loop of `ccsds_cfdp_entity_send_file`, with `fileSize - offset` turns. -/
def sendFileLoop (fs : FilestoreOps) (handle : Handle) (fileSize : Nat) :
    Nat → ChecksumState → Nat → EntityM (Except Status ChecksumState)
  | 0, state, _ => pure (.ok state)
  | fuel + 1, state, offset => do
    if offset < fileSize then
      let remaining := fileSize - offset
      let requestLen := min remaining maxSegmentSize
      let (rc, nread) ← readSegment fs handle offset requestLen
      if rc ≠ 0 then pure (.error .filestoreRejection)
      else if nread = 0 ∨ requestLen < nread ∨ remaining < nread then pure (.error .fileSizeError)
      else
        let entity ← Prog.read
        let status ← sendFiledata offset (entity.fileSegmentBuf.take nread)
        if status ≠ .ok then pure (.error status)
        else
          -- the buffer is read again: a PDU received during the send may have changed it
          let entity ← Prog.read
          match checksumUpdate state offset (entity.fileSegmentBuf.take nread) with
          | .error status => pure (.error status)
          | .ok state => sendFileLoop fs handle fileSize fuel state (offset + nread)
    else pure (.ok state)

/-- After the EOF of `send_file`: the status to report and whether the sender stays active. -/
def sendFileAwait (request : PutRequest) (status : Status) : EntityM (Status × Bool) := do
  let entity ← Prog.read
  if status = .ok ∧ request.acknowledgedMode ∧ entity.sender.active ∧
      ¬ entity.sender.finishedReceived then
    updateSender fun sender => { sender with retryCount := 0 }
    let now ← entityNowMs
    updateSender fun sender => armRetry sender now
    pure (status, true)
  else if status = .ok ∧ request.closureRequested ∧ entity.senderCompletionAvailable then
    pure (entity.senderCompletionStatus, false)
  else if status = .ok ∧ request.closureRequested ∧ entity.sender.finishedReceived then
    pure (entity.sender.finishedStatus, false)
  else if status = .ok ∧ request.closureRequested ∧ entity.nowMs then
    pure (.inactivityDetected, false)
  else pure (status, false)

/-- Metadata, the file and EOF, once the source file is open. -/
def sendFileTransfer (fs : FilestoreOps) (request : PutRequest) (source destination : Bytes)
    (checksumState : ChecksumState) (handle : Handle) (fileSize : Nat) :
    EntityM (Status × Bool) := do
  let status ← sendMetadata request source destination fileSize
  if status ≠ .ok then pure (status, false)
  else
    match ← sendFileLoop fs handle fileSize fileSize checksumState 0 with
    | .error status => pure (status, false)
    | .ok state =>
      match checksumFinish state with
      | .error status => pure (status, false)
      | .ok checksum =>
        updateSender fun sender => { sender with eofChecksum := checksum }
        let status ← sendEof checksum fileSize
        sendFileAwait request status

/-- The label `out_release`. -/
def sendFileOutRelease (handleOpen keepSenderActive : Bool) (status : Status) : EntityM Status := do
  if keepSenderActive then pure status
  else
    let entity ← Prog.read
    Prog.runIf (handleOpen && entity.sender.fileHandleOpen) closeSenderHandle
    let entity ← Prog.read
    Prog.runIf entity.sender.active (releaseSenderTerminal status)
    Prog.modify fun entity => { entity with senderCompletionAvailable := false }
    pure status

/-- The slot fields set before the source file is opened. -/
def sendFileSlot (sender : TransactionSlot) (request : PutRequest) (source destination : Bytes) :
    TransactionSlot :=
  { sender with
    closureRequested := request.closureRequested
    transmissionMode := if request.acknowledgedMode then .acknowledged else .unacknowledged
    sourcePath := source
    destinationPath := destination }

/-- From opening the source file to the release. -/
def sendFileOpen (fs : FilestoreOps) (request : PutRequest) (sourcePath source destination : Bytes)
    (checksumState : ChecksumState) : EntityM Status := do
  let reply ← call (.openRead fs (cString sourcePath))
  if reply.rc ≠ 0 then sendFileOutRelease false false .filestoreRejection
  else if reply.handle = 0 ∧ 0 < reply.size.toNat then
    sendFileOutRelease false false .filestoreRejection
  else
    updateSender fun sender =>
      { sender with
        fileHandleOpen := true
        fileHandle := reply.handle
        filestore := some fs
        fileSize := reply.size.toNat
        checksumType := request.checksumType }
    let (status, keepSenderActive) ←
      sendFileTransfer fs request source destination checksumState reply.handle reply.size.toNat
    sendFileOutRelease true keepSenderActive status

def sendFile (fs : FilestoreOps) (request : PutRequest) :
    EntityM (Status × Option TransactionId) := do
  match request.sourcePath, request.destinationPath with
  | some sourcePath, some destinationPath =>
    match pathLenIsValid (some sourcePath), pathLenIsValid (some destinationPath) with
    | some sourceLen, some destinationLen =>
      if !filestoreIsValid (some fs) then pure (.invalidArgument, none)
      else
        match checksumInit request.checksumType with
        | .error status => pure (status, none)
        | .ok checksumState =>
          match ← createSenderTransaction with
          | .error status => pure (status, none)
          | .ok allocated =>
            let source := sourcePath.take sourceLen
            let destination := destinationPath.take destinationLen
            Prog.modify fun entity =>
              { entity with senderCompletionAvailable := false, senderCompletionStatus := .ok }
            updateSender fun sender => sendFileSlot sender request source destination
            let status ← sendFileOpen fs request sourcePath source destination checksumState
            pure (status, some allocated)
    | _, _ => pure (.invalidArgument, none)
  | _, _ => pure (.invalidArgument, none)

end ZephyrCcsds.Cfdp
