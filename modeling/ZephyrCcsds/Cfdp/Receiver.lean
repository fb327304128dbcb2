import ZephyrCcsds.Cfdp.Entity

/-! # The receiver of a file

The `receiver_*` functions of `ccsds_cfdp_entity.c`: verifying and finishing a transaction,
and the handlers of Metadata, File Data, EOF and ACK.
-/

namespace ZephyrCcsds.Cfdp

open Callback

variable [Kconfig] [ZephyrCrc]

/-! ## Verifying the file -/

/-- The read loop of `receiver_compute_checksum`, for a number of turns.  It looks at the file size in every turn;
since that is a `uint32_t` and every turn advances the offset, `uint32Max` turns suffice whatever it becomes. -/
def receiverComputeChecksumLoop (fs : FilestoreOps) (handle : Handle) :
    Nat → ChecksumState → Nat → EntityM (Except Status ChecksumState)
  | 0, state, offset => do
    let entity ← Prog.read
    -- The error is out of reach: the turns last until the file has been read.
    pure (if offset < entity.receiver.fileSize then .error .fileSizeError else .ok state)
  | turns + 1, state, offset => do
    let entity ← Prog.read
    if offset < entity.receiver.fileSize then
      let remaining := entity.receiver.fileSize - offset
      let requestLen := min remaining maxSegmentSize
      let (rc, nread) ← readSegment fs handle offset requestLen
      if rc ≠ 0 then pure (.error .filestoreRejection)
      else if nread = 0 ∨ requestLen < nread ∨ remaining < nread then pure (.error .fileSizeError)
      else
        let entity ← Prog.read
        match checksumUpdate state offset (entity.fileSegmentBuf.take nread) with
        | .error status => pure (.error status)
        | .ok state => receiverComputeChecksumLoop fs handle turns state (offset + nread)
    else pure (.ok state)

def receiverComputeChecksum (fs : FilestoreOps) : EntityM (Except Status Nat) := do
  let entity ← Prog.read
  match checksumInit entity.receiver.checksumType with
  | .error status => pure (.error status)
  | .ok state =>
    let final ← receiverComputeChecksumLoop fs entity.receiver.fileHandle
      (max entity.receiver.fileSize uint32Max) state 0
    pure (final.bind checksumFinish)

def receiverVerifyCompleteFile (fs : FilestoreOps) (expectedChecksum : Nat) : EntityM Status := do
  match ← receiverComputeChecksum fs with
  | .error status => pure status
  | .ok checksum => pure (if checksum ≠ expectedChecksum then .checksumFailure else .ok)

/-! ## Finishing a transaction -/

/-- The first part of `receiver_finish`: close the temporary file. -/
def receiverFinishClose (fs : FilestoreOps) (status : Status) : EntityM Status := do
  let entity ← Prog.read
  let closeRc ← callIf entity.receiver.fileHandleOpen (.close fs entity.receiver.fileHandle) 0
  updateReceiver TransactionSlot.withoutHandle
  pure (if closeRc ≠ 0 ∧ status = .ok then .filestoreRejection else status)

/-- The second part of `receiver_finish`: commit or discard the temporary file. -/
def receiverFinishStore (fs : FilestoreOps) (status : Status) : EntityM Status := do
  let entity ← Prog.read
  if status = .ok then
    let rc ← call (.commitTmp fs (cString entity.receiver.destinationPath))
    pure (if rc ≠ 0 then .filestoreRejection else .ok)
  else
    let _ ← call (.discardTmp fs (cString entity.receiver.destinationPath))
    pure status

/-- The third part of `receiver_finish`: the Finished PDU, when closure was requested. -/
def receiverFinishSend (closureRequested : Bool) (status : Status) : EntityM Status :=
  if closureRequested then do
    updateReceiver fun receiver => receiver.withFinishedStatus status
    sendFinishedForReceiverStatus status
  else pure .ok

/-- Wait for the acknowledgement of a Finished PDU. -/
def TransactionSlot.awaitFinishedAck (slot : TransactionSlot) : TransactionSlot :=
  { slot with recoveryPending := false, waitingForFinishedAck := true, retryCount := 0 }

/-- The last part of `receiver_finish`: wait for the acknowledgement, or release. -/
def receiverFinishSettle (closureRequested : Bool) (status finishedStatus : Status) :
    EntityM Status := do
  let entity ← Prog.read
  let reported := if status = .ok then finishedStatus else status
  if closureRequested && !entity.receiver.active then pure reported
  else if entity.receiver.transmissionMode = .acknowledged then
    if finishedStatus = .ok then
      updateReceiver TransactionSlot.awaitFinishedAck
      let now ← entityNowMs
      updateReceiver fun receiver => armRetry receiver now
      pure status
    else
      releaseReceiverTerminal finishedStatus
      pure reported
  else
    releaseReceiverTerminal reported
    pure reported

def receiverFinish (fs : FilestoreOps) (status : Status) : EntityM Status := do
  let entity ← Prog.read
  let status ← receiverFinishClose fs status
  let status ← receiverFinishStore fs status
  let finishedStatus ← receiverFinishSend entity.receiver.closureRequested status
  receiverFinishSettle entity.receiver.closureRequested status finishedStatus

/-- The slot a Metadata PDU sets up, before the temporary file is opened. -/
def metadataSlot (receiver : TransactionSlot) (fs : FilestoreOps) (metadata : MetadataPdu)
    (checksumState : ChecksumState) : TransactionSlot :=
  { receiver with
    checksumState
    receivedRanges := rangesInit
    sourcePath := metadata.sourceFilename
    destinationPath := metadata.destinationFilename
    active := true
    metadataReceived := true
    filestore := some fs
    id := transactionIdFromHeader metadata.header
    peerEntityId := metadata.header.sourceEntityId
    fileSize := metadata.fileSize
    checksumType := metadata.checksumType
    transmissionMode := metadata.header.transmissionMode
    closureRequested := metadata.closureRequested || metadata.header.transmissionMode == .acknowledged }

def receiverHandleMetadata (fs : FilestoreOps) (pdu : Bytes) : EntityM Status := do
  let entity ← Prog.read
  match decodeMetadata pdu with
  | .error status => pure status
  | .ok (metadata, consumed) =>
    if consumed ≠ pdu.length ∨ !incomingHeaderIsSupported entity metadata.header then
      pure .unsupported
    else
      let incoming := transactionIdFromHeader metadata.header
      if entity.receiver.active then
        pure (if entity.receiver.id ≠ incoming then .transactionBusy else .invalidArgument)
      else
        match checksumInit metadata.checksumType with
        | .error status => pure status
        | .ok checksumState =>
          updateReceiver fun receiver => metadataSlot receiver fs metadata checksumState
          let reply ← call (.openWriteTmp fs (cString metadata.destinationFilename))
          updateReceiver fun receiver => { receiver with fileHandle := reply.handle }
          if reply.rc ≠ 0 then
            emitTerminalEvent .receiver incoming .filestoreRejection
            updateReceiver fun _ => .zero
            pure .filestoreRejection
          else
            updateReceiver fun receiver => { receiver with fileHandleOpen := true }
            pure .ok

def receiverHandleFiledata (fs : FilestoreOps) (pdu : Bytes) : EntityM Status := do
  let entity ← Prog.read
  match decodeFiledata pdu with
  | .error status => pure status
  | .ok (filedata, consumed) =>
    if consumed ≠ pdu.length ∨ !incomingHeaderIsSupported entity filedata.header then
      pure .unsupported
    else
      let matched := receiverMatchActive entity filedata.header
      if matched ≠ .ok then pure matched
      else if uint32Max < filedata.data.length ∨
          uint32Max - filedata.data.length < filedata.offset then pure .fileSizeError
      else
        let stop := filedata.offset + filedata.data.length
        if entity.receiver.fileSize < stop then pure .fileSizeError
        else
          let rc ← call (.write fs entity.receiver.fileHandle filedata.offset filedata.data)
          let entity ← Prog.read
          if rc ≠ 0 then pure .filestoreRejection
          else
            match rangesAdd entity.receiver.receivedRanges filedata.offset stop with
            | .error status => pure status
            | .ok receivedRanges =>
              updateReceiver fun receiver => { receiver with receivedRanges }
              match checksumUpdate entity.receiver.checksumState filedata.offset filedata.data with
              | .error status => pure status
              | .ok checksumState =>
                updateReceiver fun receiver => { receiver with checksumState }
                let entity ← Prog.read
                if entity.receiver.eofReceived &&
                    entity.receiver.transmissionMode == .acknowledged then
                  match rangesIsComplete entity.receiver.receivedRanges 0
                      entity.receiver.fileSize with
                  | .error status => receiverFinish fs status
                  | .ok complete =>
                    if complete then
                      let status ← receiverVerifyCompleteFile fs entity.receiver.eofChecksum
                      receiverFinish fs status
                    else pure .ok
                else pure .ok

/-- Wait for the data a NAK asked for. -/
def TransactionSlot.startRecovery (slot : TransactionSlot) : TransactionSlot :=
  { slot with recoveryPending := true, retryCount := 0 }

/-- The end of `receiver_handle_eof`: an EOF without error whose file size agrees. -/
def receiverHandleEofComplete (fs : FilestoreOps) (eof : EofPdu) : EntityM Status := do
  let entity ← Prog.read
  match rangesIsComplete entity.receiver.receivedRanges 0 eof.fileSize with
  | .error status => receiverFinish fs status
  | .ok complete =>
    if !complete then
      if entity.receiver.transmissionMode = .acknowledged then
        updateReceiver fun receiver =>
          { receiver with eofReceived := true, eofChecksum := eof.fileChecksum }
        let status ← sendNakForMissingRanges
        if status ≠ .ok then receiverFinish fs status
        else
          updateReceiver TransactionSlot.startRecovery
          let now ← entityNowMs
          updateReceiver fun receiver => armRetry receiver now
          pure .ok
      else receiverFinish fs .fileSizeError
    else
      let status ← receiverVerifyCompleteFile fs eof.fileChecksum
      receiverFinish fs status

def receiverHandleEof (fs : FilestoreOps) (pdu : Bytes) : EntityM Status := do
  let entity ← Prog.read
  match decodeEof pdu with
  | .error status => pure status
  | .ok (eof, consumed) =>
    if consumed ≠ pdu.length ∨ !incomingHeaderIsSupported entity eof.header then pure .unsupported
    else
      let matched := receiverMatchActive entity eof.header
      if matched ≠ .ok then pure matched
      else if entity.receiver.waitingForFinishedAck then
        sendFinishedForReceiverStatus entity.receiver.finishedStatus
      else
        updateReceiver fun receiver => { receiver with eofChecksum := eof.fileChecksum }
        if eof.conditionCode ≠ conditionNoError ∨ eof.fileSize ≠ entity.receiver.fileSize then
          if entity.receiver.transmissionMode = .acknowledged then
            let _ ← sendAckEof eof.conditionCode
            receiverFinish fs .fileSizeError
          else receiverFinish fs .fileSizeError
        else if entity.receiver.transmissionMode = .acknowledged then
          let status ← sendAckEof eof.conditionCode
          if status ≠ .ok then pure status else receiverHandleEofComplete fs eof
        else receiverHandleEofComplete fs eof

omit [ZephyrCrc] in
def receiverHandleAck (pdu : Bytes) : EntityM Status := do
  let entity ← Prog.read
  match decodeAck pdu with
  | .error status => pure status
  | .ok (ack, consumed) =>
    if consumed ≠ pdu.length ∨ !incomingHeaderIsSupported entity ack.header then pure .unsupported
    else if ack.acknowledgedDirective ≠ directiveFinished ∨
        ack.directiveSubtype ≠ ackDirectiveSubtypeFinished ∨
        ack.header.transmissionMode ≠ .acknowledged then pure .unsupported
    else if !receiverActiveMatchesHeader entity ack.header then pure .invalidArgument
    else
      releaseReceiverTerminal entity.receiver.finishedStatus
      pure .ok

end ZephyrCcsds.Cfdp
