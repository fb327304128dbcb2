import ZephyrCcsds.Cfdp.Receiver
import ZephyrCcsds.Cfdp.Sender

/-! # The entry points of the entity

`ccsds_cfdp_entity_receive_pdu` and `ccsds_cfdp_entity_poll`, and the calls that carry files:
`send_file`, `receive_pdu` and `poll`.
-/

namespace ZephyrCcsds.Cfdp

open Callback

variable [Kconfig] [ZephyrCrc]

/-- The `switch` of the `TOWARD_SENDER` branch of `ccsds_cfdp_entity_receive_pdu`. -/
def senderHandleDirective (directive : Nat) (pdu : Bytes) : EntityM Status :=
  if directive = directiveFinished then senderHandleFinished pdu
  else if directive = directiveAck then senderHandleAck pdu
  else if directive = directiveNak then senderHandleNak pdu
  else pure .unsupported

/-- The `TOWARD_SENDER` branch of `ccsds_cfdp_entity_receive_pdu`. -/
def receivePduTowardSender (header : PduHeader) (headerLen : Nat) (pdu : Bytes) :
    EntityM Status := do
  let entity ← Prog.read
  if !incomingFinishedHeaderIsSupported entity header || header.pduType ≠ .fileDirective ||
      header.pduDataFieldLen = 0 || pdu.length ≤ headerLen then pure .unsupported
  else
    let status ← senderHandleDirective (byteAt pdu headerLen) pdu
    let entity ← Prog.read
    if status ≠ .ok ∧ senderActiveMatchesHeader entity header then
      releaseSenderTerminal status
      pure status
    else pure status

/-- The `switch` of the `TOWARD_RECEIVER` branch. -/
def receiverHandleDirective (fs : FilestoreOps) (directive : Nat) (pdu : Bytes) : EntityM Status :=
  if directive = directiveMetadata then receiverHandleMetadata fs pdu
  else if directive = directiveEof then receiverHandleEof fs pdu
  else if directive = directiveAck then receiverHandleAck pdu
  else pure .unsupported

/-- The end of the `TOWARD_RECEIVER` branch: a handler failed for the active transaction. -/
def failReceiverOnError (header : PduHeader) (status : Status) : EntityM Status := do
  let entity ← Prog.read
  if status ≠ .ok ∧ receiverActiveMatchesHeader entity header then
    failReceiverActiveTransaction status
    pure status
  else pure status

/-- The `TOWARD_RECEIVER` branch, with the filestore checked. -/
def receivePduTowardReceiver (fs : FilestoreOps) (header : PduHeader) (headerLen : Nat)
    (pdu : Bytes) : EntityM Status := do
  if header.pduType = .fileData then
    let status ← receiverHandleFiledata fs pdu
    failReceiverOnError header status
  else if header.pduDataFieldLen = 0 ∨ pdu.length ≤ headerLen then pure .malformedPdu
  else
    let status ← receiverHandleDirective fs (byteAt pdu headerLen) pdu
    failReceiverOnError header status

def receivePdu (filestore : Option FilestoreOps) (pdu : Bytes) : EntityM Status := do
  match decodeHeader pdu with
  | .error status => pure status
  | .ok (header, headerLen) =>
    if header.direction = .towardSender then receivePduTowardSender header headerLen pdu
    else
      let entity ← Prog.read
      if !incomingHeaderIsSupported entity header then pure .unsupported
      else
        match filestore with
        | none => pure .invalidArgument
        | some fs =>
          if !receiveFilestoreIsValid fs then pure .invalidArgument
          else receivePduTowardReceiver fs header headerLen pdu

/-- The first part of `ccsds_cfdp_entity_poll`: repeat the NAK. -/
def pollRecovery (now : Nat) : EntityM Unit := do
  let entity ← Prog.read
  if entity.receiver.active && entity.receiver.transmissionMode == .acknowledged &&
      entity.receiver.recoveryPending && retryDue entity.receiver now then
    if maxNakRounds ≤ entity.receiver.retryCount then
      closeDiscardReceiver
      releaseReceiverTerminal .inactivityDetected
    else
      let status ← sendNakForMissingRanges
      if status = .ok then
        updateReceiver fun receiver => armRetry receiver.countRetry now
      else
        closeDiscardReceiver
        releaseReceiverTerminal status
  else pure ()

/-- The second part: repeat the Finished PDU. -/
def pollFinished (now : Nat) : EntityM Unit := do
  let entity ← Prog.read
  if entity.receiver.active && entity.receiver.transmissionMode == .acknowledged &&
      entity.receiver.waitingForFinishedAck && retryDue entity.receiver now then
    if maxNakRounds ≤ entity.receiver.retryCount then
      releaseReceiverTerminal .inactivityDetected
    else
      let status ← sendFinishedForReceiverStatus entity.receiver.finishedStatus
      if status = .ok then
        updateReceiver fun receiver => armRetry receiver.countRetry now
      else releaseReceiverTerminal status
  else pure ()

/-- The third part: repeat the EOF PDU. -/
def pollSender (now : Nat) : EntityM Unit := do
  let entity ← Prog.read
  if entity.sender.active && entity.sender.transmissionMode == .acknowledged &&
      !entity.sender.finishedReceived && retryDue entity.sender now then
    if maxNakRounds ≤ entity.sender.retryCount then
      let _ ← senderFail .inactivityDetected
      pure ()
    else
      let status ← sendEof entity.sender.eofChecksum entity.sender.fileSize
      if status = .ok then
        updateSender fun sender => armRetry sender.countRetry now
      else
        let _ ← senderFail status
        pure ()
  else pure ()

def poll (now : UInt64) : EntityM Unit := do
  pollRecovery now.toNat
  pollFinished now.toNat
  pollSender now.toNat

/-! ## The calls -/

inductive Call where
  | sendFile (fs : FilestoreOps) (request : PutRequest)
  | receivePdu (filestore : Option FilestoreOps) (pdu : Bytes)
  | poll (now : UInt64)
  deriving DecidableEq, Repr

def Call.body : Call → EntityM Status
  | .sendFile fs request => do
    let (status, _) ← Cfdp.sendFile fs request
    pure status
  | .receivePdu filestore pdu => Cfdp.receivePdu filestore pdu
  | .poll now => do
    Cfdp.poll now
    pure .ok

end ZephyrCcsds.Cfdp
