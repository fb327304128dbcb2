import ZephyrCcsds.Callback.Program
import ZephyrCcsds.Cfdp.Checksum
import ZephyrCcsds.Cfdp.Ranges

/-! # The CFDP entity

`ccsds_cfdp_entity.c` as programs over the entity that call out through the unitdata
transfer, filestore and event function pointers.  Counters and offsets are natural numbers;
the additions that can wrap carry the modulus of their C type.  The PDU buffer of the
entity is written by an encoder and read by the send that follows it, so it is no part of
the state; the file segment buffer is, because a send made from it may overwrite it.
-/

namespace ZephyrCcsds.Cfdp

open Callback

/-! ## State -/

structure TransactionId where
  sourceEntityId : Nat
  transactionSequenceNumber : Nat
  deriving DecidableEq, Repr

inductive EventType where
  | transactionStarted
  | metadataRecv
  | fileSegmentRecv
  | eofRecv
  | nakSent
  | nakRecv
  | retransmit
  | finishedSent
  | finishedRecv
  | complete
  | failed
  deriving DecidableEq, Repr

/-- A filestore table: its `user` pointer and which function pointers are not `NULL`. -/
structure FilestoreOps where
  user : Nat
  openRead : Bool
  openWriteTmp : Bool
  read : Bool
  write : Bool
  close : Bool
  commitTmp : Bool
  discardTmp : Bool
  deriving DecidableEq, Repr

/-- A file handle, an untyped pointer; `NULL` is `0`. -/
abbrev Handle : Type := Nat

structure TransactionSlot where
  active : Bool
  id : TransactionId
  peerEntityId : Nat
  filestore : Option FilestoreOps
  metadataReceived : Bool
  fileHandleOpen : Bool
  fileHandle : Handle
  fileSize : Nat
  eofChecksum : Nat
  checksumType : ChecksumType
  transmissionMode : TransmissionMode
  checksumState : ChecksumState
  receivedRanges : Ranges
  sourcePath : Bytes
  destinationPath : Bytes
  closureRequested : Bool
  eofReceived : Bool
  finishedReceived : Bool
  recoveryPending : Bool
  waitingForFinishedAck : Bool
  nakRetryCount : Nat
  retryCount : Nat
  retryDeadlineMs : Nat
  finishedStatus : Status
  deriving DecidableEq, Repr

/-- The slot after `memset` with zero octets. -/
def TransactionSlot.zero : TransactionSlot where
  active := false
  id := { sourceEntityId := 0, transactionSequenceNumber := 0 }
  peerEntityId := 0
  filestore := none
  metadataReceived := false
  fileHandleOpen := false
  fileHandle := 0
  fileSize := 0
  eofChecksum := 0
  checksumType := .modular
  transmissionMode := .acknowledged
  checksumState :=
    { type := .modular, value := 0, nextOffset := 0, crcStarted := false, deferred := false }
  receivedRanges := rangesInit
  sourcePath := []
  destinationPath := []
  closureRequested := false
  eofReceived := false
  finishedReceived := false
  recoveryPending := false
  waitingForFinishedAck := false
  nakRetryCount := 0
  retryCount := 0
  retryDeadlineMs := 0
  finishedStatus := .ok

structure PutRequest where
  sourcePath : Option Bytes
  destinationPath : Option Bytes
  checksumType : ChecksumType
  closureRequested : Bool
  acknowledgedMode : Bool
  deriving DecidableEq, Repr

/-- The entity; `nowMs` and `eventCb` say whether those function pointers are set. -/
structure Entity where
  localEntityId : Nat
  remoteEntityId : Nat
  entityIdLen : Nat
  transactionSequenceNumberLen : Nat
  nextTransactionSequenceNumber : Nat
  nowMs : Bool
  eventCb : Bool
  sender : TransactionSlot
  receiver : TransactionSlot
  senderCompletionAvailable : Bool
  senderCompletionStatus : Status
  fileSegmentBuf : Bytes
  deriving DecidableEq, Repr

namespace Entity

def withSender (entity : Entity) (sender : TransactionSlot) : Entity := { entity with sender }

def withReceiver (entity : Entity) (receiver : TransactionSlot) : Entity := { entity with receiver }

def withBuf (entity : Entity) (fileSegmentBuf : Bytes) : Entity := { entity with fileSegmentBuf }

end Entity

/-! ## Callbacks -/

/-- Which slot an event is emitted for.  The event itself carries only the transaction id. -/
inductive Role where
  | sender
  | receiver
  deriving DecidableEq, Repr

inductive Op where
  | sendPdu (dest : Nat) (pdu : Bytes)
  | nowMs
  | event (role : Role) (type : EventType) (id : TransactionId) (status : Status)
  | openRead (fs : FilestoreOps) (path : Bytes)
  | openWriteTmp (fs : FilestoreOps) (path : Bytes)
  | read (fs : FilestoreOps) (handle : Handle) (offset len : Nat)
  | write (fs : FilestoreOps) (handle : Handle) (offset : Nat) (data : Bytes)
  | close (fs : FilestoreOps) (handle : Handle)
  | commitTmp (fs : FilestoreOps) (path : Bytes)
  | discardTmp (fs : FilestoreOps) (path : Bytes)
  deriving DecidableEq, Repr

structure OpenReadReply where
  rc : Int
  handle : Handle
  size : UInt32
  deriving DecidableEq, Repr

structure OpenWriteReply where
  rc : Int
  handle : Handle
  deriving DecidableEq, Repr

/-- The octets a read stored in the buffer and the number it reports. -/
structure ReadReply where
  rc : Int
  nread : Nat
  data : Bytes
  deriving DecidableEq, Repr

@[reducible] def Res : Op → Type
  | .sendPdu .. => Int
  | .nowMs => UInt64
  | .event .. => Unit
  | .openRead .. => OpenReadReply
  | .openWriteTmp .. => OpenWriteReply
  | .read .. => ReadReply
  | .write .. => Int
  | .close .. => Int
  | .commitTmp .. => Int
  | .discardTmp .. => Int

abbrev EntityM (α : Type) : Type := Prog Op Res Entity α

abbrev call (op : Op) : EntityM (Res op) := Prog.call op

abbrev callIf (c : Bool) (op : Op) (default : Res op) : EntityM (Res op) :=
  Prog.callIf c op default

def updateSender (f : TransactionSlot → TransactionSlot) : EntityM Unit :=
  Prog.modify fun entity => entity.withSender (f entity.sender)

def updateReceiver (f : TransactionSlot → TransactionSlot) : EntityM Unit :=
  Prog.modify fun entity => entity.withReceiver (f entity.receiver)

/-! ## Transaction ids, events and paths -/

def transactionSequenceLimit (len : Nat) : Nat :=
  if maxEncodedIntLen ≤ len then 2 ^ 64 - 1 else 2 ^ (len * 8)

def advanceTransactionSequenceNumber (entity : Entity) : Entity :=
  let limit := transactionSequenceLimit entity.transactionSequenceNumberLen
  if limit = 2 ^ 64 - 1 then
    { entity with
      nextTransactionSequenceNumber := (entity.nextTransactionSequenceNumber + 1) % 2 ^ 64 }
  else
    { entity with
      nextTransactionSequenceNumber := (entity.nextTransactionSequenceNumber + 1) % 2 ^ 64 % limit }

def transactionIdFromHeader (header : PduHeader) : TransactionId where
  sourceEntityId := header.sourceEntityId
  transactionSequenceNumber := header.transactionSequenceNumber

def emitEvent (role : Role) (type : EventType) (id : TransactionId) (status : Status) :
    EntityM Unit := do
  let entity ← Prog.read
  callIf entity.eventCb (.event role type id status) ()

def terminalEventType (status : Status) : EventType :=
  if status = .ok then .complete else .failed

def emitTerminalEvent (role : Role) (id : TransactionId) (status : Status) : EntityM Unit :=
  emitEvent role (terminalEventType status) id status

/-- The octets of a string before its terminator. -/
def cString (str : Bytes) : Bytes := str.takeWhile (· ≠ 0)

def boundedStrlen (str : Bytes) (maxLen : Nat) : Nat := min (cString str).length (maxLen + 1)

section Paths

variable [Kconfig]

/-- The length of a valid path. -/
def pathLenIsValid (path : Option Bytes) : Option Nat :=
  match path with
  | none => none
  | some path =>
    let len := boundedStrlen path maxFilenameLen
    if len = 0 ∨ maxFilenameLen < len then none else some len

end Paths

/-! ## Headers -/

def senderHeader (entity : Entity) (pduType : PduType) : PduHeader where
  version := cfdpVersion1
  pduType
  direction := .towardReceiver
  transmissionMode := entity.sender.transmissionMode
  crcFlag := .notPresent
  fileSizeMode := .small
  pduDataFieldLen := 0
  segmentationControl := .recordBoundariesNotPreserved
  segmentMetadataPresent := false
  entityIdLen := entity.entityIdLen
  transactionSequenceNumberLen := entity.transactionSequenceNumberLen
  sourceEntityId := entity.sender.id.sourceEntityId
  transactionSequenceNumber := entity.sender.id.transactionSequenceNumber
  destinationEntityId := entity.sender.peerEntityId

def receiverResponseHeader (entity : Entity) : PduHeader where
  version := cfdpVersion1
  pduType := .fileDirective
  direction := .towardSender
  transmissionMode := entity.receiver.transmissionMode
  crcFlag := .notPresent
  fileSizeMode := .small
  pduDataFieldLen := 0
  segmentationControl := .recordBoundariesNotPreserved
  segmentMetadataPresent := false
  entityIdLen := entity.entityIdLen
  transactionSequenceNumberLen := entity.transactionSequenceNumberLen
  sourceEntityId := entity.receiver.id.sourceEntityId
  transactionSequenceNumber := entity.receiver.id.transactionSequenceNumber
  destinationEntityId := entity.localEntityId

def incomingHeaderIsSupported (entity : Entity) (header : PduHeader) : Bool :=
  header.destinationEntityId == entity.localEntityId &&
    header.sourceEntityId == entity.remoteEntityId &&
    header.entityIdLen == entity.entityIdLen &&
    header.transactionSequenceNumberLen == entity.transactionSequenceNumberLen &&
    header.direction == .towardReceiver &&
    header.crcFlag == .notPresent

def incomingFinishedHeaderIsSupported (entity : Entity) (header : PduHeader) : Bool :=
  header.sourceEntityId == entity.localEntityId &&
    header.destinationEntityId == entity.remoteEntityId &&
    header.entityIdLen == entity.entityIdLen &&
    header.transactionSequenceNumberLen == entity.transactionSequenceNumberLen &&
    header.direction == .towardSender &&
    header.crcFlag == .notPresent

def senderNakHeaderIsSupported (entity : Entity) (header : PduHeader) : Bool :=
  incomingFinishedHeaderIsSupported entity header && header.transmissionMode == .acknowledged

def senderActiveMatchesHeader (entity : Entity) (header : PduHeader) : Bool :=
  entity.sender.active && entity.sender.id == transactionIdFromHeader header

def receiverActiveMatchesHeader (entity : Entity) (header : PduHeader) : Bool :=
  entity.receiver.active && entity.receiver.id == transactionIdFromHeader header

def receiverMatchActive (entity : Entity) (header : PduHeader) : Status :=
  if !entity.receiver.active || !entity.receiver.metadataReceived then .invalidArgument
  else if entity.receiver.id ≠ transactionIdFromHeader header then .transactionBusy
  else .ok

def filestoreIsValid : Option FilestoreOps → Bool
  | none => false
  | some fs => fs.openRead && fs.read && fs.close

def receiveFilestoreIsValid (fs : FilestoreOps) : Bool :=
  fs.openWriteTmp && fs.read && fs.write && fs.close && fs.commitTmp && fs.discardTmp

/-! ## Sending -/

/-- Send what an encoder produced, or return its error. -/
def sendEncodedPduTo (dest : Nat) (encoded : Except Status Bytes) : EntityM Status :=
  match encoded with
  | .error status => pure status
  | .ok pdu => do
    let rc ← call (.sendPdu dest pdu)
    pure (if rc = 0 then .ok else .invalidArgument)

def sendEncodedPdu (encoded : Except Status Bytes) : EntityM Status := do
  let entity ← Prog.read
  sendEncodedPduTo entity.sender.peerEntityId encoded

def finishedConditionFromStatus : Status → Nat
  | .filestoreRejection => conditionFilestoreRejection
  | .checksumFailure => conditionFileChecksumFailure
  | .fileSizeError => conditionFileSizeError
  | .nakLimitReached => conditionNakLimitReached
  | .ok => conditionNoError
  | _ => conditionCancelRequestReceived

def finishedDeliveryCodeFromStatus (status : Status) : DeliveryCode :=
  if status = .ok then .dataComplete else .dataIncomplete

def finishedFileStatusFromStatus : Status → FileStatus
  | .ok => .retained
  | .filestoreRejection => .discardedFilestoreRejection
  | _ => .discardedDeliberately

def armRetry [Kconfig] (slot : TransactionSlot) (now : Nat) : TransactionSlot :=
  { slot with retryDeadlineMs := (now + retryIntervalMs) % 2 ^ 64 }

def TransactionSlot.countRetry (slot : TransactionSlot) : TransactionSlot :=
  { slot with retryCount := (slot.retryCount + 1) % 2 ^ 32 }

def retryDue (slot : TransactionSlot) (now : Nat) : Bool :=
  decide (slot.retryDeadlineMs = 0) || decide (slot.retryDeadlineMs ≤ now)

def entityNowMs : EntityM Nat := do
  let entity ← Prog.read
  let now ← callIf entity.nowMs .nowMs 0
  pure now.toNat

section Send

variable [Kconfig]

def metadataPdu (entity : Entity) (request : PutRequest) (source destination : Bytes)
    (fileSize : Nat) : MetadataPdu where
  header := senderHeader entity .fileDirective
  closureRequested := request.closureRequested
  checksumType := request.checksumType
  fileSize
  sourceFilename := source
  destinationFilename := destination

def sendMetadata (request : PutRequest) (source destination : Bytes) (fileSize : Nat) :
    EntityM Status := do
  let entity ← Prog.read
  sendEncodedPdu (encodeMetadata (metadataPdu entity request source destination fileSize) maxPduSize)

def filedataPdu (entity : Entity) (offset : Nat) (data : Bytes) : FiledataPdu where
  header := senderHeader entity .fileData
  offset
  data

def sendFiledata (offset : Nat) (data : Bytes) : EntityM Status := do
  let entity ← Prog.read
  sendEncodedPdu (encodeFiledata (filedataPdu entity offset data) maxPduSize)

def eofPdu (entity : Entity) (checksum fileSize : Nat) : EofPdu where
  header := senderHeader entity .fileDirective
  conditionCode := conditionNoError
  fileChecksum := checksum
  fileSize

def sendEof (checksum fileSize : Nat) : EntityM Status := do
  let entity ← Prog.read
  sendEncodedPdu (encodeEof (eofPdu entity checksum fileSize) maxPduSize)

def ackEofPdu (entity : Entity) (code : Nat) : AckPdu where
  header := receiverResponseHeader entity
  acknowledgedDirective := directiveEof
  directiveSubtype := ackDirectiveSubtypeOther
  conditionCode := code
  transactionStatus := .active

def sendAckEof (code : Nat) : EntityM Status := do
  let entity ← Prog.read
  sendEncodedPduTo entity.receiver.peerEntityId (encodeAck (ackEofPdu entity code) maxPduSize)

def ackFinishedPdu (entity : Entity) (code : Nat) : AckPdu where
  header := senderHeader entity .fileDirective
  acknowledgedDirective := directiveFinished
  directiveSubtype := ackDirectiveSubtypeFinished
  conditionCode := code
  transactionStatus := .terminated

def sendAckFinished (code : Nat) : EntityM Status := do
  let entity ← Prog.read
  sendEncodedPdu (encodeAck (ackFinishedPdu entity code) maxPduSize)

def nakPdu (entity : Entity) (missing : Ranges) : NakPdu where
  header := receiverResponseHeader entity
  scopeStart := 0
  scopeEnd := entity.receiver.fileSize
  ranges := missing.map fun range => { start := range.start, stop := range.stop }

def sendNakForMissingRanges : EntityM Status := do
  let entity ← Prog.read
  match rangesMissing entity.receiver.receivedRanges 0 entity.receiver.fileSize with
  | .error status => pure (if status = .bufferTooSmall then .nakLimitReached else status)
  | .ok missing =>
    sendEncodedPduTo entity.receiver.peerEntityId (encodeNak (nakPdu entity missing) maxPduSize)

def finishedPdu (entity : Entity) (status : Status) : FinishedPdu where
  header := receiverResponseHeader entity
  conditionCode := finishedConditionFromStatus status
  deliveryCode := finishedDeliveryCodeFromStatus status
  fileStatus := finishedFileStatusFromStatus status

def sendFinishedForReceiverStatus (status : Status) : EntityM Status := do
  let entity ← Prog.read
  sendEncodedPduTo entity.receiver.peerEntityId
    (encodeFinished (finishedPdu entity status) maxPduSize)

end Send

/-! ## Releasing a transaction -/

def TransactionSlot.withFinishedStatus (slot : TransactionSlot) (status : Status) :
    TransactionSlot :=
  { slot with finishedStatus := status }

def TransactionSlot.withoutHandle (slot : TransactionSlot) : TransactionSlot :=
  { slot with fileHandleOpen := false, fileHandle := 0 }

/-- The `close` of a slot's open handle, if its filestore has one. -/
def closeSlotHandle (slot : TransactionSlot) : EntityM Unit :=
  match slot.filestore with
  | none => pure ()
  | some fs => do
    let _ ← callIf (slot.fileHandleOpen && fs.close) (.close fs slot.fileHandle) 0
    pure ()

def closeSenderHandle : EntityM Unit := do
  let entity ← Prog.read
  closeSlotHandle entity.sender
  updateSender TransactionSlot.withoutHandle

def closeDiscardReceiver : EntityM Unit := do
  let entity ← Prog.read
  match entity.receiver.filestore with
  | none => pure ()
  | some fs =>
    closeSlotHandle entity.receiver
    updateReceiver TransactionSlot.withoutHandle
    let _ ← callIf fs.discardTmp (.discardTmp fs (cString entity.receiver.destinationPath)) 0
    pure ()

def releaseSenderTransaction : EntityM Unit := do
  closeSenderHandle
  updateSender fun _ => .zero

def releaseReceiverTransaction : EntityM Unit := updateReceiver fun _ => .zero

def releaseSenderTerminal (status : Status) : EntityM Unit := do
  let entity ← Prog.read
  emitTerminalEvent .sender entity.sender.id status
  releaseSenderTransaction

def releaseReceiverTerminal (status : Status) : EntityM Unit := do
  let entity ← Prog.read
  emitTerminalEvent .receiver entity.receiver.id status
  releaseReceiverTransaction

def failReceiverActiveTransaction (status : Status) : EntityM Unit := do
  let entity ← Prog.read
  Prog.runIf (!entity.receiver.waitingForFinishedAck) closeDiscardReceiver
  releaseReceiverTerminal status

def senderFail (status : Status) : EntityM Status := do
  updateSender fun sender => sender.withFinishedStatus status
  closeSenderHandle
  releaseSenderTerminal status
  pure status

/-! ## Reading the file -/

/-- The buffer after a read of at most `len` octets stored `data` at its start. -/
def fillBuffer (buf : Bytes) (len : Nat) (data : Bytes) : Bytes :=
  data.take len ++ buf.drop (min len data.length)

/-- One `read` into the file segment buffer: the return code and `nread`. -/
def readSegment (fs : FilestoreOps) (handle : Handle) (offset len : Nat) : EntityM (Int × Nat) := do
  let reply ← call (.read fs handle offset len)
  Prog.modify fun entity => entity.withBuf (fillBuffer entity.fileSegmentBuf len reply.data)
  pure (reply.rc, reply.nread)

/-! ## Initialisation -/

structure EntityConfig where
  localEntityId : UInt64
  remoteEntityId : UInt64
  entityIdLen : Nat
  transactionSequenceNumberLen : Nat
  initialTransactionSequenceNumber : UInt64
  eventCb : Bool
  deriving DecidableEq, Repr

/-- The unitdata transfer table: which function pointers are not `NULL`. -/
structure UtOps where
  sendPdu : Bool
  nowMs : Bool
  deriving DecidableEq, Repr

def entityInit [Kconfig] (config : EntityConfig) (ut : UtOps) : Except Status Entity :=
  if !encodedIntLenIsValid config.entityIdLen maxEntityIdLen ||
      !encodedIntLenIsValid config.transactionSequenceNumberLen maxTransSeqLen ||
      !valueFitsLen config.localEntityId.toNat config.entityIdLen ||
      !valueFitsLen config.remoteEntityId.toNat config.entityIdLen ||
      !valueFitsLen config.initialTransactionSequenceNumber.toNat
        config.transactionSequenceNumberLen ||
      !ut.sendPdu then .error .invalidArgument
  else .ok
    { localEntityId := config.localEntityId.toNat
      remoteEntityId := config.remoteEntityId.toNat
      entityIdLen := config.entityIdLen
      transactionSequenceNumberLen := config.transactionSequenceNumberLen
      nextTransactionSequenceNumber := config.initialTransactionSequenceNumber.toNat
      nowMs := ut.nowMs
      eventCb := config.eventCb
      sender := .zero
      receiver := .zero
      senderCompletionAvailable := false
      senderCompletionStatus := .ok
      fileSegmentBuf := List.replicate maxSegmentSize 0 }

section Init

variable [Kconfig] {config : EntityConfig} {ut : UtOps} {fresh : Entity}

theorem init_sender (init : entityInit config ut = .ok fresh) : fresh.sender = .zero := by
  rw [entityInit] at init
  split_ifs at init
  cases init
  rfl

theorem init_receiver (init : entityInit config ut = .ok fresh) : fresh.receiver = .zero := by
  rw [entityInit] at init
  split_ifs at init
  cases init
  rfl

end Init

end ZephyrCcsds.Cfdp
