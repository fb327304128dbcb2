import ZephyrCcsds.Cfdp.PduRoundTrip
import ZephyrCcsds.Cfdp.ReceiverRuns
import ZephyrCcsds.Cfdp.SenderOutcome

/-! # What one call does

The outcome of `send_file`, `receive_pdu` and `poll` without re-entry, put together from the
outcomes of the two roles.  A call acts on one slot at a time: `Called.only` is the frame, and
`Called.sound` carries the soundness of the receiver slot through runs that also send files.
-/

namespace ZephyrCcsds.Cfdp

open Callback

variable [Kconfig] [ZephyrCrc]

/-- One call without re-entry. -/
inductive Called (entity : Entity) : Call → Trace → Entity → Prop where
  | sendFile {fs : FilestoreOps} {request : PutRequest} {t : Trace} {status : Status}
      {entity' : Entity} : SendFileHandled fs request entity t status entity' →
      Called entity (.sendFile fs request) t entity'
  | unheard {filestore : Option FilestoreOps} {pdu : Bytes} :
      Called entity (.receivePdu filestore pdu) [] entity
  | sender {filestore : Option FilestoreOps} {pdu : Bytes} {t : Trace} {status : Status}
      {entity' : Entity} : SenderStep pdu entity t status entity' →
      Called entity (.receivePdu filestore pdu) t entity'
  | receiver {fs : FilestoreOps} {pdu : Bytes} {t : Trace} {status : Status} {entity' : Entity} :
      receiveFilestoreIsValid fs = true → ReceiverStep fs pdu entity t status entity' →
      Called entity (.receivePdu (some fs) pdu) t entity'
  | poll {now : UInt64} {t u v : Trace} {entity₁ entity₂ entity' : Entity} :
      ReceiverPolled entity now.toNat t entity₁ → ReceiverPolled entity₁ now.toNat u entity₂ →
      SenderPolled entity₂ now.toNat v entity' →
      Called entity (.poll now) (t ++ (u ++ v)) entity'

theorem receivePdu_outcome (filestore : Option FilestoreOps) (pdu : Bytes) (entity : Entity) :
    (receivePdu filestore pdu).wp once
      (fun t _ entity' => Called entity (.receivePdu filestore pdu) t entity') entity := by
  unfold receivePdu
  cases decoded : decodeHeader pdu with
  | error status => exact .unheard
  | ok result =>
    obtain ⟨header, headerLen⟩ := result
    simp only [Prog.wp_ite, Prog.wp_bind, Prog.wp_read, Prog.wp_pure, List.nil_append]
    refine ⟨fun _ => ?_, fun _ => ⟨fun _ => .unheard, fun supported => ?_⟩⟩
    · exact Prog.wp_mono (receivePduTowardSender_outcome header headerLen pdu entity decoded)
        fun _ _ _ step => .sender step
    · rw [Bool.not_eq_true', Bool.not_eq_false] at supported
      cases filestore with
      | none => exact .unheard
      | some fs =>
        simp only [Prog.wp_ite, Prog.wp_pure]
        refine ⟨fun _ => .unheard, fun valid => ?_⟩
        rw [Bool.not_eq_true', Bool.not_eq_false] at valid
        exact Prog.wp_mono
          (receivePduTowardReceiver_outcome fs header headerLen pdu entity decoded supported)
          fun _ _ _ step => .receiver valid step

theorem poll_outcome (now : UInt64) (entity : Entity) :
    (poll now).wp once (fun t _ entity' => Called entity (.poll now) t entity') entity := by
  simp only [poll, Prog.wp_bind]
  refine Prog.wp_mono (pollRecovery_outcome now.toNat entity) ?_
  intro t _ entity₁ first
  refine Prog.wp_mono (pollFinished_outcome now.toNat entity₁) ?_
  intro u _ entity₂ second
  refine Prog.wp_mono (pollSender_outcome now.toNat entity₂) ?_
  intro v _ entity₃ third
  exact .poll first second third

theorem called_outcome {entity entity' : Entity} {step : Step} (quiet : QuietStep entity step entity') :
    Called entity step.call step.trace entity' := by
  obtain ⟨call, t⟩ := step
  obtain ⟨status, run⟩ := quiet
  suffices post : call.body.wp once (fun t _ entity' => Called entity call t entity') entity from
    Prog.wp_of_runs post run
  cases call with
  | sendFile fs request =>
    simp only [Call.body, Prog.wp_bind, Prog.wp_pure, List.append_nil]
    exact Prog.wp_mono (sendFile_outcome fs request entity) fun _ _ _ handled => .sendFile handled
  | receivePdu filestore pdu => exact receivePdu_outcome filestore pdu entity
  | poll now =>
    simp only [Call.body, Prog.wp_bind, Prog.wp_pure, List.append_nil]
    exact poll_outcome now entity

/-! ## Frames -/

omit [Kconfig] [ZephyrCrc]

variable [Kconfig] [ZephyrCrc] {fs : FilestoreOps} {pdu : Bytes} {entity entity' : Entity}
  {call : Call} {t : Trace} {status : Status}

theorem ReceiverStep.only (step : ReceiverStep fs pdu entity t status entity') :
    OnlyReceiver entity entity' := by
  cases step with
  | unhandled => exact .refl _
  | kept _ _ handled => exact handled.only
  | failed _ _ handled => exact handled.only.trans (.withReceiver _ _)

theorem ReceiverStep.sound (step : ReceiverStep fs pdu entity t status entity')
    (sound : ReceiverSound entity.receiver) : ReceiverSound entity'.receiver := by
  cases step with
  | unhandled => exact sound
  | kept _ _ handled => exact handled.sound sound
  | failed => exact receiverSound_zero

theorem Called.sound (called : Called entity call t entity') (sound : ReceiverSound entity.receiver) :
    ReceiverSound entity'.receiver := by
  cases called with
  | sendFile handled => exact handled.only.receiver ▸ sound
  | unheard => exact sound
  | sender step => exact step.only.receiver ▸ sound
  | receiver _ step => exact step.sound sound
  | poll first second third => exact third.only.receiver ▸ second.sound (first.sound sound)

/-- Every run without re-entry keeps the receiver slot sound. -/
theorem receiverSound_of_run {config : EntityConfig} {ut : UtOps} {entity₀ : Entity}
    {steps : List Step} (init : entityInit config ut = .ok entity₀)
    (run : Run QuietStep entity₀ steps entity) : ReceiverSound entity.receiver := by
  apply @Run.invariant _ _ _ _ _ _ (fun entity => ReceiverSound entity.receiver) _ _ run
  · exact fun _ _ _ sound quiet => (called_outcome quiet).sound sound
  · rw [init_receiver init]
    exact receiverSound_zero

/-! ## Ids are 64-bit numbers -/

/-- The ids of a slot, with which its headers are built. -/
structure TransactionSlot.Bounded (slot : TransactionSlot) : Prop where
  source : slot.id.sourceEntityId < 2 ^ 64
  sequence : slot.id.transactionSequenceNumber < 2 ^ 64
  peer : slot.peerEntityId < 2 ^ 64

structure Entity.Bounded (entity : Entity) : Prop where
  localEntityId : entity.localEntityId < 2 ^ 64
  remoteEntityId : entity.remoteEntityId < 2 ^ 64
  next : entity.nextTransactionSequenceNumber < 2 ^ 64
  sender : entity.sender.Bounded
  receiver : entity.receiver.Bounded

omit [Kconfig] [ZephyrCrc] in
theorem bounded_zero : TransactionSlot.zero.Bounded := ⟨by decide, by decide, by decide⟩

omit [Kconfig] [ZephyrCrc] in
theorem Entity.Bounded.senderHeader (bounded : entity.Bounded) (kind : PduType) :
    (senderHeader entity kind).Bounded :=
  ⟨bounded.sender.source, bounded.sender.sequence, bounded.sender.peer⟩

omit [Kconfig] [ZephyrCrc] in
theorem Entity.Bounded.receiverHeader (bounded : entity.Bounded) :
    (receiverResponseHeader entity).Bounded :=
  ⟨bounded.receiver.source, bounded.receiver.sequence, bounded.localEntityId⟩

section Bounds

omit [Kconfig] [ZephyrCrc]

variable {slot : TransactionSlot}

theorem Entity.Bounded.withReceiver (bounded : entity.Bounded) (ids : slot.Bounded) :
    (entity.withReceiver slot).Bounded :=
  ⟨bounded.localEntityId, bounded.remoteEntityId, bounded.next, bounded.sender, ids⟩

theorem Entity.Bounded.withSender (bounded : entity.Bounded) (ids : slot.Bounded) :
    (entity.withSender slot).Bounded :=
  ⟨bounded.localEntityId, bounded.remoteEntityId, bounded.next, ids, bounded.receiver⟩

theorem Entity.Bounded.withBuf (bounded : entity.Bounded) (buf : Bytes) :
    (entity.withBuf buf).Bounded :=
  ⟨bounded.localEntityId, bounded.remoteEntityId, bounded.next, bounded.sender, bounded.receiver⟩

theorem Entity.Bounded.releaseReceiver (bounded : entity.Bounded) :
    (entity.withReceiver .zero).Bounded := bounded.withReceiver bounded_zero

theorem Entity.Bounded.releaseSender (bounded : entity.Bounded) :
    (entity.withSender .zero).Bounded := bounded.withSender bounded_zero

/-- Only the ids of a slot are bounded. -/
theorem TransactionSlot.Bounded.congr {slot' : TransactionSlot} (bounded : slot.Bounded)
    (id : slot'.id = slot.id) (peer : slot'.peerEntityId = slot.peerEntityId) : slot'.Bounded :=
  ⟨id ▸ bounded.source, id ▸ bounded.sequence, peer ▸ bounded.peer⟩

end Bounds

variable {result : Status}

omit [ZephyrCrc] in
theorem Finished.bounded (finished : Finished fs entity status t result entity')
    (bounded : entity.Bounded) : entity'.Bounded := by
  obtain ⟨_, settled⟩ := finished
  cases settled with
  | awaiting | silent => exact bounded.withReceiver (bounded.receiver.congr rfl rfl)
  | unreported | released => exact bounded.releaseReceiver

omit [ZephyrCrc] in
theorem MetadataHandled.bounded (handled : MetadataHandled fs pdu entity t status entity')
    (bounded : entity.Bounded) : entity'.Bounded := by
  cases handled with
  | skipped => exact bounded
  | refused => exact bounded.releaseReceiver
  | opened accepts =>
    obtain ⟨_, decoded, _⟩ := decodeMetadata_header accepts.decoded
    have ids := decodeHeader_bounded decoded
    exact bounded.withReceiver ⟨ids.source, ids.sequence, ids.source⟩

theorem FiledataHandled.bounded (handled : FiledataHandled fs pdu entity t status entity')
    (bounded : entity.Bounded) : entity'.Bounded := by
  have kept : ∀ {slot : TransactionSlot}, slot.id = entity.receiver.id →
      slot.peerEntityId = entity.receiver.peerEntityId → (entity.withReceiver slot).Bounded :=
    fun id peer => bounded.withReceiver (bounded.receiver.congr id peer)
  cases handled with
  | skipped | unwritten | unranged => exact bounded
  | unsummed | written => exact kept rfl rfl
  | completed _ _ _ _ _ _ _ finished =>
    apply finished.bounded
    apply Entity.Bounded.withBuf
    exact kept rfl rfl

theorem EofHandled.bounded (handled : EofHandled fs pdu entity t status entity')
    (bounded : entity.Bounded) : entity'.Bounded := by
  have kept : ∀ {entity : Entity} {slot : TransactionSlot}, entity.Bounded →
      slot.id = entity.receiver.id → slot.peerEntityId = entity.receiver.peerEntityId →
      (entity.withReceiver slot).Bounded :=
    fun bounded id peer => bounded.withReceiver (bounded.receiver.congr id peer)
  cases handled with
  | skipped | repeated => exact bounded
  | unacknowledged => exact kept bounded rfl rfl
  | refused _ _ _ _ _ finished => exact finished.bounded (kept bounded rfl rfl)
  | @taken eof _ _ _ _ _ _ _ _ _ _ completed =>
    have taken : (entity.withReceiver
        (entity.receiver.withEofChecksum eof.fileChecksum)).Bounded := kept bounded rfl rfl
    cases completed with
    | unchecked _ finished | short _ _ finished => exact finished.bounded taken
    | asked => exact kept taken rfl rfl
    | unasked _ _ _ _ finished => exact finished.bounded (kept taken rfl rfl)
    | complete _ _ finished => exact finished.bounded (taken.withBuf _)

theorem ReceiverStep.bounded (step : ReceiverStep fs pdu entity t status entity')
    (bounded : entity.Bounded) : entity'.Bounded := by
  have handled : ∀ {t : Trace} {status : Status} {entity' : Entity},
      Handled fs pdu entity t status entity' → entity'.Bounded := by
    intro t status entity' handled
    cases handled with
    | ignored => exact bounded
    | metadata _ handled => exact handled.bounded bounded
    | filedata _ handled => exact handled.bounded bounded
    | eof handled => exact handled.bounded bounded
    | ack _ handled =>
      cases handled with
      | skipped => exact bounded
      | released => exact bounded.releaseReceiver
  cases step with
  | unhandled => exact bounded
  | kept _ _ done => exact handled done
  | failed _ _ done => exact (handled done).releaseReceiver

omit [ZephyrCrc] in
theorem ReceiverPolled.bounded {now : Nat} (polled : ReceiverPolled entity now t entity')
    (bounded : entity.Bounded) : entity'.Bounded := by
  cases polled with
  | idle => exact bounded
  | askedAgain | reportedAgain => exact bounded.withReceiver (bounded.receiver.congr rfl rfl)
  | recoveryEnded | waitEnded => exact bounded.releaseReceiver

omit [ZephyrCrc] in
theorem SenderHandled.bounded (handled : SenderHandled pdu entity t status entity')
    (bounded : entity.Bounded) : entity'.Bounded := by
  have recorded : ∀ status, (entity.recordFinished status).Bounded := fun status =>
    ⟨bounded.localEntityId, bounded.remoteEntityId, bounded.next, bounded.sender.congr rfl rfl,
      bounded.receiver⟩
  cases handled with
  | ignored => exact bounded
  | finished handled =>
    cases handled with
    | skipped => exact bounded
    | recorded => exact recorded _
    | unacknowledged | acknowledged => exact (recorded _).releaseSender
  | nak handled =>
    cases handled with
    | skipped => exact bounded
    | unreadable => exact bounded.releaseSender
    | answered _ _ answered =>
      cases answered with
      | refused => exact bounded.releaseSender
      | unsent | unended => exact bounded.releaseSender.withBuf _
      | answered =>
        apply Entity.Bounded.withBuf
        exact bounded.withSender (bounded.sender.congr rfl rfl)

omit [ZephyrCrc] in
theorem SenderStep.bounded (step : SenderStep pdu entity t status entity')
    (bounded : entity.Bounded) : entity'.Bounded := by
  cases step with
  | unhandled => exact bounded
  | kept _ _ handled => exact handled.bounded bounded
  | failed _ _ handled => exact (handled.bounded bounded).releaseSender

omit [ZephyrCrc] in
theorem SenderPolled.bounded {now : Nat} (polled : SenderPolled entity now t entity')
    (bounded : entity.Bounded) : entity'.Bounded := by
  cases polled with
  | idle => exact bounded
  | spent | unsent => exact bounded.releaseSender
  | repeated => exact bounded.withSender (bounded.sender.congr rfl rfl)

omit [Kconfig] [ZephyrCrc] in
/-- The new transaction takes its ids from the configuration and the counter. -/
theorem Entity.Bounded.startSend (bounded : entity.Bounded) (request : PutRequest)
    (source destination : Bytes) : (entity.startSend request source destination).Bounded := by
  have wraps : ∀ n m : Nat, n % 2 ^ 64 % m < 2 ^ 64 := fun n m =>
    (Nat.mod_le _ _).trans_lt (Nat.mod_lt _ (by decide))
  unfold Entity.startSend advanceTransactionSequenceNumber
  by_cases limit : transactionSequenceLimit entity.transactionSequenceNumberLen = 2 ^ 64 - 1
  · simp only [limit, if_true]
    exact ⟨bounded.localEntityId, bounded.remoteEntityId, Nat.mod_lt _ (by decide),
      ⟨bounded.localEntityId, bounded.next, bounded.remoteEntityId⟩, bounded.receiver⟩
  · simp only [limit, if_false]
    exact ⟨bounded.localEntityId, bounded.remoteEntityId, wraps _ _,
      ⟨bounded.localEntityId, bounded.next, bounded.remoteEntityId⟩, bounded.receiver⟩

theorem Transferred.bounded {request : PutRequest} {source destination : Bytes}
    {init : ChecksumState} {handle : Handle} {fileSize : Nat} {keep : Bool}
    (transferred : Transferred fs request source destination init handle fileSize entity t status
      keep entity') (bounded : entity.Bounded) : entity'.Bounded := by
  cases transferred with
  | unannounced => exact bounded
  | interrupted | unsummed => exact bounded.withBuf _
  | ended | awaiting =>
    apply Entity.Bounded.withBuf
    exact bounded.withSender (bounded.sender.congr rfl rfl)

theorem Called.bounded (called : Called entity call t entity') (bounded : entity.Bounded) :
    entity'.Bounded := by
  have ended : ∀ {entity : Entity}, entity.Bounded → entity.endSend.Bounded := fun bounded =>
    ⟨bounded.localEntityId, bounded.remoteEntityId, bounded.next, bounded_zero, bounded.receiver⟩
  have opened : ∀ {request : PutRequest} {source destination : Bytes} {fs : FilestoreOps}
      {reply : OpenReadReply}, ((entity.startSend request source destination).openSource fs
        request.checksumType reply).Bounded := by
    intro request source destination fs reply
    have started := bounded.startSend request source destination
    exact started.withSender (started.sender.congr rfl rfl)
  cases called with
  | unheard => exact bounded
  | sender step => exact step.bounded bounded
  | receiver _ step => exact step.bounded bounded
  | poll first second third => exact third.bounded (second.bounded (first.bounded bounded))
  | sendFile handled =>
    cases handled with
    | rejected => exact bounded
    | unopened => exact ended (bounded.startSend _ _ _)
    | released _ _ _ transferred => exact ended (transferred.bounded opened)
    | kept _ _ _ transferred => exact transferred.bounded opened

omit [ZephyrCrc] in
theorem bounded_of_init {config : EntityConfig} {ut : UtOps} {entity₀ : Entity}
    (init : entityInit config ut = .ok entity₀) : entity₀.Bounded := by
  rw [entityInit] at init
  split_ifs at init
  cases init
  exact ⟨config.localEntityId.toNat_lt, config.remoteEntityId.toNat_lt,
    config.initialTransactionSequenceNumber.toNat_lt, bounded_zero, bounded_zero⟩

theorem bounded_of_run {config : EntityConfig} {ut : UtOps} {entity₀ : Entity} {steps : List Step}
    (init : entityInit config ut = .ok entity₀) (run : Run QuietStep entity₀ steps entity) :
    entity.Bounded := by
  apply @Run.invariant _ _ _ _ _ _ Entity.Bounded _ (bounded_of_init init) run
  exact fun _ _ _ bounded quiet => (called_outcome quiet).bounded bounded

end ZephyrCcsds.Cfdp

/-! ## A sender to play -/

namespace ZephyrCcsds.Cfdp

/-- A file is to be sent from `b` to `c`, in acknowledged mode. -/
def sendingRequest : PutRequest where
  sourcePath := some [98]
  destinationPath := some [99]
  checksumType := .modular
  closureRequested := false
  acknowledgedMode := true

/-- Entity 2 sends that file, of one octet. -/
def sendingStep : Step where
  call := .sendFile wholeFilestore sendingRequest
  trace :=
    [⟨.openRead wholeFilestore [98], { rc := 0, handle := 5, size := 1 }⟩,
      ⟨.sendPdu 1 [0x20, 0, 10, 0, 2, 0, 1, 7, 0, 0, 0, 0, 1, 1, 98, 1, 99], (0 : Int)⟩,
      ⟨.read wholeFilestore 5 0 1, { rc := 0, nread := 1, data := [104] }⟩,
      ⟨.sendPdu 1 [0x30, 0, 5, 0, 2, 0, 1, 0, 0, 0, 0, 104], (0 : Int)⟩,
      ⟨.sendPdu 1 [0x20, 0, 10, 0, 2, 0, 1, 4, 0, 104, 0, 0, 0, 0, 0, 0, 1], (0 : Int)⟩]

end ZephyrCcsds.Cfdp
