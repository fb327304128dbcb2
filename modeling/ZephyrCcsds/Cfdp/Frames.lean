import ZephyrCcsds.Callback.Frame
import ZephyrCcsds.Cfdp.Quiet

/-! # What the entity leaves alone

With callbacks that call the entity again.  The receiver's half moves along every relation that
ignores the receiver slot and the file segment buffer, whatever the callbacks do along it
(`ReceiverFree`); the sender's half moves along every relation that ignores the sender
(`SenderFree`, and `SenderSlotFree` up to the sequence number), and most of it along any that looks
only at whether the sender is active, its mode and its Finished flag (`SenderTolerant`).
-/

namespace ZephyrCcsds.Cfdp

open Callback Callback.Prog

variable [Kconfig] [ZephyrCrc] {τ : Type} {E : Environment Op Res Entity τ}
  {R : Entity → List τ → Entity → Prop} [Composes R]

/-- A relation that does not look at the receiver slot or at the file segment buffer. -/
structure ReceiverFree (R : Entity → List τ → Entity → Prop) : Prop where
  receiver : ∀ entity slot, R entity [] (entity.withReceiver slot)
  buf : ∀ entity buf, R entity [] (entity.withBuf buf)

/-- A relation that looks only at three fields of the sender slot and allows the sender to be
released. -/
structure SenderTolerant (R : Entity → List τ → Entity → Prop) : Prop where
  kept : ∀ entity slot, slot.active = entity.sender.active →
    slot.transmissionMode = entity.sender.transmissionMode →
    slot.finishedReceived = entity.sender.finishedReceived → R entity [] (entity.withSender slot)
  released : ∀ entity, R entity [] (entity.withSender .zero)
  buf : ∀ entity buf, R entity [] (entity.withBuf buf)

/-- A relation that does not look at the sender's transaction. -/
structure SenderSlotFree (R : Entity → List τ → Entity → Prop) : Prop where
  sender : ∀ entity slot, R entity [] (entity.withSender slot)
  buf : ∀ entity buf, R entity [] (entity.withBuf buf)
  completion : ∀ entity available status, R entity []
    { entity with senderCompletionAvailable := available, senderCompletionStatus := status }

/-- A relation that does not look at the sender. -/
structure SenderFree (R : Entity → List τ → Entity → Prop) : Prop extends SenderSlotFree R where
  sequence : ∀ entity number, R entity [] { entity with nextTransactionSequenceNumber := number }

omit [Kconfig] [ZephyrCrc] [Composes R] in
theorem SenderSlotFree.tolerant (free : SenderSlotFree R) : SenderTolerant R where
  kept entity slot _ _ _ := free.sender entity slot
  released entity := free.sender entity _
  buf := free.buf

/-! ## Callbacks of both roles -/

section Callbacks

variable (env : EnvironmentAlong E R)

include env

omit [Kconfig] [ZephyrCrc]

theorem emitTerminalEvent_along (role : Role) (id : TransactionId) (status : Status) :
    (emitTerminalEvent role id status).Along E R :=
  along_bind along_read fun _ => along_callIf env

theorem sendEncodedPduTo_along (dest : Nat) (encoded : Except Status Bytes) :
    (sendEncodedPduTo dest encoded).Along E R := by
  unfold sendEncodedPduTo
  split
  · exact along_pure
  · exact along_bind (along_call env) fun _ => along_pure

theorem entityNowMs_along : entityNowMs.Along E R :=
  along_bind along_read fun _ => along_bind (along_callIf env) fun _ => along_pure

theorem closeSlotHandle_along (slot : TransactionSlot) : (closeSlotHandle slot).Along E R := by
  unfold closeSlotHandle
  split
  · exact along_pure
  · exact along_bind (along_callIf env) fun _ => along_pure

theorem readSegment_along (buf : ∀ entity buf, R entity [] (entity.withBuf buf)) (fs : FilestoreOps)
    (handle : Handle) (offset len : Nat) : (readSegment fs handle offset len).Along E R := by
  apply along_bind (along_call env)
  intro reply
  exact along_bind (along_modify fun entity => buf entity _) fun _ => along_pure

end Callbacks

/-! ## The receiver's half -/

section Receiver

variable (free : ReceiverFree R) (env : EnvironmentAlong E R) (fs : FilestoreOps)

include free

omit [Kconfig] [ZephyrCrc] [Composes R] in
theorem updateReceiver_along (f : TransactionSlot → TransactionSlot) :
    (updateReceiver f).Along E R :=
  along_modify fun entity => free.receiver entity (f entity.receiver)

include env

omit [Kconfig] [ZephyrCrc] in
theorem closeDiscardReceiver_along : closeDiscardReceiver.Along E R := by
  apply along_bind along_read
  intro entity
  split
  · exact along_pure
  · apply along_bind (closeSlotHandle_along env _)
    intro _
    apply along_bind (updateReceiver_along free _)
    intro _
    exact along_bind (along_callIf env) fun _ => along_pure

omit [Kconfig] [ZephyrCrc] in
theorem releaseReceiverTerminal_along (status : Status) :
    (releaseReceiverTerminal status).Along E R := by
  apply along_bind along_read
  intro entity
  exact along_bind (emitTerminalEvent_along env _ _ _) fun _ => updateReceiver_along free _

omit [Kconfig] [ZephyrCrc] in
theorem failReceiverActiveTransaction_along (status : Status) :
    (failReceiverActiveTransaction status).Along E R := by
  apply along_bind along_read
  intro entity
  apply along_bind (along_runIf (closeDiscardReceiver_along free env))
  exact fun _ => releaseReceiverTerminal_along free env status

omit [ZephyrCrc] free in
theorem sendNakForMissingRanges_along : sendNakForMissingRanges.Along E R := by
  apply along_bind along_read
  intro entity
  split
  · exact along_pure
  · exact sendEncodedPduTo_along env _ _

omit [ZephyrCrc] free in
theorem sendFinishedForReceiverStatus_along (status : Status) :
    (sendFinishedForReceiverStatus status).Along E R :=
  along_bind along_read fun _ => sendEncodedPduTo_along env _ _

theorem receiverComputeChecksumLoop_along (handle : Handle) (turns : Nat) (state : ChecksumState)
    (offset : Nat) : (receiverComputeChecksumLoop fs handle turns state offset).Along E R := by
  induction turns generalizing state offset with
  | zero => exact along_bind along_read fun _ => along_pure
  | succ turns ih =>
    apply along_bind along_read
    intro entity
    apply along_ite _ along_pure
    apply along_bind (readSegment_along env free.buf _ _ _ _)
    rintro ⟨rc, nread⟩
    apply along_ite along_pure
    apply along_ite along_pure
    apply along_bind along_read
    intro entity
    split
    · exact along_pure
    · exact ih _ _

theorem receiverVerifyCompleteFile_along (expected : Nat) :
    (receiverVerifyCompleteFile fs expected).Along E R := by
  have computed : (receiverComputeChecksum fs).Along E R := by
    apply along_bind along_read
    intro entity
    split
    · exact along_pure
    · exact along_bind (receiverComputeChecksumLoop_along free env fs _ _ _ _) fun _ => along_pure
  apply along_bind computed
  intro result
  split <;> exact along_pure

omit [ZephyrCrc] in
theorem receiverFinish_along (status : Status) : (receiverFinish fs status).Along E R := by
  apply along_bind along_read
  intro entity
  have closed : (receiverFinishClose fs status).Along E R := by
    apply along_bind along_read
    intro entity
    apply along_bind (along_callIf env)
    intro rc
    exact along_bind (updateReceiver_along free _) fun _ => along_pure
  apply along_bind closed
  intro status
  have stored : (receiverFinishStore fs status).Along E R := by
    apply along_bind along_read
    intro entity
    exact along_ite (along_bind (along_call env) fun _ => along_pure)
      (along_bind (along_call env) fun _ => along_pure)
  apply along_bind stored
  intro status
  have reported : (receiverFinishSend entity.receiver.closureRequested status).Along E R :=
    along_ite (along_bind (updateReceiver_along free _) fun _ =>
      sendFinishedForReceiverStatus_along env status) along_pure
  apply along_bind reported
  intro finishedStatus
  apply along_bind along_read
  intro entity
  apply along_ite along_pure
  apply along_ite
  · apply along_ite
    · apply along_bind (updateReceiver_along free _)
      intro _
      apply along_bind (entityNowMs_along env)
      intro now
      exact along_bind (updateReceiver_along free _) fun _ => along_pure
    · exact along_bind (releaseReceiverTerminal_along free env _) fun _ => along_pure
  · exact along_bind (releaseReceiverTerminal_along free env _) fun _ => along_pure

omit [ZephyrCrc] in
theorem receiverHandleMetadata_along (pdu : Bytes) : (receiverHandleMetadata fs pdu).Along E R := by
  apply along_bind along_read
  intro entity
  split
  · exact along_pure
  · apply along_ite along_pure
    apply along_ite along_pure
    split
    · exact along_pure
    · apply along_bind (updateReceiver_along free _)
      intro _
      apply along_bind (along_call env)
      intro reply
      apply along_bind (updateReceiver_along free _)
      intro _
      apply along_ite
      · apply along_bind (emitTerminalEvent_along env _ _ _)
        intro _
        exact along_bind (updateReceiver_along free _) fun _ => along_pure
      · exact along_bind (updateReceiver_along free _) fun _ => along_pure

theorem receiverHandleFiledata_along (pdu : Bytes) : (receiverHandleFiledata fs pdu).Along E R := by
  apply along_bind along_read
  intro entity
  split
  · exact along_pure
  apply along_ite along_pure
  apply along_ite along_pure
  apply along_ite along_pure
  apply along_ite along_pure
  apply along_bind (along_call env)
  intro rc
  apply along_bind along_read
  intro entity
  apply along_ite along_pure
  split
  · exact along_pure
  apply along_bind (updateReceiver_along free _)
  intro _
  split
  · exact along_pure
  apply along_bind (updateReceiver_along free _)
  intro _
  apply along_bind along_read
  intro entity
  apply along_ite _ along_pure
  split
  · exact receiverFinish_along free env fs _
  · apply along_ite _ along_pure
    exact along_bind (receiverVerifyCompleteFile_along free env fs _) fun _ =>
      receiverFinish_along free env fs _

theorem receiverHandleEofComplete_along (eof : EofPdu) :
    (receiverHandleEofComplete fs eof).Along E R := by
  apply along_bind along_read
  intro entity
  split
  · exact receiverFinish_along free env fs _
  apply along_ite
  · apply along_ite _ (receiverFinish_along free env fs _)
    apply along_bind (updateReceiver_along free _)
    intro _
    apply along_bind (sendNakForMissingRanges_along env)
    intro status
    apply along_ite (receiverFinish_along free env fs _)
    apply along_bind (updateReceiver_along free _)
    intro _
    apply along_bind (entityNowMs_along env)
    intro now
    exact along_bind (updateReceiver_along free _) fun _ => along_pure
  · exact along_bind (receiverVerifyCompleteFile_along free env fs _) fun _ =>
      receiverFinish_along free env fs _

theorem receiverHandleEof_along (pdu : Bytes) : (receiverHandleEof fs pdu).Along E R := by
  have acked : ∀ code, (sendAckEof code).Along E R := fun code =>
    along_bind along_read fun _ => sendEncodedPduTo_along env _ _
  apply along_bind along_read
  intro entity
  split
  · exact along_pure
  apply along_ite along_pure
  apply along_ite along_pure
  apply along_ite (sendFinishedForReceiverStatus_along env _)
  apply along_bind (updateReceiver_along free _)
  intro _
  apply along_ite
  · exact along_ite (along_bind (acked _) fun _ => receiverFinish_along free env fs _)
      (receiverFinish_along free env fs _)
  · apply along_ite _ (receiverHandleEofComplete_along free env fs _)
    apply along_bind (acked _)
    intro status
    exact along_ite along_pure (receiverHandleEofComplete_along free env fs _)

omit [ZephyrCrc] in
theorem receiverHandleAck_along (pdu : Bytes) : (receiverHandleAck pdu).Along E R := by
  apply along_bind along_read
  intro entity
  split
  · exact along_pure
  apply along_ite along_pure
  apply along_ite along_pure
  apply along_ite along_pure
  exact along_bind (releaseReceiverTerminal_along free env _) fun _ => along_pure

theorem receivePduTowardReceiver_along (header : PduHeader) (headerLen : Nat) (pdu : Bytes) :
    (receivePduTowardReceiver fs header headerLen pdu).Along E R := by
  have failed : ∀ status, (failReceiverOnError header status).Along E R := by
    intro status
    apply along_bind along_read
    intro entity
    exact along_ite (along_bind (failReceiverActiveTransaction_along free env _) fun _ =>
      along_pure) along_pure
  apply along_ite
  · exact along_bind (receiverHandleFiledata_along free env fs pdu) failed
  · apply along_ite along_pure
    apply along_bind _ failed
    apply along_ite (receiverHandleMetadata_along free env fs pdu)
    apply along_ite (receiverHandleEof_along free env fs pdu)
    exact along_ite (receiverHandleAck_along free env pdu) along_pure

omit [ZephyrCrc] in
theorem pollRecovery_along (now : Nat) : (pollRecovery now).Along E R := by
  apply along_bind along_read
  intro entity
  apply along_ite _ along_pure
  apply along_ite
  · exact along_bind (closeDiscardReceiver_along free env) fun _ =>
      releaseReceiverTerminal_along free env _
  · apply along_bind (sendNakForMissingRanges_along env)
    intro status
    exact along_ite (updateReceiver_along free _)
      (along_bind (closeDiscardReceiver_along free env) fun _ =>
        releaseReceiverTerminal_along free env _)

omit [ZephyrCrc] in
theorem pollFinished_along (now : Nat) : (pollFinished now).Along E R := by
  apply along_bind along_read
  intro entity
  apply along_ite _ along_pure
  apply along_ite (releaseReceiverTerminal_along free env _)
  apply along_bind (sendFinishedForReceiverStatus_along env _)
  intro status
  exact along_ite (updateReceiver_along free _) (releaseReceiverTerminal_along free env _)

end Receiver

/-! ## The sender's half -/

section Sender

variable (tolerant : SenderTolerant R) (env : EnvironmentAlong E R) (fs : FilestoreOps)

include tolerant

omit [Kconfig] [ZephyrCrc] [Composes R] in
/-- An update of fields that the relation does not look at. -/
theorem updateSender_kept {f : TransactionSlot → TransactionSlot}
    (active : ∀ slot, (f slot).active = slot.active)
    (mode : ∀ slot, (f slot).transmissionMode = slot.transmissionMode)
    (finished : ∀ slot, (f slot).finishedReceived = slot.finishedReceived) :
    (updateSender f).Along E R :=
  along_modify fun _ => tolerant.kept _ _ (active _) (mode _) (finished _)

include env

omit [Kconfig] [ZephyrCrc] in
theorem closeSenderHandle_along : closeSenderHandle.Along E R := by
  apply along_bind along_read
  intro entity
  apply along_bind (closeSlotHandle_along env _)
  exact fun _ => updateSender_kept tolerant (fun _ => rfl) (fun _ => rfl) fun _ => rfl

omit [Kconfig] [ZephyrCrc] in
theorem releaseSenderTerminal_along (status : Status) : (releaseSenderTerminal status).Along E R := by
  apply along_bind along_read
  intro entity
  apply along_bind (emitTerminalEvent_along env _ _ _)
  intro _
  apply along_bind (closeSenderHandle_along tolerant env)
  exact fun _ => along_modify fun entity => tolerant.released entity

omit [Kconfig] [ZephyrCrc] in
theorem senderFail_along (status : Status) : (senderFail status).Along E R := by
  refine along_bind ?_ fun _ => ?_
  · exact updateSender_kept tolerant (fun _ => rfl) (fun _ => rfl) fun _ => rfl
  apply along_bind (closeSenderHandle_along tolerant env)
  exact fun _ => along_bind (releaseSenderTerminal_along tolerant env status) fun _ => along_pure

omit [ZephyrCrc] tolerant in
theorem sendEof_along (checksum fileSize : Nat) : (sendEof checksum fileSize).Along E R :=
  along_bind along_read fun _ => along_bind along_read fun _ => sendEncodedPduTo_along env _ _

omit [ZephyrCrc] tolerant in
theorem sendFiledata_along (offset : Nat) (data : Bytes) : (sendFiledata offset data).Along E R :=
  along_bind along_read fun _ => along_bind along_read fun _ => sendEncodedPduTo_along env _ _

omit [ZephyrCrc] in
theorem senderRetransmitRanges_along (ranges : List NakRange) :
    (senderRetransmitRanges fs ranges).Along E R := by
  have loop : ∀ stop fuel offset, (senderRetransmitLoop fs stop fuel offset).Along E R := by
    intro stop fuel
    induction fuel with
    | zero => exact fun _ => along_pure
    | succ fuel ih =>
      intro offset
      apply along_ite _ along_pure
      apply along_bind along_read
      intro entity
      apply along_bind (readSegment_along env tolerant.buf _ _ _ _)
      rintro ⟨rc, nread⟩
      apply along_ite along_pure
      apply along_ite along_pure
      apply along_bind along_read
      intro entity
      apply along_bind (sendFiledata_along env _ _)
      exact fun status => along_ite along_pure (ih _)
  induction ranges with
  | nil => exact along_pure
  | cons range ranges ih =>
    apply along_bind along_read
    intro entity
    apply along_ite along_pure
    apply along_bind (loop _ _ _)
    exact fun status => along_ite along_pure ih

omit [ZephyrCrc] in
theorem senderHandleNak_along (pdu : Bytes) : (senderHandleNak pdu).Along E R := by
  have failed : ∀ status, (senderFail status).Along E R := senderFail_along tolerant env
  apply along_bind along_read
  intro entity
  split
  · exact along_pure
  apply along_ite along_pure
  apply along_ite along_pure
  split
  · exact failed _
  apply along_ite (failed _)
  apply along_ite (failed _)
  refine along_bind ?_ fun _ => ?_
  · exact updateSender_kept tolerant (fun _ => rfl) (fun _ => rfl) fun _ => rfl
  apply along_bind along_read
  intro entity
  apply along_ite (failed _)
  apply along_ite (failed _)
  apply along_bind (senderRetransmitRanges_along tolerant env _ _)
  intro status
  apply along_ite (failed _)
  apply along_bind along_read
  intro entity
  apply along_bind (sendEof_along env _ _)
  exact fun status => along_ite (failed _) along_pure

omit [ZephyrCrc] tolerant env in
theorem senderHandleAck_along (pdu : Bytes) : (senderHandleAck pdu).Along E R := by
  apply along_bind along_read
  intro entity
  split
  · exact along_pure
  · exact along_ite along_pure (along_ite along_pure (along_ite along_pure along_pure))

omit [ZephyrCrc] in
/-- All handlers of the sender but the one of Finished PDUs. -/
theorem receivePduTowardSender_along {pdu : Bytes} (finished : (senderHandleFinished pdu).Along E R)
    (header : PduHeader) (headerLen : Nat) :
    (receivePduTowardSender header headerLen pdu).Along E R := by
  apply along_bind along_read
  intro entity
  apply along_ite along_pure
  have handled : (senderHandleDirective (byteAt pdu headerLen) pdu).Along E R := by
    apply along_ite finished
    apply along_ite (senderHandleAck_along pdu)
    exact along_ite (senderHandleNak_along tolerant env pdu) along_pure
  apply along_bind handled
  intro status
  apply along_bind along_read
  intro entity
  exact along_ite (along_bind (releaseSenderTerminal_along tolerant env _) fun _ => along_pure)
    along_pure

omit [ZephyrCrc] in
theorem pollSender_along (now : Nat) : (pollSender now).Along E R := by
  apply along_bind along_read
  intro entity
  apply along_ite _ along_pure
  apply along_ite
  · exact along_bind (senderFail_along tolerant env _) fun _ => along_pure
  · apply along_bind (sendEof_along env _ _)
    intro status
    exact along_ite (updateSender_kept tolerant (fun _ => rfl) (fun _ => rfl) fun _ => rfl)
      (along_bind (senderFail_along tolerant env _) fun _ => along_pure)

theorem sendFileLoop_along (handle : Handle) (fileSize fuel : Nat) (state : ChecksumState)
    (offset : Nat) : (sendFileLoop fs handle fileSize fuel state offset).Along E R := by
  induction fuel generalizing state offset with
  | zero => exact along_pure
  | succ fuel ih =>
    apply along_ite _ along_pure
    apply along_bind (readSegment_along env tolerant.buf _ _ _ _)
    rintro ⟨rc, nread⟩
    apply along_ite along_pure
    apply along_ite along_pure
    apply along_bind along_read
    intro entity
    apply along_bind (sendFiledata_along env _ _)
    intro status
    apply along_ite along_pure
    apply along_bind along_read
    intro entity
    split
    · exact along_pure
    · exact ih _ _

end Sender

/-- `receive_pdu` is as good as its two branches. -/
theorem receivePdu_along {pdu : Bytes} (filestore : Option FilestoreOps)
    (towardSender : ∀ header headerLen, (receivePduTowardSender header headerLen pdu).Along E R)
    (towardReceiver : ∀ fs header headerLen,
      (receivePduTowardReceiver fs header headerLen pdu).Along E R) :
    (receivePdu filestore pdu).Along E R := by
  unfold receivePdu
  split
  · exact along_pure
  apply along_ite (towardSender _ _)
  apply along_bind along_read
  intro entity
  apply along_ite along_pure
  split
  · exact along_pure
  · exact along_ite along_pure (towardReceiver _ _ _)

/-! ## Relations that ignore the sender -/

section SenderSlotFree

variable (free : SenderSlotFree R) (env : EnvironmentAlong E R) (fs : FilestoreOps)

include free

omit [Kconfig] [ZephyrCrc] [Composes R] in
theorem updateSender_along (f : TransactionSlot → TransactionSlot) : (updateSender f).Along E R :=
  along_modify fun entity => free.sender entity (f entity.sender)

include env

omit [ZephyrCrc] in
theorem senderHandleFinished_along (pdu : Bytes) : (senderHandleFinished pdu).Along E R := by
  apply along_bind along_read
  intro entity
  split
  · exact along_pure
  apply along_ite along_pure
  apply along_ite along_pure
  apply along_bind (updateSender_along free _)
  intro _
  apply along_bind (along_modify fun entity => free.completion entity true _)
  intro _
  apply along_ite _ along_pure
  apply along_bind (along_bind along_read fun _ => along_bind along_read fun _ =>
    sendEncodedPduTo_along env _ _)
  intro status
  apply along_ite (senderFail_along free.tolerant env _)
  exact along_bind (releaseSenderTerminal_along free.tolerant env _) fun _ => along_pure

theorem sendFileOpen_along (request : PutRequest) (path source destination : Bytes) (state : ChecksumState) :
    (sendFileOpen fs request path source destination state).Along E R := by
  have released : ∀ handleOpen keep status, (sendFileOutRelease handleOpen keep status).Along E R := by
    intro handleOpen keep status
    apply along_ite along_pure
    apply along_bind along_read
    intro entity
    apply along_bind (along_runIf (closeSenderHandle_along free.tolerant env))
    intro _
    apply along_bind along_read
    intro entity
    apply along_bind (along_runIf (releaseSenderTerminal_along free.tolerant env _))
    intro _
    exact along_bind (along_modify fun entity => free.completion entity false _) fun _ => along_pure
  have awaited : ∀ status, (sendFileAwait request status).Along E R := by
    intro status
    apply along_bind along_read
    intro entity
    apply along_ite
    · apply along_bind (updateSender_along free _)
      intro _
      apply along_bind (entityNowMs_along env)
      intro now
      exact along_bind (updateSender_along free _) fun _ => along_pure
    · exact along_ite along_pure (along_ite along_pure (along_ite along_pure along_pure))
  have transferred : ∀ source destination state handle fileSize,
      (sendFileTransfer fs request source destination state handle fileSize).Along E R := by
    intro source destination state handle fileSize
    apply along_bind (along_bind along_read fun _ => along_bind along_read fun _ =>
      sendEncodedPduTo_along env _ _)
    intro status
    apply along_ite along_pure
    apply along_bind (sendFileLoop_along free.tolerant env fs _ _ _ _ _)
    intro result
    split
    · exact along_pure
    split
    · exact along_pure
    apply along_bind (updateSender_along free _)
    intro _
    exact along_bind (sendEof_along env _ _) awaited
  apply along_bind (along_call env)
  intro reply
  apply along_ite (released _ _ _)
  apply along_ite (released _ _ _)
  apply along_bind (updateSender_along free _)
  intro _
  exact along_bind (transferred _ _ _ _ _) fun result => released _ _ _

end SenderSlotFree

/-- `receive_pdu`, for a relation that looks at neither slot -/
theorem receivePdu_free (sender : SenderSlotFree R) (receiver : ReceiverFree R) (env : EnvironmentAlong E R)
    (filestore : Option FilestoreOps) (pdu : Bytes) : (receivePdu filestore pdu).Along E R :=
  receivePdu_along filestore
    (receivePduTowardSender_along sender.tolerant env (senderHandleFinished_along sender env pdu))
    fun fs header headerLen => receivePduTowardReceiver_along receiver env fs header headerLen pdu

omit [ZephyrCrc] in
theorem poll_free (sender : SenderTolerant R) (receiver : ReceiverFree R) (env : EnvironmentAlong E R) (now : UInt64) :
    (poll now).Along E R := by
  apply along_bind (pollRecovery_along receiver env _)
  intro _
  apply along_bind (pollFinished_along receiver env _)
  exact fun _ => pollSender_along sender env _

omit [Kconfig] [ZephyrCrc] in
theorem createSenderTransaction_along (free : SenderFree R) : createSenderTransaction.Along E R := by
  apply along_bind along_read
  intro entity
  apply along_ite along_pure
  apply along_bind (along_modify fun entity => ?_)
  · intro _
    exact along_bind (updateSender_along free.toSenderSlotFree _) fun _ => along_pure
  · unfold advanceTransactionSequenceNumber
    dsimp only
    split <;> exact free.sequence entity _

theorem sendFile_along (free : SenderFree R) (env : EnvironmentAlong E R) (fs : FilestoreOps) (request : PutRequest) :
    (sendFile fs request).Along E R := by
  unfold sendFile
  split
  · split
    · apply along_ite along_pure
      split
      · exact along_pure
      apply along_bind (createSenderTransaction_along free)
      intro allocated
      split
      · exact along_pure
      apply along_bind (along_modify fun entity => free.completion entity false .ok)
      intro _
      apply along_bind (updateSender_along free.toSenderSlotFree _)
      intro _
      exact along_bind (sendFileOpen_along free.toSenderSlotFree env fs request _ _ _ _) fun _ => along_pure
    · exact along_pure
  · exact along_pure

end ZephyrCcsds.Cfdp
