import ZephyrCcsds.Cfdp.SequenceNumbers

/-! # The sender between calls

With callbacks that call the entity again.  `SenderMoves` is the relation that all calls keep but
the two that start a transaction: a sender that is still active has kept its mode and, in
acknowledged mode, has not received a Finished PDU.  `send_file` leaves no transaction behind but in
acknowledged mode, so that `SenderResting` holds whenever no call is in progress, unless
`create_sender_transaction` has started one: that is in unacknowledged mode.
-/

namespace ZephyrCcsds.Cfdp

open Callback Callback.Prog

variable [Kconfig] [ZephyrCrc] {τ : Type} {E : Environment Op Res Entity τ}

/-! ## What a move keeps -/

section SenderHalf

omit [Kconfig] [ZephyrCrc]

/-- A sender that is active after a move was so before, in the same mode, and in acknowledged mode
has not received a Finished PDU during the move. -/
structure SenderMoves (entity entity' : Entity) : Prop where
  active : entity'.sender.active = true → entity.sender.active = true
  mode : entity'.sender.active = true →
    entity'.sender.transmissionMode = entity.sender.transmissionMode
  finished : entity'.sender.active = true → entity'.sender.transmissionMode = .acknowledged →
    entity'.sender.finishedReceived = entity.sender.finishedReceived

instance : IsPreorder Entity SenderMoves where
  refl _ := ⟨id, fun _ => rfl, fun _ _ => rfl⟩
  trans _ _ _ first second :=
    { active := fun active => first.active (second.active active)
      mode := fun active => (second.mode active).trans (first.mode (second.active active))
      finished := fun active mode => (second.finished active mode).trans
        (first.finished (second.active active) ((second.mode active).symm.trans mode)) }

theorem SenderMoves.of_inactive {entity entity' : Entity} (idle : entity'.sender.active = false) :
    SenderMoves entity entity' := by
  constructor <;> simp [idle]

/-- An update of fields that `SenderMoves` does not look at. -/
theorem SenderMoves.withSender {entity : Entity} {slot : TransactionSlot}
    (active : slot.active = entity.sender.active)
    (mode : slot.transmissionMode = entity.sender.transmissionMode)
    (finished : slot.finishedReceived = entity.sender.finishedReceived) :
    SenderMoves entity (entity.withSender slot) :=
  ⟨fun now => active ▸ now, fun _ => mode, fun _ _ => finished⟩

/-- The relation between the states of a run. -/
abbrev SenderAlong : Entity → List τ → Entity → Prop := Unlabelled SenderMoves

section Sender

theorem SenderMoves.tolerant : SenderTolerant (SenderAlong : Entity → List τ → Entity → Prop) where
  kept _ _ active mode finished := SenderMoves.withSender active mode finished
  released _ := SenderMoves.of_inactive rfl
  buf _ _ := ⟨id, fun _ => rfl, fun _ _ => rfl⟩

theorem SenderMoves.free : ReceiverFree (SenderAlong : Entity → List τ → Entity → Prop) where
  receiver _ _ := ⟨id, fun _ => rfl, fun _ _ => rfl⟩
  buf _ _ := ⟨id, fun _ => rfl, fun _ _ => rfl⟩

/-- After a release the sender is idle, whatever the callbacks did. -/
theorem releaseSenderTerminal_idle (env : EnvironmentAlong E SenderAlong) (status : Status)
    (entity : Entity) :
    (releaseSenderTerminal status).wp E (fun _ _ entity' => entity'.sender.active = false)
      entity := by
  simp only [releaseSenderTerminal, releaseSenderTransaction, wp_bind, wp_read]
  apply wp_of_along (emitTerminalEvent_along env _ _ _)
  intro _ _ entity₁ _
  apply wp_of_along (closeSenderHandle_along SenderMoves.tolerant env)
  intro _ _ entity₂ _
  rfl

theorem senderFail_idle (env : EnvironmentAlong E SenderAlong) (status : Status) (entity : Entity) :
    (senderFail status).wp E (fun _ _ entity' => entity'.sender.active = false) entity := by
  simp only [senderFail, wp_bind, wp_updateSender]
  apply wp_of_along (closeSenderHandle_along SenderMoves.tolerant env)
  intro _ _ entity₁ _
  exact releaseSenderTerminal_idle env status entity₁

variable [Kconfig] (env : EnvironmentAlong E SenderAlong)

include env

/-- The one handler that sets the flag: in acknowledged mode it releases the transaction too. -/
theorem senderHandleFinished_moves (pdu : Bytes) : (senderHandleFinished pdu).Along E SenderAlong := by
  intro entity
  simp only [senderHandleFinished, wp_bind, wp_read]
  split
  · exact refl_of SenderMoves entity
  simp only [wp_ite, wp_pure, wp_bind, wp_updateSender, wp_modify]
  refine ⟨fun _ => refl_of SenderMoves entity, fun _ => ⟨fun _ => refl_of SenderMoves entity,
    fun matched => ⟨fun acknowledged => ?_, fun unacknowledged => ?_⟩⟩⟩
  · simp only [sendAckFinished, sendEncodedPdu, wp_bind, wp_read]
    apply wp_of_along (sendEncodedPduTo_along env _ _)
    intro _ status entity₁ _
    constructor
    · intro _
      exact wp_mono (senderFail_idle env _ _) fun _ _ _ => SenderMoves.of_inactive
    · intro _
      exact wp_mono (releaseSenderTerminal_idle env _ _) fun _ _ _ => SenderMoves.of_inactive
  · exact ⟨id, fun _ => rfl, fun _ mode => (unacknowledged mode).elim⟩

theorem poll_moves (now : UInt64) : (poll now).Along E SenderAlong := by
  apply along_bind (pollRecovery_along SenderMoves.free env _)
  intro _
  apply along_bind (pollFinished_along SenderMoves.free env _)
  exact fun _ => pollSender_along SenderMoves.tolerant env _

variable [ZephyrCrc]

theorem receivePdu_moves (filestore : Option FilestoreOps) (pdu : Bytes) :
    (receivePdu filestore pdu).Along E SenderAlong :=
  receivePdu_along filestore
    (receivePduTowardSender_along SenderMoves.tolerant env (senderHandleFinished_moves env pdu))
    fun _ _ _ => receivePduTowardReceiver_along SenderMoves.free env _ _ _ _

end Sender

/-! ## Sending a file -/

/-- An active sender is in acknowledged mode and has not received a Finished PDU. -/
def SenderResting (entity : Entity) : Prop :=
  entity.sender.active = true →
    entity.sender.transmissionMode = .acknowledged ∧ entity.sender.finishedReceived = false

theorem SenderMoves.resting {entity entity' : Entity} (moves : SenderMoves entity entity')
    (resting : SenderResting entity) : SenderResting entity' := by
  intro active
  obtain ⟨mode, finished⟩ := resting (moves.active active)
  have mode' := (moves.mode active).trans mode
  exact ⟨mode', (moves.finished active mode').trans finished⟩

/-- The mode of the transaction that `send_file` works on, while it is active. -/
def Sends (mode : TransmissionMode) (entity : Entity) : Prop :=
  entity.sender.active = true → entity.sender.transmissionMode = mode

theorem SenderMoves.sends {entity entity' : Entity} {mode : TransmissionMode}
    (moves : SenderMoves entity entity') (sends : Sends mode entity) : Sends mode entity' :=
  fun active => (moves.mode active).trans (sends (moves.active active))

section SendFile

variable (env : EnvironmentAlong E SenderAlong)

include env

theorem sendFileOutRelease_idle (handleOpen : Bool) (status : Status) (entity : Entity) :
    (sendFileOutRelease handleOpen false status).wp E
      (fun _ _ entity' => entity'.sender.active = false) entity := by
  simp only [sendFileOutRelease, Bool.false_eq_true, if_false, wp_bind, wp_read]
  apply wp_of_along (along_runIf (closeSenderHandle_along SenderMoves.tolerant env))
  intro _ _ entity₁ _
  rw [wp_runIf]
  constructor
  · intro _
    exact wp_mono (releaseSenderTerminal_idle env status entity₁) fun _ _ _ idle => idle
  · exact fun idle => idle

variable [Kconfig]

theorem sendFileAwait_resting {request : PutRequest} {entity : Entity} (status : Status)
    (sends : request.acknowledgedMode = true → Sends .acknowledged entity) :
    (sendFileAwait request status).wp E
      (fun _ result entity' => result.2 = true → SenderResting entity') entity := by
  simp only [sendFileAwait, wp_bind, wp_read, wp_ite, wp_pure, wp_updateSender]
  constructor
  · rintro ⟨_, acknowledged, _, unfinished⟩
    apply wp_of_along (entityNowMs_along env)
    intro _ now entity' moved _ active
    have mode := (moved.mode active).trans (sends acknowledged (moved.active active))
    exact ⟨mode, (moved.finished active mode).trans (Bool.eq_false_of_not_eq_true unfinished)⟩
  · simp

variable [ZephyrCrc]

theorem sendFileTransfer_resting {fs : FilestoreOps} {request : PutRequest}
    {source destination : Bytes} {checksumState : ChecksumState} {handle : Handle} {fileSize : Nat}
    {entity : Entity} (sends : request.acknowledgedMode = true → Sends .acknowledged entity) :
    (sendFileTransfer fs request source destination checksumState handle fileSize).wp E
      (fun _ result entity' => result.2 = true → SenderResting entity') entity := by
  have metadata : (sendMetadata request source destination fileSize).Along E SenderAlong :=
    along_bind along_read fun _ => along_bind along_read fun _ => sendEncodedPduTo_along env _ _
  simp only [sendFileTransfer, wp_bind]
  apply wp_of_along metadata
  intro _ status entity₁ moved₁
  simp only [wp_ite, wp_pure]
  refine ⟨by simp, fun _ => ?_⟩
  rw [wp_bind]
  apply wp_of_along (sendFileLoop_along SenderMoves.tolerant env _ _ _ _ _ _)
  intro _ result entity₂ moved₂
  cases result with
  | error status => simp
  | ok state =>
    dsimp only
    cases checksumFinish state with
    | error status => simp
    | ok checksum =>
      simp only [wp_bind, wp_updateSender]
      apply wp_of_along (sendEof_along env _ _)
      intro _ status entity₃ moved₃
      apply sendFileAwait_resting env
      intro acknowledged
      exact moved₃.sends (moved₂.sends (moved₁.sends (sends acknowledged)))

theorem sendFileOpen_resting {fs : FilestoreOps} {request : PutRequest}
    {sourcePath source destination : Bytes} {checksumState : ChecksumState} {entity : Entity}
    (sends : request.acknowledgedMode = true → Sends .acknowledged entity) :
    (sendFileOpen fs request sourcePath source destination checksumState).wp E
      (fun _ _ entity' => SenderResting entity') entity := by
  have released : ∀ handleOpen status entity, (sendFileOutRelease handleOpen false status).wp E
      (fun _ _ entity' => SenderResting entity') entity := by
    intro handleOpen status entity
    apply wp_mono (sendFileOutRelease_idle env handleOpen status entity)
    intro _ _ entity' idle active
    exact (Bool.false_ne_true (idle.symm.trans active)).elim
  simp only [sendFileOpen, wp_bind]
  apply wp_of_along (along_call env)
  intro _ reply entity₁ moved
  simp only [wp_ite, wp_bind, wp_updateSender]
  refine ⟨fun _ => released _ _ _, fun _ => ⟨fun _ => released _ _ _, fun _ => ?_⟩⟩
  refine wp_mono (sendFileTransfer_resting env fun acknowledged => ?_) ?_
  · exact moved.sends (sends acknowledged)
  rintro _ ⟨status, keep⟩ entity₂ resting
  cases keep with
  | true => exact resting rfl
  | false => exact released _ _ _

/-- A refused `send_file` changes nothing. -/
theorem sendFile_resting {fs : FilestoreOps} {request : PutRequest} (entity : Entity) :
    (sendFile fs request).wp E (fun _ _ entity' => entity' = entity ∨ SenderResting entity') entity := by
  unfold sendFile
  split
  · split
    · simp only [wp_ite, wp_pure]
      refine ⟨fun _ => .inl trivial, fun _ => ?_⟩
      split
      · exact .inl rfl
      · simp only [createSenderTransaction, wp_bind, wp_read, wp_ite, wp_pure, wp_modify,
          wp_updateSender]
        refine ⟨fun _ => .inl trivial, fun _ => ?_⟩
        apply wp_mono (sendFileOpen_resting env _) fun _ _ _ resting => .inr resting
        intro acknowledged _
        simp [sendFileSlot, acknowledged]
    · exact .inl rfl
  · exact .inl rfl

end SendFile

end SenderHalf

/-! ## Between the calls -/

/-- What a call does to the sender, with visits of any depth. -/
def ApiCall.Moves : ApiCall → Entity → Entity → Prop
  | .sendFile .., entity, entity' => entity' = entity ∨ SenderResting entity'
  | .createSenderTransaction, entity, entity' =>
      entity' = entity ∨ entity'.sender.transmissionMode = .unacknowledged
  | .receivePdu .., entity, entity' | .poll _, entity, entity' | .matchOrCreateReceiverTransaction _, entity, entity'
  | .releaseSenderTransaction, entity, entity' | .releaseReceiverTransaction, entity, entity' =>
      SenderMoves entity entity'

section Nested

variable {guard : Guard Op Res Entity ApiCall} {call : ApiCall} {entity entity' : Entity}
  {t : List (Item Op Res Entity ApiCall)} {result : Status × Option TransactionId}

theorem apiCall_moves (env : EnvironmentAlong E SenderAlong) (call : ApiCall) (entity : Entity) :
    call.body.wp E (fun _ _ entity' => call.Moves entity entity') entity := by
  cases call with
  | createSenderTransaction =>
    simp only [ApiCall.body, Cfdp.createSenderTransaction, wp_bind, wp_read, wp_ite, wp_pure, wp_modify,
      wp_updateSender]
    exact ⟨fun _ => .inl rfl, fun _ => .inr rfl⟩
  | sendFile fs request => exact sendFile_resting env entity
  | receivePdu filestore pdu => exact along_bind (receivePdu_moves env filestore pdu) (fun _ => along_pure) entity
  | poll now => exact along_bind (poll_moves env now) (fun _ => along_pure) entity
  | matchOrCreateReceiverTransaction pdu =>
    exact along_bind (matchOrCreateReceiverTransaction_along SenderMoves.free pdu) (fun _ => along_pure) entity
  | releaseSenderTransaction =>
    have released : Cfdp.releaseSenderTransaction.Along E SenderAlong :=
      along_bind (closeSenderHandle_along SenderMoves.tolerant env) fun _ =>
        along_modify fun _ => SenderMoves.of_inactive rfl
    exact along_bind released (fun _ => along_pure) entity
  | releaseReceiverTransaction =>
    exact along_bind (updateReceiver_along SenderMoves.free _) (fun _ => along_pure) entity

theorem moves_of_nested (run : reentrant.RunsNested guard call entity t result entity') :
    call.Moves entity entity' := by
  refine @Service.runsNested_along _ _ _ _ _ reentrant guard SenderAlong _
    (fun call entity _ entity' => call.Moves entity entity')
    (fun entity _ _ => refl_of SenderMoves entity) ?_ ?_ call entity entity' t result run
  · -- only `receive_pdu` is visited
    intro op call entity _ entity' visitable moves
    cases call with
    | receivePdu => exact moves
    | _ => cases op <;> exact visitable.elim
  · exact fun E env call entity => apiCall_moves env call entity

/-- An active sender in acknowledged mode has not received a Finished PDU. -/
def SenderReady (entity : Entity) : Prop :=
  entity.sender.active = true → entity.sender.transmissionMode = .acknowledged →
    entity.sender.finishedReceived = false

/-- Whatever the callbacks do, a call leaves a ready sender ready. -/
theorem senderReady_of_nested (run : reentrant.RunsNested guard call entity t result entity')
    (ready : SenderReady entity) : SenderReady entity' := by
  have moves := moves_of_nested run
  have kept : SenderMoves entity entity' → SenderReady entity' := by
    intro moved active mode
    rw [moved.finished active mode]
    exact ready (moved.active active) ((moved.mode active).symm.trans mode)
  cases call with
  | createSenderTransaction =>
    rcases moves with rfl | unacknowledged
    · exact ready
    · intro _ mode
      rw [unacknowledged] at mode
      cases mode
  | sendFile =>
    rcases moves with rfl | resting
    · exact ready
    · exact fun active _ => (resting active).2
  | receivePdu | poll | matchOrCreateReceiverTransaction | releaseSenderTransaction | releaseReceiverTransaction =>
    exact kept moves

/-- Every call but one leaves a resting sender at rest. -/
theorem senderResting_of_nested (run : reentrant.RunsNested guard call entity t result entity')
    (other : call ≠ .createSenderTransaction) (resting : SenderResting entity) : SenderResting entity' := by
  have moves := moves_of_nested run
  cases call with
  | createSenderTransaction => exact (other rfl).elim
  | sendFile =>
    rcases moves with rfl | resting'
    · exact resting
    · exact resting'
  | receivePdu | poll | matchOrCreateReceiverTransaction | releaseSenderTransaction | releaseReceiverTransaction =>
    exact SenderMoves.resting moves resting

end Nested

end ZephyrCcsds.Cfdp
