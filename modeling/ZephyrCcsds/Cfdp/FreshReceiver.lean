import ZephyrCcsds.Callback.Lockstep
import ZephyrCcsds.Callback.Safe
import ZephyrCcsds.Cfdp.ReceiverRuns
import ZephyrCcsds.Cfdp.SequenceNumbers

/-! # What a new transaction of the receiver starts from

Every call of the API in any order, where a PDU that is sent may come back through `receive_pdu` before the send
returns.  Such a call may release the slot that a handler of the receiver goes on with, and the next transaction
starts from what the handler then writes.

* `GoesOn` — the sends after which a handler writes into the slot again.
* `AtRest` — a receiver without a transaction is the slot after `memset`.
* `rests_of_nested` — every call leaves the receiver at rest, when the sends of `GoesOn` leave it its transaction.
* `accepted_fresh` — from there a Metadata PDU leads to the slot that it leads to after the initialisation.
-/

namespace ZephyrCcsds.Cfdp

open Callback Callback.Prog

variable [Kconfig] [ZephyrCrc]

/-! ## The calls -/

/-- After this PDU was sent with the result `rc`, the call writes into the receiver's slot again: it sends the ACK
of an EOF PDU, a NAK PDU or, from `poll`, a Finished PDU. -/
def GoesOn (entity : Entity) (pdu : Bytes) (rc : Int) : ApiCall → Prop
  | .receivePdu _ received =>
    (∃ eof consumed, decodeEof received = .ok (eof, consumed) ∧
      encodeAck (ackEofPdu entity eof.conditionCode) maxPduSize = .ok pdu ∧
      (rc = 0 ∨ eof.conditionCode ≠ conditionNoError ∨ eof.fileSize ≠ entity.receiver.fileSize)) ∨
    ∃ missing, encodeNak (nakPdu entity missing) maxPduSize = .ok pdu
  | .poll _ => rc = 0 ∧
    ((∃ missing, encodeNak (nakPdu entity missing) maxPduSize = .ok pdu) ∨
      ∃ status, encodeFinished (finishedPdu entity status) maxPduSize = .ok pdu)
  | _ => False

/-- A send that the receiver goes on from leaves it a transaction. -/
def HeldReceiver : Guard Op Res Entity ApiCall
  | call, entity, .sendPdu _ pdu, rc, entity' => GoesOn entity pdu rc call → entity'.receiver.active = true
  | _, _, _, _, _ => True

/-! ## The receiver at rest -/

section Rest

omit [Kconfig] [ZephyrCrc]

/-- A receiver without a transaction is as `memset` leaves it. -/
def Entity.AtRest (entity : Entity) : Prop := entity.receiver.active = false → entity.receiver = .zero

theorem Entity.AtRest.of_active {entity : Entity} (active : entity.receiver.active = true) : entity.AtRest := by
  intro idle
  rw [active] at idle
  cases idle

/-- A call finds the receiver at rest. -/
def EntersAtRest : Item Op Res Entity ApiCall → Prop
  | .enter entity _ => entity.AtRest
  | .back .. => True

/-- From rest to rest -/
def RestsAlong (entity : Entity) (t : List (Item Op Res Entity ApiCall)) (entity' : Entity) : Prop :=
  entity.AtRest → (∀ item ∈ t, EntersAtRest item) ∧ entity'.AtRest

instance : Composes RestsAlong where
  refl _ rests := ⟨by simp, rests⟩
  trans first second rests := by
    obtain ⟨front, between⟩ := first rests
    obtain ⟨back, rests'⟩ := second between
    refine ⟨fun item mem => ?_, rests'⟩
    rcases List.mem_append.mp mem with mem | mem
    · exact front item mem
    · exact back item mem

theorem restsAlong_senderFree : SenderFree RestsAlong where
  sender _ _ rests := ⟨by simp, rests⟩
  buf _ _ rests := ⟨by simp, rests⟩
  completion _ _ _ rests := ⟨by simp, rests⟩
  sequence _ _ rests := ⟨by simp, rests⟩

end Rest

/-- What the programs of a call may rely on at their callbacks -/
structure Holding (E : Environment Op Res Entity (Item Op Res Entity ApiCall)) (call : ApiCall) : Prop where
  along : EnvironmentAlong E RestsAlong
  unvisited : ∀ {entity op r t entity'}, (∀ visit, ¬ ApiVisitable op visit) → E entity op r t entity' →
    (∀ item ∈ t, EntersAtRest item) ∧ entity' = entity
  held : ∀ {entity dest pdu rc t entity'}, E entity (.sendPdu dest pdu) rc t entity' →
    GoesOn entity pdu rc call → entity'.receiver.active = true

section Programs

variable {E : Environment Op Res Entity (Item Op Res Entity ApiCall)} {call : ApiCall}

abbrev Keeps (E : Environment Op Res Entity (Item Op Res Entity ApiCall)) {α : Type} (p : EntityM α)
    (M : α → Entity → Prop) (entity : Entity) : Prop :=
  p.Safe E EntersAtRest M entity

omit [Kconfig] [ZephyrCrc] in
theorem keeps_along {α : Type} {p : EntityM α} {entity : Entity} (along : p.Along E RestsAlong)
    (rests : entity.AtRest) : Keeps E p (fun _ entity' => entity'.AtRest) entity :=
  safe_of_along along fun _ _ _ moves => moves rests

section Calls

variable (holding : Holding E call)

include holding

/-! ## Callbacks of the receiver -/

section Callbacks

omit [ZephyrCrc]

variable {entity : Entity}

theorem keeps_call {op : Op} {M : Res op → Entity → Prop} (closed : ∀ visit, ¬ ApiVisitable op visit)
    (reached : ∀ r, M r entity) : Keeps E (Cfdp.call op) M entity := by
  apply safe_call
  intro r t entity' step
  obtain ⟨quiet, rfl⟩ := holding.unvisited closed step
  exact ⟨quiet, reached r⟩

theorem keeps_callIf {c : Bool} {op : Op} {default : Res op} {M : Res op → Entity → Prop}
    (closed : ∀ visit, ¬ ApiVisitable op visit) (reached : ∀ r, M r entity) :
    Keeps E (Cfdp.callIf c op default) M entity := by
  apply safe_callIf (reached default)
  intro r t entity' step
  obtain ⟨quiet, rfl⟩ := holding.unvisited closed step
  exact ⟨quiet, reached r⟩

theorem emitTerminalEvent_keeps (role : Role) (id : TransactionId) (status : Status) :
    Keeps E (emitTerminalEvent role id status) (fun _ entity' => entity' = entity) entity := by
  apply safe_read
  apply keeps_callIf holding
  · exact fun visit impossible => impossible
  · exact fun _ => rfl

theorem entityNowMs_keeps : Keeps E entityNowMs (fun _ entity' => entity' = entity) entity := by
  apply safe_read
  apply safe_bind
  apply keeps_callIf holding
  · exact fun visit impossible => impossible
  · exact fun _ => safe_pure rfl

theorem closeSlotHandle_keeps (slot : TransactionSlot) :
    Keeps E (closeSlotHandle slot) (fun _ entity' => entity' = entity) entity := by
  unfold closeSlotHandle
  cases slot.filestore with
  | none => exact safe_pure rfl
  | some fs =>
    apply safe_bind
    apply keeps_callIf holding
    · exact fun visit impossible => impossible
    · exact fun _ => safe_pure rfl

theorem releaseReceiverTerminal_keeps (status : Status) :
    Keeps E (releaseReceiverTerminal status) (fun _ entity' => entity'.AtRest) entity := by
  apply safe_read
  apply safe_bind
  apply safe_mono (emitTerminalEvent_keeps holding _ _ _)
  intro _ entity' _
  exact safe_modify (safe_pure fun _ => rfl)

theorem closeDiscardReceiver_keeps : Keeps E closeDiscardReceiver (fun _ _ => True) entity := by
  apply safe_read
  cases entity.receiver.filestore with
  | none => exact safe_pure trivial
  | some fs =>
    apply safe_bind
    apply safe_mono (closeSlotHandle_keeps holding _)
    intro _ entity' _
    apply safe_modify
    apply safe_bind
    apply keeps_callIf holding
    · exact fun visit impossible => impossible
    · exact fun _ => safe_pure trivial

theorem failReceiverActiveTransaction_keeps (status : Status) :
    Keeps E (failReceiverActiveTransaction status) (fun _ entity' => entity'.AtRest) entity := by
  apply safe_read
  apply safe_bind
  apply safe_runIf
  · apply safe_mono (closeDiscardReceiver_keeps holding)
    exact fun _ _ _ => releaseReceiverTerminal_keeps holding status
  · exact releaseReceiverTerminal_keeps holding status

theorem readSegment_keeps (fs : FilestoreOps) (handle : Handle) (offset len : Nat) :
    Keeps E (readSegment fs handle offset len) (fun _ entity' => entity'.receiver = entity.receiver) entity := by
  apply safe_bind
  apply keeps_call holding
  · exact fun visit impossible => impossible
  · exact fun _ => safe_modify (safe_pure rfl)

/-- A send that finds the receiver with a transaction leaves one, when the call goes on from there. -/
theorem sendEncodedPduTo_keeps (dest : Nat) (encoded : Except Status Bytes) (active : entity.receiver.active = true) :
    Keeps E (sendEncodedPduTo dest encoded) (fun status entity' => entity'.AtRest ∧
      ((∀ pdu rc, encoded = .ok pdu → (status = .ok → rc = 0) → GoesOn entity pdu rc call) →
        entity'.receiver.active = true)) entity := by
  cases encoded with
  | error status => exact safe_pure ⟨.of_active active, fun _ => active⟩
  | ok pdu =>
    apply safe_bind
    apply safe_call
    intro rc t entity' step
    obtain ⟨quiet, rests⟩ := holding.along _ _ _ _ _ step (.of_active active)
    refine ⟨quiet, safe_pure ⟨rests, fun goesOn => ?_⟩⟩
    apply holding.held step (goesOn pdu rc rfl _)
    intro sent
    by_cases zero : rc = 0
    · exact zero
    · simp [zero] at sent

end Callbacks

/-! ## The handlers of the receiver -/

section Handlers

variable {entity : Entity} (fs : FilestoreOps)

theorem receiverComputeChecksumLoop_keeps (handle : Handle) (turns : Nat) (state : ChecksumState) (offset : Nat) :
    Keeps E (receiverComputeChecksumLoop fs handle turns state offset)
      (fun _ entity' => entity'.receiver = entity.receiver) entity := by
  induction turns generalizing entity state offset with
  | zero =>
    apply safe_read
    exact safe_pure rfl
  | succ turns ih =>
    apply safe_read
    apply safe_ite
    · intro _
      apply safe_bind
      apply safe_mono (readSegment_keeps holding fs handle offset _)
      rintro ⟨rc, nread⟩ entity₁ same
      dsimp only
      refine safe_ite (fun _ => safe_pure same) fun _ => ?_
      refine safe_ite (fun _ => safe_pure same) fun _ => ?_
      apply safe_read
      cases checksumUpdate state offset (entity₁.fileSegmentBuf.take nread) with
      | error status => exact safe_pure same
      | ok state => exact safe_mono (ih state _) fun _ _ same' => same'.trans same
    · exact fun _ => safe_pure rfl

theorem receiverVerifyCompleteFile_keeps (expected : Nat) :
    Keeps E (receiverVerifyCompleteFile fs expected) (fun _ entity' => entity'.receiver = entity.receiver) entity := by
  have computed : Keeps E (receiverComputeChecksum fs) (fun _ entity' => entity'.receiver = entity.receiver) entity := by
    apply safe_read
    cases checksumInit entity.receiver.checksumType with
    | error status => exact safe_pure rfl
    | ok state =>
      apply safe_bind
      apply safe_mono (receiverComputeChecksumLoop_keeps holding fs _ _ state 0)
      exact fun _ _ same => safe_pure same
  apply safe_bind
  apply safe_mono computed
  intro result entity' same
  cases result with
  | error status => exact safe_pure same
  | ok checksum => exact safe_pure same

omit [ZephyrCrc] in
theorem receiverFinishClose_keeps (status : Status) (active : entity.receiver.active = true) :
    Keeps E (receiverFinishClose fs status) (fun _ entity' => entity'.receiver.active = true) entity := by
  apply safe_read
  apply safe_bind
  apply keeps_callIf holding
  · exact fun visit impossible => impossible
  · exact fun _ => safe_modify (safe_pure active)

omit [ZephyrCrc] in
theorem receiverFinishStore_keeps (status : Status) (active : entity.receiver.active = true) :
    Keeps E (receiverFinishStore fs status) (fun _ entity' => entity'.receiver.active = true) entity := by
  apply safe_read
  apply safe_ite
  · intro _
    apply safe_bind
    apply keeps_call holding
    · exact fun visit impossible => impossible
    · exact fun _ => safe_pure active
  · intro _
    apply safe_bind
    apply keeps_call holding
    · exact fun visit impossible => impossible
    · exact fun _ => safe_pure active

omit [ZephyrCrc] in
/-- A Finished PDU may bring the ACK that releases the receiver; nothing is sent when no closure is requested. -/
theorem receiverFinishSend_keeps (closureRequested : Bool) (status : Status) (active : entity.receiver.active = true) :
    Keeps E (receiverFinishSend closureRequested status) (fun _ entity' => entity'.AtRest ∧
      (closureRequested = false → entity'.receiver.active = true)) entity := by
  cases closureRequested with
  | false => exact safe_pure ⟨.of_active active, fun _ => active⟩
  | true =>
    have rests : (entity.withReceiver (entity.receiver.withFinishedStatus status)).AtRest := .of_active active
    apply safe_modify
    apply safe_mono (keeps_along (sendFinishedForReceiverStatus_along holding.along status) rests)
    intro _ _ rests
    constructor
    · exact rests
    · simp

omit [ZephyrCrc] in
theorem receiverFinishSettle_keeps (closureRequested : Bool) (status finishedStatus : Status) (rests : entity.AtRest)
    (unsent : closureRequested = false → entity.receiver.active = true) :
    Keeps E (receiverFinishSettle closureRequested status finishedStatus) (fun _ entity' => entity'.AtRest) entity := by
  have released : ∀ reported result, Keeps E (releaseReceiverTerminal reported >>= fun _ => (pure result : EntityM Status))
      (fun _ entity' => entity'.AtRest) entity := by
    intro reported result
    apply safe_bind
    apply safe_mono (releaseReceiverTerminal_keeps holding reported)
    exact fun _ _ rests => safe_pure rests
  apply safe_read
  apply safe_ite (fun _ => safe_pure rests)
  intro going
  have active : entity.receiver.active = true := by
    cases requested : closureRequested with
    | false => exact unsent requested
    | true => simpa [requested] using going
  apply safe_ite
  · intro _
    apply safe_ite
    · intro _
      apply safe_modify
      apply safe_bind
      apply safe_mono (entityNowMs_keeps holding)
      rintro now _ rfl
      exact safe_modify (safe_pure (.of_active active))
    · exact fun _ => released _ _
  · exact fun _ => released _ _

omit [ZephyrCrc] in
/-- The end of a transaction, from a receiver that has one -/
theorem receiverFinish_keeps (status : Status) (active : entity.receiver.active = true) :
    Keeps E (receiverFinish fs status) (fun _ entity' => entity'.AtRest) entity := by
  apply safe_read
  apply safe_bind
  apply safe_mono (receiverFinishClose_keeps holding fs status active)
  intro status entity₁ active
  apply safe_bind
  apply safe_mono (receiverFinishStore_keeps holding fs status active)
  intro status entity₂ active
  apply safe_bind
  apply safe_mono (receiverFinishSend_keeps holding _ status active)
  rintro finishedStatus entity₃ ⟨rests, unsent⟩
  exact receiverFinishSettle_keeps holding _ status finishedStatus rests unsent

theorem receiverVerifyFinish_keeps (expected : Nat) (active : entity.receiver.active = true) :
    Keeps E (receiverVerifyCompleteFile fs expected >>= receiverFinish fs) (fun _ entity' => entity'.AtRest) entity := by
  apply safe_bind
  apply safe_mono (receiverVerifyCompleteFile_keeps holding fs expected)
  intro status entity' same
  rw [← same] at active
  exact receiverFinish_keeps holding fs status active

omit [ZephyrCrc] in
theorem receiverHandleMetadata_keeps (pdu : Bytes) (rests : entity.AtRest) :
    Keeps E (receiverHandleMetadata fs pdu) (fun _ entity' => entity'.AtRest) entity := by
  apply safe_read
  split
  · exact safe_pure rests
  apply safe_ite (fun _ => safe_pure rests)
  intro _
  apply safe_ite (fun _ => safe_pure rests)
  intro _
  split
  · exact safe_pure rests
  apply safe_modify
  apply safe_bind
  apply keeps_call holding
  · exact fun visit impossible => impossible
  intro reply
  apply safe_modify
  apply safe_ite
  · intro _
    apply safe_bind
    apply safe_mono (emitTerminalEvent_keeps holding _ _ _)
    intro _ _ _
    exact safe_modify (safe_pure fun _ => rfl)
  · exact fun _ => safe_modify (safe_pure (.of_active rfl))

omit [Kconfig] [ZephyrCrc] holding in
theorem active_of_matched {header : PduHeader} (matched : receiverMatchActive entity header = .ok) :
    entity.receiver.active = true := by
  cases active : entity.receiver.active with
  | true => rfl
  | false => simp [receiverMatchActive, active] at matched

theorem receiverHandleFiledata_keeps (pdu : Bytes) (rests : entity.AtRest) :
    Keeps E (receiverHandleFiledata fs pdu) (fun _ entity' => entity'.AtRest) entity := by
  apply safe_read
  split
  · exact safe_pure rests
  apply safe_ite (fun _ => safe_pure rests)
  intro _
  apply safe_ite (fun _ => safe_pure rests)
  intro matched
  have active := active_of_matched (not_not.mp matched)
  apply safe_ite (fun _ => safe_pure rests)
  intro _
  apply safe_ite (fun _ => safe_pure rests)
  intro _
  apply safe_bind
  apply keeps_call holding
  · exact fun visit impossible => impossible
  intro rc
  apply safe_read
  apply safe_ite (fun _ => safe_pure rests)
  intro _
  split
  · exact safe_pure rests
  apply safe_modify
  split
  · exact safe_pure (.of_active active)
  apply safe_modify
  apply safe_read
  apply safe_ite
  · intro _
    split
    · exact receiverFinish_keeps holding fs _ active
    · apply safe_ite
      · exact fun _ => receiverVerifyFinish_keeps holding fs _ active
      · exact fun _ => safe_pure (.of_active active)
  · exact fun _ => safe_pure (.of_active active)

omit [ZephyrCrc] in
theorem sendNakForMissingRanges_keeps (active : entity.receiver.active = true) :
    Keeps E sendNakForMissingRanges (fun status entity' => entity'.AtRest ∧
      ((∀ pdu rc missing, encodeNak (nakPdu entity missing) maxPduSize = .ok pdu → (status = .ok → rc = 0) →
        GoesOn entity pdu rc call) → entity'.receiver.active = true)) entity := by
  apply safe_read
  cases rangesMissing entity.receiver.receivedRanges 0 entity.receiver.fileSize with
  | error status => exact safe_pure ⟨.of_active active, fun _ => active⟩
  | ok missing =>
    apply safe_mono (sendEncodedPduTo_keeps holding _ _ active)
    rintro status entity' ⟨rests, held⟩
    exact ⟨rests, fun goesOn => held fun pdu rc encoded sent => goesOn pdu rc missing encoded sent⟩

omit [ZephyrCrc] in
theorem receiverHandleAck_keeps (pdu : Bytes) (rests : entity.AtRest) :
    Keeps E (receiverHandleAck pdu) (fun _ entity' => entity'.AtRest) entity := by
  apply safe_read
  split
  · exact safe_pure rests
  apply safe_ite (fun _ => safe_pure rests)
  intro _
  apply safe_ite (fun _ => safe_pure rests)
  intro _
  apply safe_ite (fun _ => safe_pure rests)
  intro _
  apply safe_bind
  apply safe_mono (releaseReceiverTerminal_keeps holding _)
  exact fun _ _ rests => safe_pure rests

omit [ZephyrCrc] in
theorem failReceiverOnError_keeps (header : PduHeader) (status : Status) (rests : entity.AtRest) :
    Keeps E (failReceiverOnError header status) (fun _ entity' => entity'.AtRest) entity := by
  apply safe_read
  apply safe_ite
  · intro _
    apply safe_bind
    apply safe_mono (failReceiverActiveTransaction_keeps holding status)
    exact fun _ _ rests => safe_pure rests
  · exact fun _ => safe_pure rests

/-! ## Polling -/

omit [ZephyrCrc] in
theorem closeReleaseReceiver_keeps (status : Status) :
    Keeps E (closeDiscardReceiver >>= fun _ => releaseReceiverTerminal status) (fun _ entity' => entity'.AtRest)
      entity := by
  apply safe_bind
  apply safe_mono (closeDiscardReceiver_keeps holding)
  exact fun _ _ _ => releaseReceiverTerminal_keeps holding status

end Handlers

end Calls

section Poll

variable {entity : Entity} {time : UInt64} (holding : Holding E (.poll time))

include holding

omit [ZephyrCrc]

/-- After a NAK that was sent the retry is counted in the slot. -/
theorem pollRecovery_keeps (now : Nat) (rests : entity.AtRest) :
    Keeps E (pollRecovery now) (fun _ entity' => entity'.AtRest) entity := by
  apply safe_read
  apply safe_ite _ (fun _ => safe_pure rests)
  intro due
  simp only [Bool.and_eq_true] at due
  apply safe_ite (fun _ => closeReleaseReceiver_keeps holding _)
  intro _
  apply safe_bind
  apply safe_mono (sendNakForMissingRanges_keeps holding due.1.1.1)
  rintro status entity' ⟨_, held⟩
  apply safe_ite
  · intro sent
    have active := held fun pdu rc missing encoded zero => ⟨zero sent, .inl ⟨missing, encoded⟩⟩
    exact safe_pure (.of_active active)
  · exact fun _ => closeReleaseReceiver_keeps holding _

theorem pollFinished_keeps (now : Nat) (rests : entity.AtRest) :
    Keeps E (pollFinished now) (fun _ entity' => entity'.AtRest) entity := by
  apply safe_read
  apply safe_ite _ (fun _ => safe_pure rests)
  intro due
  simp only [Bool.and_eq_true] at due
  apply safe_ite (fun _ => releaseReceiverTerminal_keeps holding _)
  intro _
  apply safe_bind
  apply safe_read
  apply safe_mono (sendEncodedPduTo_keeps holding _ _ due.1.1.1)
  rintro status entity' ⟨_, held⟩
  apply safe_ite
  · intro sent
    have active := held fun pdu rc encoded zero => ⟨zero sent, .inr ⟨_, encoded⟩⟩
    exact safe_pure (.of_active active)
  · exact fun _ => releaseReceiverTerminal_keeps holding _

theorem poll_keeps (rests : entity.AtRest) : Keeps E (poll time) (fun _ entity' => entity'.AtRest) entity := by
  apply safe_bind
  apply safe_mono (pollRecovery_keeps holding _ rests)
  intro _ entity₁ rests
  apply safe_bind
  apply safe_mono (pollFinished_keeps holding _ rests)
  intro _ entity₂ rests
  exact keeps_along (pollSender_along restsAlong_senderFree.tolerant holding.along _) rests

end Poll

/-! ## Receiving a PDU -/

section Receive

variable {entity : Entity} {filestore : Option FilestoreOps} {pdu : Bytes}
  (holding : Holding E (.receivePdu filestore pdu)) (fs : FilestoreOps)

include holding

theorem receiverHandleEofComplete_keeps (eof : EofPdu) (active : entity.receiver.active = true) :
    Keeps E (receiverHandleEofComplete fs eof) (fun _ entity' => entity'.AtRest) entity := by
  apply safe_read
  cases rangesIsComplete entity.receiver.receivedRanges 0 eof.fileSize with
  | error status => exact receiverFinish_keeps holding fs status active
  | ok complete =>
    apply safe_ite
    · intro _
      apply safe_ite _ (fun _ => receiverFinish_keeps holding fs _ active)
      intro _
      apply safe_modify
      apply safe_bind
      refine safe_mono (sendNakForMissingRanges_keeps holding ?_) ?_
      · exact active
      rintro status entity' ⟨_, held⟩
      have active' := held fun pdu rc missing encoded _ => Or.inr ⟨missing, encoded⟩
      apply safe_ite (fun _ => receiverFinish_keeps holding fs status active')
      intro _
      apply safe_modify
      apply safe_bind
      apply safe_mono (entityNowMs_keeps holding)
      rintro now _ rfl
      exact safe_modify (safe_pure (.of_active active'))
    · exact fun _ => receiverVerifyFinish_keeps holding fs _ active

theorem receiverHandleEof_keeps (rests : entity.AtRest) :
    Keeps E (receiverHandleEof fs pdu) (fun _ entity' => entity'.AtRest) entity := by
  apply safe_read
  cases decoded : decodeEof pdu with
  | error status => exact safe_pure rests
  | ok result =>
    obtain ⟨eof, consumed⟩ := result
    dsimp only
    refine safe_ite (fun _ => safe_pure rests) fun _ => ?_
    refine safe_ite (fun _ => safe_pure rests) fun matched => ?_
    have active := active_of_matched (not_not.mp matched)
    apply safe_ite
    · exact fun _ => keeps_along (sendFinishedForReceiverStatus_along holding.along _) rests
    intro _
    apply safe_modify
    apply safe_ite
    · intro refused
      apply safe_ite
      · intro _
        apply safe_bind
        apply safe_read
        refine safe_mono (sendEncodedPduTo_keeps holding _ _ ?_) ?_
        · exact active
        rintro status entity' ⟨_, held⟩
        -- the result of the send is not looked at
        have active' := held fun pdu rc encoded _ => Or.inl ⟨eof, consumed, decoded, encoded, .inr refused⟩
        exact receiverFinish_keeps holding fs _ active'
      · exact fun _ => receiverFinish_keeps holding fs _ active
    · intro _
      apply safe_ite
      · intro _
        apply safe_bind
        apply safe_read
        refine safe_mono (sendEncodedPduTo_keeps holding _ _ ?_) ?_
        · exact active
        rintro status entity' ⟨rests', held⟩
        apply safe_ite (fun _ => safe_pure rests')
        intro sent
        have active' := held fun pdu rc encoded zero =>
          Or.inl ⟨eof, consumed, decoded, encoded, .inl (zero (not_not.mp sent))⟩
        exact receiverHandleEofComplete_keeps holding fs eof active'
      · exact fun _ => receiverHandleEofComplete_keeps holding fs eof active

theorem receivePduTowardReceiver_keeps (header : PduHeader) (headerLen : Nat) (rests : entity.AtRest) :
    Keeps E (receivePduTowardReceiver fs header headerLen pdu) (fun _ entity' => entity'.AtRest) entity := by
  apply safe_ite
  · intro _
    apply safe_bind
    apply safe_mono (receiverHandleFiledata_keeps holding fs pdu rests)
    exact fun status _ rests => failReceiverOnError_keeps holding header status rests
  · intro _
    apply safe_ite (fun _ => safe_pure rests)
    intro _
    apply safe_bind
    have handled : Keeps E (receiverHandleDirective fs (byteAt pdu headerLen) pdu) (fun _ entity' => entity'.AtRest)
        entity := by
      apply safe_ite (fun _ => receiverHandleMetadata_keeps holding fs pdu rests)
      intro _
      apply safe_ite (fun _ => receiverHandleEof_keeps holding fs rests)
      intro _
      exact safe_ite (fun _ => receiverHandleAck_keeps holding pdu rests) fun _ => safe_pure rests
    apply safe_mono handled
    exact fun status _ rests => failReceiverOnError_keeps holding header status rests

theorem receivePdu_keeps (rests : entity.AtRest) :
    Keeps E (receivePdu filestore pdu) (fun _ entity' => entity'.AtRest) entity := by
  unfold receivePdu
  split
  · exact safe_pure rests
  apply safe_ite
  · intro _
    apply keeps_along _ rests
    apply receivePduTowardSender_along restsAlong_senderFree.tolerant holding.along
    exact senderHandleFinished_along restsAlong_senderFree.toSenderSlotFree holding.along pdu
  · intro _
    apply safe_read
    apply safe_ite (fun _ => safe_pure rests)
    intro _
    split
    · exact safe_pure rests
    · apply safe_ite (fun _ => safe_pure rests)
      exact fun _ => receivePduTowardReceiver_keeps holding _ _ _ rests

end Receive

end Programs

/-! ## Every run -/

section Runs

variable {E : Environment Op Res Entity (Item Op Res Entity ApiCall)} {call : ApiCall} {entity entity' : Entity}
  {t : List (Item Op Res Entity ApiCall)} {result : Status × Option TransactionId}

theorem apiCall_keeps (holding : Holding E call) (rests : entity.AtRest) :
    Keeps E call.body (fun _ entity' => entity'.AtRest) entity := by
  cases call with
  | createSenderTransaction =>
    apply safe_bind
    apply safe_mono (keeps_along (createSenderTransaction_along restsAlong_senderFree) rests)
    intro result entity' rests
    cases result with
    | error status => exact safe_pure rests
    | ok allocated => exact safe_pure rests
  | sendFile fs request => exact keeps_along (sendFile_along restsAlong_senderFree holding.along fs request) rests
  | receivePdu filestore pdu =>
    apply safe_bind
    apply safe_mono (receivePdu_keeps holding rests)
    exact fun _ _ rests => safe_pure rests
  | poll now =>
    apply safe_bind
    apply safe_mono (poll_keeps holding rests)
    exact fun _ _ rests => safe_pure rests
  | matchOrCreateReceiverTransaction pdu =>
    have matched : Keeps E (matchOrCreateReceiverTransaction pdu) (fun _ entity' => entity'.AtRest) entity := by
      unfold matchOrCreateReceiverTransaction
      split
      · exact safe_pure rests
      apply safe_read
      apply safe_ite (fun _ => safe_pure rests)
      intro _
      apply safe_ite
      · exact fun _ => safe_ite (fun _ => safe_pure rests) fun _ => safe_pure rests
      · exact fun _ => safe_modify (safe_pure (.of_active rfl))
    apply safe_bind
    apply safe_mono matched
    exact fun _ _ rests => safe_pure rests
  | releaseSenderTransaction =>
    apply safe_bind
    apply safe_bind
    apply safe_mono (keeps_along (closeSenderHandle_along restsAlong_senderFree.tolerant holding.along) rests)
    exact fun _ _ rests => ⟨by simp, safe_pure rests⟩
  | releaseReceiverTransaction => exact safe_modify (safe_pure fun _ => rfl)

/-- The visits of a callback that move along `RestsAlong` let a call hold its receiver. -/
theorem holding_return (call : ApiCall) : Holding (reentrant.Return HeldReceiver
    (fun _ entity t _ entity' => RestsAlong entity t entity') call) call where
  along := by
    apply Service.return_along
    · exact fun entity op r rests => ⟨by simp [EntersAtRest], rests⟩
    · intro op visit entity t _ entity' _ moves rests
      obtain ⟨within, rests'⟩ := moves rests
      exact ⟨List.forall_mem_cons.mpr ⟨rests, within⟩, rests'⟩
  unvisited := by
    intro entity op r t entity' closed step
    obtain ⟨rfl, rfl⟩ := Service.return_unvisited closed step
    exact ⟨by simp [EntersAtRest], rfl⟩
  held step := step.1

/-- Every call leaves the receiver at rest, with calls during its sends as deep as may be. -/
theorem rests_of_nested (run : reentrant.RunsNested HeldReceiver call entity t result entity') :
    RestsAlong entity t entity' := by
  apply @Service.runsNested_spec _ _ _ _ _ reentrant HeldReceiver
    (fun _ entity t _ entity' => RestsAlong entity t entity') _ call entity entity' t result run
  intro call entity
  by_cases rests : entity.AtRest
  · exact wp_mono (apiCall_keeps (holding_return call) rests) fun _ _ _ reached _ => reached
  · exact wp_iff_runs.mpr fun _ _ _ _ impossible => (rests impossible).elim

end Runs

/-! ## The configuration -/

section Config

variable {call : ApiCall} {entity entity' : Entity} {t : List (Item Op Res Entity ApiCall)}

omit [Kconfig] [ZephyrCrc] in
/-- All entities on the way have the configuration of the first. -/
def ConfigAlong (entity : Entity) (t : List (Item Op Res Entity ApiCall)) (entity' : Entity) : Prop :=
  SameConfig entity entity' ∧ ∀ found visit, Item.enter found visit ∈ t → SameConfig entity found

instance : Composes ConfigAlong where
  refl entity := ⟨.refl entity, by simp⟩
  trans first second := by
    refine ⟨first.1.trans second.1, fun found visit mem => ?_⟩
    rcases List.mem_append.mp mem with mem | mem
    · exact first.2 found visit mem
    · exact first.1.trans (second.2 found visit mem)

omit [Kconfig] [ZephyrCrc] in
theorem ConfigAlong.enter {visit : ApiCall} (moves : ConfigAlong entity t entity') :
    ConfigAlong entity (.enter entity visit :: t) entity' := by
  refine ⟨moves.1, fun found visit' mem => ?_⟩
  rcases List.mem_cons.mp mem with start | mem
  · cases start
    exact .refl entity
  · exact moves.2 found visit' mem

omit [Kconfig] [ZephyrCrc] in
theorem configAlong_senderFree : SenderFree ConfigAlong := by
  refine ⟨⟨?_, ?_, ?_⟩, ?_⟩ <;> intros <;> exact ⟨⟨rfl, rfl, rfl, rfl, rfl, rfl⟩, by simp⟩

omit [Kconfig] [ZephyrCrc] in
theorem configAlong_receiverFree : ReceiverFree ConfigAlong := by
  constructor <;> intros <;> exact ⟨⟨rfl, rfl, rfl, rfl, rfl, rfl⟩, by simp⟩

/-- Every call, for a relation that looks at neither slot -/
theorem apiCall_free {τ : Type} {E : Environment Op Res Entity τ} {R : Entity → List τ → Entity → Prop} [Composes R]
    (sender : SenderFree R) (receiver : ReceiverFree R) (env : EnvironmentAlong E R) (call : ApiCall) :
    call.body.Along E R := by
  cases call with
  | createSenderTransaction =>
    apply along_bind (createSenderTransaction_along sender)
    intro result
    cases result with
    | error status => exact along_pure
    | ok allocated => exact along_pure
  | sendFile fs request => exact sendFile_along sender env fs request
  | receivePdu filestore pdu =>
    exact along_bind (receivePdu_free sender.toSenderSlotFree receiver env filestore pdu) fun _ => along_pure
  | poll now =>
    exact along_bind (poll_free sender.toSenderSlotFree.tolerant receiver env now) fun _ => along_pure
  | matchOrCreateReceiverTransaction pdu =>
    exact along_bind (matchOrCreateReceiverTransaction_along receiver pdu) fun _ => along_pure
  | releaseSenderTransaction =>
    apply along_bind _ fun _ => along_pure
    exact along_bind (closeSenderHandle_along sender.toSenderSlotFree.tolerant env) fun _ =>
      updateSender_along sender.toSenderSlotFree _
  | releaseReceiverTransaction => exact along_bind (updateReceiver_along receiver _) fun _ => along_pure

theorem config_of_nested {guard : Guard Op Res Entity ApiCall} {result : Status × Option TransactionId}
    (run : reentrant.RunsNested guard call entity t result entity') : ConfigAlong entity t entity' := by
  apply @Service.runsNested_along _ _ _ _ _ reentrant guard ConfigAlong _
    (fun _ entity t entity' => ConfigAlong entity t entity') _ _ _ call entity entity' t result run
  · exact fun entity op r => ⟨.refl entity, by simp⟩
  · exact fun op visit entity t entity' _ moves => moves.enter
  · exact fun E env call entity => apiCall_free configAlong_senderFree configAlong_receiverFree env call entity

end Config

/-! ## A Metadata PDU is accepted -/

/-- The callbacks of a trace with their results -/
def callbacks (t : List (Item Op Res Entity ApiCall)) : Trace :=
  t.filterMap fun item =>
    match item with
    | .back _ op result => some ⟨op, result⟩
    | .enter .. => none

/-- The visits of a call are not restricted. -/
abbrev anyReturn : Guard Op Res Entity ApiCall := fun _ _ _ _ _ => True

/-- A receiver without a transaction accepts a Metadata PDU, with this reply to `open_write_tmp`. -/
structure MetadataAccepted (fs : FilestoreOps) (pdu : Bytes) (reply : OpenWriteReply) (entity entity' : Entity) :
    Prop where
  idle : entity.receiver.active = false
  accepted : ∃ metadata consumed t, decodeMetadata pdu = .ok (metadata, consumed) ∧
    metadata.header.direction = .towardReceiver ∧
    reentrant.RunsNested anyReturn (.receivePdu (some fs) pdu) entity t (.ok, none) entity' ∧
    callbacks t = [⟨.openWriteTmp fs (cString metadata.destinationFilename), reply⟩]

/-- What an accepted Metadata PDU sets up is what it sets up in the entity as it was initialised. -/
def StartsFresh (fresh entity : Entity) : Prop :=
  ∀ fs pdu reply entity', MetadataAccepted fs pdu reply entity entity' →
    ∃ fresh', MetadataAccepted fs pdu reply fresh fresh' ∧ entity'.receiver = fresh'.receiver

section Lockstep

omit [Kconfig] [ZephyrCrc]

/-- Two entities with the same configuration and the same slot of the receiver -/
structure Alike (entity entity' : Entity) : Prop where
  config : SameConfig entity entity'
  receiver : entity'.receiver = entity.receiver

abbrev Unvisited (op : Op) : Prop := ∀ visit, ¬ ApiVisitable op visit

abbrev SameSteps {α : Type} (p : EntityM α) : Prop := p.Lockstep Unvisited Alike p

theorem updateReceiver_lockstep (f : TransactionSlot → TransactionSlot) : SameSteps (updateReceiver f) := by
  apply lockstep_modify
  intro entity entity' alike
  obtain ⟨⟨localId, remoteId, idLen, sequenceLen, clock, events⟩, receiver⟩ := alike
  constructor
  · exact ⟨localId, remoteId, idLen, sequenceLen, clock, events⟩
  · show f entity'.receiver = f entity.receiver
    rw [receiver]

theorem emitTerminalEvent_lockstep (role : Role) (id : TransactionId) (status : Status) :
    SameSteps (emitTerminalEvent role id status) := by
  apply lockstep_read
  intro entity entity' alike
  rw [alike.config.eventCb]
  exact lockstep_callIf (fun visit impossible => impossible) entity entity' alike

theorem closeSlotHandle_lockstep (slot : TransactionSlot) : SameSteps (closeSlotHandle slot) := by
  unfold closeSlotHandle
  cases slot.filestore with
  | none => exact lockstep_pure
  | some fs => exact lockstep_bind (lockstep_callIf fun visit impossible => impossible) fun _ => lockstep_pure

theorem releaseReceiverTerminal_lockstep (status : Status) : SameSteps (releaseReceiverTerminal status) := by
  apply lockstep_read
  intro entity entity' alike
  rw [alike.receiver]
  exact lockstep_bind (emitTerminalEvent_lockstep _ _ _) (fun _ => updateReceiver_lockstep _) entity entity' alike

theorem failReceiverActiveTransaction_lockstep (status : Status) :
    SameSteps (failReceiverActiveTransaction status) := by
  have dropped : SameSteps closeDiscardReceiver := by
    apply lockstep_read
    intro entity entity' alike
    rw [alike.receiver]
    cases entity.receiver.filestore with
    | none => exact lockstep_pure entity entity' alike
    | some fs =>
      refine lockstep_bind (closeSlotHandle_lockstep _) (fun _ => ?_) entity entity' alike
      apply lockstep_bind (updateReceiver_lockstep _)
      intro _
      exact lockstep_bind (lockstep_callIf fun visit impossible => impossible) fun _ => lockstep_pure
  apply lockstep_read
  intro entity entity' alike
  rw [alike.receiver]
  exact lockstep_bind (lockstep_runIf dropped) (fun _ => releaseReceiverTerminal_lockstep status) entity entity' alike

theorem failReceiverOnError_lockstep (header : PduHeader) (status : Status) :
    SameSteps (failReceiverOnError header status) := by
  apply lockstep_read
  intro entity entity' alike
  have matched : receiverActiveMatchesHeader entity' header = receiverActiveMatchesHeader entity header := by
    rw [receiverActiveMatchesHeader, receiverActiveMatchesHeader, alike.receiver]
  rw [matched]
  refine lockstep_ite ?_ lockstep_pure entity entity' alike
  exact lockstep_bind (failReceiverActiveTransaction_lockstep status) fun _ => lockstep_pure

theorem Alike.supported {entity entity' : Entity} (alike : Alike entity entity') (header : PduHeader) :
    incomingHeaderIsSupported entity' header = incomingHeaderIsSupported entity header := by
  obtain ⟨⟨localId, remoteId, idLen, sequenceLen, _, _⟩, _⟩ := alike
  rw [incomingHeaderIsSupported, incomingHeaderIsSupported, localId, remoteId, idLen, sequenceLen]

variable [Kconfig] [ZephyrCrc]

omit [ZephyrCrc] in
theorem receiverHandleMetadata_lockstep (fs : FilestoreOps) (pdu : Bytes) :
    SameSteps (receiverHandleMetadata fs pdu) := by
  apply lockstep_read
  intro entity entity' alike
  cases decodeMetadata pdu with
  | error status => exact lockstep_pure entity entity' alike
  | ok result =>
    obtain ⟨metadata, consumed⟩ := result
    dsimp only
    rw [alike.supported, alike.receiver]
    refine lockstep_ite lockstep_pure ?_ entity entity' alike
    apply lockstep_ite lockstep_pure
    cases checksumInit metadata.checksumType with
    | error status => exact lockstep_pure
    | ok checksumState =>
      apply lockstep_bind (updateReceiver_lockstep _)
      intro _
      apply lockstep_bind (lockstep_call fun visit impossible => impossible)
      intro reply
      apply lockstep_bind (updateReceiver_lockstep _)
      intro _
      apply lockstep_ite
      · apply lockstep_bind (emitTerminalEvent_lockstep _ _ _)
        intro _
        exact lockstep_bind (updateReceiver_lockstep _) fun _ => lockstep_pure
      · exact lockstep_bind (updateReceiver_lockstep _) fun _ => lockstep_pure

/-- A Metadata PDU for the receiver is handled alike by entities that the receiver cannot tell apart. -/
theorem receiveMetadata_lockstep (filestore : Option FilestoreOps) {pdu : Bytes} {metadata : MetadataPdu}
    {consumed : Nat} (decoded : decodeMetadata pdu = .ok (metadata, consumed))
    (direction : metadata.header.direction = .towardReceiver) : SameSteps (receivePdu filestore pdu) := by
  obtain ⟨headerLen, header, kind, directive⟩ := decodeMetadata_header decoded
  unfold receivePdu
  rw [header]
  dsimp only
  rw [if_neg (by simp [direction])]
  apply lockstep_read
  intro entity entity' alike
  rw [alike.supported]
  refine lockstep_ite lockstep_pure ?_ entity entity' alike
  cases filestore with
  | none => exact lockstep_pure
  | some fs =>
    refine lockstep_ite lockstep_pure ?_
    unfold receivePduTowardReceiver
    rw [if_neg (by simp [kind])]
    refine lockstep_ite lockstep_pure ?_
    rw [directive, receiverHandleDirective, if_pos rfl]
    exact lockstep_bind (receiverHandleMetadata_lockstep fs pdu) fun status => failReceiverOnError_lockstep _ status

end Lockstep

/-- At a callback that may not re-enter the entity nothing is visited. -/
theorem nested_unvisited {n : Nat} {call : ApiCall} {entity left : Entity} {op : Op} {r : Res op}
    {t : List (Item Op Res Entity ApiCall)} (closed : Unvisited op)
    (step : reentrant.nested anyReturn n call entity op r t left) : t = [.back entity op r] ∧ left = entity := by
  cases n with
  | zero => exact Service.return_unvisited closed step
  | succ n => exact Service.return_unvisited closed step

omit [Kconfig] [ZephyrCrc] in
theorem callbacks_append (t u : List (Item Op Res Entity ApiCall)) : callbacks (t ++ u) = callbacks t ++ callbacks u :=
  List.filterMap_append ..

theorem accepted_fresh {fresh entity : Entity} (rests : entity.AtRest) (config : SameConfig fresh entity)
    (zero : fresh.receiver = .zero) : StartsFresh fresh entity := by
  intro fs pdu reply entity' acceptance
  obtain ⟨metadata, consumed, t, decoded, direction, ⟨n, run⟩, opened⟩ := acceptance.accepted
  have alike : Alike entity fresh := by
    refine ⟨?_, zero.trans (rests acceptance.idle).symm⟩
    obtain ⟨localId, remoteId, idLen, sequenceLen, clock, events⟩ := config
    exact ⟨localId.symm, remoteId.symm, idLen.symm, sequenceLen.symm, clock.symm, events.symm⟩
  have lockstep := lockstep_bind (receiveMetadata_lockstep (some fs) decoded direction)
    (fun status => (lockstep_pure : SameSteps (pure (status, (none : Option TransactionId))))) entity fresh alike
  have followed : ∃ t' fresh', (ApiCall.receivePdu (some fs) pdu).body.Runs
      (reentrant.nested anyReturn n (.receivePdu (some fs) pdu)) fresh t' (.ok, none) fresh' ∧
        callbacks t = callbacks t' ∧ Alike entity' fresh' := by
    apply Act.Lockstep.follow _ _ _ lockstep run
    · rfl
    · intro t t' u u' first second
      rw [callbacks_append, callbacks_append, first, second]
    · intro entity fresh op r t left closed alike step
      obtain ⟨rfl, rfl⟩ := nested_unvisited closed step
      exact ⟨_, fresh, Service.nested_back n trivial, rfl, alike⟩
  obtain ⟨t', fresh', run', same, last⟩ := followed
  refine ⟨fresh', ⟨?_, metadata, consumed, t', decoded, direction, ⟨n, run'⟩, same ▸ opened⟩, last.receiver.symm⟩
  rw [zero]
  rfl

/-- Every run of the API in which the sends that the receiver goes on from leave it a transaction: whatever state a
call finds or the run ends in, a Metadata PDU that is accepted there sets up the slot that it sets up in the entity as it
was initialised. -/
theorem receiver_starts_fresh {config : EntityConfig} {ut : UtOps} {fresh entity : Entity}
    {t : List (Item Op Res Entity ApiCall)} (init : entityInit config ut = .ok fresh)
    (run : Visits (fun _ => True) (reentrant.RunsNested HeldReceiver) fresh t entity) :
    StartsFresh fresh entity ∧ ∀ found call, .enter found call ∈ t → StartsFresh fresh found := by
  have zero := init_receiver init
  have moves : RestsAlong fresh t entity := by
    apply Service.visits_along _ run
    intro call entity t _ entity' _ nested rests
    obtain ⟨within, rests'⟩ := rests_of_nested nested rests
    exact ⟨List.forall_mem_cons.mpr ⟨rests, within⟩, rests'⟩
  have configured : ConfigAlong fresh t entity := by
    apply Service.visits_along _ run
    intro call entity t _ entity' _ nested
    exact (config_of_nested nested).enter
  obtain ⟨within, rests⟩ := moves fun _ => zero
  constructor
  · exact accepted_fresh rests configured.1 zero
  · intro found call mem
    exact accepted_fresh (within _ mem) (configured.2 found call mem) zero

end ZephyrCcsds.Cfdp

namespace ZephyrCcsds.Cfdp

open Callback

section Play

variable [Kconfig] [ZephyrCrc] {guard : Guard Op Res Entity ApiCall}
  {effect : Entity → (op : Op) → Res op → Option Entity}

/-- Play calls of the API one after another. -/
def playCalls (effect : Entity → (op : Op) → Res op → Option Entity) (entity : Entity) (calls : List (ApiCall × Trace)) :
    Option Entity :=
  calls.foldlM (fun entity call => ((call.1.body entity).enact effect call.2).map Prod.snd) entity

theorem visits_of_playCalls (n : Nat) (serves : ∀ call entity op result left, effect entity op result = some left →
      ∃ u, reentrant.nested guard n call entity op result u left)
    {entity entity' : Entity} {calls : List (ApiCall × Trace)} (played : playCalls effect entity calls = some entity') :
    ∃ t, Visits (fun _ => True) (reentrant.RunsNested guard) entity t entity' := by
  induction calls generalizing entity with
  | nil =>
    cases played
    exact ⟨[], .nil⟩
  | cons call calls ih =>
    rw [playCalls, List.foldlM_cons, Option.bind_eq_bind, Option.bind_eq_some_iff] at played
    obtain ⟨entity₁, first, rest⟩ := played
    obtain ⟨⟨result, _⟩, enacted, rfl⟩ := Option.map_eq_some_iff.mp first
    obtain ⟨u, visits⟩ := ih rest
    have run : (call.1.body entity).Runs (fun entity op result t left =>
        t = [⟨op, result⟩] ∧ effect entity op result = some left) call.2 result _ :=
      Act.runs_of_enact (fun _ _ _ _ served => ⟨rfl, served⟩) enacted
    obtain ⟨t, nested⟩ := run.retrace fun _ _ _ _ _ step => serves call.1 _ _ _ _ step.2
    exact ⟨_, .visit trivial ⟨n, nested⟩ visits⟩

end Play

attribute [local instance] defaultKconfig plainCrc

/-- Callbacks return at once, and a send only while the receiver has its transaction. -/
def holdingEffect (entity : Entity) (op : Op) (_ : Res op) : Option Entity :=
  match op with
  | .sendPdu .. => if entity.receiver.active then some entity else none
  | _ => some entity

def deliveringCalls : List (ApiCall × Trace) :=
  [(.receivePdu (some wholeFilestore) metadataOctets, openingStep.trace),
    (.receivePdu (some wholeFilestore) filedataOctets, writingStep.trace),
    (.receivePdu (some wholeFilestore) eofOctets, finishingStep.trace),
    (.receivePdu (some wholeFilestore) ackFinishedOctets, releasingStep.trace)]

/-- A file is delivered and the receiver released. -/
theorem receiver_starts_fresh_delivered : ∃ entity t,
    Visits (fun _ => True) (reentrant.RunsNested HeldReceiver) freshReceiver t entity ∧
      StartsFresh freshReceiver entity := by
  have played : ((playCalls holdingEffect freshReceiver deliveringCalls).map fun entity =>
      decide (entity.receiver.active = false)) = some true := by
    decide +kernel
  simp only [Option.map_eq_some_iff, decide_eq_true_eq] at played
  obtain ⟨entity, played, idle⟩ := played
  have serves : ∀ call entity op result left, holdingEffect entity op result = some left →
      ∃ u, reentrant.nested HeldReceiver 0 call entity op result u left := by
    intro call entity op result left served
    cases op with
    | sendPdu dest pdu =>
      simp only [holdingEffect, Option.ite_none_right_eq_some, Option.some.injEq] at served
      obtain ⟨active, rfl⟩ := served
      exact ⟨_, Service.nested_back 0 fun _ => active⟩
    | nowMs | event | openRead | openWriteTmp | read | write | close | commitTmp | discardTmp =>
      cases served
      exact ⟨_, Service.nested_back 0 trivial⟩
  obtain ⟨t, run⟩ := visits_of_playCalls 0 serves played
  exact ⟨entity, t, run, (receiver_starts_fresh entityInit_receiverConfig run).1⟩

/-- The ACK of the Finished PDU comes back while it is sent again. -/
def releasingEffect (entity : Entity) (op : Op) (_ : Res op) : Option Entity :=
  match op with
  | .sendPdu .. =>
    if entity.receiver.waitingForFinishedAck then
      (((ApiCall.receivePdu (some wholeFilestore) ackFinishedOctets).body entity).play releasingStep.trace).map Prod.snd
    else some entity
  | _ => some entity

/-- The same delivery, where the ACK comes back during the poll that repeats the Finished PDU -/
def staleCalls : List (ApiCall × Trace) :=
  deliveringCalls.take 3 ++ [(.poll 1000000, [⟨.sendPdu 1 [40, 0, 2, 0, 1, 7, 2, 5, 2], (0 : Int)⟩])]

/-- A poll goes on with the slot that was released during its send: the retry it counts is there when the next
transaction starts. -/
theorem stale_retry_count : ∃ entity t, Visits (fun _ => True) (reentrant.RunsNested anyReturn) freshReceiver t entity ∧
    entity.receiver.active = false ∧ entity.receiver.retryCount = 1 := by
  have played : ((playCalls releasingEffect freshReceiver staleCalls).map fun entity =>
      decide (entity.receiver.active = false ∧ entity.receiver.retryCount = 1)) = some true := by
    decide +kernel
  simp only [Option.map_eq_some_iff, decide_eq_true_eq] at played
  obtain ⟨entity, played, idle, stale⟩ := played
  have serves : ∀ call entity op result left, releasingEffect entity op result = some left →
      ∃ u, reentrant.nested anyReturn 1 call entity op result u left := by
    intro call entity op result left served
    cases op with
    | sendPdu dest pdu =>
      rw [releasingEffect] at served
      split_ifs at served with waiting
      · obtain ⟨⟨status, _⟩, released, rfl⟩ := Option.map_eq_some_iff.mp served
        have back : (reentrant.body (.receivePdu (some wholeFilestore) ackFinishedOctets)).Runs once entity
            releasingStep.trace status _ := Act.runs_of_play released
        obtain ⟨u, visit⟩ : ∃ u, (reentrant.body (.receivePdu (some wholeFilestore) ackFinishedOctets)).Runs
            (reentrant.nested anyReturn 0 _) entity u status _ :=
          Service.nested_of_quiet (fun _ _ _ => trivial) back 0
        have visitable : reentrant.visitable (.sendPdu dest pdu)
            (.receivePdu (some wholeFilestore) ackFinishedOctets) := trivial
        exact ⟨_, trivial, _, .visit visitable visit .nil, rfl⟩
      · cases served
        exact ⟨_, Service.nested_back 1 trivial⟩
    | nowMs | event | openRead | openWriteTmp | read | write | close | commitTmp | discardTmp =>
      cases served
      exact ⟨_, Service.nested_back 1 trivial⟩
  obtain ⟨t, run⟩ := visits_of_playCalls 1 serves played
  exact ⟨entity, t, run, idle, stale⟩

end ZephyrCcsds.Cfdp
