import ZephyrCcsds.Cfdp.EntryPoints

/-! # Callbacks that return at once

The environment in which no callback re-enters the entity, and what the small programs of
the entity do in it: each `wp_` rule or outcome relation describes the trace a program
leaves, its result and the state after it.
-/

namespace ZephyrCcsds.Cfdp

open Callback

/-- A callback with its result. -/
abbrev Obs : Type := (op : Op) × Res op

abbrev Trace : Type := List Obs

def observe : Entity → (op : Op) → Res op → Obs := fun _ op result => ⟨op, result⟩

@[simp] theorem observe_apply (entity : Entity) (op : Op) (result : Res op) :
    observe entity op result = ⟨op, result⟩ := rfl

abbrev once : Environment Op Res Entity Obs := quiet observe

/-! ## State updates -/

namespace Entity

variable (entity : Entity) (slot slot' : TransactionSlot) (buf : Bytes)

@[simp] theorem withReceiver_receiver : (entity.withReceiver slot).receiver = slot := rfl
@[simp] theorem withReceiver_sender : (entity.withReceiver slot).sender = entity.sender := rfl
@[simp] theorem withReceiver_eventCb : (entity.withReceiver slot).eventCb = entity.eventCb := rfl
@[simp] theorem withReceiver_nowMs : (entity.withReceiver slot).nowMs = entity.nowMs := rfl
@[simp] theorem withReceiver_buf :
    (entity.withReceiver slot).fileSegmentBuf = entity.fileSegmentBuf := rfl
@[simp] theorem withReceiver_withReceiver :
    (entity.withReceiver slot).withReceiver slot' = entity.withReceiver slot' := rfl
@[simp] theorem withReceiver_self : entity.withReceiver entity.receiver = entity := rfl
@[simp] theorem withSender_sender : (entity.withSender slot).sender = slot := rfl
@[simp] theorem withSender_receiver : (entity.withSender slot).receiver = entity.receiver := rfl
@[simp] theorem withSender_eventCb : (entity.withSender slot).eventCb = entity.eventCb := rfl
@[simp] theorem withSender_nowMs : (entity.withSender slot).nowMs = entity.nowMs := rfl
@[simp] theorem withSender_buf :
    (entity.withSender slot).fileSegmentBuf = entity.fileSegmentBuf := rfl
@[simp] theorem withSender_withSender :
    (entity.withSender slot).withSender slot' = entity.withSender slot' := rfl
@[simp] theorem withSender_self : entity.withSender entity.sender = entity := rfl
@[simp] theorem withBuf_receiver : (entity.withBuf buf).receiver = entity.receiver := rfl
@[simp] theorem withBuf_sender : (entity.withBuf buf).sender = entity.sender := rfl
@[simp] theorem withBuf_eventCb : (entity.withBuf buf).eventCb = entity.eventCb := rfl
@[simp] theorem withBuf_nowMs : (entity.withBuf buf).nowMs = entity.nowMs := rfl
@[simp] theorem withBuf_buf : (entity.withBuf buf).fileSegmentBuf = buf := rfl
@[simp] theorem withBuf_self : entity.withBuf entity.fileSegmentBuf = entity := rfl

end Entity

namespace TransactionSlot

variable (slot : TransactionSlot) (status : Status)

@[simp] theorem withFinishedStatus_active :
    (slot.withFinishedStatus status).active = slot.active := rfl
@[simp] theorem withFinishedStatus_transmissionMode :
    (slot.withFinishedStatus status).transmissionMode = slot.transmissionMode := rfl
@[simp] theorem withFinishedStatus_id : (slot.withFinishedStatus status).id = slot.id := rfl

end TransactionSlot

/-- The configuration of an entity does not change. -/
structure SameConfig (entity entity' : Entity) : Prop where
  localEntityId : entity'.localEntityId = entity.localEntityId
  remoteEntityId : entity'.remoteEntityId = entity.remoteEntityId
  entityIdLen : entity'.entityIdLen = entity.entityIdLen
  sequenceLen : entity'.transactionSequenceNumberLen = entity.transactionSequenceNumberLen
  nowMs : entity'.nowMs = entity.nowMs
  eventCb : entity'.eventCb = entity.eventCb

theorem SameConfig.refl (entity : Entity) : SameConfig entity entity := ⟨rfl, rfl, rfl, rfl, rfl, rfl⟩

theorem SameConfig.trans {entity entity₁ entity' : Entity} (first : SameConfig entity entity₁)
    (second : SameConfig entity₁ entity') : SameConfig entity entity' where
  localEntityId := second.localEntityId.trans first.localEntityId
  remoteEntityId := second.remoteEntityId.trans first.remoteEntityId
  entityIdLen := second.entityIdLen.trans first.entityIdLen
  sequenceLen := second.sequenceLen.trans first.sequenceLen
  nowMs := second.nowMs.trans first.nowMs
  eventCb := second.eventCb.trans first.eventCb

section Rules

variable {τ : Type} {E : Environment Op Res Entity τ} {entity : Entity}

@[simp] theorem wp_updateReceiver {f : TransactionSlot → TransactionSlot}
    {Q : List τ → Unit → Entity → Prop} :
    (updateReceiver f).wp E Q entity ↔ Q [] () (entity.withReceiver (f entity.receiver)) := Iff.rfl

@[simp] theorem wp_updateSender {f : TransactionSlot → TransactionSlot}
    {Q : List τ → Unit → Entity → Prop} :
    (updateSender f).wp E Q entity ↔ Q [] () (entity.withSender (f entity.sender)) := Iff.rfl

end Rules

/-! ## Events, sends and the clock -/

/-- A callback that may be skipped. -/
inductive CalledIf (c : Bool) (op : Op) (default : Res op) : Trace → Res op → Prop where
  | called (result : Res op) : c = true → CalledIf c op default [⟨op, result⟩] result
  | skipped : c = false → CalledIf c op default [] default

theorem CalledIf.elim {c : Bool} {op : Op} {default result : Res op} {t : Trace}
    (called : CalledIf c op default t result) :
    (c = true ∧ t = [⟨op, result⟩]) ∨ (c = false ∧ t = [] ∧ result = default) := by
  cases called with
  | called _ yes => exact .inl ⟨yes, rfl⟩
  | skipped no => exact .inr ⟨no, rfl, rfl⟩

theorem callIf_outcome (c : Bool) (op : Op) (default : Res op) (entity : Entity) :
    (callIf c op default).wp once
      (fun t result entity' => CalledIf c op default t result ∧ entity' = entity) entity := by
  rw [callIf, Prog.wp_callIf_quiet]
  exact ⟨fun called result => ⟨.called result called, rfl⟩, fun skipped => ⟨.skipped skipped, rfl⟩⟩

/-- The trace of a terminal event. -/
def terminalEvent (entity : Entity) (role : Role) (id : TransactionId) (status : Status) : Trace :=
  if entity.eventCb then [⟨.event role (terminalEventType status) id status, ()⟩] else []

@[simp] theorem wp_emitTerminalEvent {role : Role} {id : TransactionId} {status : Status}
    {entity : Entity} {Q : Trace → Unit → Entity → Prop} :
    (emitTerminalEvent role id status).wp once Q entity ↔
      Q (terminalEvent entity role id status) () entity := by
  simp only [emitTerminalEvent, emitEvent, Prog.wp_bind, Prog.wp_read, Prog.wp_callIf_quiet,
    terminalEvent, observe_apply, List.nil_append]
  cases entity.eventCb with
  | true => exact ⟨fun post => post.1 rfl (), fun post => ⟨fun _ _ => post, fun no => (Bool.true_eq_false_eq_False no).elim⟩⟩
  | false => exact ⟨fun post => post.2 rfl, fun post => ⟨fun no => (Bool.false_ne_true no).elim, fun _ => post⟩⟩

/-- What `send_encoded_pdu_to` may do with an encoded PDU. -/
inductive Sent (dest : Nat) (encoded : Except Status Bytes) : Trace → Status → Prop where
  | refused {status : Status} : encoded = .error status → Sent dest encoded [] status
  | sent {pdu : Bytes} (rc : Int) : encoded = .ok pdu →
      Sent dest encoded [⟨.sendPdu dest pdu, rc⟩] (if rc = 0 then .ok else .invalidArgument)

theorem sendEncodedPduTo_outcome (dest : Nat) (encoded : Except Status Bytes) (entity : Entity) :
    (sendEncodedPduTo dest encoded).wp once
      (fun t status entity' => Sent dest encoded t status ∧ entity' = entity) entity := by
  cases result : encoded with
  | error status => exact ⟨.refused rfl, rfl⟩
  | ok pdu =>
    simp only [sendEncodedPduTo, Prog.wp_bind, Prog.wp_call_quiet, Prog.wp_pure, observe_apply,
      List.append_nil]
    exact fun rc => ⟨.sent rc rfl, trivial⟩

theorem Sent.ok {dest : Nat} {encoded : Except Status Bytes} {t : Trace}
    (nonzero : encoded ≠ .error .ok) (sent : Sent dest encoded t .ok) :
    ∃ pdu, encoded = .ok pdu ∧ t = [⟨.sendPdu dest pdu, (0 : Int)⟩] := by
  generalize status : Status.ok = st at sent
  cases sent with
  | refused failed =>
    rw [← status] at failed
    exact (nonzero failed).elim
  | @sent pdu rc encoded =>
    by_cases zero : rc = 0
    · subst zero
      exact ⟨pdu, encoded, rfl⟩
    · rw [if_neg zero] at status
      cases status

/-- The clock of `entity_now_ms`. -/
inductive Clock (entity : Entity) : Trace → Nat → Prop where
  | asked (now : UInt64) : entity.nowMs = true → Clock entity [⟨.nowMs, now⟩] now.toNat
  | none : entity.nowMs = false → Clock entity [] 0

theorem entityNowMs_outcome (entity : Entity) :
    entityNowMs.wp once (fun t now entity' => Clock entity t now ∧ entity' = entity) entity := by
  simp only [entityNowMs, Prog.wp_bind, Prog.wp_read, Prog.wp_callIf_quiet, Prog.wp_pure,
    observe_apply, List.nil_append, List.append_nil]
  exact ⟨fun asked now => ⟨.asked now asked, trivial⟩, fun none => ⟨.none none, trivial⟩⟩

/-! ## Closing, discarding and releasing -/

/-- The trace of closing the handle of a slot. -/
inductive HandleClosed (slot : TransactionSlot) : Trace → Prop where
  | none : slot.filestore = none → HandleClosed slot []
  | shut {fs : FilestoreOps} : slot.filestore = some fs → (slot.fileHandleOpen && fs.close) = false →
      HandleClosed slot []
  | closed {fs : FilestoreOps} (rc : Int) : slot.filestore = some fs →
      (slot.fileHandleOpen && fs.close) = true → HandleClosed slot [⟨.close fs slot.fileHandle, rc⟩]

theorem closeSlotHandle_outcome (slot : TransactionSlot) (entity : Entity) :
    (closeSlotHandle slot).wp once (fun t _ entity' => HandleClosed slot t ∧ entity' = entity)
      entity := by
  unfold closeSlotHandle
  cases filestore : slot.filestore with
  | none => exact ⟨.none filestore, rfl⟩
  | some fs =>
    simp only [Prog.wp_bind, Prog.wp_callIf_quiet, Prog.wp_pure, observe_apply, List.append_nil]
    exact ⟨fun shut rc => ⟨.closed rc filestore shut, trivial⟩, fun kept => ⟨.shut filestore kept, trivial⟩⟩

theorem closeSenderHandle_outcome (entity : Entity) :
    closeSenderHandle.wp once
      (fun t _ entity' => HandleClosed entity.sender t ∧
        entity' = entity.withSender entity.sender.withoutHandle) entity := by
  simp only [closeSenderHandle, Prog.wp_bind, Prog.wp_read, List.nil_append]
  refine Prog.wp_mono (closeSlotHandle_outcome _ _) ?_
  rintro t _ entity' ⟨closed, rfl⟩
  simp only [wp_updateSender, List.append_nil]
  exact ⟨closed, trivial⟩

/-- The trace of `close_discard_receiver` from a slot. -/
inductive Discarded (slot : TransactionSlot) : Trace → Prop where
  | none : slot.filestore = none → Discarded slot []
  | discarded {fs : FilestoreOps} {t u : Trace} {rc : Int} : slot.filestore = some fs →
      HandleClosed slot t →
      CalledIf fs.discardTmp (.discardTmp fs (cString slot.destinationPath)) 0 u rc →
      Discarded slot (t ++ u)

theorem closeDiscardReceiver_outcome (entity : Entity) :
    closeDiscardReceiver.wp once
      (fun t _ entity' => Discarded entity.receiver t ∧
        (entity' = entity ∨ entity' = entity.withReceiver entity.receiver.withoutHandle)) entity := by
  simp only [closeDiscardReceiver, Prog.wp_bind, Prog.wp_read, List.nil_append]
  cases filestore : entity.receiver.filestore with
  | none => exact ⟨.none filestore, .inl rfl⟩
  | some fs =>
    simp only [Prog.wp_bind]
    refine Prog.wp_mono (closeSlotHandle_outcome _ _) ?_
    rintro t _ entity' ⟨closed, rfl⟩
    simp only [wp_updateReceiver]
    refine Prog.wp_mono (callIf_outcome _ _ _ _) ?_
    rintro u rc entity' ⟨called, rfl⟩
    simp only [Prog.wp_pure, List.append_nil]
    exact ⟨.discarded filestore closed called, .inr trivial⟩

@[simp] theorem wp_releaseReceiverTerminal {status : Status} {entity : Entity}
    {Q : Trace → Unit → Entity → Prop} :
    (releaseReceiverTerminal status).wp once Q entity ↔
      Q (terminalEvent entity .receiver entity.receiver.id status) () (entity.withReceiver .zero) := by
  simp only [releaseReceiverTerminal, releaseReceiverTransaction, Prog.wp_bind, Prog.wp_read,
    wp_emitTerminalEvent, wp_updateReceiver, List.nil_append, List.append_nil]

/-- The trace of `fail_receiver_active_transaction`. -/
inductive Dropped (entity : Entity) (status : Status) : Trace → Prop where
  | waiting : entity.receiver.waitingForFinishedAck = true →
      Dropped entity status (terminalEvent entity .receiver entity.receiver.id status)
  | discarded {t : Trace} : entity.receiver.waitingForFinishedAck = false →
      Discarded entity.receiver t →
      Dropped entity status (t ++ terminalEvent entity .receiver entity.receiver.id status)

theorem failReceiverActiveTransaction_outcome (status : Status) (entity : Entity) :
    (failReceiverActiveTransaction status).wp once
      (fun t _ entity' => Dropped entity status t ∧ entity' = entity.withReceiver .zero) entity := by
  simp only [failReceiverActiveTransaction, Prog.wp_bind, Prog.wp_read, Prog.wp_runIf,
    wp_releaseReceiverTerminal, List.nil_append]
  refine ⟨fun running => ?_, fun waiting => ?_⟩
  · refine Prog.wp_mono (closeDiscardReceiver_outcome entity) ?_
    rintro t _ entity' ⟨discarded, rfl | rfl⟩
    · exact ⟨.discarded (Bool.not_eq_true' _ ▸ running) discarded, rfl⟩
    · exact ⟨.discarded (Bool.not_eq_true' _ ▸ running) discarded, rfl⟩
  · exact ⟨.waiting (Bool.not_eq_false' _ ▸ waiting), trivial⟩

/-- The trace of releasing the sender from a slot: the event, then the close. -/
inductive SenderReleased (entity : Entity) (status : Status) : Trace → Prop where
  | mk {t : Trace} : HandleClosed entity.sender t →
      SenderReleased entity status (terminalEvent entity .sender entity.sender.id status ++ t)

theorem releaseSenderTerminal_outcome (status : Status) (entity : Entity) :
    (releaseSenderTerminal status).wp once
      (fun t _ entity' => SenderReleased entity status t ∧ entity' = entity.withSender .zero)
      entity := by
  simp only [releaseSenderTerminal, releaseSenderTransaction, Prog.wp_bind, Prog.wp_read,
    wp_emitTerminalEvent, List.nil_append]
  refine Prog.wp_mono (closeSenderHandle_outcome entity) ?_
  rintro t _ entity' ⟨closed, rfl⟩
  simp only [wp_updateSender, List.append_nil]
  exact ⟨.mk closed, rfl⟩

/-- The trace of `sender_fail`: close, then the event.  The slot's handle is gone by then. -/
inductive SenderFailed (entity : Entity) (status : Status) : Trace → Prop where
  | mk {t : Trace} : HandleClosed entity.sender t →
      SenderFailed entity status (t ++ terminalEvent entity .sender entity.sender.id status)

theorem HandleClosed.eq_nil {slot : TransactionSlot} {t : Trace} (closed : HandleClosed slot t)
    (shut : slot.fileHandleOpen = false) : t = [] := by
  cases closed with
  | none | shut => rfl
  | closed rc filestore isOpen =>
    rw [shut, Bool.false_and] at isOpen
    cases isOpen

theorem HandleClosed.congr {slot slot' : TransactionSlot} {t : Trace} (closed : HandleClosed slot t)
    (filestore : slot'.filestore = slot.filestore)
    (isOpen : slot'.fileHandleOpen = slot.fileHandleOpen)
    (handle : slot'.fileHandle = slot.fileHandle) : HandleClosed slot' t := by
  cases closed with
  | none none => exact .none (filestore.trans none)
  | shut some shut => exact .shut (filestore.trans some) (isOpen ▸ shut)
  | closed rc some shut =>
    rw [← handle]
    exact .closed rc (filestore.trans some) (isOpen ▸ shut)

theorem senderFail_outcome (status : Status) (entity : Entity) :
    (senderFail status).wp once
      (fun t result entity' => SenderFailed entity status t ∧ result = status ∧
        entity' = entity.withSender .zero) entity := by
  simp only [senderFail, Prog.wp_bind, wp_updateSender, List.nil_append]
  refine Prog.wp_mono (closeSenderHandle_outcome _) ?_
  rintro t _ entity' ⟨closed, rfl⟩
  refine Prog.wp_mono (releaseSenderTerminal_outcome _ _) ?_
  rintro u _ entity' ⟨⟨again⟩, rfl⟩
  simp only [Prog.wp_pure, List.append_nil]
  have nothing := again.eq_nil rfl
  subst nothing
  rw [List.append_nil]
  exact ⟨.mk (closed.congr rfl rfl rfl), trivial, rfl⟩

/-! ## Reads -/

theorem readSegment_wp {fs : FilestoreOps} {handle : Handle} {offset len : Nat} {entity : Entity}
    {Q : Trace → Int × Nat → Entity → Prop} :
    (readSegment fs handle offset len).wp once Q entity ↔
      ∀ reply : ReadReply, Q [⟨.read fs handle offset len, reply⟩] (reply.rc, reply.nread)
        (entity.withBuf (fillBuffer entity.fileSegmentBuf len reply.data)) := by
  simp only [readSegment, Prog.wp_bind, Prog.wp_call_quiet, Prog.wp_modify, Prog.wp_pure,
    observe_apply, List.append_nil]

end ZephyrCcsds.Cfdp
