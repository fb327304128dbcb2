import ZephyrCcsds.Cfdp.SenderTrace

/-! # A transaction and the PDUs of other transactions

A PDU whose header does not decode, or names another transaction, leaves the slot of an active
transaction as it is and reports no event of it.  Every filestore operation it causes is one of
the other role: on that slot's own handle, the commit or discard of its own file, or, while a file
is being sent and nothing is received, the opening of the destination path that a Metadata PDU names.
-/

namespace ZephyrCcsds.Cfdp

open Callback

/-- The transaction that the header of a PDU names. -/
def pduId [Kconfig] (pdu : Bytes) : Option TransactionId :=
  match decodeHeader pdu with
  | .error _ => none
  | .ok (header, _) => some (transactionIdFromHeader header)

/-! ## The callbacks of the receiver -/

variable [Kconfig]

/-- A callback made for the receiver's transaction, which a PDU belongs to. -/
def OfReceiver (entity : Entity) (pdu : Bytes) : Obs → Prop
  | ⟨.sendPdu .., _⟩ | ⟨.nowMs, _⟩ => True
  | ⟨.event role _ id _, _⟩ => role = .receiver ∧ pduId pdu = some id
  | ⟨.openWriteTmp _ path, _⟩ => entity.receiver.active = false ∧ ∃ metadata consumed,
      decodeMetadata pdu = .ok (metadata, consumed) ∧ path = cString metadata.destinationFilename
  | ⟨.read _ handle _ _, _⟩ | ⟨.write _ handle _ _, _⟩ | ⟨.close _ handle, _⟩ =>
      entity.receiver.active = true ∧ pduId pdu = some entity.receiver.id ∧
        handle = entity.receiver.fileHandle
  | ⟨.commitTmp _ path, _⟩ | ⟨.discardTmp _ path, _⟩ =>
      entity.receiver.active = true ∧ pduId pdu = some entity.receiver.id ∧
        path = cString entity.receiver.destinationPath
  | ⟨.openRead .., _⟩ => False

abbrev AllOfReceiver (entity : Entity) (pdu : Bytes) (t : Trace) : Prop :=
  ∀ obs ∈ t, OfReceiver entity pdu obs

/-- The receiver's slot is active and the PDU is one of its transaction. -/
structure Addressed (entity : Entity) (pdu : Bytes) : Prop where
  active : entity.receiver.active = true
  id : pduId pdu = some entity.receiver.id

/-- Two slots of one transaction with one temporary file. -/
structure SameTmp (slot slot' : TransactionSlot) : Prop where
  id : slot'.id = slot.id
  fileHandle : slot'.fileHandle = slot.fileHandle
  destinationPath : slot'.destinationPath = slot.destinationPath

section Traces

variable {entity entity' : Entity} {pdu : Bytes} {t u : Trace} {status result : Status}
  {fs : FilestoreOps} {slot : TransactionSlot}

theorem AllOfReceiver.nil : AllOfReceiver entity pdu [] := fun _ mem => by cases mem

theorem AllOfReceiver.cons {obs : Obs} (head : OfReceiver entity pdu obs)
    (rest : AllOfReceiver entity pdu t) : AllOfReceiver entity pdu (obs :: t) := by
  intro other mem
  rcases List.mem_cons.mp mem with rfl | back
  · exact head
  · exact rest other back

theorem AllOfReceiver.append (first : AllOfReceiver entity pdu t)
    (rest : AllOfReceiver entity pdu u) : AllOfReceiver entity pdu (t ++ u) := by
  intro obs mem
  rcases List.mem_append.mp mem with front | back
  · exact first obs front
  · exact rest obs back

theorem pduId_eq {header : PduHeader} {headerLen : Nat}
    (decoded : decodeHeader pdu = .ok (header, headerLen)) :
    pduId pdu = some (transactionIdFromHeader header) := by
  rw [pduId, decoded]

theorem Sent.ofReceiver {dest : Nat} {encoded : Except Status Bytes}
    (sent : Sent dest encoded t status) : AllOfReceiver entity pdu t := by
  cases sent with
  | refused => exact .nil
  | sent => exact .cons trivial .nil

theorem Clock.ofReceiver {now : Nat} (clock : Clock entity' t now) : AllOfReceiver entity pdu t := by
  cases clock with
  | asked => exact .cons trivial .nil
  | none => exact .nil

theorem NakSent.ofReceiver (nak : NakSent entity' t status) : AllOfReceiver entity pdu t := by
  cases nak with
  | toomany => exact .nil
  | sent _ sent => exact sent.ofReceiver

theorem terminalEvent_ofReceiver {id : TransactionId} (named : pduId pdu = some id) :
    AllOfReceiver entity pdu (terminalEvent entity' .receiver id status) := by
  unfold terminalEvent
  split
  · exact .cons ⟨rfl, named⟩ .nil
  · exact .nil

theorem HandleClosed.ofReceiver (addressed : Addressed entity pdu) (closed : HandleClosed slot t)
    (same : slot.fileHandle = entity.receiver.fileHandle) : AllOfReceiver entity pdu t := by
  intro obs mem
  obtain ⟨_, _, _, rfl⟩ := closed.eq_close obs mem
  exact ⟨addressed.active, addressed.id, same⟩

theorem CalledIf.ofReceiver {c : Bool} {op : Op} {default rc : Res op}
    (called : CalledIf c op default t rc) (own : ∀ rc, OfReceiver entity pdu ⟨op, rc⟩) :
    AllOfReceiver entity pdu t := by
  obtain ⟨_, rfl⟩ | ⟨_, rfl, _⟩ := called.elim
  · exact .cons (own _) .nil
  · exact .nil

theorem Discarded.ofReceiver (addressed : Addressed entity pdu) (discarded : Discarded slot t)
    (same : SameTmp entity.receiver slot) : AllOfReceiver entity pdu t := by
  cases discarded with
  | none => exact .nil
  | discarded _ closed called =>
    refine (closed.ofReceiver addressed same.fileHandle).append (called.ofReceiver fun rc => ?_)
    exact ⟨addressed.active, addressed.id, by rw [same.destinationPath]⟩

/-- A slot that waits has no file left to discard. -/
theorem Dropped.ofReceiver (addressed : Addressed entity pdu) (dropped : Dropped entity' status t)
    (id : entity'.receiver.id = entity.receiver.id)
    (left : entity'.receiver.waitingForFinishedAck = true ∨
      SameTmp entity.receiver entity'.receiver) : AllOfReceiver entity pdu t := by
  have event : AllOfReceiver entity pdu (terminalEvent entity' .receiver entity'.receiver.id status) :=
    terminalEvent_ofReceiver (id ▸ addressed.id)
  cases dropped with
  | waiting => exact event
  | discarded running discarded =>
    rcases left with waiting | same
    · rw [waiting] at running
      cases running
    · exact (discarded.ofReceiver addressed same).append event

variable [ZephyrCrc]

theorem ReadLoop.ofReceiver {handle : Handle} {fileSize offset : Nat} {state : ChecksumState}
    {buf buf' : Bytes} {final : Except Status ChecksumState} (addressed : Addressed entity pdu)
    (loop : ReadLoop fs handle fileSize state offset buf t final buf')
    (own : handle = entity.receiver.fileHandle) : AllOfReceiver entity pdu t := by
  induction loop with
  | done => exact .nil
  | unread | unsummed => exact .cons ⟨addressed.active, addressed.id, own⟩ .nil
  | turn _ _ _ _ ih => exact .cons ⟨addressed.active, addressed.id, own⟩ ih

theorem Verified.ofReceiver {expected : Nat} {buf buf' : Bytes} (addressed : Addressed entity pdu)
    (verified : Verified fs slot buf expected t status buf')
    (own : slot.fileHandle = entity.receiver.fileHandle) : AllOfReceiver entity pdu t := by
  cases verified with
  | unsupported => exact .nil
  | unread _ loop | unfinished _ loop | mismatched _ loop | intact _ loop =>
    exact loop.ofReceiver addressed own

omit [ZephyrCrc] in
theorem Stored.ofReceiver {stored : Status} (addressed : Addressed entity pdu)
    (store : Stored fs slot status t stored) (same : SameTmp entity.receiver slot) :
    AllOfReceiver entity pdu t := by
  have close : ∀ {t : Trace} {c : Int},
      CalledIf slot.fileHandleOpen (.close fs slot.fileHandle) 0 t c →
      AllOfReceiver entity pdu t :=
    fun closed => closed.ofReceiver fun _ => ⟨addressed.active, addressed.id, same.fileHandle⟩
  have path : cString slot.destinationPath = cString entity.receiver.destinationPath := by
    rw [same.destinationPath]
  cases store with
  | committed _ closed | uncommitted _ closed | unclosed _ _ closed | discarded _ _ closed =>
    exact (close closed).append (.cons ⟨addressed.active, addressed.id, path⟩ .nil)

omit [ZephyrCrc] in
theorem Finished.ofReceiver {entity₁ : Entity} (addressed : Addressed entity pdu)
    (finished : Finished fs entity₁ status t result entity')
    (same : SameTmp entity.receiver entity₁.receiver) : AllOfReceiver entity pdu t := by
  obtain ⟨store, settled⟩ := finished
  refine (store.ofReceiver addressed same).append ?_
  have event : ∀ failed, AllOfReceiver entity pdu
      (terminalEvent (entity₁.withReceiver entity₁.receiver.withoutHandle) .receiver
        entity₁.receiver.id failed) :=
    fun failed => terminalEvent_ofReceiver (same.id.symm ▸ addressed.id)
  cases settled with
  | awaiting _ sent clock => exact sent.ofReceiver.append clock.ofReceiver
  | silent _ _ clock => exact clock.ofReceiver
  | unreported _ sent => exact sent.ofReceiver.append (event _)
  | @released t sent _ requested unrequested =>
    refine AllOfReceiver.append ?_ (event _)
    cases closure : entity₁.receiver.closureRequested with
    | true => exact (requested closure).ofReceiver
    | false =>
      rw [(unrequested closure).1]
      exact .nil

omit [ZephyrCrc] in
/-- A finished transaction is released or waits. -/
theorem Finished.afterwards (finished : Finished fs entity status t result entity') :
    entity'.receiver.active = true → entity'.receiver.id = entity.receiver.id ∧
      entity'.receiver.waitingForFinishedAck = true := by
  intro active
  obtain ⟨_, settled⟩ := finished
  cases settled with
  | awaiting | silent => exact ⟨rfl, rfl⟩
  | unreported | released => cases active

end Traces

/-! ## One PDU for the receiver -/

section Handlers

variable [ZephyrCrc] {entity entity' : Entity} {pdu : Bytes} {t : Trace} {status : Status}
  {fs : FilestoreOps}

omit [ZephyrCrc] in
theorem addressed_of_matched {header : PduHeader} {headerLen : Nat}
    (decoded : decodeHeader pdu = .ok (header, headerLen))
    (matched : receiverMatchActive entity header = .ok) : Addressed entity pdu := by
  obtain ⟨active, _, id⟩ := receiverMatchActive_ok matched
  exact ⟨active, by rw [pduId_eq decoded, id]⟩

omit [ZephyrCrc] in
theorem AcceptsFiledata.addressed {filedata : FiledataPdu}
    (accepts : AcceptsFiledata entity pdu filedata) : Addressed entity pdu := by
  obtain ⟨_, decoded, _⟩ := decodeFiledata_header accepts.decoded
  exact addressed_of_matched decoded accepts.matched

omit [ZephyrCrc] in
theorem AcceptsEof.addressed {eof : EofPdu} (accepts : AcceptsEof entity pdu eof) :
    Addressed entity pdu := by
  obtain ⟨_, decoded, _⟩ := decodeEof_header accepts.decoded
  exact addressed_of_matched decoded accepts.matched

/-- What a handler of the receiver leaves behind. -/
structure Confined (entity : Entity) (pdu : Bytes) (t : Trace) (status : Status)
    (entity' : Entity) : Prop where
  callbacks : AllOfReceiver entity pdu t
  untouched : Addressed entity pdu ∨ entity.receiver.active = false ∨ t = [] ∧ entity' = entity
  afterwards : status ≠ .ok → entity'.receiver.active = true →
    entity.receiver.active = true ∧ entity'.receiver.id = entity.receiver.id ∧
      (entity'.receiver.waitingForFinishedAck = true ∨ SameTmp entity.receiver entity'.receiver)

omit [ZephyrCrc] in
theorem Confined.skipped : Confined entity pdu [] status entity where
  callbacks := .nil
  untouched := .inr (.inr ⟨rfl, rfl⟩)
  afterwards _ active := ⟨active, rfl, .inr ⟨rfl, rfl, rfl⟩⟩

omit [ZephyrCrc] in
theorem MetadataHandled.confined (handled : MetadataHandled fs pdu entity t status entity') :
    Confined entity pdu t status entity' := by
  cases handled with
  | skipped => exact .skipped
  | opened accepts idle _ _ =>
    refine ⟨.cons ⟨idle, _, _, accepts.decoded, rfl⟩ .nil, .inr (.inl idle), fun failed => ?_⟩
    exact (failed rfl).elim
  | refused accepts idle =>
    obtain ⟨_, decoded, _⟩ := decodeMetadata_header accepts.decoded
    refine ⟨?_, .inr (.inl idle), fun _ active => by cases active⟩
    exact .cons ⟨idle, _, _, accepts.decoded, rfl⟩ (terminalEvent_ofReceiver (pduId_eq decoded))

theorem FiledataHandled.confined (handled : FiledataHandled fs pdu entity t status entity') :
    Confined entity pdu t status entity' := by
  have write : ∀ {filedata : FiledataPdu} {rc : Int}, AcceptsFiledata entity pdu filedata →
      OfReceiver entity pdu
        ⟨.write fs entity.receiver.fileHandle filedata.offset filedata.data, rc⟩ :=
    fun accepts => ⟨accepts.addressed.active, accepts.addressed.id, rfl⟩
  cases handled with
  | skipped => exact .skipped
  | unwritten accepts | unranged accepts | unsummed accepts | written accepts =>
    exact ⟨.cons (write accepts) .nil, .inl accepts.addressed,
      fun _ active => ⟨active, rfl, .inr ⟨rfl, rfl, rfl⟩⟩⟩
  | completed accepts _ _ _ _ _ verified finished =>
    have addressed := accepts.addressed
    refine ⟨.cons (write accepts) ?_, .inl addressed, fun _ active => ?_⟩
    · exact (verified.ofReceiver addressed rfl).append
        (finished.ofReceiver addressed ⟨rfl, rfl, rfl⟩)
    · obtain ⟨id, waiting⟩ := finished.afterwards active
      exact ⟨addressed.active, id, .inl waiting⟩

theorem EofCompleted.confined {eof : EofPdu} {entity₁ : Entity}
    (completed : EofCompleted fs eof entity₁ t status entity') (addressed : Addressed entity pdu)
    (same : SameTmp entity.receiver entity₁.receiver) : Confined entity pdu t status entity' := by
  have ended : ∀ {entity₂ : Entity} {t u : Trace} {status result : Status},
      AllOfReceiver entity pdu t → SameTmp entity.receiver entity₂.receiver →
      Finished fs entity₂ status u result entity' → Confined entity pdu (t ++ u) result entity' := by
    intro entity₂ t u status result before same finished
    refine ⟨before.append (finished.ofReceiver addressed same), .inl addressed, fun _ active => ?_⟩
    obtain ⟨id, waiting⟩ := finished.afterwards active
    exact ⟨addressed.active, id.trans same.id, .inl waiting⟩
  have unchanged : ∀ {slot : TransactionSlot}, slot.id = entity₁.receiver.id →
      slot.fileHandle = entity₁.receiver.fileHandle →
      slot.destinationPath = entity₁.receiver.destinationPath → SameTmp entity.receiver slot :=
    fun id handle path =>
      ⟨id.trans same.id, handle.trans same.fileHandle, path.trans same.destinationPath⟩
  cases completed with
  | unchecked _ finished | short _ _ finished => exact ended (t := []) .nil same finished
  | asked _ _ nak clock =>
    refine ⟨nak.ofReceiver.append clock.ofReceiver, .inl addressed, fun _ _ => ?_⟩
    exact ⟨addressed.active, same.id, .inr (unchanged rfl rfl rfl)⟩
  | unasked _ _ nak _ finished =>
    refine ended nak.ofReceiver ?_ finished
    exact unchanged rfl rfl rfl
  | complete _ verified finished =>
    refine ended (verified.ofReceiver addressed same.fileHandle) ?_ finished
    exact same

theorem EofHandled.confined (handled : EofHandled fs pdu entity t status entity') :
    Confined entity pdu t status entity' := by
  have silent : ∀ {t : Trace} {code : Nat} {sent : Status},
      (entity.receiver.transmissionMode = .acknowledged →
        Sent entity.receiver.peerEntityId (encodeAck (ackEofPdu entity code) maxPduSize) t sent) →
      (entity.receiver.transmissionMode = .unacknowledged → t = []) →
      AllOfReceiver entity pdu t := by
    intro t code sent acknowledged unacknowledged
    cases mode : entity.receiver.transmissionMode with
    | acknowledged => exact (acknowledged mode).ofReceiver
    | unacknowledged =>
      rw [unacknowledged mode]
      exact .nil
  cases handled with
  | skipped => exact .skipped
  | repeated accepts _ sent | unacknowledged accepts _ _ _ _ sent =>
    exact ⟨sent.ofReceiver, .inl accepts.addressed,
      fun _ active => ⟨active, rfl, .inr ⟨rfl, rfl, rfl⟩⟩⟩
  | refused accepts _ _ acknowledged unacknowledged finished =>
    have addressed := accepts.addressed
    refine ⟨(silent acknowledged unacknowledged).append
      (finished.ofReceiver addressed ⟨rfl, rfl, rfl⟩), .inl addressed, fun _ active => ?_⟩
    obtain ⟨id, waiting⟩ := finished.afterwards active
    exact ⟨addressed.active, id, .inl waiting⟩
  | taken accepts _ _ _ acknowledged unacknowledged completed =>
    have rest := completed.confined accepts.addressed ⟨rfl, rfl, rfl⟩
    exact ⟨(silent acknowledged unacknowledged).append rest.callbacks, .inl accepts.addressed,
      rest.afterwards⟩

omit [ZephyrCrc] in
theorem AckHandled.confined (handled : AckHandled pdu entity t status entity') :
    Confined entity pdu t status entity' := by
  cases handled with
  | skipped => exact .skipped
  | released accepts =>
    have matched := accepts.matched
    rw [receiverActiveMatchesHeader, Bool.and_eq_true, beq_iff_eq] at matched
    obtain ⟨_, decoded, _⟩ := decodeAck_header accepts.decoded
    have addressed : Addressed entity pdu := ⟨matched.1, by rw [pduId_eq decoded, matched.2]⟩
    exact ⟨terminalEvent_ofReceiver addressed.id, .inl addressed, fun _ active => by cases active⟩

theorem Handled.confined (handled : Handled fs pdu entity t status entity') :
    Confined entity pdu t status entity' := by
  cases handled with
  | ignored => exact .skipped
  | metadata _ handled => exact handled.confined
  | filedata _ handled => exact handled.confined
  | eof handled => exact handled.confined
  | ack _ handled => exact handled.confined

/-- The receiver acts on PDUs of its transaction and on the Metadata PDU that starts one. -/
theorem ReceiverStep.confined (step : ReceiverStep fs pdu entity t status entity') :
    AllOfReceiver entity pdu t ∧
      (Addressed entity pdu ∨ entity.receiver.active = false ∨
        t = [] ∧ entity'.receiver = entity.receiver) := by
  cases step with
  | unhandled => exact ⟨.nil, .inr (.inr ⟨rfl, rfl⟩)⟩
  | kept _ _ handled =>
    have confined := handled.confined
    refine ⟨confined.callbacks, confined.untouched.imp_right (Or.imp_right fun untouched => ?_)⟩
    exact ⟨untouched.1, by rw [untouched.2]⟩
  | failed decoded _ handled failed matched dropped =>
    have confined := handled.confined
    rw [receiverActiveMatchesHeader, Bool.and_eq_true, beq_iff_eq] at matched
    obtain ⟨active, id, left⟩ := confined.afterwards failed matched.1
    have addressed : Addressed entity pdu :=
      ⟨active, by rw [pduId_eq decoded, ← matched.2, id]⟩
    exact ⟨confined.callbacks.append (dropped.ofReceiver addressed id left), .inl addressed⟩

end Handlers

/-! ## One PDU for the sender -/

section Sender

variable {entity entity' : Entity} {pdu : Bytes} {t : Trace} {status : Status}

theorem addressed_of_senderMatched {header : PduHeader} {headerLen : Nat}
    (decoded : decodeHeader pdu = .ok (header, headerLen))
    (matched : senderActiveMatchesHeader entity header = true) :
    entity.sender.active = true ∧ pduId pdu = some entity.sender.id := by
  rw [senderActiveMatchesHeader, Bool.and_eq_true, beq_iff_eq] at matched
  exact ⟨matched.1, by rw [pduId_eq decoded, matched.2]⟩

theorem SenderHandled.addressed (handled : SenderHandled pdu entity t status entity') :
    (entity.sender.active = true ∧ pduId pdu = some entity.sender.id) ∨
      t = [] ∧ entity' = entity := by
  cases handled with
  | ignored => exact .inr ⟨rfl, rfl⟩
  | finished handled =>
    cases handled with
    | skipped => exact .inr ⟨rfl, rfl⟩
    | recorded accepts | unacknowledged accepts | acknowledged accepts =>
      obtain ⟨_, decoded, _⟩ := decodeFinished_header accepts.decoded
      exact .inl (addressed_of_senderMatched decoded accepts.matched)
  | nak handled =>
    cases handled with
    | skipped => exact .inr ⟨rfl, rfl⟩
    | unreadable accepts | answered accepts =>
      obtain ⟨_, decoded, _⟩ := decodeNak_header accepts.decoded
      exact .inl (addressed_of_senderMatched decoded accepts.matched)

/-- The sender acts on PDUs of its transaction only. -/
theorem SenderStep.addressed (step : SenderStep pdu entity t status entity') :
    (entity.sender.active = true ∧ pduId pdu = some entity.sender.id) ∨
      t = [] ∧ entity' = entity := by
  cases step with
  | unhandled => exact .inr ⟨rfl, rfl⟩
  | kept _ _ handled => exact handled.addressed
  | failed decoded _ handled _ matched =>
    rcases handled.addressed with addressed | ⟨_, rfl⟩
    · exact .inl addressed
    · exact .inl (addressed_of_senderMatched decoded matched)

end Sender

/-! ## Isolation -/

def Role.other : Role → Role
  | .sender => .receiver
  | .receiver => .sender

def Entity.slot (entity : Entity) : Role → TransactionSlot
  | .sender => entity.sender
  | .receiver => entity.receiver

/-- The open handle an operation works on. -/
def Op.handle : Op → Option Handle
  | .read _ handle _ _ | .write _ handle _ _ | .close _ handle => some handle
  | _ => none

/-- The path an operation works on. -/
def Op.path : Op → Option Bytes
  | .openRead _ path | .openWriteTmp _ path | .commitTmp _ path | .discardTmp _ path => some path
  | _ => none

/-- The receiver's own file is committed or discarded. -/
structure SettlesReceived (entity : Entity) (op : Op) (path : Bytes) : Prop where
  active : entity.receiver.active = true
  settles : ∃ fs, op = .commitTmp fs path ∨ op = .discardTmp fs path
  path : path = cString entity.receiver.destinationPath

/-- An idle receiver opens the destination file of the transaction that a Metadata PDU starts. -/
structure OpensReceived (entity : Entity) (pdu : Bytes) (op : Op) (path : Bytes) : Prop where
  idle : entity.receiver.active = false
  opens : ∃ fs, op = .openWriteTmp fs path
  named : ∃ metadata consumed, decodeMetadata pdu = .ok (metadata, consumed) ∧
    path = cString metadata.destinationFilename

/-- An operation that is not made for the transaction of a role. -/
structure Spares (entity : Entity) (role : Role) (pdu : Bytes) (op : Op) : Prop where
  event : ∀ owner type id status, op = .event owner type id status → id ≠ (entity.slot role).id
  handle : ∀ handle, op.handle = some handle → (entity.slot role.other).active = true ∧
    (entity.slot role.other).id ≠ (entity.slot role).id ∧
    handle = (entity.slot role.other).fileHandle
  -- Only a receiver works on paths, for a transaction other than the one that is being sent.
  path : ∀ path, op.path = some path → role = .sender ∧
    (SettlesReceived entity op path ∧ entity.receiver.id ≠ entity.sender.id ∨
      OpensReceived entity pdu op path)

section Isolation

variable [ZephyrCrc] {entity entity' : Entity} {pdu : Bytes} {t : Trace} {role : Role}

omit [ZephyrCrc] in
theorem AllOfReceiver.spares (all : AllOfReceiver entity pdu t)
    (foreign : pduId pdu ≠ some entity.sender.id) : ∀ obs ∈ t, Spares entity .sender pdu obs.1 := by
  rintro ⟨op, result⟩ mem
  have own := all _ mem
  have other : pduId pdu = some entity.receiver.id → entity.receiver.id ≠ entity.sender.id := by
    intro named same
    exact foreign (same ▸ named)
  constructor
  · rintro owner type id status rfl rfl
    exact foreign own.2
  · intro handle used
    cases op with
    | read | write | close =>
      cases used
      exact ⟨own.1, other own.2.1, own.2.2⟩
    | sendPdu | nowMs | event | openRead | openWriteTmp | commitTmp | discardTmp => cases used
  · intro path used
    cases op with
    | openRead => exact own.elim
    | openWriteTmp fs =>
      cases used
      exact ⟨rfl, .inr ⟨own.1, ⟨fs, rfl⟩, own.2⟩⟩
    | commitTmp fs =>
      cases used
      exact ⟨rfl, .inl ⟨⟨own.1, ⟨fs, .inl rfl⟩, own.2.2⟩, other own.2.1⟩⟩
    | discardTmp fs =>
      cases used
      exact ⟨rfl, .inl ⟨⟨own.1, ⟨fs, .inr rfl⟩, own.2.2⟩, other own.2.1⟩⟩
    | sendPdu | nowMs | event | read | write | close => cases used

omit [ZephyrCrc] in
theorem AllOfSender.spares (all : AllOfSender entity t) (active : entity.sender.active = true)
    (other : entity.sender.id ≠ entity.receiver.id) :
    ∀ obs ∈ t, Spares entity .receiver pdu obs.1 := by
  rintro ⟨op, result⟩ mem
  have own := all _ mem
  constructor
  · rintro owner type id status rfl same
    exact other (own.2.symm.trans same)
  · intro handle used
    cases op with
    | read | close =>
      cases used
      exact ⟨active, other, own.2⟩
    | write => exact own.elim
    | sendPdu | nowMs | event | openRead | openWriteTmp | commitTmp | discardTmp => cases used
  · intro path used
    cases op with
    | openRead | openWriteTmp | commitTmp | discardTmp => exact own.elim
    | sendPdu | nowMs | event | read | write | close => cases used

/-- A PDU of another transaction leaves an active transaction alone, in every state. -/
theorem other_transaction_isolated {filestore : Option FilestoreOps}
    (quiet : QuietStep entity { call := .receivePdu filestore pdu, trace := t } entity')
    (active : (entity.slot role).active = true) (foreign : pduId pdu ≠ some (entity.slot role).id) :
    entity'.slot role = entity.slot role ∧ ∀ obs ∈ t, Spares entity role pdu obs.1 := by
  have silent : ∀ obs ∈ ([] : Trace), Spares entity role pdu obs.1 := fun _ mem => by cases mem
  cases called_outcome quiet with
  | unheard => exact ⟨rfl, silent⟩
  | sender step =>
    cases role with
    | sender =>
      rcases step.addressed with ⟨_, named⟩ | ⟨rfl, rfl⟩
      · exact (foreign named).elim
      · exact ⟨rfl, silent⟩
    | receiver =>
      refine ⟨step.only.receiver, ?_⟩
      rcases step.addressed with ⟨sending, named⟩ | ⟨rfl, rfl⟩
      · exact step.ofSender.spares sending fun same => foreign (same ▸ named)
      · exact silent
  | receiver _ step =>
    obtain ⟨callbacks, untouched⟩ := step.confined
    cases role with
    | sender => exact ⟨step.only.sender, callbacks.spares foreign⟩
    | receiver =>
      rcases untouched with addressed | idle | ⟨rfl, same⟩
      · exact (foreign addressed.id).elim
      · exact (Bool.false_ne_true (idle.symm.trans active)).elim
      · exact ⟨same, silent⟩

end Isolation

end ZephyrCcsds.Cfdp

namespace ZephyrCcsds.Cfdp

attribute [local instance] defaultKconfig plainCrc

/-- A Metadata PDU arrives while the entity sends. -/
theorem other_transaction_isolated_sending : ∃ entity entity',
    playAll (fun _ _ => True) freshReceiver [sendingStep] = some entity ∧
    openingStep.play entity = some entity' ∧ entity'.sender = entity.sender ∧
    ∀ obs ∈ openingStep.trace, Spares entity .sender metadataOctets obs.1 := by
  have played : ((playAll (fun _ _ => True) freshReceiver [sendingStep]).bind fun entity =>
      (openingStep.play entity).map fun _ => decide (entity.sender.active = true ∧
        pduId metadataOctets ≠ some entity.sender.id)) = some true := by
    decide +kernel
  simp only [Option.bind_eq_some_iff, Option.map_eq_some_iff, decide_eq_true_eq] at played
  obtain ⟨entity, history, entity', opened, active, foreign⟩ := played
  exact ⟨entity, entity', history, opened,
    @other_transaction_isolated _ _ _ _ _ _ .sender _ (quietStep_of_play opened) active foreign⟩

/-- That Metadata PDU names the file that is being sent as its destination, which is opened for
writing. -/
theorem other_transaction_opens_source : ∃ entity entity',
    Run QuietStep freshReceiver [sendingStep] entity ∧ entity.sender.active = true ∧
    pduId metadataOctets ≠ some entity.sender.id ∧ QuietStep entity openingStep entity' ∧
    ∃ obs ∈ openingStep.trace, obs.1.path = some entity.sender.sourcePath := by
  have played : ((playAll (fun _ _ => True) freshReceiver [sendingStep]).bind fun entity =>
      (openingStep.play entity).map fun _ => decide (entity.sender.active = true ∧
        pduId metadataOctets ≠ some entity.sender.id ∧ entity.sender.sourcePath = [98])) =
      some true := by
    decide +kernel
  simp only [Option.bind_eq_some_iff, Option.map_eq_some_iff, decide_eq_true_eq] at played
  obtain ⟨entity, history, entity', opened, active, foreign, source⟩ := played
  refine ⟨entity, entity', (run_of_playAll history).mono fun _ _ _ quiet => quiet.1, active, foreign,
    quietStep_of_play opened, _, List.mem_singleton.mpr rfl, ?_⟩
  rw [source]
  rfl

end ZephyrCcsds.Cfdp
