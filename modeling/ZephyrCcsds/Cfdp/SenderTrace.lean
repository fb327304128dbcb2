import ZephyrCcsds.Cfdp.EntityOutcome

/-! # The callbacks of the sender

What the sender does with the PDUs it receives and in `poll`: it reads and closes its own file,
reports its own transaction and sends PDUs of that transaction, none of which is a Finished PDU.
-/

namespace ZephyrCcsds.Cfdp

open Callback

variable [Kconfig]

/-- A PDU that the sender repeats or answers with. -/
inductive SenderPdu (entity : Entity) (pdu : Bytes) : Prop where
  | filedata {offset : Nat} {data : Bytes} :
      encodeFiledata (filedataPdu entity offset data) maxPduSize = .ok pdu → SenderPdu entity pdu
  | eof {checksum fileSize : Nat} :
      encodeEof (eofPdu entity checksum fileSize) maxPduSize = .ok pdu → SenderPdu entity pdu
  | ack {code : Nat} :
      encodeAck (ackFinishedPdu entity code) maxPduSize = .ok pdu → SenderPdu entity pdu

/-- A callback made for the transaction of the sender's slot. -/
def OfSender (entity : Entity) : Obs → Prop
  | ⟨.sendPdu dest pdu, _⟩ => dest = entity.sender.peerEntityId ∧ SenderPdu entity pdu
  | ⟨.event role _ id _, _⟩ => role = .sender ∧ id = entity.sender.id
  | ⟨.read fs handle _ _, _⟩ => entity.sender.filestore = some fs ∧ handle = entity.sender.fileHandle
  | ⟨.close fs handle, _⟩ => entity.sender.filestore = some fs ∧ handle = entity.sender.fileHandle
  | _ => False

variable {entity entity' : Entity} {t u : Trace} {status : Status}

/-- Two slots of one transaction on one file. -/
structure SameFile (slot slot' : TransactionSlot) : Prop where
  id : slot'.id = slot.id
  filestore : slot'.filestore = slot.filestore
  fileHandle : slot'.fileHandle = slot.fileHandle

/-! ## Traces -/

/-- Every callback of the trace is made for the sender. -/
abbrev AllOfSender (entity : Entity) (t : Trace) : Prop := ∀ obs ∈ t, OfSender entity obs

theorem AllOfSender.append (first : AllOfSender entity t) (rest : AllOfSender entity u) :
    AllOfSender entity (t ++ u) := by
  intro obs mem
  rcases List.mem_append.mp mem with front | back
  · exact first obs front
  · exact rest obs back

theorem AllOfSender.cons {obs : Obs} (head : OfSender entity obs) (rest : AllOfSender entity t) :
    AllOfSender entity (obs :: t) := by
  intro other mem
  rcases List.mem_cons.mp mem with rfl | back
  · exact head
  · exact rest other back

theorem AllOfSender.nil : AllOfSender entity [] := fun _ mem => by cases mem

theorem Sent.ofSender {encoded : Except Status Bytes}
    (sent : Sent entity.sender.peerEntityId encoded t status)
    (kind : ∀ pdu, encoded = .ok pdu → SenderPdu entity pdu) : AllOfSender entity t := by
  cases sent with
  | refused => exact .nil
  | sent rc done => exact .cons ⟨rfl, kind _ done⟩ .nil

theorem FiledataSent.ofSender {offset : Nat} {data : Bytes}
    (sent : FiledataSent entity offset data t status) : AllOfSender entity t :=
  Sent.ofSender sent fun _ => .filedata

theorem EofSent.ofSender (sent : EofSent entity t status) : AllOfSender entity t :=
  Sent.ofSender sent fun _ => .eof

omit [Kconfig] in
theorem HandleClosed.eq_close {slot : TransactionSlot} (closed : HandleClosed slot t) :
    ∀ obs ∈ t, ∃ fs rc, slot.filestore = some fs ∧ obs = ⟨.close fs slot.fileHandle, rc⟩ := by
  intro obs mem
  cases closed with
  | none | shut => cases mem
  | closed rc filestore =>
    rw [List.mem_singleton] at mem
    exact ⟨_, rc, filestore, mem⟩

theorem HandleClosed.ofSender {slot : TransactionSlot} (closed : HandleClosed slot t)
    (same : SameFile entity.sender slot) : AllOfSender entity t := by
  intro obs mem
  obtain ⟨fs, rc, filestore, rfl⟩ := closed.eq_close obs mem
  exact ⟨same.filestore.symm.trans filestore, same.fileHandle⟩

theorem terminalEvent_ofSender {slot : TransactionSlot} (same : SameFile entity.sender slot)
    (status : Status) : AllOfSender entity (terminalEvent entity' .sender slot.id status) := by
  unfold terminalEvent
  split
  · exact .cons ⟨rfl, same.id⟩ .nil
  · exact .nil

theorem SenderFailed.ofSender (failed : SenderFailed entity' status t)
    (same : SameFile entity.sender entity'.sender) : AllOfSender entity t := by
  obtain ⟨closed⟩ := failed
  exact (closed.ofSender same).append (terminalEvent_ofSender same _)

theorem SenderReleased.ofSender (released : SenderReleased entity' status t)
    (same : SameFile entity.sender entity'.sender) : AllOfSender entity t := by
  obtain ⟨closed⟩ := released
  exact (terminalEvent_ofSender same _).append (closed.ofSender same)

omit [Kconfig] in
theorem SameFile.refl (slot : TransactionSlot) : SameFile slot slot := ⟨rfl, rfl, rfl⟩

/-! ## Handlers -/

section Handlers

variable {fs : FilestoreOps} {pdu : Bytes}

/-- The loop reads the file of the sender and sends what it read. -/
theorem SegmentsSent.ofSender {stop offset : Nat} {buf buf' : Bytes}
    (sent : SegmentsSent fs entity stop offset buf t status buf')
    (filestore : entity.sender.filestore = some fs) : AllOfSender entity t := by
  induction sent with
  | done => exact .nil
  | unread => exact .cons ⟨filestore, rfl⟩ .nil
  | unsent _ _ segment => exact .cons ⟨filestore, rfl⟩ segment.ofSender
  | turn _ _ segment _ ih => exact .cons ⟨filestore, rfl⟩ (AllOfSender.append segment.ofSender ih)

theorem RangesSent.ofSender {ranges : List NakRange} {buf buf' : Bytes}
    (sent : RangesSent fs entity ranges buf t status buf')
    (filestore : entity.sender.filestore = some fs) : AllOfSender entity t := by
  induction sent with
  | done | outside => exact .nil
  | failed _ segments => exact segments.ofSender filestore
  | next _ segments _ ih => exact (segments.ofSender filestore).append ih

/-- Counting a NAK changes nothing that the sends of a slot are made of. -/
theorem AllOfSender.of_countNak
    (all : AllOfSender (entity.withSender entity.sender.countNak) t) : AllOfSender entity t := by
  intro obs mem
  have counted := all obs mem
  obtain ⟨op, result⟩ := obs
  cases op with
  | sendPdu dest pdu =>
    obtain ⟨peer, kind⟩ := counted
    refine ⟨peer, ?_⟩
    cases kind with
    | filedata encoded => exact .filedata encoded
    | eof encoded => exact .eof encoded
    | ack encoded => exact .ack encoded
  | _ => exact counted

theorem NakAnswered.ofSender {nak : NakPdu} (answered : NakAnswered fs nak entity t status entity')
    (filestore : entity.sender.filestore = some fs) : AllOfSender entity t := by
  cases answered with
  | refused _ _ failed => exact failed.ofSender (.refl _)
  | unsent _ sent _ failed =>
    exact (AllOfSender.of_countNak (sent.ofSender filestore)).append (failed.ofSender (.refl _))
  | unended _ sent ended _ failed =>
    exact (AllOfSender.of_countNak (sent.ofSender filestore)).append
      (AllOfSender.append ended.ofSender (failed.ofSender (.refl _)))
  | answered _ sent ended =>
    exact (AllOfSender.of_countNak (sent.ofSender filestore)).append ended.ofSender

theorem SenderHandled.ofSender (handled : SenderHandled pdu entity t status entity') :
    AllOfSender entity t := by
  cases handled with
  | ignored => exact .nil
  | finished handled =>
    cases handled with
    | skipped | recorded => exact .nil
    | unacknowledged _ _ acked _ failed =>
      exact (Sent.ofSender acked fun _ => .ack).append (failed.ofSender (.refl _))
    | acknowledged _ _ acked released =>
      exact (Sent.ofSender acked fun _ => .ack).append (released.ofSender (.refl _))
  | nak handled =>
    cases handled with
    | skipped => exact .nil
    | unreadable _ _ _ failed => exact failed.ofSender (.refl _)
    | answered _ readable answered => exact answered.ofSender readable.filestore

/-- A handler releases the slot or keeps its transaction and its file. -/
theorem SenderHandled.sameFile (handled : SenderHandled pdu entity t status entity') :
    entity'.sender = .zero ∨ SameFile entity.sender entity'.sender := by
  cases handled with
  | ignored => exact .inr (.refl _)
  | finished handled =>
    cases handled with
    | skipped => exact .inr (.refl _)
    | recorded => exact .inr ⟨rfl, rfl, rfl⟩
    | unacknowledged | acknowledged => exact .inl rfl
  | nak handled =>
    cases handled with
    | skipped => exact .inr (.refl _)
    | unreadable => exact .inl rfl
    | answered _ _ answered =>
      cases answered with
      | refused | unsent | unended => exact .inl rfl
      | answered => exact .inr ⟨rfl, rfl, rfl⟩

theorem SenderStep.ofSender (step : SenderStep pdu entity t status entity') :
    AllOfSender entity t := by
  cases step with
  | unhandled => exact .nil
  | kept _ _ handled => exact handled.ofSender
  | failed _ _ handled _ matched released =>
    refine handled.ofSender.append ?_
    rcases handled.sameFile with zero | same
    · -- a released slot matches no header
      rw [senderActiveMatchesHeader, zero] at matched
      cases matched
    · exact released.ofSender same

theorem SenderPolled.ofSender {now : Nat} (polled : SenderPolled entity now t entity') :
    AllOfSender entity t := by
  cases polled with
  | idle => exact .nil
  | spent _ _ failed => exact failed.ofSender (.refl _)
  | unsent _ _ sent _ failed => exact AllOfSender.append sent.ofSender (failed.ofSender (.refl _))
  | repeated _ _ sent => exact sent.ofSender

end Handlers

/-! ## Reports -/

/-- What a Finished PDU tells the sender of the file. -/
structure Report where
  conditionCode : Nat
  deliveryCode : DeliveryCode
  fileStatus : FileStatus
  deriving DecidableEq, Repr

/-- The report of a PDU, if it is a Finished PDU. -/
def reportOf (pdu : Bytes) : Option Report :=
  match decodeFinished pdu with
  | .error _ => none
  | .ok (finished, _) => some
    { conditionCode := finished.conditionCode
      deliveryCode := finished.deliveryCode
      fileStatus := finished.fileStatus }

/-- The reports sent in a trace. -/
def sentReports (t : Trace) : List Report :=
  t.filterMap fun
    | ⟨.sendPdu _ pdu, _⟩ => reportOf pdu
    | _ => none

@[simp] theorem sentReports_append (t u : Trace) :
    sentReports (t ++ u) = sentReports t ++ sentReports u := List.filterMap_append

/-- A PDU with another directive is no Finished PDU. -/
theorem reportOf_directive {pdu : Bytes} {header : PduHeader} {directive : Nat}
    (isDirective : IsDirective pdu header directive) (other : directive ≠ directiveFinished) :
    reportOf pdu = none := by
  unfold reportOf
  cases finished : decodeFinished pdu with
  | error status => rfl
  | ok result =>
    obtain ⟨len, decoded, _, octet⟩ := isDirective
    obtain ⟨len', decoded', _, octet'⟩ := decodeFinished_header finished
    rw [decoded] at decoded'
    cases decoded'
    exact (other (octet.symm.trans octet')).elim

theorem SenderPdu.reportOf {pdu : Bytes} (sent : SenderPdu entity pdu) (bounded : entity.Bounded) :
    reportOf pdu = none := by
  cases sent with
  | eof encoded =>
    exact reportOf_directive (encodeEof_isDirective encoded (bounded.senderHeader _)) (by decide)
  | ack encoded =>
    have decoded := decodeAck_encodeAck encoded (bounded.senderHeader _)
    exact reportOf_directive (decodeAck_header decoded) (by decide)
  | filedata encoded =>
    obtain ⟨header, headerLen, decoded, kind⟩ :=
      encodeFiledata_header encoded (bounded.senderHeader _)
    unfold Cfdp.reportOf
    cases finished : decodeFinished pdu with
    | error status => rfl
    | ok result =>
      obtain ⟨len, decoded', directive, _⟩ := decodeFinished_header finished
      rw [decoded] at decoded'
      cases decoded'
      rw [kind] at directive
      cases directive

theorem AllOfSender.sentReports (all : AllOfSender entity t) (bounded : entity.Bounded) :
    sentReports t = [] := by
  unfold Cfdp.sentReports
  rw [List.filterMap_eq_nil_iff]
  rintro ⟨op, result⟩ mem
  cases op with
  | sendPdu dest pdu => exact (all _ mem).2.reportOf bounded
  | _ => rfl

end ZephyrCcsds.Cfdp
