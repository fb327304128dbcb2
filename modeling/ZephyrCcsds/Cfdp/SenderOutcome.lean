import ZephyrCcsds.Cfdp.ReceiverOutcome

/-! # What the sender does with one PDU

The outcome relations of the sender functions for calls without re-entry: the answers to
Finished, ACK and NAK PDUs, the repeated EOF of `poll` and the transfer of `send_file`.
`OnlySender` is the frame they share.
-/

namespace ZephyrCcsds.Cfdp

open Callback

variable [Kconfig] [ZephyrCrc]

/-- Two entities that agree on the receiver slot and the configuration. -/
def OnlySender (entity entity' : Entity) : Prop :=
  ∃ slot next available status buf,
    entity' = { entity with
      sender := slot
      nextTransactionSequenceNumber := next
      senderCompletionAvailable := available
      senderCompletionStatus := status
      fileSegmentBuf := buf }

namespace OnlySender

omit [Kconfig] [ZephyrCrc]

variable {entity entity' entity'' : Entity}

theorem refl (entity : Entity) : OnlySender entity entity := ⟨_, _, _, _, _, rfl⟩

theorem withSender (entity : Entity) (slot : TransactionSlot) :
    OnlySender entity (entity.withSender slot) := ⟨_, _, _, _, _, rfl⟩

theorem withBuf (entity : Entity) (buf : Bytes) : OnlySender entity (entity.withBuf buf) :=
  ⟨_, _, _, _, _, rfl⟩

theorem trans (first : OnlySender entity entity') (second : OnlySender entity' entity'') :
    OnlySender entity entity'' := by
  obtain ⟨_, _, _, _, _, rfl⟩ := first
  obtain ⟨_, _, _, _, _, rfl⟩ := second
  exact ⟨_, _, _, _, _, rfl⟩

theorem receiver (only : OnlySender entity entity') : entity'.receiver = entity.receiver := by
  obtain ⟨_, _, _, _, _, rfl⟩ := only
  rfl

end OnlySender

/-! ## Retransmitting file data -/

/-- The octets at the front of the buffer after a read of at most `len` octets. -/
def segmentOctets (buf : Bytes) (len : Nat) (reply : ReadReply) : Bytes :=
  (fillBuffer buf len reply.data).take reply.nread

/-- The send of a File Data PDU. -/
abbrev FiledataSent (entity : Entity) (offset : Nat) (data : Bytes) : Trace → Status → Prop :=
  Sent entity.sender.peerEntityId (encodeFiledata (filedataPdu entity offset data) maxPduSize)

/-- The turns of `sender_retransmit_range` from an offset and a buffer. -/
inductive SegmentsSent (fs : FilestoreOps) (entity : Entity) (stop : Nat) :
    Nat → Bytes → Trace → Status → Bytes → Prop where
  | done {offset : Nat} {buf : Bytes} : stop ≤ offset →
      SegmentsSent fs entity stop offset buf [] .ok buf
  | unread {offset : Nat} {buf : Bytes} {reply : ReadReply} {status : Status} : offset < stop →
      ¬ reply.Good (segmentLen stop offset) → status ≠ .ok →
      SegmentsSent fs entity stop offset buf
        [⟨.read fs entity.sender.fileHandle offset (segmentLen stop offset), reply⟩] status
        (fillBuffer buf (segmentLen stop offset) reply.data)
  | unsent {offset : Nat} {buf : Bytes} {reply : ReadReply} {t : Trace} {status : Status} :
      offset < stop → reply.Good (segmentLen stop offset) →
      FiledataSent entity offset (segmentOctets buf (segmentLen stop offset) reply) t status →
      status ≠ .ok →
      SegmentsSent fs entity stop offset buf
        (⟨.read fs entity.sender.fileHandle offset (segmentLen stop offset), reply⟩ :: t) status
        (fillBuffer buf (segmentLen stop offset) reply.data)
  | turn {offset : Nat} {buf buf' : Bytes} {reply : ReadReply} {t u : Trace} {status : Status} :
      offset < stop → reply.Good (segmentLen stop offset) →
      FiledataSent entity offset (segmentOctets buf (segmentLen stop offset) reply) t .ok →
      SegmentsSent fs entity stop (offset + reply.nread)
        (fillBuffer buf (segmentLen stop offset) reply.data) u status buf' →
      SegmentsSent fs entity stop offset buf
        (⟨.read fs entity.sender.fileHandle offset (segmentLen stop offset), reply⟩ :: (t ++ u))
        status buf'

omit [ZephyrCrc] in
theorem sendFiledata_outcome (offset : Nat) (data : Bytes) (entity : Entity) :
    (sendFiledata offset data).wp once
      (fun t status entity' => FiledataSent entity offset data t status ∧ entity' = entity)
      entity := by
  simp only [sendFiledata, sendEncodedPdu, Prog.wp_bind, Prog.wp_read, List.nil_append]
  exact sendEncodedPduTo_outcome _ _ _

omit [Kconfig] [ZephyrCrc] in
theorem ReadReply.good_of_accepted {reply : ReadReply} {len remaining : Nat} (rc : reply.rc = 0)
    (accepted : ¬ (reply.nread = 0 ∨ len < reply.nread ∨ remaining < reply.nread)) :
    reply.Good len := by
  refine ⟨rc, ?_, ?_⟩ <;> omega

omit [Kconfig] [ZephyrCrc] in
theorem ReadReply.not_good_of_rejected {reply : ReadReply} {len remaining : Nat}
    (le : len ≤ remaining)
    (rejected : reply.nread = 0 ∨ len < reply.nread ∨ remaining < reply.nread) :
    ¬ reply.Good len := by
  intro good
  have pos := good.pos
  have fits := good.le
  omega

omit [ZephyrCrc] in
/-- Only the buffer changes in the loop, so every turn sends with the header of the first. -/
theorem senderRetransmitLoop_outcome (fs : FilestoreOps) (entity : Entity) (stop fuel offset : Nat)
    (buf : Bytes) (enough : stop - offset ≤ fuel) :
    (senderRetransmitLoop fs stop fuel offset).wp once
      (fun t status entity' => ∃ buf',
        SegmentsSent fs entity stop offset buf t status buf' ∧ entity' = entity.withBuf buf')
      (entity.withBuf buf) := by
  induction fuel generalizing offset buf with
  | zero => exact ⟨_, .done (by omega), rfl⟩
  | succ fuel ih =>
    have shorter : segmentLen stop offset ≤ stop - offset := Nat.min_le_left _ _
    simp only [senderRetransmitLoop, Prog.wp_bind, Prog.wp_read, Prog.wp_ite, readSegment_wp,
      Prog.wp_pure, List.nil_append, List.append_nil]
    refine ⟨fun more reply => ⟨fun rejected => ?_, fun accepted => ⟨fun bad => ?_, fun good => ?_⟩⟩,
      fun finished => ?_⟩
    · exact ⟨_, .unread more (fun good => rejected good.rc) (by simp), rfl⟩
    · exact ⟨_, .unread more (ReadReply.not_good_of_rejected shorter bad) (by simp), rfl⟩
    · have good : reply.Good (segmentLen stop offset) :=
        ReadReply.good_of_accepted (not_not.mp accepted) good
      refine Prog.wp_mono (sendFiledata_outcome _ _ _) ?_
      rintro t status entity' ⟨sent, rfl⟩
      refine ⟨fun failed => ?_, fun ok => ?_⟩
      · exact ⟨_, .unsent more good sent failed, rfl⟩
      · obtain rfl := not_not.mp ok
        have pos := good.pos
        refine Prog.wp_mono (ih (offset + reply.nread) _ (by omega)) ?_
        rintro u status entity' ⟨buf', rest, rfl⟩
        exact ⟨buf', .turn (t := t) more good sent rest, rfl⟩
    · exact ⟨_, .done (not_lt.mp finished), rfl⟩

/-- The turns of the loop over the ranges of a NAK. -/
inductive RangesSent (fs : FilestoreOps) (entity : Entity) :
    List NakRange → Bytes → Trace → Status → Bytes → Prop where
  | done {buf : Bytes} : RangesSent fs entity [] buf [] .ok buf
  | outside {range : NakRange} {ranges : List NakRange} {buf : Bytes} :
      entity.sender.fileSize < range.stop →
      RangesSent fs entity (range :: ranges) buf [] .fileSizeError buf
  | failed {range : NakRange} {ranges : List NakRange} {buf buf' : Bytes} {t : Trace}
      {status : Status} : range.stop ≤ entity.sender.fileSize →
      SegmentsSent fs entity range.stop range.start buf t status buf' → status ≠ .ok →
      RangesSent fs entity (range :: ranges) buf t status buf'
  | next {range : NakRange} {ranges : List NakRange} {buf buf₁ buf' : Bytes} {t u : Trace}
      {status : Status} : range.stop ≤ entity.sender.fileSize →
      SegmentsSent fs entity range.stop range.start buf t .ok buf₁ →
      RangesSent fs entity ranges buf₁ u status buf' →
      RangesSent fs entity (range :: ranges) buf (t ++ u) status buf'

omit [ZephyrCrc] in
theorem senderRetransmitRanges_outcome (fs : FilestoreOps) (entity : Entity)
    (ranges : List NakRange) (buf : Bytes) :
    (senderRetransmitRanges fs ranges).wp once
      (fun t status entity' => ∃ buf',
        RangesSent fs entity ranges buf t status buf' ∧ entity' = entity.withBuf buf')
      (entity.withBuf buf) := by
  induction ranges generalizing buf with
  | nil => exact ⟨_, .done, rfl⟩
  | cons range ranges ih =>
    simp only [senderRetransmitRanges, senderRetransmitRange, Prog.wp_bind, Prog.wp_read,
      Prog.wp_ite, Prog.wp_pure, List.nil_append]
    refine ⟨fun outside => ⟨_, .outside outside, rfl⟩, fun inside => ?_⟩
    refine Prog.wp_mono (senderRetransmitLoop_outcome fs entity _ _ _ buf (by omega)) ?_
    rintro t status entity' ⟨buf₁, sent, rfl⟩
    refine ⟨fun failed => ?_, fun ok => ?_⟩
    · rw [List.append_nil]
      exact ⟨buf₁, .failed (not_lt.mp inside) sent failed, rfl⟩
    · obtain rfl := not_not.mp ok
      refine Prog.wp_mono (ih buf₁) ?_
      rintro u status entity' ⟨buf', rest, rfl⟩
      exact ⟨buf', .next (not_lt.mp inside) sent rest, rfl⟩

/-! ## NAK -/

/-- The send of the EOF PDU of the sender's transaction. -/
abbrev EofSent (entity : Entity) : Trace → Status → Prop :=
  Sent entity.sender.peerEntityId
    (encodeEof (eofPdu entity entity.sender.eofChecksum entity.sender.fileSize) maxPduSize)

omit [ZephyrCrc] in
theorem sendEof_outcome (checksum fileSize : Nat) (entity : Entity) :
    (sendEof checksum fileSize).wp once
      (fun t status entity' =>
        Sent entity.sender.peerEntityId (encodeEof (eofPdu entity checksum fileSize) maxPduSize) t
          status ∧ entity' = entity) entity := by
  simp only [sendEof, sendEncodedPdu, Prog.wp_bind, Prog.wp_read, List.nil_append]
  exact sendEncodedPduTo_outcome _ _ _

/-- A NAK of the sender's transaction is counted when it is answered. -/
def TransactionSlot.countNak (slot : TransactionSlot) : TransactionSlot :=
  { slot with nakRetryCount := (slot.nakRetryCount + 1) % 2 ^ 32 }

/-- A NAK that asks for data of this file within the allowed number of rounds. -/
structure Answerable (slot : TransactionSlot) (nak : NakPdu) : Prop where
  rounds : slot.countNak.nakRetryCount ≤ maxNakRounds
  scopeStart : nak.scopeStart = 0
  scopeEnd : nak.scopeEnd = slot.fileSize

inductive NakAnswered (fs : FilestoreOps) (nak : NakPdu) (entity : Entity) :
    Trace → Status → Entity → Prop where
  | refused {t : Trace} {status : Status} : ¬ Answerable entity.sender nak → status ≠ .ok →
      SenderFailed entity status t →
      NakAnswered fs nak entity t status (entity.withSender .zero)
  | unsent {t u : Trace} {status : Status} {buf : Bytes} : Answerable entity.sender nak →
      RangesSent fs (entity.withSender entity.sender.countNak) nak.ranges entity.fileSegmentBuf t
        status buf → status ≠ .ok → SenderFailed entity status u →
      NakAnswered fs nak entity (t ++ u) status ((entity.withSender .zero).withBuf buf)
  | unended {t u v : Trace} {status : Status} {buf : Bytes} : Answerable entity.sender nak →
      RangesSent fs (entity.withSender entity.sender.countNak) nak.ranges entity.fileSegmentBuf t
        .ok buf → EofSent entity u status → status ≠ .ok → SenderFailed entity status v →
      NakAnswered fs nak entity (t ++ (u ++ v)) status ((entity.withSender .zero).withBuf buf)
  | answered {t u : Trace} {buf : Bytes} : Answerable entity.sender nak →
      RangesSent fs (entity.withSender entity.sender.countNak) nak.ranges entity.fileSegmentBuf t
        .ok buf → EofSent entity u .ok →
      NakAnswered fs nak entity (t ++ u) .ok
        ((entity.withSender entity.sender.countNak).withBuf buf)

omit [Kconfig] [ZephyrCrc] in
/-- `sender_fail` reads only the handle and the id of the slot. -/
theorem SenderFailed.congr {entity entity' : Entity} {status : Status} {t : Trace}
    (failed : SenderFailed entity' status t) (eventCb : entity'.eventCb = entity.eventCb)
    (id : entity'.sender.id = entity.sender.id)
    (filestore : entity.sender.filestore = entity'.sender.filestore)
    (isOpen : entity.sender.fileHandleOpen = entity'.sender.fileHandleOpen)
    (handle : entity.sender.fileHandle = entity'.sender.fileHandle) :
    SenderFailed entity status t := by
  obtain ⟨closed⟩ := failed
  rw [id, terminalEvent, eventCb, ← terminalEvent]
  exact .mk (closed.congr filestore isOpen handle)

omit [ZephyrCrc] in
theorem senderAnswerNak_outcome (fs : FilestoreOps) (nak : NakPdu) (entity : Entity) :
    (senderAnswerNak fs nak).wp once (NakAnswered fs nak entity) entity := by
  simp only [senderAnswerNak, Prog.wp_bind, wp_updateSender, Prog.wp_read, Prog.wp_ite,
    Prog.wp_pure, List.nil_append]
  refine ⟨fun spent => ?_, fun rounds => ⟨fun foreign => ?_, fun scope => ?_⟩⟩
  · refine Prog.wp_mono (senderFail_outcome _ _) ?_
    rintro t result entity' ⟨failed, rfl, rfl⟩
    exact .refused (fun answerable => not_lt.mpr answerable.rounds spent) (by simp)
      (failed.congr rfl rfl rfl rfl rfl)
  · refine Prog.wp_mono (senderFail_outcome _ _) ?_
    rintro t result entity' ⟨failed, rfl, rfl⟩
    refine .refused (fun answerable => ?_) (by simp) (failed.congr rfl rfl rfl rfl rfl)
    rcases foreign with start | stop
    · exact start answerable.scopeStart
    · exact stop answerable.scopeEnd
  · have answerable : Answerable entity.sender nak := by
      rw [not_or, not_not, not_not] at scope
      exact ⟨not_lt.mp rounds, scope.1, scope.2⟩
    refine Prog.wp_mono (senderRetransmitRanges_outcome fs
      (entity.withSender entity.sender.countNak) nak.ranges entity.fileSegmentBuf) ?_
    rintro t status entity' ⟨buf, sent, rfl⟩
    refine ⟨fun failed => ?_, fun ok => ?_⟩
    · refine Prog.wp_mono (senderFail_outcome _ _) ?_
      rintro u result entity' ⟨closed, rfl, rfl⟩
      exact .unsent answerable sent failed (closed.congr rfl rfl rfl rfl rfl)
    · obtain rfl := not_not.mp ok
      refine Prog.wp_mono (sendEof_outcome _ _ _) ?_
      rintro u status entity' ⟨ended, rfl⟩
      refine ⟨fun failed => ?_, fun ok => ?_⟩
      · refine Prog.wp_mono (senderFail_outcome _ _) ?_
        rintro v result entity' ⟨closed, rfl, rfl⟩
        exact .unended answerable sent ended failed (closed.congr rfl rfl rfl rfl rfl)
      · obtain rfl := not_not.mp ok
        rw [List.append_nil]
        exact .answered answerable sent ended

/-- A NAK PDU of the active transaction. -/
structure AcceptsNak (entity : Entity) (pdu : Bytes) (nak : NakPdu) : Prop where
  decoded : decodeNak pdu = .ok (nak, pdu.length)
  supported : senderNakHeaderIsSupported entity nak.header = true
  matched : senderActiveMatchesHeader entity nak.header = true

/-- A slot whose file can be read again. -/
structure Rereadable (fs : FilestoreOps) (slot : TransactionSlot) : Prop where
  filestore : slot.filestore = some fs
  valid : filestoreIsValid (some fs) = true
  isOpen : slot.fileHandleOpen = true
  handle : slot.fileHandle ≠ 0
  mode : slot.transmissionMode = .acknowledged

inductive NakHandled (pdu : Bytes) (entity : Entity) : Trace → Status → Entity → Prop where
  | skipped {status : Status} : (∀ nak, ¬ AcceptsNak entity pdu nak) →
      NakHandled pdu entity [] status entity
  | unreadable {nak : NakPdu} {t : Trace} {status : Status} : AcceptsNak entity pdu nak →
      (∀ fs, ¬ Rereadable fs entity.sender) → status ≠ .ok → SenderFailed entity status t →
      NakHandled pdu entity t status (entity.withSender .zero)
  | answered {fs : FilestoreOps} {nak : NakPdu} {t : Trace} {status : Status} {entity' : Entity} :
      AcceptsNak entity pdu nak → Rereadable fs entity.sender →
      NakAnswered fs nak entity t status entity' → NakHandled pdu entity t status entity'

omit [ZephyrCrc] in
theorem senderHandleNak_outcome (pdu : Bytes) (entity : Entity) :
    (senderHandleNak pdu).wp once (NakHandled pdu entity) entity := by
  simp only [senderHandleNak, Prog.wp_bind, Prog.wp_read, List.nil_append]
  cases decoded : decodeNak pdu with
  | error status =>
    refine .skipped fun nak accepts => ?_
    rw [accepts.decoded] at decoded
    cases decoded
  | ok result =>
    obtain ⟨nak, consumed⟩ := result
    have agrees : ∀ nak', AcceptsNak entity pdu nak' → nak' = nak ∧ consumed = pdu.length := by
      intro nak' accepts
      have same := accepts.decoded
      rw [decoded] at same
      cases same
      exact ⟨rfl, rfl⟩
    simp only [Prog.wp_ite, Prog.wp_pure]
    refine ⟨fun rejected => ?_, fun accepted => ⟨fun unmatched => ?_, fun matched => ?_⟩⟩
    · refine .skipped fun nak' accepts => ?_
      obtain ⟨rfl, rfl⟩ := agrees _ accepts
      have supported := accepts.supported
      simp [supported] at rejected
    · refine .skipped fun nak' accepts => ?_
      obtain ⟨rfl, rfl⟩ := agrees _ accepts
      rw [Bool.not_eq_true', accepts.matched] at unmatched
      cases unmatched
    · rw [not_or, not_not, Bool.not_eq_true', Bool.not_eq_false] at accepted
      rw [Bool.not_eq_true', Bool.not_eq_false] at matched
      have accepts : AcceptsNak entity pdu nak :=
        ⟨by rw [decoded, accepted.1], accepted.2, matched⟩
      have failing : ∀ status : Status, status ≠ .ok → (∀ fs, ¬ Rereadable fs entity.sender) →
          (senderFail status).wp once (NakHandled pdu entity) entity := by
        intro status error unreadable
        refine Prog.wp_mono (senderFail_outcome _ _) ?_
        rintro t result entity' ⟨failed, rfl, rfl⟩
        exact .unreadable accepts unreadable error failed
      cases filestore : entity.sender.filestore with
      | none =>
        apply failing _ (by simp)
        intro fs readable
        have some := readable.filestore
        rw [filestore] at some
        cases some
      | some fs =>
        -- the two checks in front of the answer are the fields of `Rereadable`
        have same : ∀ fs', Rereadable fs' entity.sender → fs' = fs := by
          intro fs' readable
          have some := readable.filestore
          rw [filestore] at some
          exact (Option.some.inj some).symm
        simp only [Prog.wp_ite]
        refine ⟨fun shut => ?_, fun usable => ⟨fun mode => ?_, fun mode => ?_⟩⟩
        · apply failing _ (by simp)
          intro fs' readable
          obtain rfl := same fs' readable
          have handle := readable.handle
          simp [readable.valid, readable.isOpen, handle] at shut
        · apply failing _ (by simp)
          exact fun fs' readable => mode readable.mode
        · simp only [Bool.or_eq_true, Bool.not_eq_true', beq_iff_eq, not_or, Bool.not_eq_false]
            at usable
          refine Prog.wp_mono (senderAnswerNak_outcome fs nak entity) ?_
          exact fun t status entity' answered =>
            .answered accepts ⟨filestore, usable.1.1, usable.1.2, usable.2, not_not.mp mode⟩ answered

/-! ## Finished -/

/-- A Finished PDU of the active transaction. -/
structure AcceptsFinished (entity : Entity) (pdu : Bytes) (finished : FinishedPdu) : Prop where
  decoded : decodeFinished pdu = .ok (finished, pdu.length)
  supported : incomingFinishedHeaderIsSupported entity finished.header = true
  matched : senderActiveMatchesHeader entity finished.header = true

/-- The entity once a Finished PDU reported the end of the sender's transaction. -/
def Entity.recordFinished (entity : Entity) (status : Status) : Entity :=
  { entity with
    sender := { entity.sender with finishedReceived := true, finishedStatus := status }
    senderCompletionAvailable := true
    senderCompletionStatus := status }

/-- The send of the ACK of a Finished PDU. -/
abbrev AckFinishedSent (entity : Entity) (code : Nat) : Trace → Status → Prop :=
  Sent entity.sender.peerEntityId (encodeAck (ackFinishedPdu entity code) maxPduSize)

inductive FinishedHandled (pdu : Bytes) (entity : Entity) : Trace → Status → Entity → Prop where
  | skipped {status : Status} : (∀ finished, ¬ AcceptsFinished entity pdu finished) →
      FinishedHandled pdu entity [] status entity
  | recorded {finished : FinishedPdu} : AcceptsFinished entity pdu finished →
      entity.sender.transmissionMode = .unacknowledged →
      FinishedHandled pdu entity [] (statusFromFinished finished)
        (entity.recordFinished (statusFromFinished finished))
  | unacknowledged {finished : FinishedPdu} {t u : Trace} {status : Status} :
      AcceptsFinished entity pdu finished → entity.sender.transmissionMode = .acknowledged →
      AckFinishedSent entity finished.conditionCode t status → status ≠ .ok →
      SenderFailed entity status u →
      FinishedHandled pdu entity (t ++ u) status
        ((entity.recordFinished (statusFromFinished finished)).withSender .zero)
  | acknowledged {finished : FinishedPdu} {t u : Trace} :
      AcceptsFinished entity pdu finished → entity.sender.transmissionMode = .acknowledged →
      AckFinishedSent entity finished.conditionCode t .ok →
      SenderReleased entity (statusFromFinished finished) u →
      FinishedHandled pdu entity (t ++ u) (statusFromFinished finished)
        ((entity.recordFinished (statusFromFinished finished)).withSender .zero)

omit [ZephyrCrc] in
theorem sendAckFinished_outcome (code : Nat) (entity : Entity) :
    (sendAckFinished code).wp once
      (fun t status entity' => AckFinishedSent entity code t status ∧ entity' = entity) entity := by
  simp only [sendAckFinished, sendEncodedPdu, Prog.wp_bind, Prog.wp_read, List.nil_append]
  exact sendEncodedPduTo_outcome _ _ _

omit [ZephyrCrc] in
theorem senderHandleFinished_outcome (pdu : Bytes) (entity : Entity) :
    (senderHandleFinished pdu).wp once (FinishedHandled pdu entity) entity := by
  simp only [senderHandleFinished, Prog.wp_bind, Prog.wp_read, List.nil_append]
  cases decoded : decodeFinished pdu with
  | error status =>
    refine .skipped fun finished accepts => ?_
    rw [accepts.decoded] at decoded
    cases decoded
  | ok result =>
    obtain ⟨finished, consumed⟩ := result
    have agrees : ∀ finished', AcceptsFinished entity pdu finished' →
        finished' = finished ∧ consumed = pdu.length := by
      intro finished' accepts
      have same := accepts.decoded
      rw [decoded] at same
      cases same
      exact ⟨rfl, rfl⟩
    simp only [Prog.wp_ite, Prog.wp_pure, Prog.wp_bind, wp_updateSender, Prog.wp_modify,
      List.nil_append]
    refine ⟨fun rejected => ?_, fun accepted => ⟨fun unmatched => ?_, fun matched => ?_⟩⟩
    · refine .skipped fun finished' accepts => ?_
      obtain ⟨rfl, rfl⟩ := agrees _ accepts
      have supported := accepts.supported
      simp [supported] at rejected
    · refine .skipped fun finished' accepts => ?_
      obtain ⟨rfl, rfl⟩ := agrees _ accepts
      rw [Bool.not_eq_true', accepts.matched] at unmatched
      cases unmatched
    · rw [not_or, not_not, Bool.not_eq_true', Bool.not_eq_false] at accepted
      rw [Bool.not_eq_true', Bool.not_eq_false] at matched
      have accepts : AcceptsFinished entity pdu finished :=
        ⟨by rw [decoded, accepted.1], accepted.2, matched⟩
      refine ⟨fun mode => ?_, fun mode => ?_⟩
      · refine Prog.wp_mono (sendAckFinished_outcome _ _) ?_
        rintro t status entity' ⟨acked, rfl⟩
        refine ⟨fun failed => ?_, fun ok => ?_⟩
        · refine Prog.wp_mono (senderFail_outcome _ _) ?_
          rintro u result entity' ⟨closed, rfl, rfl⟩
          exact .unacknowledged accepts mode acked failed (closed.congr rfl rfl rfl rfl rfl)
        · obtain rfl := not_not.mp ok
          refine Prog.wp_mono (releaseSenderTerminal_outcome _ _) ?_
          rintro u _ entity' ⟨⟨closed⟩, rfl⟩
          rw [List.append_nil]
          exact .acknowledged accepts mode acked (.mk (closed.congr rfl rfl rfl))
      · exact .recorded accepts (TransmissionMode.eq_unacknowledged mode)

/-! ## One PDU -/

omit [ZephyrCrc] in
/-- An ACK of an EOF PDU changes nothing. -/
theorem senderHandleAck_outcome (pdu : Bytes) (entity : Entity) :
    (senderHandleAck pdu).wp once (fun t _ entity' => t = [] ∧ entity' = entity) entity := by
  simp only [senderHandleAck, Prog.wp_bind, Prog.wp_read, List.nil_append]
  cases decodeAck pdu with
  | error status => exact ⟨rfl, rfl⟩
  | ok result =>
    simp only [Prog.wp_ite, Prog.wp_pure, and_self, implies_true]

/-- One handler of the sender. -/
inductive SenderHandled (pdu : Bytes) (entity : Entity) : Trace → Status → Entity → Prop where
  | ignored {status : Status} : SenderHandled pdu entity [] status entity
  | finished {t : Trace} {status : Status} {entity' : Entity} :
      FinishedHandled pdu entity t status entity' → SenderHandled pdu entity t status entity'
  | nak {t : Trace} {status : Status} {entity' : Entity} :
      NakHandled pdu entity t status entity' → SenderHandled pdu entity t status entity'

omit [ZephyrCrc] in
theorem senderHandleDirective_outcome (directive : Nat) (pdu : Bytes) (entity : Entity) :
    (senderHandleDirective directive pdu).wp once (SenderHandled pdu entity) entity := by
  simp only [senderHandleDirective, Prog.wp_ite, Prog.wp_pure]
  refine ⟨fun _ => ?_, fun _ => ⟨fun _ => ?_, fun _ => ⟨fun _ => ?_, fun _ => .ignored⟩⟩⟩
  · exact Prog.wp_mono (senderHandleFinished_outcome pdu entity) fun _ _ _ handled => .finished handled
  · refine Prog.wp_mono (senderHandleAck_outcome pdu entity) ?_
    rintro t status entity' ⟨rfl, rfl⟩
    exact .ignored
  · exact Prog.wp_mono (senderHandleNak_outcome pdu entity) fun _ _ _ handled => .nak handled

/-- `receive_pdu` for the sender: a handler, and the release when it failed. -/
inductive SenderStep (pdu : Bytes) (entity : Entity) : Trace → Status → Entity → Prop where
  | unhandled {status : Status} : SenderStep pdu entity [] status entity
  | kept {header : PduHeader} {headerLen : Nat} {t : Trace} {status : Status} {entity' : Entity} :
      decodeHeader pdu = .ok (header, headerLen) →
      incomingFinishedHeaderIsSupported entity header = true →
      SenderHandled pdu entity t status entity' →
      (status = .ok ∨ senderActiveMatchesHeader entity' header = false) →
      SenderStep pdu entity t status entity'
  | failed {header : PduHeader} {headerLen : Nat} {t u : Trace} {status : Status}
      {entity' : Entity} :
      decodeHeader pdu = .ok (header, headerLen) →
      incomingFinishedHeaderIsSupported entity header = true →
      SenderHandled pdu entity t status entity' → status ≠ .ok →
      senderActiveMatchesHeader entity' header = true → SenderReleased entity' status u →
      SenderStep pdu entity (t ++ u) status (entity'.withSender .zero)

omit [ZephyrCrc] in
theorem receivePduTowardSender_outcome (header : PduHeader) (headerLen : Nat) (pdu : Bytes)
    (entity : Entity) (decoded : decodeHeader pdu = .ok (header, headerLen)) :
    (receivePduTowardSender header headerLen pdu).wp once (SenderStep pdu entity) entity := by
  simp only [receivePduTowardSender, Prog.wp_bind, Prog.wp_read, Prog.wp_ite, Prog.wp_pure,
    List.nil_append]
  refine ⟨fun _ => .unhandled, fun accepted => ?_⟩
  have supported : incomingFinishedHeaderIsSupported entity header = true := by
    simp only [Bool.or_eq_true, Bool.not_eq_true', not_or, Bool.not_eq_false] at accepted
    exact accepted.1.1.1
  refine Prog.wp_mono (senderHandleDirective_outcome _ pdu entity) ?_
  intro t status entity' handled
  refine ⟨fun failing => ?_, fun fine => ?_⟩
  · refine Prog.wp_mono (releaseSenderTerminal_outcome _ _) ?_
    rintro u _ entity'' ⟨released, rfl⟩
    rw [List.append_nil]
    exact .failed decoded supported handled failing.1 failing.2 released
  · rw [not_and_or, not_not, Bool.not_eq_true] at fine
    rw [List.append_nil]
    exact .kept decoded supported handled fine

/-! ## Polling -/

/-- An acknowledged transaction that is to repeat its EOF PDU. -/
structure SenderDue (slot : TransactionSlot) (now : Nat) : Prop where
  active : slot.active = true
  mode : slot.transmissionMode = .acknowledged
  unfinished : slot.finishedReceived = false
  due : retryDue slot now = true

/-- The sender's part of `poll`. -/
inductive SenderPolled (entity : Entity) (now : Nat) : Trace → Entity → Prop where
  | idle : ¬ SenderDue entity.sender now → SenderPolled entity now [] entity
  | spent {t : Trace} : SenderDue entity.sender now → maxNakRounds ≤ entity.sender.retryCount →
      SenderFailed entity .inactivityDetected t →
      SenderPolled entity now t (entity.withSender .zero)
  | unsent {t u : Trace} {status : Status} : SenderDue entity.sender now →
      entity.sender.retryCount < maxNakRounds → EofSent entity t status → status ≠ .ok →
      SenderFailed entity status u → SenderPolled entity now (t ++ u) (entity.withSender .zero)
  | repeated {t : Trace} : SenderDue entity.sender now →
      entity.sender.retryCount < maxNakRounds → EofSent entity t .ok →
      SenderPolled entity now t (entity.withSender (armRetry entity.sender.countRetry now))

omit [ZephyrCrc] in
theorem pollSender_outcome (now : Nat) (entity : Entity) :
    (pollSender now).wp once (fun t _ entity' => SenderPolled entity now t entity') entity := by
  simp only [pollSender, Prog.wp_bind, Prog.wp_read, Prog.wp_ite, Prog.wp_pure, wp_updateSender,
    Bool.and_eq_true, beq_iff_eq, Bool.not_eq_true', List.nil_append]
  refine ⟨?_, fun rested => .idle fun due => rested ⟨⟨⟨due.1, due.2⟩, due.3⟩, due.4⟩⟩
  rintro ⟨⟨⟨active, mode⟩, unfinished⟩, due⟩
  have due : SenderDue entity.sender now := ⟨active, mode, unfinished, due⟩
  refine ⟨fun spent => ?_, fun more => ?_⟩
  · refine Prog.wp_mono (senderFail_outcome _ _) ?_
    rintro t result entity' ⟨failed, _, rfl⟩
    rw [List.append_nil]
    exact .spent due spent failed
  · refine Prog.wp_mono (sendEof_outcome _ _ _) ?_
    rintro t status entity' ⟨sent, rfl⟩
    refine ⟨fun ok => ?_, fun failed => ?_⟩
    · subst ok
      rw [List.append_nil]
      exact .repeated due (not_le.mp more) sent
    · refine Prog.wp_mono (senderFail_outcome _ _) ?_
      rintro u result entity'' ⟨closed, _, rfl⟩
      rw [List.append_nil]
      exact .unsent due (not_le.mp more) sent failed closed

/-! ## Sending a file -/

/-- The turns of the loop of `send_file` from a checksum state, an offset and a buffer. -/
inductive FileSent (fs : FilestoreOps) (entity : Entity) (handle : Handle) (fileSize : Nat) :
    ChecksumState → Nat → Bytes → Trace → Except Status ChecksumState → Bytes → Prop where
  | done {state : ChecksumState} {offset : Nat} {buf : Bytes} : fileSize ≤ offset →
      FileSent fs entity handle fileSize state offset buf [] (.ok state) buf
  | unread {state : ChecksumState} {offset : Nat} {buf : Bytes} {reply : ReadReply}
      {status : Status} : offset < fileSize → ¬ reply.Good (segmentLen fileSize offset) →
      status ≠ .ok →
      FileSent fs entity handle fileSize state offset buf
        [⟨.read fs handle offset (segmentLen fileSize offset), reply⟩] (.error status)
        (fillBuffer buf (segmentLen fileSize offset) reply.data)
  | unsent {state : ChecksumState} {offset : Nat} {buf : Bytes} {reply : ReadReply} {t : Trace}
      {status : Status} : offset < fileSize → reply.Good (segmentLen fileSize offset) →
      FiledataSent entity offset (segmentOctets buf (segmentLen fileSize offset) reply) t status →
      status ≠ .ok →
      FileSent fs entity handle fileSize state offset buf
        (⟨.read fs handle offset (segmentLen fileSize offset), reply⟩ :: t) (.error status)
        (fillBuffer buf (segmentLen fileSize offset) reply.data)
  | unsummed {state : ChecksumState} {offset : Nat} {buf : Bytes} {reply : ReadReply} {t : Trace}
      {status : Status} : offset < fileSize → reply.Good (segmentLen fileSize offset) →
      FiledataSent entity offset (segmentOctets buf (segmentLen fileSize offset) reply) t .ok →
      checksumUpdate state offset (segmentOctets buf (segmentLen fileSize offset) reply) =
        .error status →
      FileSent fs entity handle fileSize state offset buf
        (⟨.read fs handle offset (segmentLen fileSize offset), reply⟩ :: t) (.error status)
        (fillBuffer buf (segmentLen fileSize offset) reply.data)
  | turn {state state' : ChecksumState} {offset : Nat} {buf buf' : Bytes} {reply : ReadReply}
      {t u : Trace} {result : Except Status ChecksumState} : offset < fileSize →
      reply.Good (segmentLen fileSize offset) →
      FiledataSent entity offset (segmentOctets buf (segmentLen fileSize offset) reply) t .ok →
      checksumUpdate state offset (segmentOctets buf (segmentLen fileSize offset) reply) =
        .ok state' →
      FileSent fs entity handle fileSize state' (offset + reply.nread)
        (fillBuffer buf (segmentLen fileSize offset) reply.data) u result buf' →
      FileSent fs entity handle fileSize state offset buf
        (⟨.read fs handle offset (segmentLen fileSize offset), reply⟩ :: (t ++ u)) result buf'

theorem sendFileLoop_outcome (fs : FilestoreOps) (entity : Entity) (handle : Handle)
    (fileSize fuel : Nat) (state : ChecksumState) (offset : Nat) (buf : Bytes)
    (enough : fileSize - offset ≤ fuel) :
    (sendFileLoop fs handle fileSize fuel state offset).wp once
      (fun t result entity' => ∃ buf',
        FileSent fs entity handle fileSize state offset buf t result buf' ∧
        entity' = entity.withBuf buf') (entity.withBuf buf) := by
  induction fuel generalizing state offset buf with
  | zero => exact ⟨_, .done (by omega), rfl⟩
  | succ fuel ih =>
    have shorter : segmentLen fileSize offset ≤ fileSize - offset := Nat.min_le_left _ _
    simp only [sendFileLoop, Prog.wp_bind, Prog.wp_read, Prog.wp_ite, readSegment_wp,
      Prog.wp_pure, List.nil_append, List.append_nil]
    refine ⟨fun more reply => ⟨fun rejected => ?_, fun accepted => ⟨fun bad => ?_, fun good => ?_⟩⟩,
      fun finished => ?_⟩
    · exact ⟨_, .unread more (fun good => rejected good.rc) (by simp), rfl⟩
    · exact ⟨_, .unread more (ReadReply.not_good_of_rejected shorter bad) (by simp), rfl⟩
    · have good : reply.Good (segmentLen fileSize offset) :=
        ReadReply.good_of_accepted (not_not.mp accepted) good
      refine Prog.wp_mono (sendFiledata_outcome _ _ _) ?_
      rintro t status entity' ⟨sent, rfl⟩
      refine ⟨fun failed => ?_, fun ok => ?_⟩
      · exact ⟨_, .unsent more good sent failed, rfl⟩
      · obtain rfl := not_not.mp ok
        -- without re-entry the buffer that is summed is the one that was sent
        cases updated : checksumUpdate state offset
            (segmentOctets buf (segmentLen fileSize offset) reply) with
        | error status =>
          simp only [segmentOctets, segmentLen] at updated
          simp only [Entity.withBuf_buf, updated, Prog.wp_pure, List.append_nil]
          exact ⟨_, .unsummed more good sent updated, rfl⟩
        | ok state' =>
          have pos := good.pos
          simp only [segmentOctets, segmentLen] at updated
          simp only [Entity.withBuf_buf, updated]
          refine Prog.wp_mono (ih state' (offset + reply.nread) _ (by omega)) ?_
          rintro u result entity' ⟨buf', rest, rfl⟩
          exact ⟨buf', .turn (t := t) more good sent updated rest, rfl⟩
    · exact ⟨_, .done (not_lt.mp finished), rfl⟩

/-- The send of the Metadata PDU of the sender's transaction. -/
abbrev MetadataSent (entity : Entity) (request : PutRequest) (source destination : Bytes)
    (fileSize : Nat) : Trace → Status → Prop :=
  Sent entity.sender.peerEntityId
    (encodeMetadata (metadataPdu entity request source destination fileSize) maxPduSize)

/-- The slot whose EOF PDU carries the checksum. -/
def TransactionSlot.withChecksum (slot : TransactionSlot) (checksum : Nat) : TransactionSlot :=
  { slot with eofChecksum := checksum }

/-- After `send_file` the sender of an acknowledged transaction waits for the Finished PDU. -/
def TransactionSlot.awaitFinished (slot : TransactionSlot) : TransactionSlot :=
  { slot with retryCount := 0 }

/-- The transfer of a file from an open slot.  The flag says whether the slot stays active. -/
inductive Transferred (fs : FilestoreOps) (request : PutRequest) (source destination : Bytes)
    (init : ChecksumState) (handle : Handle) (fileSize : Nat) (entity : Entity) :
    Trace → Status → Bool → Entity → Prop where
  | unannounced {t : Trace} {status : Status} :
      MetadataSent entity request source destination fileSize t status → status ≠ .ok →
      Transferred fs request source destination init handle fileSize entity t status false entity
  | interrupted {t u : Trace} {status : Status} {buf : Bytes} :
      MetadataSent entity request source destination fileSize t .ok →
      FileSent fs entity handle fileSize init 0 entity.fileSegmentBuf u (.error status) buf →
      Transferred fs request source destination init handle fileSize entity (t ++ u) status false
        (entity.withBuf buf)
  | unsummed {t u : Trace} {final : ChecksumState} {status : Status} {buf : Bytes} :
      MetadataSent entity request source destination fileSize t .ok →
      FileSent fs entity handle fileSize init 0 entity.fileSegmentBuf u (.ok final) buf →
      checksumFinish final = .error status →
      Transferred fs request source destination init handle fileSize entity (t ++ u) status false
        (entity.withBuf buf)
  | ended {t u v : Trace} {final : ChecksumState} {checksum : Nat} {sent status : Status}
      {buf : Bytes} : MetadataSent entity request source destination fileSize t .ok →
      FileSent fs entity handle fileSize init 0 entity.fileSegmentBuf u (.ok final) buf →
      checksumFinish final = .ok checksum →
      Sent entity.sender.peerEntityId (encodeEof (eofPdu entity checksum fileSize) maxPduSize) v
        sent →
      (sent ≠ .ok ∨ request.acknowledgedMode = false ∨ entity.sender.finishedReceived = true) →
      (sent ≠ .ok → status = sent) →
      Transferred fs request source destination init handle fileSize entity (t ++ (u ++ v)) status
        false ((entity.withSender (entity.sender.withChecksum checksum)).withBuf buf)
  | awaiting {t u v w : Trace} {final : ChecksumState} {checksum now : Nat} {buf : Bytes} :
      MetadataSent entity request source destination fileSize t .ok →
      FileSent fs entity handle fileSize init 0 entity.fileSegmentBuf u (.ok final) buf →
      checksumFinish final = .ok checksum →
      Sent entity.sender.peerEntityId (encodeEof (eofPdu entity checksum fileSize) maxPduSize) v
        .ok →
      request.acknowledgedMode = true → Clock entity w now →
      Transferred fs request source destination init handle fileSize entity (t ++ (u ++ (v ++ w)))
        .ok true
        ((entity.withSender
          (armRetry (entity.sender.withChecksum checksum).awaitFinished now)).withBuf buf)

omit [ZephyrCrc] in
theorem sendMetadata_outcome (request : PutRequest) (source destination : Bytes) (fileSize : Nat)
    (entity : Entity) :
    (sendMetadata request source destination fileSize).wp once
      (fun t status entity' => MetadataSent entity request source destination fileSize t status ∧
        entity' = entity) entity := by
  simp only [sendMetadata, sendEncodedPdu, Prog.wp_bind, Prog.wp_read, List.nil_append]
  exact sendEncodedPduTo_outcome _ _ _

theorem sendFileTransfer_outcome (fs : FilestoreOps) (request : PutRequest)
    (source destination : Bytes) (init : ChecksumState) (handle : Handle) (fileSize : Nat)
    (entity : Entity) (active : entity.sender.active = true) :
    (sendFileTransfer fs request source destination init handle fileSize).wp once
      (fun t result entity' => Transferred fs request source destination init handle fileSize entity
        t result.1 result.2 entity') entity := by
  simp only [sendFileTransfer, Prog.wp_bind, Prog.wp_ite, Prog.wp_pure]
  refine Prog.wp_mono (sendMetadata_outcome _ _ _ _ _) ?_
  rintro t status entity' ⟨announced, rfl⟩
  refine ⟨fun failed => ?_, fun ok => ?_⟩
  · rw [List.append_nil]
    exact .unannounced announced failed
  obtain rfl := not_not.mp ok
  refine Prog.wp_mono (sendFileLoop_outcome fs entity' handle fileSize fileSize init 0
    entity'.fileSegmentBuf (by omega)) ?_
  rintro u result entity'' ⟨buf, sent, rfl⟩
  cases result with
  | error status =>
    simp only [Prog.wp_pure, List.append_nil]
    exact .interrupted announced sent
  | ok final =>
    cases finished : checksumFinish final with
    | error status =>
      simp only [finished, Prog.wp_pure, List.append_nil]
      exact .unsummed announced sent finished
    | ok checksum =>
      simp only [finished, Prog.wp_bind, wp_updateSender, List.nil_append]
      refine Prog.wp_mono (sendEof_outcome _ _ _) ?_
      rintro v status entity'' ⟨ended, rfl⟩
      simp only [sendFileAwait, Prog.wp_bind, Prog.wp_read, Prog.wp_ite, Prog.wp_pure,
        wp_updateSender, List.nil_append, List.append_nil]
      refine ⟨fun waits => ?_, fun leaves => ?_⟩
      · obtain ⟨rfl, acknowledged, _, _⟩ := waits
        refine Prog.wp_mono (entityNowMs_outcome _) ?_
        rintro w now entity'' ⟨clock, rfl⟩
        refine .awaiting announced sent finished ended acknowledged ?_
        cases clock with
        | asked now set => exact .asked now set
        | none unset => exact .none unset
      · have left : status ≠ .ok ∨ request.acknowledgedMode = false ∨
            entity'.sender.finishedReceived = true := by
          by_contra stays
          rw [not_or, not_or, not_not, Bool.not_eq_false] at stays
          exact leaves ⟨stays.1, stays.2.1, active, stays.2.2⟩
        refine ⟨fun completed => ?_, fun _ => ⟨fun completed => ?_, fun _ => ⟨fun late => ?_,
          fun _ => ?_⟩⟩⟩
        · exact .ended announced sent finished ended left fun failed => (failed completed.1).elim
        · exact .ended announced sent finished ended left fun failed => (failed completed.1).elim
        · exact .ended announced sent finished ended left fun failed => (failed late.1).elim
        · exact .ended announced sent finished ended left fun _ => rfl

/-- The id of the next sender transaction. -/
def Entity.nextId (entity : Entity) : TransactionId where
  sourceEntityId := entity.localEntityId
  transactionSequenceNumber := entity.nextTransactionSequenceNumber

/-- The entity once `send_file` has set up its slot. -/
def Entity.startSend (entity : Entity) (request : PutRequest) (source destination : Bytes) :
    Entity :=
  let advanced := advanceTransactionSequenceNumber entity
  { advanced.withSender
      (sendFileSlot
        { advanced.sender with
          active := true
          id := entity.nextId
          peerEntityId := entity.remoteEntityId
          transmissionMode := .unacknowledged
          finishedStatus := .ok } request source destination) with
    senderCompletionAvailable := false
    senderCompletionStatus := .ok }

/-- The slot once the source file is open. -/
def TransactionSlot.openSource (slot : TransactionSlot) (fs : FilestoreOps)
    (checksumType : ChecksumType) (reply : OpenReadReply) : TransactionSlot :=
  { slot with
    fileHandleOpen := true
    fileHandle := reply.handle
    filestore := some fs
    fileSize := reply.size.toNat
    checksumType }

def Entity.openSource (entity : Entity) (fs : FilestoreOps) (checksumType : ChecksumType)
    (reply : OpenReadReply) : Entity :=
  entity.withSender (entity.sender.openSource fs checksumType reply)

/-- The entity after the label `out_release`. -/
def Entity.endSend (entity : Entity) : Entity :=
  { entity.withSender .zero with senderCompletionAvailable := false }

/-- A request that `send_file` takes up, with the path it opens and the two it announces. -/
structure Puttable (request : PutRequest) (path source destination : Bytes)
    (init : ChecksumState) : Prop where
  sourcePath : request.sourcePath = some path
  source : ∃ len, pathLenIsValid (some path) = some len ∧ source = path.take len
  destination : ∃ path' len, request.destinationPath = some path' ∧
    pathLenIsValid (some path') = some len ∧ destination = path'.take len
  checksum : checksumInit request.checksumType = .ok init

inductive SendFileHandled (fs : FilestoreOps) (request : PutRequest) (entity : Entity) :
    Trace → Status → Entity → Prop where
  | rejected {status : Status} : SendFileHandled fs request entity [] status entity
  | unopened {path source destination : Bytes} {init : ChecksumState} {reply : OpenReadReply}
      {t : Trace} : entity.sender.active = false →
      Puttable request path source destination init →
      (reply.rc ≠ 0 ∨ reply.handle = 0 ∧ 0 < reply.size.toNat) →
      SenderReleased (entity.startSend request source destination) .filestoreRejection t →
      SendFileHandled fs request entity (⟨.openRead fs (cString path), reply⟩ :: t)
        .filestoreRejection (entity.startSend request source destination).endSend
  | released {path source destination : Bytes} {init : ChecksumState} {reply : OpenReadReply}
      {t u : Trace} {status : Status} {entity' : Entity} : entity.sender.active = false →
      Puttable request path source destination init → reply.rc = 0 →
      Transferred fs request source destination init reply.handle reply.size.toNat
        ((entity.startSend request source destination).openSource fs request.checksumType reply) t
        status false entity' →
      SenderFailed entity' status u →
      SendFileHandled fs request entity (⟨.openRead fs (cString path), reply⟩ :: (t ++ u)) status
        entity'.endSend
  | kept {path source destination : Bytes} {init : ChecksumState} {reply : OpenReadReply}
      {t : Trace} {status : Status} {entity' : Entity} : entity.sender.active = false →
      Puttable request path source destination init → reply.rc = 0 →
      Transferred fs request source destination init reply.handle reply.size.toNat
        ((entity.startSend request source destination).openSource fs request.checksumType reply) t
        status true entity' →
      SendFileHandled fs request entity (⟨.openRead fs (cString path), reply⟩ :: t) status entity'

omit [Kconfig] [ZephyrCrc] in
/-- The label `out_release` with the file open. -/
theorem sendFileOutRelease_outcome (status : Status) (entity : Entity)
    (active : entity.sender.active = true) (isOpen : entity.sender.fileHandleOpen = true) :
    (sendFileOutRelease true false status).wp once
      (fun t result entity' => SenderFailed entity status t ∧ result = status ∧
        entity' = entity.endSend) entity := by
  simp only [sendFileOutRelease, Bool.false_eq_true, if_false, Prog.wp_bind, Prog.wp_read,
    Prog.wp_runIf, Prog.wp_modify, Prog.wp_pure, isOpen, Bool.and_self, List.nil_append]
  refine ⟨fun _ => ?_, fun no => by cases no⟩
  refine Prog.wp_mono (closeSenderHandle_outcome entity) ?_
  rintro t _ entity' ⟨closed, rfl⟩
  refine ⟨fun _ => ?_, fun no => ?_⟩
  · refine Prog.wp_mono (releaseSenderTerminal_outcome _ _) ?_
    rintro u _ entity'' ⟨⟨again⟩, rfl⟩
    have nothing := again.eq_nil rfl
    subst nothing
    simp only [List.append_nil]
    exact ⟨.mk closed, trivial, rfl⟩
  · have still : entity.sender.active = false := no
    rw [active] at still
    cases still

omit [Kconfig] [ZephyrCrc] in
/-- The label `out_release` with no file opened. -/
theorem sendFileOutRelease_unopened (entity : Entity) (active : entity.sender.active = true) :
    (sendFileOutRelease false false .filestoreRejection).wp once
      (fun t result entity' => SenderReleased entity .filestoreRejection t ∧
        result = .filestoreRejection ∧ entity' = entity.endSend) entity := by
  simp only [sendFileOutRelease, Bool.false_eq_true, if_false, Prog.wp_bind, Prog.wp_read,
    Prog.wp_runIf, Prog.wp_modify, Prog.wp_pure, Bool.false_and, false_implies, true_implies,
    true_and, List.nil_append]
  refine ⟨fun _ => ?_, fun no => ?_⟩
  · refine Prog.wp_mono (releaseSenderTerminal_outcome _ _) ?_
    rintro t _ entity' ⟨released, rfl⟩
    rw [List.append_nil]
    exact ⟨released, rfl⟩
  · rw [active] at no
    cases no

theorem Transferred.open_slot {fs : FilestoreOps} {request : PutRequest}
    {source destination : Bytes} {init : ChecksumState} {handle : Handle} {fileSize : Nat}
    {entity entity' : Entity} {t : Trace} {status : Status} {keep : Bool}
    (transferred : Transferred fs request source destination init handle fileSize entity t status
      keep entity') :
    entity'.sender.active = entity.sender.active ∧
      entity'.sender.fileHandleOpen = entity.sender.fileHandleOpen := by
  cases transferred <;> exact ⟨rfl, rfl⟩

theorem sendFile_outcome (fs : FilestoreOps) (request : PutRequest) (entity : Entity) :
    (sendFile fs request).wp once
      (fun t result entity' => SendFileHandled fs request entity t result.1 entity') entity := by
  unfold sendFile
  split
  case h_2 => exact .rejected
  case h_1 path path' sourcePath destinationPath =>
  split
  case h_2 => exact .rejected
  case h_1 sourceLen destinationLen source destination =>
  by_cases invalid : (!filestoreIsValid (some fs)) = true
  · rw [if_pos invalid]
    exact .rejected
  rw [if_neg invalid]
  cases init : checksumInit request.checksumType with
  | error status => exact .rejected
  | ok state =>
    have puttable : Puttable request path (path.take sourceLen) (path'.take destinationLen) state :=
      ⟨sourcePath, ⟨sourceLen, source, rfl⟩, ⟨path', destinationLen, destinationPath, destination, rfl⟩,
        init⟩
    simp only [createSenderTransaction, Prog.wp_bind, Prog.wp_read, Prog.wp_ite, Prog.wp_pure,
      Prog.wp_modify, wp_updateSender, List.nil_append]
    refine ⟨fun _ => .rejected, fun idle => ?_⟩
    rw [Bool.not_eq_true] at idle
    have unopened : ∀ reply : OpenReadReply,
        (reply.rc ≠ 0 ∨ reply.handle = 0 ∧ 0 < reply.size.toNat) →
        (sendFileOutRelease false false .filestoreRejection).wp once
          (fun t result entity' => SendFileHandled fs request entity
            (⟨.openRead fs (cString path), reply⟩ :: t) result entity')
          (entity.startSend request (path.take sourceLen) (path'.take destinationLen)) := by
      intro reply failed
      refine Prog.wp_mono (sendFileOutRelease_unopened _ rfl) ?_
      rintro t result entity' ⟨released, rfl, rfl⟩
      exact .unopened idle puttable failed released
    simp only [sendFileOpen, Prog.wp_bind, Prog.wp_call_quiet, Prog.wp_ite, wp_updateSender,
      observe_apply, List.nil_append, List.append_nil]
    refine fun reply => ⟨fun failed => unopened reply (.inl failed), fun ok =>
      ⟨fun missing => unopened reply (.inr missing), fun _ => ?_⟩⟩
    refine Prog.wp_mono (sendFileTransfer_outcome fs request _ _ state reply.handle
      reply.size.toNat ((entity.startSend request (path.take sourceLen)
        (path'.take destinationLen)).openSource fs request.checksumType reply) rfl) ?_
    rintro t ⟨status, keep⟩ entity' transferred
    cases keep with
    | true =>
      simp only [sendFileOutRelease, if_true, Prog.wp_pure, List.append_nil]
      exact .kept idle puttable (not_not.mp ok) transferred
    | false =>
      obtain ⟨active, isOpen⟩ := transferred.open_slot
      refine Prog.wp_mono (sendFileOutRelease_outcome status entity' active isOpen) ?_
      rintro u result entity'' ⟨failed, rfl, rfl⟩
      exact .released (t := t) idle puttable (not_not.mp ok) transferred failed

/-! ## Frames -/

section Frames

variable {fs : FilestoreOps} {pdu : Bytes} {entity entity' : Entity} {t : Trace} {status : Status}

omit [ZephyrCrc] in
theorem NakHandled.only (handled : NakHandled pdu entity t status entity') :
    OnlySender entity entity' := by
  cases handled with
  | skipped => exact .refl _
  | unreadable => exact .withSender _ _
  | answered _ _ answered =>
    cases answered with
    | refused => exact .withSender _ _
    | unsent | unended | answered => exact (OnlySender.withSender _ _).trans (.withBuf _ _)

omit [ZephyrCrc] in
theorem FinishedHandled.only (handled : FinishedHandled pdu entity t status entity') :
    OnlySender entity entity' := by
  cases handled with
  | skipped => exact .refl _
  | recorded => exact ⟨_, _, _, _, _, rfl⟩
  | unacknowledged | acknowledged => exact ⟨_, _, _, _, _, rfl⟩

omit [ZephyrCrc] in
theorem SenderHandled.only (handled : SenderHandled pdu entity t status entity') :
    OnlySender entity entity' := by
  cases handled with
  | ignored => exact .refl _
  | finished handled => exact handled.only
  | nak handled => exact handled.only

omit [ZephyrCrc] in
theorem SenderStep.only (step : SenderStep pdu entity t status entity') :
    OnlySender entity entity' := by
  cases step with
  | unhandled => exact .refl _
  | kept _ _ handled => exact handled.only
  | failed _ _ handled => exact handled.only.trans (.withSender _ _)

omit [ZephyrCrc] in
theorem SenderPolled.only {now : Nat} (polled : SenderPolled entity now t entity') :
    OnlySender entity entity' := by
  cases polled with
  | idle => exact .refl _
  | spent | unsent | repeated => exact .withSender _ _

theorem Transferred.only {request : PutRequest} {source destination : Bytes} {init : ChecksumState}
    {handle : Handle} {fileSize : Nat} {keep : Bool}
    (transferred : Transferred fs request source destination init handle fileSize entity t status
      keep entity') : OnlySender entity entity' := by
  cases transferred with
  | unannounced => exact .refl _
  | interrupted | unsummed => exact .withBuf _ _
  | ended | awaiting => exact (OnlySender.withSender _ _).trans (.withBuf _ _)

omit [Kconfig] [ZephyrCrc] in
theorem OnlySender.startSend (entity : Entity) (request : PutRequest) (source destination : Bytes) :
    OnlySender entity (entity.startSend request source destination) := by
  unfold Entity.startSend advanceTransactionSequenceNumber
  by_cases limit : transactionSequenceLimit entity.transactionSequenceNumberLen = 2 ^ 64 - 1
  · simp only [limit, if_true]
    exact ⟨_, _, _, _, _, rfl⟩
  · simp only [limit, if_false]
    exact ⟨_, _, _, _, _, rfl⟩

theorem SendFileHandled.only {request : PutRequest}
    (handled : SendFileHandled fs request entity t status entity') : OnlySender entity entity' := by
  have ended : ∀ entity : Entity, OnlySender entity entity.endSend := fun _ => ⟨_, _, _, _, _, rfl⟩
  cases handled with
  | rejected => exact .refl _
  | unopened => exact (OnlySender.startSend _ _ _ _).trans (ended _)
  | released _ _ _ transferred =>
    exact (((OnlySender.startSend _ _ _ _).trans (.withSender _ _)).trans transferred.only).trans
      (ended _)
  | kept _ _ _ transferred =>
    exact ((OnlySender.startSend _ _ _ _).trans (.withSender _ _)).trans transferred.only

end Frames

end ZephyrCcsds.Cfdp
