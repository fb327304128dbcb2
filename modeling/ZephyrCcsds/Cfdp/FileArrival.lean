import ZephyrCcsds.Cfdp.FileTransfer

/-! # A file that arrives

The PDUs of one `send_file`, given in order to another entity.  Between two of them the receiver is
`ReceivingFile`: its temporary file holds the octets before an offset, and its ranges are the one range up to
there.

The file arrives unless it is empty: `ccsds_cfdp_ranges_is_complete` refuses the range [0, 0).
-/

namespace ZephyrCcsds.Cfdp

open Callback Bytes

/-! ## What success looks like -/

/-- A send that the transport accepts -/
def accepted : Obs → Bool
  | ⟨.sendPdu _ _, rc⟩ => rc == 0
  | _ => true

section Success

variable [Kconfig]

/-- A callback that reports no failure: a Finished PDU says NO_ERROR and DATA_COMPLETE, an event is not FAILED. -/
def reportsSuccess : Obs → Bool
  | ⟨.sendPdu _ pdu, _⟩ =>
    match reportOf pdu with
    | none => true
    | some report => report.conditionCode == conditionNoError && report.deliveryCode == .dataComplete
  | ⟨.event _ type _ _, _⟩ => type != .failed
  | _ => true

variable {entity : Entity} {t : Trace} {status : Status}

omit [Kconfig] in
theorem Sent.accepted {dest : Nat} {pdu : Bytes} (sent : Sent dest (.ok pdu) t status) :
    status = .ok ↔ ∀ obs ∈ t, accepted obs = true := by
  cases sent with
  | refused encoded => cases encoded
  | sent rc encoded =>
    simp only [List.mem_singleton, forall_eq, Cfdp.accepted, beq_iff_eq]
    by_cases zero : rc = 0
    · simp [zero]
    · simp [zero]

theorem Sent.reportsSuccess {dest : Nat} {pdu : Bytes} (sent : Sent dest (.ok pdu) t status)
    (silent : ∀ report, reportOf pdu = some report →
      report.conditionCode = conditionNoError ∧ report.deliveryCode = .dataComplete) :
    ∀ obs ∈ t, reportsSuccess obs = true := by
  cases sent with
  | refused encoded => cases encoded
  | sent rc encoded =>
    cases encoded
    simp only [List.mem_singleton, forall_eq, Cfdp.reportsSuccess]
    cases report : reportOf pdu with
    | none => rfl
    | some report' => simp [silent report' report]

/-- A callback that is neither a send nor an event -/
def Obs.Quiet (obs : Obs) : Prop := accepted obs = true ∧ reportsSuccess obs = true

theorem Clock.quiet {now : Nat} (clock : Clock entity t now) : ∀ obs ∈ t, obs.Quiet := by
  cases clock with
  | asked =>
    simp only [List.mem_singleton, forall_eq]
    exact ⟨rfl, rfl⟩
  | none =>
    intro obs mem
    cases mem

theorem terminalEvent_quiet (entity : Entity) (role : Role) (id : TransactionId) :
    ∀ obs ∈ terminalEvent entity role id .ok, obs.Quiet := by
  unfold terminalEvent
  split
  · simp only [List.mem_singleton, forall_eq]
    exact ⟨rfl, rfl⟩
  · intro obs mem
    cases mem

end Success

/-! ## The filestore during a call -/

section Storing

variable {store store' : Filestore} {t : Trace}

theorem Sent.backs_store {dest : Nat} {encoded : Except Status Bytes} {status : Status}
    (sent : Sent dest encoded t status) : store.backs t = some store := by
  cases sent <;> rfl

theorem Clock.backs_store {entity : Entity} {now : Nat} (clock : Clock entity t now) :
    store.backs t = some store := by
  cases clock <;> rfl

theorem Filestore.backs_append {u : Trace} (backs : store.backs (t ++ u) = some store') :
    ∃ store₁, store.backs t = some store₁ ∧ store₁.backs u = some store' := by
  rw [Filestore.backs, Monitor.run_append, Option.bind_eq_some_iff] at backs
  exact backs

theorem Filestore.backs_of_parts {u : Trace} {store₁ : Filestore} (first : store.backs t = some store₁)
    (rest : store₁.backs u = some store') : store.backs (t ++ u) = some store' := by
  rw [Filestore.backs, Monitor.run_append, Option.bind_eq_some_iff]
  exact ⟨store₁, first, rest⟩

/-- The temporary file of a store is open under a handle. -/
structure Filestore.Holds (store : Filestore) (path : Bytes) (handle : Handle) (octets : Bytes) : Prop where
  tmp : store.tmp = some { path, handle, octets }
  committed : store.committed = []

variable {path octets : Bytes} {handle : Handle}

theorem Filestore.Holds.closed {fs : FilestoreOps} {isOpen : Bool} {rc : Int} (holds : store.Holds path handle octets)
    (closed : CalledIf isOpen (.close fs handle) 0 t rc) (backs : store.backs t = some store') :
    rc = 0 ∧ store' = store := by
  rcases closed.elim with ⟨_, rfl⟩ | ⟨_, rfl, rfl⟩
  · rw [Filestore.backs, Monitor.run_singleton, Filestore.back, holds.tmp] at backs
    simp only [ne_eq, not_true_eq_false, false_or, Option.ite_none_right_eq_some, Option.some.injEq] at backs
    exact ⟨backs.1, backs.2.symm⟩
  · exact ⟨rfl, (Option.some.inj backs).symm⟩

variable [Kconfig] [ZephyrCrc]

/-- What is read of a file in any parts sums up to the checksum of the file. -/
theorem ReadLoop.summed [ZephyrCrc.Streams] {fs : FilestoreOps} {type : ChecksumType} {offset : Nat}
    {state : ChecksumState} {buf buf' : Bytes} {result : Except Status ChecksumState}
    (loop : ReadLoop fs handle octets.length state offset buf t result buf')
    (supported : type.isSupported = true) (small : octets.length ≤ uint32Max)
    (start : state = summedState type (octets.take offset)) (inside : offset ≤ octets.length)
    (reads : ∀ obs ∈ t, holdsFile octets obs = true) : result = .ok (summedState type octets) := by
  generalize size : octets.length = fileSize at loop
  induction loop with
  | @done state offset buf past =>
    have whole : offset = octets.length := by omega
    rw [start, whole, List.take_length]
  | unread more bad =>
    subst size
    have first := reads _ List.mem_cons_self
    exact (bad (ReadReply.reads_spec first).1).elim
  | @unsummed state offset buf reply status more good failed =>
    subst size
    have first : reply.reads octets offset (segmentLen octets.length offset) = true := reads _ List.mem_cons_self
    obtain ⟨octets_eq, fits⟩ := segmentOctets_of_reads buf first
    rw [← segmentOctets, octets_eq, start, checksumUpdate_slice supported small good.pos fits] at failed
    cases failed
  | @turn state state' offset buf buf' reply u result more good updated rest ih =>
    subst size
    have first : reply.reads octets offset (segmentLen octets.length offset) = true := reads _ List.mem_cons_self
    obtain ⟨octets_eq, fits⟩ := segmentOctets_of_reads buf first
    rw [← segmentOctets, octets_eq, start, checksumUpdate_slice supported small good.pos fits] at updated
    exact ih (Except.ok.inj updated).symm fits fun obs mem => reads obs (List.mem_cons_of_mem _ mem)

omit [ZephyrCrc] in
/-- A filestore answers the reads of its temporary file faithfully and is left as it is. -/
theorem ReadLoop.held [ZephyrCrc] {fs : FilestoreOps} {offset : Nat} {state : ChecksumState} {buf buf' : Bytes}
    {result : Except Status ChecksumState}
    (loop : ReadLoop fs handle octets.length state offset buf t result buf') (holds : store.Holds path handle octets)
    (backs : store.backs t = some store') :
    store' = store ∧ ∀ obs ∈ t, obs.Quiet ∧ holdsFile octets obs = true := by
  have answered : ∀ {offset : Nat} {reply : ReadReply} {u : Trace}, offset < octets.length →
      store.backs (⟨.read fs handle offset (segmentLen octets.length offset), reply⟩ :: u) = some store' →
      (Obs.Quiet ⟨.read fs handle offset (segmentLen octets.length offset), reply⟩ ∧
        reply.reads octets offset (segmentLen octets.length offset) = true) ∧ store.backs u = some store' := by
    intro offset reply u more backs
    rw [Filestore.backs, Monitor.run_cons, Option.bind_eq_some_iff] at backs
    obtain ⟨store₁, first, rest⟩ := backs
    rw [Filestore.back, holds.tmp] at first
    simp only [ne_eq, not_true_eq_false, false_or, not_le.mpr more, if_false, Option.ite_none_right_eq_some,
      Option.some.injEq] at first
    obtain ⟨reads, rfl⟩ := first
    exact ⟨⟨⟨rfl, rfl⟩, reads⟩, rest⟩
  generalize size : octets.length = fileSize at loop
  induction loop with
  | done =>
    refine ⟨(Option.some.inj backs).symm, ?_⟩
    intro obs mem
    cases mem
  | unread more | unsummed more =>
    subst size
    obtain ⟨first, rest⟩ := answered more backs
    refine ⟨(Option.some.inj rest).symm, ?_⟩
    intro obs mem
    obtain rfl := List.mem_singleton.mp mem
    exact first
  | turn more _ _ _ ih =>
    subst size
    obtain ⟨first, rest⟩ := answered more backs
    obtain ⟨same, quiet⟩ := ih rest
    refine ⟨same, ?_⟩
    intro obs mem
    rcases List.mem_cons.mp mem with rfl | mem
    · exact first
    · exact quiet obs mem

/-- A file that is read back as it was sent passes its verification. -/
theorem Verified.passes [ZephyrCrc.Streams] {fs : FilestoreOps} {slot : TransactionSlot} {buf buf' : Bytes}
    {status : Status}
    (verified : Verified fs slot buf (fileChecksum slot.checksumType octets) t status buf')
    (holds : store.Holds path slot.fileHandle octets) (supported : slot.checksumType.isSupported = true)
    (small : octets.length ≤ uint32Max) (size : slot.fileSize = octets.length)
    (backs : store.backs t = some store') : status = .ok ∧ store' = store ∧ ∀ obs ∈ t, obs.Quiet := by
  have started := checksumInit_summed supported
  have read : ∀ {init result}, checksumInit slot.checksumType = .ok init →
      ReadLoop fs slot.fileHandle slot.fileSize init 0 buf t result buf' →
      result = .ok (summedState slot.checksumType octets) ∧ store' = store ∧ ∀ obs ∈ t, obs.Quiet := by
    intro init result init_eq loop
    rw [started, Except.ok.injEq] at init_eq
    rw [size] at loop
    obtain ⟨same, held⟩ := loop.held holds backs
    have summed := loop.summed supported small init_eq.symm (Nat.zero_le _) fun obs mem => (held obs mem).2
    exact ⟨summed, same, fun obs mem => (held obs mem).1⟩
  cases verified with
  | unsupported failed =>
    rw [started] at failed
    cases failed
  | unread init loop =>
    obtain ⟨no, _⟩ := read init loop
    cases no
  | unfinished init loop failed =>
    obtain ⟨summed, _⟩ := read init loop
    rw [Except.ok.inj summed, checksumFinish_summed supported] at failed
    cases failed
  | mismatched init loop finished other =>
    obtain ⟨summed, _⟩ := read init loop
    rw [Except.ok.inj summed, checksumFinish_summed supported, Except.ok.injEq] at finished
    exact (other finished.symm).elim
  | intact init loop =>
    obtain ⟨_, rest⟩ := read init loop
    exact ⟨rfl, rest⟩

omit [Kconfig] [ZephyrCrc] in
/-- A verified file is committed. -/
theorem Stored.commits [Kconfig] {fs : FilestoreOps} {slot : TransactionSlot} {stored : Status}
    (store_ : Stored fs slot .ok t stored) (holds : store.Holds path slot.fileHandle octets)
    (name : cString slot.destinationPath = path) (backs : store.backs t = some store') :
    stored = .ok ∧ store'.committed = [(path, octets)] ∧ ∀ obs ∈ t, obs.Quiet := by
  have closing : ∀ {u c}, CalledIf slot.fileHandleOpen (.close fs slot.fileHandle) 0 u c →
      ∀ obs ∈ u, obs.Quiet := by
    intro u c closed
    rcases closed.elim with ⟨_, rfl⟩ | ⟨_, rfl, _⟩
    · simp only [List.mem_singleton, forall_eq]
      exact ⟨rfl, rfl⟩
    · intro obs mem
      cases mem
  cases store_ with
  | @committed u c _ closed shut =>
    obtain ⟨store₁, first, rest⟩ := Filestore.backs_append backs
    obtain ⟨_, rfl⟩ := holds.closed closed first
    rw [Filestore.backs, Monitor.run_singleton, Filestore.back, holds.tmp, name] at rest
    simp only [ne_eq, not_true_eq_false, if_false, if_true, Option.some.injEq] at rest
    refine ⟨rfl, ?_, ?_⟩
    · rw [← rest, holds.committed]
    · intro obs mem
      rcases List.mem_append.mp mem with mem | mem
      · exact closing closed obs mem
      · rw [List.mem_singleton.mp mem]
        exact ⟨rfl, rfl⟩
  | @uncommitted u c rc _ closed shut failed =>
    obtain ⟨store₁, first, rest⟩ := Filestore.backs_append backs
    obtain ⟨_, rfl⟩ := holds.closed closed first
    rw [Filestore.backs, Monitor.run_singleton, Filestore.back, holds.tmp, name] at rest
    simp only [ne_eq, not_true_eq_false, if_false, if_neg failed, reduceCtorEq] at rest
  | unclosed _ _ closed failed =>
    obtain ⟨store₁, first, _⟩ := Filestore.backs_append backs
    exact (failed (holds.closed closed first).1).elim
  | discarded _ no => exact (no rfl).elim

end Storing

/-! ## The answers of the receiver -/

section Answers

variable [Kconfig]

/-- A header with the lengths and addresses of one that was encoded can be encoded. -/
theorem encodeHeader_alike {header header' : PduHeader} {cap : Nat} {front : Bytes}
    (encoded : encodeHeader header cap = .ok front) (version : header'.version = cfdpVersion1)
    (small : header'.fileSizeMode = .small) (entityIdLen : header'.entityIdLen = header.entityIdLen)
    (sequenceLen : header'.transactionSequenceNumberLen = header.transactionSequenceNumberLen)
    (source : header'.sourceEntityId = header.sourceEntityId)
    (sequence : header'.transactionSequenceNumber = header.transactionSequenceNumber)
    (destination : header'.destinationEntityId = header.destinationEntityId) :
    ∃ front', encodeHeader header' cap = .ok front' ∧ front'.length = front.length := by
  obtain ⟨_, _, lengths, fits₁, fits₂, fits₃, room, _⟩ := encodeHeader_ok encoded
  have lengths' : headerLengthsAreValid header' = true := by
    rw [headerLengthsAreValid, entityIdLen, sequenceLen]
    exact lengths
  have room' : headerEncodedLen header' ≤ cap := by
    rw [headerEncodedLen, if_pos lengths] at room
    rw [headerEncodedLen, if_pos lengths', entityIdLen, sequenceLen]
    exact room
  have encoded' : ∃ front', encodeHeader header' cap = .ok front' := by
    rw [encodeHeader, if_neg (not_not.mpr version), if_neg (not_not.mpr small), lengths', entityIdLen, sequenceLen,
      source, sequence, destination, fits₁, fits₂, fits₃]
    simp only [Bool.not_true, Bool.or_self, Bool.false_eq_true, if_false, if_neg (not_lt.mpr room')]
    exact ⟨_, rfl⟩
  obtain ⟨front', encoded'⟩ := encoded'
  refine ⟨front', encoded', ?_⟩
  rw [encodeHeader_length encoded, encodeHeader_length encoded', entityIdLen, sequenceLen]

/-- What the header of an encoded EOF PDU says about the room behind it -/
theorem encodeEof_front {eof : EofPdu} {cap : Nat} {pdu : Bytes} (encoded : encodeEof eof cap = .ok pdu) :
    ∃ front, encodeHeader { eof.header with pduDataFieldLen := eofDataLen } cap = .ok front ∧
      eofDataLen ≤ cap - front.length := by
  unfold encodeEof at encoded
  split_ifs at encoded
  split at encoded
  · cases encoded
  · next front headed =>
    split_ifs at encoded with room
    exact ⟨front, headed, not_lt.mp room⟩

/-- The header of an answer has the lengths and addresses of the PDU that it answers. -/
structure Answers (entity : Entity) (header : PduHeader) : Prop where
  id : entity.receiver.id = transactionIdFromHeader header
  supported : incomingHeaderIsSupported entity header = true

variable {entity : Entity} {header : PduHeader}

theorem Answers.front (answers : Answers entity header) {len cap : Nat} {front : Bytes} (len' : Nat)
    (encoded : encodeHeader { header with pduDataFieldLen := len } cap = .ok front) :
    ∃ front', encodeHeader { receiverResponseHeader entity with pduDataFieldLen := len' } cap = .ok front' ∧
      front'.length = front.length := by
  have supported := answers.supported
  simp only [incomingHeaderIsSupported, Bool.and_eq_true, beq_iff_eq] at supported
  obtain ⟨⟨⟨⟨⟨destination, _⟩, entityIdLen⟩, sequenceLen⟩, _⟩, _⟩ := supported
  apply encodeHeader_alike encoded rfl rfl
  · exact entityIdLen.symm
  · exact sequenceLen.symm
  · exact congrArg TransactionId.sourceEntityId answers.id
  · exact congrArg TransactionId.transactionSequenceNumber answers.id
  · exact destination.symm

/-- Where an EOF PDU has fitted, there is room for an answer that is no longer. -/
theorem Answers.room (answers : Answers entity header) {eof : EofPdu} {pdu : Bytes}
    (encoded : encodeEof eof maxPduSize = .ok pdu) (same : eof.header = header) {len : Nat} (short : len ≤ eofDataLen) :
    ∃ front, encodeHeader { receiverResponseHeader entity with pduDataFieldLen := len } maxPduSize = .ok front ∧
      ¬ maxPduSize - front.length < len := by
  obtain ⟨front, headed, room⟩ := encodeEof_front encoded
  rw [same] at headed
  obtain ⟨front', headed', length⟩ := answers.front len headed
  refine ⟨front', headed', ?_⟩
  rw [length]
  omega

/-- There is room for the ACK of an EOF PDU that fitted. -/
theorem Answers.ackEof (answers : Answers entity header) {eof : EofPdu} {pdu : Bytes}
    (encoded : encodeEof eof maxPduSize = .ok pdu) (same : eof.header = header) :
    ∃ ack, encodeAck (ackEofPdu entity conditionNoError) maxPduSize = .ok ack := by
  obtain ⟨front', headed', room'⟩ := answers.room encoded same (by decide : ackDataLen ≤ eofDataLen)
  have response : { (ackEofPdu entity conditionNoError).header with pduDataFieldLen := ackDataLen } =
      { receiverResponseHeader entity with pduDataFieldLen := ackDataLen } := rfl
  rw [encodeAck, response, headed']
  simp [ackEofPdu, receiverResponseHeader, room', ackDirectiveIsSupported, ackSubtypeIsValid, conditionCodeIsValid,
    conditionNoError, ackDirectiveSubtypeOther, directiveEof, directiveFinished]

/-- There is room for the Finished PDU. -/
theorem Answers.finished (answers : Answers entity header) {eof : EofPdu} {pdu : Bytes}
    (encoded : encodeEof eof maxPduSize = .ok pdu) (same : eof.header = header) :
    ∃ finished, encodeFinished (finishedPdu entity .ok) maxPduSize = .ok finished := by
  obtain ⟨front', headed', room'⟩ := answers.room encoded same (by decide : finishedDataLen ≤ eofDataLen)
  have response : { (finishedPdu entity .ok).header with pduDataFieldLen := finishedDataLen } =
      { receiverResponseHeader entity with pduDataFieldLen := finishedDataLen } := rfl
  rw [encodeFinished, response, headed']
  simp [finishedPdu, receiverResponseHeader, room', conditionCodeIsValid, finishedConditionFromStatus,
    conditionNoError]

end Answers

/-! ## ReceivingFile the file -/

section Steps

variable [Kconfig] [ZephyrCrc]

/-- The ranges of a file received up to an offset -/
def rangesUpTo (offset : Nat) : Ranges := if offset = 0 then [] else [{ start := 0, stop := offset }]

omit [ZephyrCrc] in
theorem rangesAdd_upTo (offset : Nat) {len : Nat} (pos : 0 < len) :
    rangesAdd (rangesUpTo offset) offset (offset + len) = .ok (rangesUpTo (offset + len)) := by
  have one : 1 ≤ maxNakRanges := Kconfig.maxNakRanges_range.1
  have inserted : Spans.insert (rangesUpTo offset) offset (offset + len) = rangesUpTo (offset + len) := by
    have next : offset + len ≠ 0 := by omega
    by_cases zero : offset = 0
    · subst zero
      rw [Nat.zero_add] at next
      simp [rangesUpTo, next, Spans.insert, Spans.before, Spans.reaching, Spans.absorb]
    · simp [rangesUpTo, zero, Spans.insert, Spans.before, Spans.reaching, Spans.absorb]
  have short : ∀ offset, (rangesUpTo offset).length ≤ maxNakRanges := by
    intro offset
    refine le_trans ?_ one
    unfold rangesUpTo
    split <;> simp
  rw [← inserted]
  apply rangesAdd_of_insert (by omega) (short _)
  rw [inserted]
  exact short _

omit [ZephyrCrc] in
theorem rangesIsComplete_upTo (size : Nat) :
    rangesIsComplete (rangesUpTo size) 0 size = if size = 0 then .error .invalidArgument else .ok true := by
  have one : 1 ≤ maxNakRanges := Kconfig.maxNakRanges_range.1
  by_cases zero : size = 0
  · simp [rangesIsComplete, rangeIsValid, zero]
  · have pos : 0 < size := Nat.pos_of_ne_zero zero
    simp [rangesIsComplete, rangeIsValid, rangesUpTo, zero, rangesScan, pos, Nat.not_lt.mpr one]

/-- A receiver that holds the first octets of a file, and its filestore -/
structure ReceivingFile (entity : Entity) (store : Filestore) (header : PduHeader) (type : ChecksumType)
    (path file : Bytes) (offset : Nat) : Prop extends Answers entity header where
  bounded : entity.Bounded
  active : entity.receiver.active = true
  metadataReceived : entity.receiver.metadataReceived = true
  waiting : entity.receiver.waitingForFinishedAck = false
  eofReceived : entity.receiver.eofReceived = false
  mode : entity.receiver.transmissionMode = header.transmissionMode
  closes : Closes entity.receiver
  size : entity.receiver.fileSize = file.length
  checksumType : entity.receiver.checksumType = type
  summing : entity.receiver.checksumState.type = type
  ranges : entity.receiver.receivedRanges = rangesUpTo offset
  name : cString entity.receiver.destinationPath = path
  holds : store.Holds path entity.receiver.fileHandle (file.take offset)

variable {fs : FilestoreOps} {pdu : Bytes} {entity entity' : Entity} {store store' : Filestore} {header : PduHeader}
  {type : ChecksumType} {path file : Bytes} {offset : Nat} {t : Trace} {status : Status}

omit [Kconfig] [ZephyrCrc] in
theorem incomingHeaderIsSupported_towardReceiver (supported : incomingHeaderIsSupported entity header = true) :
    header.direction ≠ .towardSender := by
  rw [incomingHeaderIsSupported_direction supported]
  decide

omit [Kconfig] [ZephyrCrc] in
theorem receiverMatchActive_of (active : entity.receiver.active = true)
    (metadata : entity.receiver.metadataReceived = true)
    (id : entity.receiver.id = transactionIdFromHeader header) : receiverMatchActive entity header = .ok := by
  simp [receiverMatchActive, active, metadata, id]

/-- A directive PDU for the receiver goes to the handler of its directive. -/
theorem receivePdu_directive {headerLen : Nat} (valid : receiveFilestoreIsValid fs = true)
    (decoded : decodeHeader pdu = .ok (header, headerLen)) (kind : header.pduType = .fileDirective)
    (supported : incomingHeaderIsSupported entity header = true) (dataLen : header.pduDataFieldLen ≠ 0)
    (longer : headerLen < pdu.length) {Q : Trace → Status → Entity → Prop}
    (post : (receiverHandleDirective fs (byteAt pdu headerLen) pdu >>= fun status =>
      failReceiverOnError header status).wp once Q entity) :
    (receivePdu (some fs) pdu).wp once Q entity := by
  unfold receivePdu
  rw [decoded]
  have notData : header.pduType ≠ .fileData := by
    rw [kind]
    decide
  simp only [if_neg (incomingHeaderIsSupported_towardReceiver supported), Prog.wp_bind, Prog.wp_read, supported,
    Bool.not_true, Bool.false_eq_true, if_false, valid, receivePduTowardReceiver, if_neg notData, dataLen,
    not_le.mpr longer, or_self, List.nil_append]
  rw [Prog.wp_bind] at post
  exact post

/-- A File Data PDU for the receiver goes to `receiver_handle_filedata`. -/
theorem receivePdu_filedata {headerLen : Nat} (valid : receiveFilestoreIsValid fs = true)
    (decoded : decodeHeader pdu = .ok (header, headerLen)) (kind : header.pduType = .fileData)
    (supported : incomingHeaderIsSupported entity header = true) {Q : Trace → Status → Entity → Prop}
    (post : (receiverHandleFiledata fs pdu >>= fun status => failReceiverOnError header status).wp once Q entity) :
    (receivePdu (some fs) pdu).wp once Q entity := by
  unfold receivePdu
  rw [decoded]
  simp only [if_neg (incomingHeaderIsSupported_towardReceiver supported), Prog.wp_bind, Prog.wp_read, supported,
    Bool.not_true, Bool.false_eq_true, if_false, valid, receivePduTowardReceiver, if_pos kind, List.nil_append]
  rw [Prog.wp_bind] at post
  exact post

/-- What follows a call whose callbacks the filestore answers faithfully -/
def Answered (store : Filestore) (post : Trace → Status → Entity → Filestore → Prop) (t : Trace) (status : Status)
    (entity : Entity) : Prop :=
  ∀ store', store.backs t = some store' → post t status entity store'

omit [Kconfig] [ZephyrCrc] in
/-- A handler that succeeds ends the call. -/
theorem settles_ok {handler : EntityM Status} {post : Trace → Entity → Filestore → Prop}
    (handled : handler.wp once
      (Answered store fun t status entity' store' => status = .ok ∧ post t entity' store') entity) :
    (handler >>= fun status => failReceiverOnError header status).wp once
      (Answered store fun t status entity' store' => status = .ok ∧ post t entity' store') entity := by
  rw [Prog.wp_bind]
  refine Prog.wp_mono handled ?_
  intro t status entity₁ answered
  refine Prog.wp_mono (failReceiverOnError_outcome header status entity₁) ?_
  rintro u result entity₂ ⟨rfl, ⟨_, rfl, rfl⟩ | ⟨failing, _⟩⟩ store' backs
  · rw [List.append_nil] at backs ⊢
    exact answered store' backs
  · obtain ⟨store₁, first, _⟩ := Filestore.backs_append backs
    exact (failing (answered store₁ first).1).elim

/-- The Metadata PDU opens the temporary file. -/
theorem receivePdu_metadata {metadata : MetadataPdu} (valid : receiveFilestoreIsValid fs = true)
    (decoded : decodeMetadata pdu = .ok (metadata, pdu.length))
    (supported : incomingHeaderIsSupported entity metadata.header = true) (bounded : entity.Bounded)
    (sound : ReceiverSound entity.receiver) (idle : entity.receiver.active = false)
    (checksum : metadata.checksumType.isSupported = true) :
    (receivePdu (some fs) pdu).wp once
      (Answered .empty fun t status entity' store' => status = .ok ∧ (∀ obs ∈ t, obs.Quiet) ∧
        ∀ file : Bytes, metadata.fileSize = file.length →
          ReceivingFile entity' store' metadata.header metadata.checksumType (cString metadata.destinationFilename) file
            0) entity := by
  obtain ⟨headerLen, header, dataLen, longer⟩ := decodeMetadata_fits decoded
  obtain ⟨headerLen', header', kind, directive⟩ := decodeMetadata_header decoded
  rw [header] at header'
  cases header'
  apply receivePdu_directive valid header kind supported dataLen longer
  apply settles_ok
  rw [directive, receiverHandleDirective, if_pos rfl]
  refine Prog.wp_mono (receiverHandleMetadata_outcome fs pdu entity) ?_
  intro t status entity' handled store' backs
  have bounded' := handled.bounded bounded
  cases handled with
  | skipped no =>
    rcases no metadata ⟨decoded, supported⟩ with active | ⟨failed, unsupported⟩
    · rw [idle] at active
      cases active
    · rw [checksumInit_of_supported checksum] at unsupported
      cases unsupported
  | @opened metadata' init reply accepts _ started rc =>
    have same := accepts.decoded
    rw [decoded] at same
    cases same
    rw [Filestore.backs, Monitor.run_singleton, Filestore.back, if_pos rc, Option.some.injEq] at backs
    refine ⟨rfl, ?_, ?_⟩
    · simp only [List.mem_singleton, forall_eq]
      exact ⟨rfl, rfl⟩
    · intro file size
      have fresh := sound.rest idle
      have sound' : ReceiverSound (openedSlot entity.receiver fs metadata init reply.handle) := by
        have handled' : MetadataHandled fs pdu entity _ _ _ := .opened accepts idle started rc
        exact handled'.sound sound
      exact
        { id := rfl
          supported := supported
          bounded := bounded'
          active := rfl
          metadataReceived := rfl
          waiting := by
            show entity.receiver.waitingForFinishedAck = false
            rw [fresh]
            rfl
          eofReceived := by
            show entity.receiver.eofReceived = false
            rw [fresh]
            rfl
          mode := rfl
          closes := sound'.closes rfl
          size := size
          checksumType := rfl
          summing := by
            show init.type = metadata.checksumType
            rw [(checksumInit_ok started).2]
          ranges := rfl
          name := rfl
          holds := ⟨by rw [← backs]; rfl, by rw [← backs]; rfl⟩ }
  | refused accepts _ failed =>
    rw [Filestore.backs, Monitor.run_cons, Filestore.back, if_neg failed] at backs
    cases backs

/-- A File Data PDU at the end of what is there is written behind it. -/
theorem receivePdu_segment {len : Nat} {filedata : FiledataPdu} (valid : receiveFilestoreIsValid fs = true)
    (receiving : ReceivingFile entity store header type path file offset)
    (decoded : decodeFiledata pdu = .ok (filedata, pdu.length))
    (filedata_eq : filedata.offset = offset ∧ filedata.data = slice file offset len)
    (alike : transactionIdFromHeader filedata.header = transactionIdFromHeader header ∧
      incomingHeaderIsSupported entity filedata.header = incomingHeaderIsSupported entity header)
    (pos : 0 < len) (fits : offset + len ≤ file.length) (small : file.length ≤ uint32Max)
    (supported : type.isSupported = true) :
    (receivePdu (some fs) pdu).wp once
      (Answered store fun t status entity' store' => status = .ok ∧ (∀ obs ∈ t, obs.Quiet) ∧
        ReceivingFile entity' store' header type path file (offset + len)) entity := by
  obtain ⟨rfl, data⟩ := filedata_eq
  have sliced : filedata.data.length = len := by
    rw [data]
    exact slice_length_of_le fits
  obtain ⟨headerLen, decoded', kind⟩ := decodeFiledata_header decoded
  have heard : incomingHeaderIsSupported entity filedata.header = true := alike.2.trans receiving.supported
  have accepts : AcceptsFiledata entity pdu filedata :=
    { decoded
      supported := heard
      matched := receiverMatchActive_of receiving.active receiving.metadataReceived
        (receiving.id.trans alike.1.symm)
      bounded := by omega
      inside := by
        rw [receiving.size]
        omega }
  apply receivePdu_filedata valid decoded' kind heard
  apply settles_ok
  refine Prog.wp_mono (receiverHandleFiledata_outcome fs pdu entity) ?_
  intro t status entity' handled store' backs
  have bounded' := handled.bounded receiving.bounded
  have agrees : ∀ {other}, AcceptsFiledata entity pdu other → filedata = other := by
    intro other accepts'
    have same := accepts'.decoded
    rw [decoded] at same
    cases same
    rfl
  have added := rangesAdd_upTo filedata.offset pos
  rw [← receiving.ranges, ← sliced] at added
  -- the write goes to the temporary file
  have written : ∀ {rc : Int} {u : Trace},
      store.backs (⟨.write fs entity.receiver.fileHandle filedata.offset filedata.data, rc⟩ :: u) = some store' →
      rc = 0 ∧ (u = [] → store'.Holds path entity.receiver.fileHandle (file.take (filedata.offset + len))) := by
    intro rc u backs
    rw [Filestore.backs, Monitor.run_cons, Option.bind_eq_some_iff] at backs
    obtain ⟨store₁, first, rest⟩ := backs
    rw [Filestore.back, receiving.holds.tmp] at first
    simp only [ne_eq, not_true_eq_false, if_false, Option.ite_none_right_eq_some, Option.some.injEq] at first
    obtain ⟨rc, rfl⟩ := first
    refine ⟨rc, ?_⟩
    rintro rfl
    have octets : overwrite (file.take filedata.offset ++ List.replicate
        (filedata.offset - (file.take filedata.offset).length) 0) filedata.offset filedata.data =
        file.take (filedata.offset + len) := by
      have front : (file.take filedata.offset).length = filedata.offset := by
        rw [List.length_take]
        omega
      rw [front, Nat.sub_self, List.replicate_zero, List.append_nil, overwrite, List.take_of_length_le front.le,
        List.drop_of_length_le (by omega), List.append_nil, data, take_slice]
    rw [← Option.some.inj rest, TmpFile.write, octets]
    exact ⟨rfl, receiving.holds.committed⟩
  cases handled with
  | skipped no => exact (no filedata accepts).elim
  | unwritten accepts' failed =>
    obtain rfl := agrees accepts'
    exact (failed (written backs).1).elim
  | unranged accepts' failed =>
    obtain rfl := agrees accepts'
    rw [added] at failed
    cases failed
  | unsummed accepts' _ failed =>
    obtain rfl := agrees accepts'
    have room : filedata.offset + filedata.data.length ≤ 2 ^ 32 := by
      unfold uint32Max at small
      omega
    obtain ⟨state, updated⟩ := checksumUpdate_succeeds (receiving.summing ▸ supported) room
    rw [updated] at failed
    cases failed
  | written accepts' ranges updated =>
    obtain rfl := agrees accepts'
    rw [added, Except.ok.injEq] at ranges
    refine ⟨rfl, ?_, ?_⟩
    · simp only [List.mem_singleton, forall_eq]
      exact ⟨rfl, rfl⟩
    · exact
        { id := receiving.id
          supported := receiving.supported
          bounded := bounded'
          active := receiving.active
          metadataReceived := receiving.metadataReceived
          waiting := receiving.waiting
          eofReceived := receiving.eofReceived
          mode := receiving.mode
          closes := receiving.closes
          size := receiving.size
          checksumType := receiving.checksumType
          summing := (checksumUpdate_ok_type updated).trans receiving.summing
          ranges := by
            rw [← sliced]
            exact ranges.symm
          name := receiving.name
          holds := (written backs).2 rfl }
  | completed _ _ _ ended =>
    rw [receiving.eofReceived] at ended
    cases ended

omit [ZephyrCrc] in
/-- The Finished PDU of a committed file, and the end of the transaction -/
theorem Settled.succeeds {result : Status} (settled : Settled entity .ok t result entity')
    (bounded : entity.Bounded) {finished : Bytes}
    (encoded : encodeFinished (finishedPdu entity .ok) maxPduSize = .ok finished) :
    (result = .ok ↔ ∀ obs ∈ t, accepted obs = true) ∧ (result = .ok → ∀ obs ∈ t, reportsSuccess obs = true) := by
  have report : ∀ report, reportOf finished = some report →
      report.conditionCode = conditionNoError ∧ report.deliveryCode = .dataComplete := by
    intro report known
    rw [reportOf_finished bounded encoded, Option.some.injEq] at known
    subst known
    exact ⟨rfl, rfl⟩
  have quietly : ∀ {u : Trace}, (∀ obs ∈ u, obs.Quiet) → (∀ obs ∈ u, accepted obs = true) ∧
      ∀ obs ∈ u, reportsSuccess obs = true :=
    fun quiet => ⟨fun obs mem => (quiet obs mem).1, fun obs mem => (quiet obs mem).2⟩
  cases settled with
  | awaiting _ sent clock =>
    have alike : finishedPdu (entity.withReceiver (entity.receiver.withFinishedStatus .ok)) .ok =
        finishedPdu entity .ok := rfl
    rw [encoded] at sent
    obtain ⟨accepts, succeeds⟩ := quietly clock.quiet
    refine ⟨?_, ?_⟩
    · simp only [true_iff, List.mem_append]
      rintro obs (mem | mem)
      · exact sent.accepted.mp rfl obs mem
      · exact accepts obs mem
    · rintro _ obs mem
      rcases List.mem_append.mp mem with mem | mem
      · exact sent.reportsSuccess report obs mem
      · exact succeeds obs mem
  | unreported _ sent failed =>
    rw [encoded] at sent
    simp only [if_true]
    refine ⟨⟨fun ok => (failed ok).elim, ?_⟩, fun ok => (failed ok).elim⟩
    intro accepts
    exact sent.accepted.mpr fun obs mem => accepts obs (List.mem_append_left _ mem)
  | silent _ _ clock =>
    obtain ⟨accepts, succeeds⟩ := quietly clock.quiet
    exact ⟨⟨fun _ => accepts, fun _ => rfl⟩, fun _ => succeeds⟩
  | @released u sent _ closing silent =>
    simp only [if_true]
    have told : (sent = .ok ↔ ∀ obs ∈ u, accepted obs = true) ∧ ∀ obs ∈ u, reportsSuccess obs = true := by
      cases closure : entity.receiver.closureRequested with
      | true =>
        have sent' := closing closure
        rw [encoded] at sent'
        exact ⟨sent'.accepted, sent'.reportsSuccess report⟩
      | false =>
        obtain ⟨rfl, rfl⟩ := silent closure
        simp
    obtain ⟨accepts, succeeds⟩ := told
    refine ⟨⟨?_, fun all => accepts.mpr fun obs mem => all obs (List.mem_append_left _ mem)⟩, ?_⟩
    · rintro rfl obs mem
      rcases List.mem_append.mp mem with mem | mem
      · exact accepts.mp rfl obs mem
      · exact (terminalEvent_quiet _ _ _ obs mem).1
    · rintro rfl obs mem
      rcases List.mem_append.mp mem with mem | mem
      · exact succeeds obs mem
      · exact (terminalEvent_quiet _ _ _ obs mem).2

omit [ZephyrCrc] in
/-- Reporting the end of a transaction is no business of the filestore. -/
theorem Settled.backs_store {result : Status} (settled : Settled entity status t result entity') :
    store.backs t = some store := by
  have event : ∀ (entity : Entity) (role id status), store.backs (terminalEvent entity role id status) = some store := by
    intro entity role id status
    unfold terminalEvent
    split <;> rfl
  cases settled with
  | awaiting _ sent clock => exact Filestore.backs_of_parts sent.backs_store clock.backs_store
  | unreported _ sent => exact Filestore.backs_of_parts sent.backs_store (event _ _ _ _)
  | silent _ _ clock => exact clock.backs_store
  | released _ closing silent =>
    cases closure : entity.receiver.closureRequested with
    | true => exact Filestore.backs_of_parts (closing closure).backs_store (event _ _ _ _)
    | false =>
      obtain ⟨rfl, rfl⟩ := silent closure
      exact event _ _ _ _

omit [ZephyrCrc] in
/-- A `receiver_finish` with an error reports the error. -/
theorem Finished.fails {result : Status} (finished : Finished fs entity status t result entity')
    (error : status ≠ .ok) : result ≠ .ok := by
  obtain ⟨stored, settled⟩ := finished
  have failed : ∀ {u stored}, Stored fs entity.receiver status u stored → stored ≠ .ok := by
    intro u stored store
    cases store with
    | committed ok | uncommitted ok | unclosed _ ok => exact (error ok).elim
    | discarded => exact error
  have kept := failed stored
  cases settled with
  | awaiting | silent => exact kept
  | unreported | released =>
    rw [if_neg kept]
    exact kept

omit [ZephyrCrc] in
/-- The ACK of an EOF PDU -/
theorem ackEof_succeeds {ack : Bytes} {dest : Nat} (sent : Sent dest (.ok ack) t .ok) (bounded : entity.Bounded)
    (encoded : encodeAck (ackEofPdu entity conditionNoError) maxPduSize = .ok ack) :
    (∀ obs ∈ t, accepted obs = true) ∧ ∀ obs ∈ t, reportsSuccess obs = true := by
  refine ⟨sent.accepted.mp rfl, sent.reportsSuccess ?_⟩
  intro report known
  have decoded := decodeAck_encodeAck encoded bounded.receiverHeader
  rw [reportOf_directive (decodeAck_header decoded) (by decide)] at known
  cases known

/-- The end of the transaction with every octet of the file there -/
theorem EofCompleted.succeeds [ZephyrCrc.Streams] {eof : EofPdu} {finished : Bytes}
    (completed : EofCompleted fs eof entity t status entity') (size : eof.fileSize = file.length)
    (checksum : eof.fileChecksum = fileChecksum type file) (small : file.length ≤ uint32Max)
    (supported : type.isSupported = true) (receiving : ReceivingFile entity store header type path file file.length)
    (encoded : encodeFinished (finishedPdu entity .ok) maxPduSize = .ok finished)
    (backs : store.backs t = some store') :
    (status = .ok ↔ file ≠ [] ∧ ∀ obs ∈ t, accepted obs = true) ∧
      (status = .ok → store'.committed = [(path, file)] ∧ ∀ obs ∈ t, reportsSuccess obs = true) := by
  have complete : rangesIsComplete entity.receiver.receivedRanges 0 eof.fileSize =
      if file.length = 0 then .error .invalidArgument else .ok true := by
    rw [receiving.ranges, size]
    exact rangesIsComplete_upTo _
  have full : rangesIsComplete entity.receiver.receivedRanges 0 eof.fileSize ≠ .ok false := by
    rw [complete]
    split <;> simp
  have whole := receiving.holds
  rw [List.take_length] at whole
  cases completed with
  | unchecked failed ended =>
    rw [complete] at failed
    split_ifs at failed with zero
    · have error := ended.fails (by rw [← Except.error.inj failed]; decide)
      have empty : file = [] := List.length_eq_zero_iff.mp zero
      exact ⟨⟨fun ok => (error ok).elim, fun some => (some.1 empty).elim⟩, fun ok => (error ok).elim⟩
  | asked no | unasked no | short no => exact (full no).elim
  | @complete u v verdict result buf _ covered verified ended =>
    have some : file ≠ [] := by
      rintro rfl
      rw [complete] at covered
      cases covered
    obtain ⟨store₁, first, rest⟩ := Filestore.backs_append backs
    rw [checksum, ← receiving.checksumType] at verified
    obtain ⟨rfl, rfl, quiet⟩ := verified.passes whole (receiving.checksumType ▸ supported) small receiving.size first
    obtain ⟨stored, settled⟩ := ended
    obtain ⟨store₂, first, last⟩ := Filestore.backs_append rest
    obtain ⟨rfl, committed, quiet'⟩ := stored.commits whole receiving.name first
    have bounded : ((entity.withBuf buf).withReceiver (entity.withBuf buf).receiver.withoutHandle).Bounded :=
      (receiving.bounded.withBuf buf).withReceiver (receiving.bounded.receiver.congr rfl rfl)
    obtain ⟨accepts, succeeds⟩ := settled.succeeds bounded encoded
    rw [settled.backs_store, Option.some.injEq] at last
    subst last
    refine ⟨⟨fun ok => ⟨some, ?_⟩, fun right => ?_⟩, fun ok => ⟨committed, ?_⟩⟩
    · intro obs mem
      rcases List.mem_append.mp mem with mem | mem
      · exact (quiet obs mem).1
      · rcases List.mem_append.mp mem with mem | mem
        · exact (quiet' obs mem).1
        · exact accepts.mp ok obs mem
    · exact accepts.mpr fun obs mem => right.2 obs (List.mem_append_right _ (List.mem_append_right _ mem))
    · intro obs mem
      rcases List.mem_append.mp mem with mem | mem
      · exact (quiet obs mem).2
      · rcases List.mem_append.mp mem with mem | mem
        · exact (quiet' obs mem).2
        · exact succeeds ok obs mem

/-- The EOF PDU of a file of which every octet is there -/
theorem receivePdu_eof [ZephyrCrc.Streams] {eof : EofPdu} (valid : receiveFilestoreIsValid fs = true)
    (encoded : encodeEof eof maxPduSize = .ok pdu) (alike : eof.header = header)
    (code : eof.conditionCode = conditionNoError) (checksum : eof.fileChecksum = fileChecksum type file)
    (size : eof.fileSize = file.length) (headed : header.Bounded) (small : file.length ≤ uint32Max)
    (supported : type.isSupported = true) (receiving : ReceivingFile entity store header type path file file.length) :
    (receivePdu (some fs) pdu).wp once
      (Answered store fun t status _ store' =>
        (status = .ok ↔ file ≠ [] ∧ ∀ obs ∈ t, accepted obs = true) ∧
        (status = .ok → store'.committed = [(path, file)] ∧ ∀ obs ∈ t, reportsSuccess obs = true)) entity := by
  have decoded := decodeEof_encodeEof encoded (alike ▸ headed) (by rw [checksum]; exact fileChecksum_le _ _)
    (by rw [size]; exact small)
  obtain ⟨headerLen, header', dataLen, longer⟩ := decodeEof_fits decoded
  obtain ⟨headerLen', header'', kind, directive⟩ := decodeEof_header decoded
  rw [header'] at header''
  cases header''
  subst alike
  have heard : incomingHeaderIsSupported entity (eof.header.withDataLen eofDataLen) = true := receiving.supported
  obtain ⟨ack, ackEncoded⟩ := receiving.toAnswers.ackEof encoded rfl
  obtain ⟨finished, finishedEncoded⟩ := receiving.toAnswers.finished encoded rfl
  have accepts : AcceptsEof entity pdu { eof with header := eof.header.withDataLen eofDataLen } :=
    { decoded
      supported := heard
      matched := receiverMatchActive_of receiving.active receiving.metadataReceived receiving.id }
  apply receivePdu_directive valid header' kind heard (by rw [dataLen]; decide) longer
  rw [directive, receiverHandleDirective, if_neg (by decide), if_pos rfl, Prog.wp_bind]
  refine Prog.wp_mono (receiverHandleEof_outcome fs pdu entity) ?_
  intro t status entity₁ handled
  have agrees : ∀ {other}, AcceptsEof entity pdu other →
      { eof with header := eof.header.withDataLen eofDataLen } = other := by
    intro other accepts'
    have same := accepts'.decoded
    rw [decoded] at same
    cases same
    rfl
  -- the handler decides; what follows a failure of it changes no verdict
  have decided : ∀ store', store.backs t = some store' →
      (status = .ok ↔ file ≠ [] ∧ ∀ obs ∈ t, accepted obs = true) ∧
        (status = .ok → store'.committed = [(path, file)] ∧ ∀ obs ∈ t, reportsSuccess obs = true) := by
    intro store' backs
    cases handled with
    | skipped no => exact (no _ accepts).elim
    | repeated _ waiting =>
      rw [receiving.waiting] at waiting
      cases waiting
    | refused accepts' _ bad =>
      obtain rfl := agrees accepts'
      rcases bad with error | other
      · exact (error code).elim
      · exact (other (size.trans receiving.size.symm)).elim
    | unacknowledged accepts' _ _ _ _ sent failed =>
      obtain rfl := agrees accepts'
      dsimp only at sent
      rw [code, ackEncoded] at sent
      exact ⟨⟨fun ok => (failed ok).elim, fun right => sent.accepted.mpr right.2⟩, fun ok => (failed ok).elim⟩
    | @taken _ u v _ _ accepts' _ _ _ acknowledged unacknowledged completed =>
      obtain rfl := agrees accepts'
      dsimp only at acknowledged completed
      rw [code, ackEncoded] at acknowledged
      -- the slot differs in the checksum of the EOF PDU only
      have receiving' : ReceivingFile (entity.withReceiver (entity.receiver.withEofChecksum eof.fileChecksum)) store
          eof.header type path file file.length :=
        { receiving with
          bounded := receiving.bounded.withReceiver (receiving.bounded.receiver.congr rfl rfl) }
      have first : store.backs u = some store ∧ (∀ obs ∈ u, accepted obs = true) ∧
          ∀ obs ∈ u, reportsSuccess obs = true := by
        cases mode : entity.receiver.transmissionMode with
        | acknowledged =>
          have sent := acknowledged mode
          exact ⟨sent.backs_store, ackEof_succeeds sent receiving.bounded ackEncoded⟩
        | unacknowledged =>
          rw [unacknowledged mode]
          simp
      obtain ⟨kept, accepts₁, succeeds₁⟩ := first
      obtain ⟨store₁, first, rest⟩ := Filestore.backs_append backs
      rw [kept, Option.some.injEq] at first
      subst first
      obtain ⟨iff, success⟩ := completed.succeeds size checksum small supported receiving' finishedEncoded rest
      refine ⟨⟨fun ok => ⟨(iff.mp ok).1, ?_⟩, fun right => ?_⟩, fun ok => ⟨(success ok).1, ?_⟩⟩
      · intro obs mem
        rcases List.mem_append.mp mem with mem | mem
        · exact accepts₁ obs mem
        · exact (iff.mp ok).2 obs mem
      · exact iff.mpr ⟨right.1, fun obs mem => right.2 obs (List.mem_append_right _ mem)⟩
      · intro obs mem
        rcases List.mem_append.mp mem with mem | mem
        · exact succeeds₁ obs mem
        · exact (success ok).2 obs mem
  refine Prog.wp_mono (failReceiverOnError_outcome _ status entity₁) ?_
  rintro v result entity₂ ⟨rfl, ⟨_, rfl, rfl⟩ | ⟨failing, _⟩⟩ store' backs
  · rw [List.append_nil] at backs ⊢
    exact decided store' backs
  · obtain ⟨store₁, first, _⟩ := Filestore.backs_append backs
    refine ⟨⟨fun ok => (failing ok).elim, fun right => ?_⟩, fun ok => (failing ok).elim⟩
    exact (decided store₁ first).1.mpr ⟨right.1, fun obs mem => right.2 obs (List.mem_append_left _ mem)⟩

end Steps

/-! ## The whole file -/

/-- A call of `receive_pdu` with its callbacks and its result -/
structure Arrival where
  pdu : Bytes
  trace : Trace
  status : Status

section Arrivals

variable [Kconfig] [ZephyrCrc]

def Arrival.At (fs : FilestoreOps) (entity : Entity) (arrival : Arrival) (entity' : Entity) : Prop :=
  (receivePdu (some fs) arrival.pdu).Runs once entity arrival.trace arrival.status entity'

/-- Entities that are configured for each other -/
structure Peers (sender receiver : Entity) : Prop where
  destination : sender.remoteEntityId = receiver.localEntityId
  source : sender.localEntityId = receiver.remoteEntityId
  entityIdLen : sender.entityIdLen = receiver.entityIdLen
  sequenceLen : sender.transactionSequenceNumberLen = receiver.transactionSequenceNumberLen

/-- A `send_file` that gets as far as its EOF PDU, and the arrival of all its PDUs in order -/
structure Delivered (sender receiver : Entity) (request : PutRequest) (file : Bytes) (arrivals : List Arrival)
    (store : Filestore) : Prop where
  arrives : ∃ fs t result sender' rfs receiver', (sendFile fs request).Runs once sender t result sender' ∧
    (∀ obs ∈ t, holdsFile file obs = true) ∧ (∃ pdu ∈ sentPdus t, isEof pdu = true) ∧
    receiveFilestoreIsValid rfs = true ∧ arrivals.map Arrival.pdu = sentPdus t ∧
    Run (Arrival.At rfs) receiver arrivals receiver'
  backs : Filestore.empty.backs (arrivals.flatMap Arrival.trace) = some store

/-- The file is committed, every call returns OK and nothing reports a failure. -/
structure FileArrived (path file : Bytes) (arrivals : List Arrival) (store : Filestore) : Prop where
  committed : store.committed = [(path, file)]
  received : ∀ arrival ∈ arrivals, arrival.status = .ok
  reported : ∀ arrival ∈ arrivals, ∀ obs ∈ arrival.trace, reportsSuccess obs = true

variable {fs : FilestoreOps} {sender receiver entity entity' : Entity} {store store' : Filestore} {header : PduHeader}
  {type : ChecksumType} {path file : Bytes} {arrivals : List Arrival}

omit [Kconfig] [ZephyrCrc] in
theorem Peers.supported (peers : Peers sender receiver) (fs : FilestoreOps) (request : PutRequest)
    (source destination : Bytes) (reply : OpenReadReply) (kind : PduType) :
    incomingHeaderIsSupported receiver
      (senderHeader ((sender.startSend request source destination).openSource fs request.checksumType reply) kind) =
      true := by
  have fields : incomingHeaderIsSupported receiver
      (senderHeader ((sender.startSend request source destination).openSource fs request.checksumType reply) kind) =
      (sender.remoteEntityId == receiver.localEntityId && sender.localEntityId == receiver.remoteEntityId &&
        sender.entityIdLen == receiver.entityIdLen &&
        sender.transactionSequenceNumberLen == receiver.transactionSequenceNumberLen && true && true) := by
    unfold Entity.startSend advanceTransactionSequenceNumber
    by_cases limit : transactionSequenceLimit sender.transactionSequenceNumberLen = 2 ^ 64 - 1
    · simp only [limit, if_true]
      rfl
    · simp only [limit, if_false]
      rfl
  rw [fields, peers.destination, peers.source, peers.entityIdLen, peers.sequenceLen]
  simp

omit [Kconfig] [ZephyrCrc] in
theorem cString_destinationName (request : PutRequest) : cString request.destinationName = request.destinationName := by
  rw [PutRequest.destinationName, cString, cString, List.takeWhile_idem]

/-- The File Data PDUs of a file arrive one behind the other. -/
theorem segments_arrive [ZephyrCrc.Streams] {offset : Nat} {pdus : List Bytes}
    (segmented : Segmented { header with pduType := .fileData } file offset pdus)
    (valid : receiveFilestoreIsValid fs = true) (headed : header.Bounded) (small : file.length ≤ uint32Max)
    (supported : type.isSupported = true) (same : arrivals.map Arrival.pdu = pdus)
    (run : Run (Arrival.At fs) entity arrivals entity')
    (receiving : ReceivingFile entity store header type path file offset)
    (backs : store.backs (arrivals.flatMap Arrival.trace) = some store') :
    ReceivingFile entity' store' header type path file file.length ∧
      ∀ arrival ∈ arrivals, arrival.status = .ok ∧ ∀ obs ∈ arrival.trace, obs.Quiet := by
  induction segmented generalizing arrivals entity store with
  | done =>
    rw [List.map_eq_nil_iff] at same
    subst same
    cases run
    obtain rfl := Option.some.inj backs
    refine ⟨receiving, ?_⟩
    intro arrival mem
    cases mem
  | @next offset len pdu pdus pos fits encoded rest ih =>
    obtain ⟨arrival, arrivals, rfl, rfl, same'⟩ := List.map_eq_cons_iff.mp same
    cases run with
    | step first run =>
    rw [List.flatMap_cons] at backs
    obtain ⟨store₁, backs₁, backs'⟩ := Filestore.backs_append backs
    have decoded := decodeFiledata_encodeFiledata encoded
      (⟨headed.source, headed.sequence, headed.destination⟩) (by show offset ≤ uint32Max; omega)
    obtain ⟨ok, quiet, receiving'⟩ := Prog.wp_of_runs
      (receivePdu_segment valid receiving decoded ⟨rfl, rfl⟩ ⟨rfl, rfl⟩ pos fits small supported) first store₁ backs₁
    obtain ⟨final, all⟩ := ih same' run receiving' backs'
    refine ⟨final, ?_⟩
    intro other mem
    rcases List.mem_cons.mp mem with rfl | mem
    · exact ⟨ok, quiet⟩
    · exact all other mem

/-- The file that is sent arrives if, and only if, it is not empty and the receiver's own PDUs are accepted. -/
theorem file_arrives_iff [ZephyrCrc.Streams] {config config' : EntityConfig} {ut ut' : UtOps}
    {sender₀ receiver₀ : Entity} {steps steps' : List Step} {request : PutRequest}
    (init : entityInit config ut = .ok sender₀) (run : Run QuietStep sender₀ steps sender)
    (init' : entityInit config' ut' = .ok receiver₀) (run' : Run QuietStep receiver₀ steps' receiver)
    (peers : Peers sender receiver) (idle : receiver.receiver.active = false)
    (delivered : Delivered sender receiver request file arrivals store) :
    FileArrived request.destinationName file arrivals store ↔
      file ≠ [] ∧ ∀ arrival ∈ arrivals, ∀ obs ∈ arrival.trace, accepted obs = true := by
  obtain ⟨⟨fs, t, result, sender', rfs, receiver', sent, holds, ended, valid, same, arrived⟩, backs⟩ := delivered
  have handled := Prog.wp_of_runs (sendFile_outcome fs request sender) sent
  obtain ⟨supported, small, source, reply, metadata, segments, eof, sends⟩ :=
    sendFile_sends handled (bounded_of_run init run) holds ended
  generalize started : (sender.startSend request source request.destinationName).openSource fs request.checksumType
    reply = entity at sends
  have headed : (senderHeader entity .fileDirective).Bounded := by
    have begun := (bounded_of_run init run).startSend request source request.destinationName
    have bounded : entity.Bounded := by
      rw [← started]
      exact begun.withSender (begun.sender.congr rfl rfl)
    exact bounded.senderHeader _
  have heard : incomingHeaderIsSupported receiver (senderHeader entity .fileDirective) = true := by
    rw [← started]
    exact peers.supported fs request source request.destinationName reply _
  rw [sends.pdus] at same
  obtain ⟨first, rest, rfl, firstPdu, same⟩ := List.map_eq_cons_iff.mp same
  obtain ⟨middle, lasts, rfl, middlePdus, lastPdus⟩ := List.map_eq_append_iff.mp same
  obtain ⟨last, none, rfl, lastPdu, noPdus⟩ := List.map_eq_cons_iff.mp lastPdus
  obtain rfl := List.map_eq_nil_iff.mp noPdus
  cases arrived with
  | @step _ opened _ _ _ opening arrived =>
  obtain ⟨received, writing, closing⟩ := arrived.split
  cases closing with
  | step ending final =>
  rw [List.flatMap_cons, List.flatMap_append, List.flatMap_cons, List.flatMap_nil, List.append_nil] at backs
  obtain ⟨store₁, backs₁, backs⟩ := Filestore.backs_append backs
  obtain ⟨store₂, backs₂, backs₃⟩ := Filestore.backs_append backs
  -- Metadata
  rw [← firstPdu] at sends
  have decoded := decodeMetadata_encodeMetadata sends.metadata headed small
  obtain ⟨ok₁, quiet₁, begins⟩ := Prog.wp_of_runs
    (receivePdu_metadata valid decoded heard (bounded_of_run init' run') (receiverSound_of_run init' run') idle
      supported) opening store₁ backs₁
  have receiving : ReceivingFile opened store₁ (senderHeader entity .fileDirective) request.checksumType
      request.destinationName file 0 := by
    rw [← cString_destinationName]
    exact { begins file rfl with }
  -- File Data
  obtain ⟨whole, written⟩ := segments_arrive sends.segments valid headed small supported middlePdus writing receiving
    backs₂
  -- EOF
  rw [← lastPdu] at sends
  obtain ⟨iff, success⟩ := Prog.wp_of_runs
    (receivePdu_eof valid sends.eof rfl rfl rfl rfl headed small supported whole) ending store backs₃
  have earlier : ∀ arrival ∈ first :: middle, arrival.status = .ok ∧ ∀ obs ∈ arrival.trace, obs.Quiet := by
    intro arrival mem
    rcases List.mem_cons.mp mem with rfl | mem
    · exact ⟨ok₁, quiet₁⟩
    · exact written arrival mem
  have split : ∀ arrival ∈ first :: (middle ++ [last]), arrival ∈ first :: middle ∨ arrival = last := by
    intro arrival mem
    rw [← List.cons_append, List.mem_append, List.mem_singleton] at mem
    exact mem
  have isLast : last ∈ first :: (middle ++ [last]) := by simp
  constructor
  · intro success'
    obtain ⟨some, accepts⟩ := iff.mp (success'.received last isLast)
    refine ⟨some, ?_⟩
    intro arrival mem
    rcases split arrival mem with before | rfl
    · exact fun obs mem => ((earlier arrival before).2 obs mem).1
    · exact accepts
  · rintro ⟨some, accepts⟩
    have ok := iff.mpr ⟨some, accepts last isLast⟩
    refine ⟨(success ok).1, ?_, ?_⟩
    · intro arrival mem
      rcases split arrival mem with before | rfl
      · exact (earlier arrival before).1
      · exact ok
    · intro arrival mem
      rcases split arrival mem with before | rfl
      · exact fun obs mem => ((earlier arrival before).2 obs mem).2
      · exact (success ok).2

end Arrivals

end ZephyrCcsds.Cfdp

/-! ## Two files -/

namespace ZephyrCcsds.Cfdp

attribute [local instance] defaultKconfig plainCrc

instance : ZephyrCrc.Streams where
  crc32C_append _ _ _ _ := rfl
  crc32IeeeUpdate_append _ _ _ := rfl

/-- The call of `receive_pdu` for an arrival, when it makes the callbacks and returns the status of it -/
def Arrival.play (fs : FilestoreOps) (entity : Entity) (arrival : Arrival) : Option Entity :=
  ((receivePdu (some fs) arrival.pdu entity).play arrival.trace).bind fun returned =>
    if returned.1 = arrival.status then some returned.2 else none

theorem Arrival.at_of_play {fs : FilestoreOps} {entity entity' : Entity} {arrival : Arrival}
    (played : arrival.play fs entity = some entity') : Arrival.At fs entity arrival entity' := by
  obtain ⟨⟨status, entity₁⟩, run, same⟩ := Option.bind_eq_some_iff.mp played
  dsimp only at same
  split_ifs at same with agrees
  cases same
  have runs := Callback.Act.runs_of_play run
  rw [agrees] at runs
  exact runs

/-- The configuration of entity 1, the peer of `receiverConfig` -/
def peerConfig : EntityConfig where
  localEntityId := 1
  remoteEntityId := 2
  entityIdLen := 1
  transactionSequenceNumberLen := 1
  initialTransactionSequenceNumber := 0
  eventCb := true

def freshPeer : Entity := { freshReceiver with localEntityId := 1, remoteEntityId := 2 }

theorem entityInit_peerConfig : entityInit peerConfig clocklessUt = .ok freshPeer := by
  decide +kernel

/-- From `b` to `c`, in acknowledged mode -/
def copyRequest : PutRequest where
  sourcePath := some [98]
  destinationPath := some [99]
  checksumType := .modular
  closureRequested := false
  acknowledgedMode := true

/-- The PDUs of the file of `sendingStep`, as its receiver takes them -/
def octetArrivals : List Arrival :=
  [{ pdu := [0x20, 0, 10, 0, 2, 0, 1, 7, 0, 0, 0, 0, 1, 1, 98, 1, 99]
     trace := [⟨.openWriteTmp wholeFilestore [99], { rc := 0, handle := 1 }⟩]
     status := .ok },
   { pdu := [0x30, 0, 5, 0, 2, 0, 1, 0, 0, 0, 0, 104]
     trace := [⟨.write wholeFilestore 1 0 [104], (0 : Int)⟩]
     status := .ok },
   { pdu := [0x20, 0, 10, 0, 2, 0, 1, 4, 0, 104, 0, 0, 0, 0, 0, 0, 1]
     trace :=
      [⟨.sendPdu 2 [40, 0, 3, 0, 2, 0, 1, 6, 64, 1], (0 : Int)⟩,
        ⟨.read wholeFilestore 1 0 1, { rc := 0, nread := 1, data := [104] }⟩,
        ⟨.close wholeFilestore 1, (0 : Int)⟩,
        ⟨.commitTmp wholeFilestore [99], (0 : Int)⟩,
        ⟨.sendPdu 2 [40, 0, 2, 0, 2, 0, 1, 5, 2], (0 : Int)⟩]
     status := .ok }]

def octetStore : Filestore where
  tmp := none
  committed := [([99], [104])]

/-- A transfer of a fresh entity 2 to a fresh entity 1, played -/
theorem delivered_of_play {request : PutRequest} {file : Bytes} {t : Trace} {arrivals : List Arrival} {store : Filestore}
    (sent : ((sendFile wholeFilestore request freshReceiver).play t).isSome = true)
    (holds : ∀ obs ∈ t, holdsFile file obs = true) (ended : ∃ pdu ∈ sentPdus t, isEof pdu = true)
    (same : arrivals.map Arrival.pdu = sentPdus t)
    (played : (arrivals.foldlM (Arrival.play wholeFilestore) freshPeer).isSome = true)
    (backs : Filestore.empty.backs (arrivals.flatMap Arrival.trace) = some store) :
    Delivered freshReceiver freshPeer request file arrivals store := by
  obtain ⟨⟨result, sender'⟩, sent⟩ := Option.isSome_iff_exists.mp sent
  obtain ⟨receiver', played⟩ := Option.isSome_iff_exists.mp played
  refine ⟨⟨wholeFilestore, t, result, sender', wholeFilestore, receiver', Callback.Act.runs_of_play sent, holds,
    ended, rfl, same, ?_⟩, backs⟩
  apply Run.of_foldlM _ played
  exact fun _ _ _ => Arrival.at_of_play

theorem delivered_octet :
    Delivered freshReceiver freshPeer copyRequest [104] octetArrivals octetStore := by
  apply @delivered_of_play copyRequest [104] sendingStep.trace
  · decide +kernel
  · decide +kernel
  · decide +kernel
  · decide +kernel
  · decide +kernel
  · decide +kernel

theorem file_arrives_iff_octet : FileArrived copyRequest.destinationName [104] octetArrivals octetStore :=
  (file_arrives_iff entityInit_receiverConfig .done entityInit_peerConfig .done ⟨rfl, rfl, rfl, rfl⟩ rfl
    delivered_octet).mpr ⟨by decide, by decide +kernel⟩

/-- The callbacks of a `send_file` of an empty file -/
def emptyTrace : Trace :=
  [⟨.openRead wholeFilestore [98], { rc := 0, handle := 5, size := 0 }⟩,
    ⟨.sendPdu 1 [0x20, 0, 10, 0, 2, 0, 1, 7, 0, 0, 0, 0, 0, 1, 98, 1, 99], (0 : Int)⟩,
    ⟨.sendPdu 1 [0x20, 0, 10, 0, 2, 0, 1, 4, 0, 0, 0, 0, 0, 0, 0, 0, 0], (0 : Int)⟩]

/-- The receiver acknowledges the EOF PDU, discards the file and reports a failed transaction. -/
def emptyArrivals : List Arrival :=
  [{ pdu := [0x20, 0, 10, 0, 2, 0, 1, 7, 0, 0, 0, 0, 0, 1, 98, 1, 99]
     trace := [⟨.openWriteTmp wholeFilestore [99], { rc := 0, handle := 1 }⟩]
     status := .ok },
   { pdu := [0x20, 0, 10, 0, 2, 0, 1, 4, 0, 0, 0, 0, 0, 0, 0, 0, 0]
     trace :=
      [⟨.sendPdu 2 [40, 0, 3, 0, 2, 0, 1, 6, 64, 1], (0 : Int)⟩,
        ⟨.close wholeFilestore 1, (0 : Int)⟩,
        ⟨.discardTmp wholeFilestore [99], (0 : Int)⟩,
        ⟨.sendPdu 2 [40, 0, 2, 0, 2, 0, 1, 5, 244], (0 : Int)⟩,
        ⟨.event .receiver .failed { sourceEntityId := 2, transactionSequenceNumber := 0 } .invalidArgument, ()⟩]
     status := .invalidArgument }]

/-- An empty file is sent, every PDU of both sides is accepted, and nothing is committed: the receiver fails with
INVALID_ARGUMENT, its event is FAILED and its Finished PDU says that the transaction was cancelled. -/
theorem empty_file_lost :
    Delivered freshReceiver freshPeer copyRequest [] emptyArrivals .empty ∧
      (∀ arrival ∈ emptyArrivals, ∀ obs ∈ arrival.trace, accepted obs = true) ∧
      ¬ FileArrived copyRequest.destinationName [] emptyArrivals .empty ∧
      emptyArrivals.map Arrival.status = [.ok, .invalidArgument] ∧
      sentReports (emptyArrivals.flatMap Arrival.trace) =
        [{ conditionCode := conditionCancelRequestReceived
           deliveryCode := .dataIncomplete
           fileStatus := .discardedDeliberately }] := by
  refine ⟨?_, by decide +kernel, ?_, rfl, by decide +kernel⟩
  · apply @delivered_of_play copyRequest [] emptyTrace
    · decide +kernel
    · decide +kernel
    · decide +kernel
    · decide +kernel
    · decide +kernel
    · decide +kernel
  · intro arrived
    cases arrived.committed

end ZephyrCcsds.Cfdp
