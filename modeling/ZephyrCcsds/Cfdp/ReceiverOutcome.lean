import ZephyrCcsds.Cfdp.Quiet

/-! # What the receiver does with one PDU

One outcome relation for each receiver function: every way a call without re-entry can end,
with its trace, its status and the state it leaves.  `receivePdu_towardReceiver` collects
them; the invariants of the receiver are proved by cases on these relations.
-/

namespace ZephyrCcsds.Cfdp

open Callback

variable [Kconfig] [ZephyrCrc]

/-! ## Verifying the file -/

/-- The octets asked for at an offset. -/
def segmentLen (fileSize offset : Nat) : Nat := min (fileSize - offset) maxSegmentSize

/-- A read that returned between one and `len` octets. -/
structure ReadReply.Good (reply : ReadReply) (len : Nat) : Prop where
  rc : reply.rc = 0
  pos : 0 < reply.nread
  le : reply.nread ≤ len

/-- The turns of the read loop from a checksum state, an offset and a buffer. -/
inductive ReadLoop (fs : FilestoreOps) (handle : Handle) (fileSize : Nat) :
    ChecksumState → Nat → Bytes → Trace → Except Status ChecksumState → Bytes → Prop where
  | done {state : ChecksumState} {offset : Nat} {buf : Bytes} : fileSize ≤ offset →
      ReadLoop fs handle fileSize state offset buf [] (.ok state) buf
  | unread {state : ChecksumState} {offset : Nat} {buf : Bytes} {reply : ReadReply}
      {status : Status} : offset < fileSize → ¬ reply.Good (segmentLen fileSize offset) →
      status ≠ .ok →
      ReadLoop fs handle fileSize state offset buf
        [⟨.read fs handle offset (segmentLen fileSize offset), reply⟩] (.error status)
        (fillBuffer buf (segmentLen fileSize offset) reply.data)
  | unsummed {state : ChecksumState} {offset : Nat} {buf : Bytes} {reply : ReadReply}
      {status : Status} : offset < fileSize → reply.Good (segmentLen fileSize offset) →
      checksumUpdate state offset
        ((fillBuffer buf (segmentLen fileSize offset) reply.data).take reply.nread) = .error status →
      ReadLoop fs handle fileSize state offset buf
        [⟨.read fs handle offset (segmentLen fileSize offset), reply⟩] (.error status)
        (fillBuffer buf (segmentLen fileSize offset) reply.data)
  | turn {state state' : ChecksumState} {offset : Nat} {buf buf' : Bytes} {reply : ReadReply}
      {t : Trace} {result : Except Status ChecksumState} : offset < fileSize →
      reply.Good (segmentLen fileSize offset) →
      checksumUpdate state offset
        ((fillBuffer buf (segmentLen fileSize offset) reply.data).take reply.nread) = .ok state' →
      ReadLoop fs handle fileSize state' (offset + reply.nread)
        (fillBuffer buf (segmentLen fileSize offset) reply.data) t result buf' →
      ReadLoop fs handle fileSize state offset buf
        (⟨.read fs handle offset (segmentLen fileSize offset), reply⟩ :: t) result buf'

theorem receiverComputeChecksumLoop_outcome (fs : FilestoreOps) (handle : Handle) (turns : Nat)
    (state : ChecksumState) (offset : Nat) (entity : Entity)
    (enough : entity.receiver.fileSize - offset ≤ turns) :
    (receiverComputeChecksumLoop fs handle turns state offset).wp once
      (fun t result entity' => ∃ buf,
        ReadLoop fs handle entity.receiver.fileSize state offset entity.fileSegmentBuf t result buf ∧
        entity' = entity.withBuf buf) entity := by
  induction turns generalizing state offset entity with
  | zero =>
    have finished : ¬ offset < entity.receiver.fileSize := by omega
    simp only [receiverComputeChecksumLoop, Prog.wp_bind, Prog.wp_read, Prog.wp_pure, if_neg finished,
      List.append_nil]
    exact ⟨_, .done (not_lt.mp finished), rfl⟩
  | succ turns ih =>
    simp only [receiverComputeChecksumLoop, Prog.wp_bind, Prog.wp_read, Prog.wp_ite,
      readSegment_wp, Prog.wp_pure, List.nil_append, List.append_nil]
    refine ⟨fun more reply => ⟨fun rejected => ?_, fun accepted => ⟨fun bad => ?_, fun good => ?_⟩⟩,
      fun finished => ?_⟩
    · exact ⟨_, .unread more (fun good => rejected good.rc) (by simp), rfl⟩
    · refine ⟨_, .unread more (fun good => ?_) (by simp), rfl⟩
      have pos := good.pos
      have le := good.le
      unfold segmentLen at le
      omega
    · have good : reply.Good (segmentLen entity.receiver.fileSize offset) := by
        refine ⟨not_not.mp accepted, ?_, ?_⟩
        · omega
        · unfold segmentLen
          omega
      simp only [Entity.withBuf_buf]
      cases updated : checksumUpdate state offset
          ((fillBuffer entity.fileSegmentBuf
            (min (entity.receiver.fileSize - offset) maxSegmentSize) reply.data).take
            reply.nread) with
      | error status => exact ⟨_, .unsummed more good updated, rfl⟩
      | ok state' =>
        have pos := good.pos
        refine Prog.wp_mono (ih state' (offset + reply.nread) _ ?_) ?_
        · rw [Entity.withBuf_receiver]
          omega
        · rintro t result entity' ⟨buf, loop, rfl⟩
          exact ⟨buf, .turn more good updated loop, rfl⟩
    · exact ⟨_, .done (not_lt.mp finished), rfl⟩

/-- The verification of a slot's file against a checksum. -/
inductive Verified (fs : FilestoreOps) (slot : TransactionSlot) (buf : Bytes) (expected : Nat) :
    Trace → Status → Bytes → Prop where
  | unsupported {status : Status} : checksumInit slot.checksumType = .error status →
      Verified fs slot buf expected [] status buf
  | unread {init : ChecksumState} {t : Trace} {status : Status} {buf' : Bytes} :
      checksumInit slot.checksumType = .ok init →
      ReadLoop fs slot.fileHandle slot.fileSize init 0 buf t (.error status) buf' →
      Verified fs slot buf expected t status buf'
  | unfinished {init final : ChecksumState} {t : Trace} {status : Status} {buf' : Bytes} :
      checksumInit slot.checksumType = .ok init →
      ReadLoop fs slot.fileHandle slot.fileSize init 0 buf t (.ok final) buf' →
      checksumFinish final = .error status → Verified fs slot buf expected t status buf'
  | mismatched {init final : ChecksumState} {t : Trace} {checksum : Nat} {buf' : Bytes} :
      checksumInit slot.checksumType = .ok init →
      ReadLoop fs slot.fileHandle slot.fileSize init 0 buf t (.ok final) buf' →
      checksumFinish final = .ok checksum → checksum ≠ expected →
      Verified fs slot buf expected t .checksumFailure buf'
  | intact {init final : ChecksumState} {t : Trace} {buf' : Bytes} :
      checksumInit slot.checksumType = .ok init →
      ReadLoop fs slot.fileHandle slot.fileSize init 0 buf t (.ok final) buf' →
      checksumFinish final = .ok expected → Verified fs slot buf expected t .ok buf'

theorem receiverVerifyCompleteFile_outcome (fs : FilestoreOps) (expected : Nat) (entity : Entity) :
    (receiverVerifyCompleteFile fs expected).wp once
      (fun t status entity' => ∃ buf,
        Verified fs entity.receiver entity.fileSegmentBuf expected t status buf ∧
        entity' = entity.withBuf buf) entity := by
  simp only [receiverVerifyCompleteFile, receiverComputeChecksum, Prog.wp_bind, Prog.wp_read,
    List.nil_append]
  cases init : checksumInit entity.receiver.checksumType with
  | error status => exact ⟨_, .unsupported init, rfl⟩
  | ok state =>
    simp only [Prog.wp_bind, Prog.wp_pure]
    refine Prog.wp_mono (receiverComputeChecksumLoop_outcome _ _ _ _ _ _ (by omega)) ?_
    rintro t result entity' ⟨buf, loop, rfl⟩
    cases result with
    | error status =>
      simp only [Except.bind, Prog.wp_pure, List.append_nil]
      exact ⟨buf, .unread init loop, rfl⟩
    | ok final =>
      simp only [Except.bind, List.append_nil]
      cases finished : checksumFinish final with
      | error status =>
        simp only [Prog.wp_pure, List.append_nil]
        exact ⟨buf, .unfinished init loop finished, rfl⟩
      | ok checksum =>
        simp only [Prog.wp_pure, List.append_nil]
        by_cases same : checksum = expected
        · subst same
          rw [if_neg (not_not.mpr rfl)]
          exact ⟨buf, .intact init loop finished, rfl⟩
        · rw [if_pos same]
          exact ⟨buf, .mismatched init loop finished same, rfl⟩

theorem ReadLoop.ne_error_ok {fs : FilestoreOps} {handle : Handle} {fileSize offset : Nat}
    {state : ChecksumState} {buf buf' : Bytes} {t : Trace} {result : Except Status ChecksumState}
    (loop : ReadLoop fs handle fileSize state offset buf t result buf') : result ≠ .error .ok := by
  induction loop with
  | done => simp
  | unread _ _ failed =>
    intro same
    exact failed (Except.error.inj same)
  | @unsummed state offset _ reply status _ _ failed =>
    intro same
    rw [Except.error.inj same] at failed
    exact checksumUpdate_ne_error_ok _ _ _ failed
  | turn _ _ _ _ ih => exact ih

/-- A file that passes its verification was read to its end. -/
theorem Verified.ok {fs : FilestoreOps} {slot : TransactionSlot} {buf buf' : Bytes} {expected : Nat}
    {t : Trace} (verified : Verified fs slot buf expected t .ok buf') :
    ∃ init final, checksumInit slot.checksumType = .ok init ∧
      ReadLoop fs slot.fileHandle slot.fileSize init 0 buf t (.ok final) buf' ∧
      checksumFinish final = .ok expected := by
  generalize status : Status.ok = st at verified
  cases verified with
  | unsupported failed =>
    rw [← status] at failed
    exact (checksumInit_ne_error_ok _ failed).elim
  | unread _ loop =>
    rw [← status] at loop
    exact (loop.ne_error_ok rfl).elim
  | unfinished _ _ failed =>
    rw [← status] at failed
    exact (checksumFinish_ne_error_ok _ failed).elim
  | mismatched => cases status
  | intact init loop finished => exact ⟨_, _, init, loop, finished⟩

/-! ## Finishing a transaction -/

/-- Closing the temporary file, then committing or discarding it. -/
inductive Stored (fs : FilestoreOps) (slot : TransactionSlot) (status : Status) :
    Trace → Status → Prop where
  | committed {t : Trace} {c : Int} : status = .ok →
      CalledIf slot.fileHandleOpen (.close fs slot.fileHandle) 0 t c → c = 0 →
      Stored fs slot status (t ++ [⟨.commitTmp fs (cString slot.destinationPath), (0 : Int)⟩]) .ok
  | uncommitted {t : Trace} {c rc : Int} : status = .ok →
      CalledIf slot.fileHandleOpen (.close fs slot.fileHandle) 0 t c → c = 0 → rc ≠ 0 →
      Stored fs slot status (t ++ [⟨.commitTmp fs (cString slot.destinationPath), rc⟩])
        .filestoreRejection
  | unclosed {t : Trace} {c : Int} (rc : Int) : status = .ok →
      CalledIf slot.fileHandleOpen (.close fs slot.fileHandle) 0 t c → c ≠ 0 →
      Stored fs slot status (t ++ [⟨.discardTmp fs (cString slot.destinationPath), rc⟩])
        .filestoreRejection
  | discarded {t : Trace} {c : Int} (rc : Int) : status ≠ .ok →
      CalledIf slot.fileHandleOpen (.close fs slot.fileHandle) 0 t c →
      Stored fs slot status (t ++ [⟨.discardTmp fs (cString slot.destinationPath), rc⟩]) status

/-- The end of `receiver_finish` for a slot whose file is stored. -/
inductive Settled (entity : Entity) (status : Status) : Trace → Status → Entity → Prop where
  | awaiting {t u : Trace} {now : Nat} :
      entity.receiver.transmissionMode = .acknowledged →
      Sent entity.receiver.peerEntityId (encodeFinished (finishedPdu entity status) maxPduSize) t .ok →
      Clock entity u now →
      Settled entity status (t ++ u) status
        (entity.withReceiver
          (armRetry (entity.receiver.withFinishedStatus status).awaitFinishedAck now))
  | unreported {t : Trace} {failed : Status} :
      entity.receiver.transmissionMode = .acknowledged →
      Sent entity.receiver.peerEntityId (encodeFinished (finishedPdu entity status) maxPduSize) t
        failed →
      failed ≠ .ok →
      Settled entity status (t ++ terminalEvent entity .receiver entity.receiver.id failed)
        (if status = .ok then failed else status) (entity.withReceiver .zero)
  | silent {u : Trace} {now : Nat} :
      entity.receiver.transmissionMode = .acknowledged → entity.receiver.closureRequested = false →
      Clock entity u now →
      Settled entity status u status
        (entity.withReceiver (armRetry entity.receiver.awaitFinishedAck now))
  | released {t : Trace} {sent : Status} :
      entity.receiver.transmissionMode = .unacknowledged →
      (entity.receiver.closureRequested = true →
        Sent entity.receiver.peerEntityId (encodeFinished (finishedPdu entity status) maxPduSize) t
          sent) →
      (entity.receiver.closureRequested = false → t = [] ∧ sent = .ok) →
      Settled entity status
        (t ++ terminalEvent entity .receiver entity.receiver.id
          (if status = .ok then sent else status))
        (if status = .ok then sent else status) (entity.withReceiver .zero)

/-- `receiver_finish` from an active slot. -/
inductive Finished (fs : FilestoreOps) (entity : Entity) (status : Status) :
    Trace → Status → Entity → Prop where
  | mk {t u : Trace} {stored result : Status} {entity' : Entity} :
      Stored fs entity.receiver status t stored →
      Settled (entity.withReceiver entity.receiver.withoutHandle) stored u result entity' →
      Finished fs entity status (t ++ u) result entity'

omit [Kconfig] [ZephyrCrc] in
theorem receiverFinishStore_outcome (fs : FilestoreOps) (status : Status) (entity : Entity) :
    (receiverFinishClose fs status >>= receiverFinishStore fs).wp once
      (fun t stored entity' => Stored fs entity.receiver status t stored ∧
        entity' = entity.withReceiver entity.receiver.withoutHandle) entity := by
  simp only [receiverFinishClose, receiverFinishStore, Prog.wp_bind, Prog.wp_read, List.nil_append]
  refine Prog.wp_mono (callIf_outcome _ _ _ _) ?_
  rintro t c entity' ⟨closed, rfl⟩
  simp only [wp_updateReceiver, Prog.wp_pure, Prog.wp_ite, Prog.wp_bind, Prog.wp_call_quiet,
    observe_apply, List.append_nil, Entity.withReceiver_receiver]
  by_cases ok : status = .ok
  · by_cases shut : c = 0
    · simp only [shut, ok, ne_eq, not_true_eq_false, if_false, true_implies,
        false_implies, and_true]
      intro rc
      by_cases committed : rc = 0
      · subst committed
        exact .committed rfl closed shut
      · rw [if_pos committed]
        exact .uncommitted rfl closed shut committed
    · simp only [shut, ok, ne_eq, not_false_eq_true, and_self, if_true, reduceCtorEq, false_implies,
        true_implies, true_and, and_true]
      exact fun rc => .unclosed rc rfl closed shut
  · simp only [ok, and_false, if_false, false_implies, not_false_eq_true, true_implies, true_and,
      and_true]
    exact fun rc => .discarded rc ok closed

omit [ZephyrCrc] in
theorem receiverFinishSettle_outcome (status : Status) (entity : Entity)
    (active : entity.receiver.active = true) :
    (receiverFinishSend entity.receiver.closureRequested status >>= fun finishedStatus =>
      receiverFinishSettle entity.receiver.closureRequested status finishedStatus).wp once
      (fun t result entity' => Settled entity status t result entity') entity := by
  cases requested : entity.receiver.closureRequested with
  | true =>
    simp only [receiverFinishSend, if_true, Prog.wp_bind, wp_updateReceiver, List.nil_append,
      sendFinishedForReceiverStatus, Prog.wp_read]
    refine Prog.wp_mono (sendEncodedPduTo_outcome _ _ _) ?_
    rintro t sent entity' ⟨send, rfl⟩
    simp only [receiverFinishSettle, Prog.wp_bind, Prog.wp_read, Prog.wp_ite, List.nil_append,
      Entity.withReceiver_receiver, TransactionSlot.withFinishedStatus_active,
      TransactionSlot.withFinishedStatus_transmissionMode, TransactionSlot.withFinishedStatus_id,
      active, Bool.not_true, Bool.and_false, Bool.false_eq_true, false_implies, not_false_eq_true,
      true_implies, true_and, wp_updateReceiver, wp_releaseReceiverTerminal, Prog.wp_pure,
      List.append_nil]
    refine ⟨fun acknowledged => ⟨fun ok => ?_, fun failed => ?_⟩, fun unacknowledged => ?_⟩
    · refine Prog.wp_mono (entityNowMs_outcome _) ?_
      rintro u now entity' ⟨clock, rfl⟩
      subst ok
      refine .awaiting acknowledged send ?_
      cases clock with
      | asked now set => exact .asked now set
      | none unset => exact .none unset
    · exact .unreported acknowledged send failed
    · refine .released ?_ (fun _ => send) fun no => ?_
      · exact TransmissionMode.eq_unacknowledged unacknowledged
      · rw [requested] at no
        cases no
  | false =>
    simp only [receiverFinishSend, receiverFinishSettle, Bool.false_eq_true, if_false,
      Prog.wp_bind, Prog.wp_pure, Prog.wp_read, Prog.wp_ite, Bool.false_and, wp_updateReceiver,
      wp_releaseReceiverTerminal, true_implies, not_true_eq_false, false_implies, and_true,
      List.nil_append, List.append_nil]
    refine ⟨fun acknowledged => ?_, fun unacknowledged => ?_⟩
    · refine Prog.wp_mono (entityNowMs_outcome _) ?_
      rintro u now entity' ⟨clock, rfl⟩
      refine .silent acknowledged requested ?_
      cases clock with
      | asked now set => exact .asked now set
      | none unset => exact .none unset
    · refine .released (t := []) (TransmissionMode.eq_unacknowledged unacknowledged) ?_ fun _ =>
        ⟨rfl, rfl⟩
      intro yes
      rw [requested] at yes
      cases yes

omit [ZephyrCrc] in
theorem receiverFinish_outcome (fs : FilestoreOps) (status : Status) (entity : Entity)
    (active : entity.receiver.active = true) :
    (receiverFinish fs status).wp once (Finished fs entity status) entity := by
  have store := receiverFinishStore_outcome fs status entity
  simp only [Prog.wp_bind] at store
  simp only [receiverFinish, Prog.wp_bind, Prog.wp_read, List.nil_append]
  refine Prog.wp_mono store ?_
  intro t status' entity' post
  refine Prog.wp_mono post ?_
  rintro u stored entity'' ⟨store, rfl⟩
  have settle := receiverFinishSettle_outcome stored
    (entity.withReceiver entity.receiver.withoutHandle) active
  simp only [Prog.wp_bind] at settle
  refine Prog.wp_mono settle ?_
  intro v finishedStatus entity' post
  refine Prog.wp_mono post ?_
  intro w result entity'' settle
  rw [← List.append_assoc, ← List.append_assoc, List.append_assoc (t ++ u)]
  exact .mk store settle

/-! ## Metadata -/

/-- A well-formed Metadata PDU addressed to this entity. -/
structure AcceptsMetadata (entity : Entity) (pdu : Bytes) (metadata : MetadataPdu) : Prop where
  decoded : decodeMetadata pdu = .ok (metadata, pdu.length)
  supported : incomingHeaderIsSupported entity metadata.header = true

/-- The slot once the temporary file of a Metadata PDU is open. -/
def openedSlot (slot : TransactionSlot) (fs : FilestoreOps) (metadata : MetadataPdu)
    (init : ChecksumState) (handle : Handle) : TransactionSlot :=
  { metadataSlot slot fs metadata init with fileHandle := handle, fileHandleOpen := true }

inductive MetadataHandled (fs : FilestoreOps) (pdu : Bytes) (entity : Entity) :
    Trace → Status → Entity → Prop where
  | skipped {status : Status} :
      (∀ metadata, AcceptsMetadata entity pdu metadata → entity.receiver.active = true ∨
        ∃ failed, checksumInit metadata.checksumType = .error failed) →
      MetadataHandled fs pdu entity [] status entity
  | opened {metadata : MetadataPdu} {init : ChecksumState} {reply : OpenWriteReply} :
      AcceptsMetadata entity pdu metadata → entity.receiver.active = false →
      checksumInit metadata.checksumType = .ok init → reply.rc = 0 →
      MetadataHandled fs pdu entity
        [⟨.openWriteTmp fs (cString metadata.destinationFilename), reply⟩] .ok
        (entity.withReceiver (openedSlot entity.receiver fs metadata init reply.handle))
  | refused {metadata : MetadataPdu} {reply : OpenWriteReply} :
      AcceptsMetadata entity pdu metadata → entity.receiver.active = false → reply.rc ≠ 0 →
      MetadataHandled fs pdu entity
        (⟨.openWriteTmp fs (cString metadata.destinationFilename), reply⟩ ::
          terminalEvent entity .receiver (transactionIdFromHeader metadata.header)
            .filestoreRejection)
        .filestoreRejection (entity.withReceiver .zero)

omit [ZephyrCrc] in
theorem receiverHandleMetadata_outcome (fs : FilestoreOps) (pdu : Bytes) (entity : Entity) :
    (receiverHandleMetadata fs pdu).wp once (MetadataHandled fs pdu entity) entity := by
  simp only [receiverHandleMetadata, Prog.wp_bind, Prog.wp_read, List.nil_append]
  cases decoded : decodeMetadata pdu with
  | error status =>
    refine .skipped fun metadata accepts => ?_
    rw [accepts.decoded] at decoded
    cases decoded
  | ok result =>
    obtain ⟨metadata, consumed⟩ := result
    have agrees : ∀ metadata', AcceptsMetadata entity pdu metadata' → metadata' = metadata := by
      intro metadata' accepts
      have same := accepts.decoded
      rw [decoded] at same
      cases same
      rfl
    simp only [Prog.wp_ite, Prog.wp_pure]
    refine ⟨fun rejected => ?_, fun accepted => ⟨fun busy => ?_, fun idle => ?_⟩⟩
    · refine .skipped fun metadata' accepts => ?_
      have same := accepts.decoded
      rw [decoded] at same
      cases same
      have supported := accepts.supported
      simp only [supported, ne_eq, not_true_eq_false, Bool.not_true, Bool.false_eq_true, or_self]
        at rejected
    · exact .skipped fun _ _ => .inl busy
    · rw [not_or, not_not, Bool.not_eq_true', Bool.not_eq_false] at accepted
      have accepts : AcceptsMetadata entity pdu metadata :=
        ⟨by rw [decoded, accepted.1], accepted.2⟩
      rw [Bool.not_eq_true] at idle
      cases init : checksumInit metadata.checksumType with
      | error status =>
        exact .skipped fun metadata' accepts' => .inr ⟨status, agrees _ accepts' ▸ init⟩
      | ok state =>
        simp only [Prog.wp_bind, wp_updateReceiver, Prog.wp_call_quiet, Prog.wp_ite,
          wp_emitTerminalEvent, Prog.wp_pure, observe_apply, List.nil_append, List.append_nil]
        refine fun reply => ⟨fun failed => ?_, fun opened => ?_⟩
        · exact .refused accepts idle failed
        · exact .opened accepts idle init (not_not.mp opened)

/-! ## File Data -/

/-- A File Data PDU of the active transaction that lies inside the file. -/
structure AcceptsFiledata (entity : Entity) (pdu : Bytes) (filedata : FiledataPdu) : Prop where
  decoded : decodeFiledata pdu = .ok (filedata, pdu.length)
  supported : incomingHeaderIsSupported entity filedata.header = true
  matched : receiverMatchActive entity filedata.header = .ok
  bounded : filedata.offset + filedata.data.length ≤ uint32Max
  inside : filedata.offset + filedata.data.length ≤ entity.receiver.fileSize

/-- The slot after the octets of a File Data PDU were written. -/
def writtenSlot (slot : TransactionSlot) (receivedRanges : Ranges) (checksumState : ChecksumState) :
    TransactionSlot :=
  { slot with receivedRanges, checksumState }

inductive FiledataHandled (fs : FilestoreOps) (pdu : Bytes) (entity : Entity) :
    Trace → Status → Entity → Prop where
  | skipped {status : Status} : (∀ filedata, ¬ AcceptsFiledata entity pdu filedata) →
      FiledataHandled fs pdu entity [] status entity
  | unwritten {filedata : FiledataPdu} {rc : Int} : AcceptsFiledata entity pdu filedata → rc ≠ 0 →
      FiledataHandled fs pdu entity
        [⟨.write fs entity.receiver.fileHandle filedata.offset filedata.data, rc⟩]
        .filestoreRejection entity
  | unranged {filedata : FiledataPdu} {status : Status} : AcceptsFiledata entity pdu filedata →
      rangesAdd entity.receiver.receivedRanges filedata.offset
        (filedata.offset + filedata.data.length) = .error status →
      FiledataHandled fs pdu entity
        [⟨.write fs entity.receiver.fileHandle filedata.offset filedata.data, (0 : Int)⟩]
        status entity
  | unsummed {filedata : FiledataPdu} {ranges : Ranges} {status : Status} :
      AcceptsFiledata entity pdu filedata →
      rangesAdd entity.receiver.receivedRanges filedata.offset
        (filedata.offset + filedata.data.length) = .ok ranges →
      checksumUpdate entity.receiver.checksumState filedata.offset filedata.data = .error status →
      FiledataHandled fs pdu entity
        [⟨.write fs entity.receiver.fileHandle filedata.offset filedata.data, (0 : Int)⟩]
        status (entity.withReceiver { entity.receiver with receivedRanges := ranges })
  | written {filedata : FiledataPdu} {ranges : Ranges} {state : ChecksumState} :
      AcceptsFiledata entity pdu filedata →
      rangesAdd entity.receiver.receivedRanges filedata.offset
        (filedata.offset + filedata.data.length) = .ok ranges →
      checksumUpdate entity.receiver.checksumState filedata.offset filedata.data = .ok state →
      (entity.receiver.eofReceived = true → entity.receiver.transmissionMode = .acknowledged →
        rangesIsComplete ranges 0 entity.receiver.fileSize = .ok false) →
      FiledataHandled fs pdu entity
        [⟨.write fs entity.receiver.fileHandle filedata.offset filedata.data, (0 : Int)⟩]
        .ok (entity.withReceiver (writtenSlot entity.receiver ranges state))
  | completed {filedata : FiledataPdu} {ranges : Ranges} {state : ChecksumState} {t u : Trace}
      {status result : Status} {buf : Bytes} {entity' : Entity} :
      AcceptsFiledata entity pdu filedata →
      rangesAdd entity.receiver.receivedRanges filedata.offset
        (filedata.offset + filedata.data.length) = .ok ranges →
      checksumUpdate entity.receiver.checksumState filedata.offset filedata.data = .ok state →
      entity.receiver.eofReceived = true → entity.receiver.transmissionMode = .acknowledged →
      rangesIsComplete ranges 0 entity.receiver.fileSize = .ok true →
      Verified fs (writtenSlot entity.receiver ranges state) entity.fileSegmentBuf
        entity.receiver.eofChecksum t status buf →
      Finished fs ((entity.withReceiver (writtenSlot entity.receiver ranges state)).withBuf buf)
        status u result entity' →
      FiledataHandled fs pdu entity
        (⟨.write fs entity.receiver.fileHandle filedata.offset filedata.data, (0 : Int)⟩ ::
          (t ++ u)) result entity'

omit [Kconfig] [ZephyrCrc] in
theorem receiverMatchActive_ok {entity : Entity} {header : PduHeader}
    (matched : receiverMatchActive entity header = .ok) :
    entity.receiver.active = true ∧ entity.receiver.metadataReceived = true ∧
      entity.receiver.id = transactionIdFromHeader header := by
  rw [receiverMatchActive] at matched
  split_ifs at matched with inactive other
  simp only [Bool.or_eq_true, Bool.not_eq_true', not_or, Bool.not_eq_false] at inactive
  exact ⟨inactive.1, inactive.2, not_not.mp other⟩

theorem receiverHandleFiledata_outcome (fs : FilestoreOps) (pdu : Bytes) (entity : Entity) :
    (receiverHandleFiledata fs pdu).wp once (FiledataHandled fs pdu entity) entity := by
  simp only [receiverHandleFiledata, Prog.wp_bind, Prog.wp_read, List.nil_append]
  cases decoded : decodeFiledata pdu with
  | error status =>
    refine .skipped fun filedata accepts => ?_
    rw [accepts.decoded] at decoded
    cases decoded
  | ok result =>
    obtain ⟨filedata, consumed⟩ := result
    have agrees : ∀ filedata', AcceptsFiledata entity pdu filedata' →
        filedata' = filedata ∧ consumed = pdu.length := by
      intro filedata' accepts
      have same := accepts.decoded
      rw [decoded] at same
      cases same
      exact ⟨rfl, rfl⟩
    simp only [Prog.wp_ite, Prog.wp_pure, Prog.wp_bind, Prog.wp_call_quiet, Prog.wp_read,
      observe_apply, List.nil_append, List.append_nil]
    refine ⟨fun rejected => ?_, fun accepted => ⟨fun unmatched => ?_, fun matched =>
      ⟨fun unbounded => ?_, fun bounded => ⟨fun outside => ?_, fun inside rc =>
        ⟨fun unwritten => ?_, fun wrote => ?_⟩⟩⟩⟩⟩
    · refine .skipped fun filedata' accepts => ?_
      obtain ⟨rfl, rfl⟩ := agrees _ accepts
      have supported := accepts.supported
      simp only [supported, ne_eq, not_true_eq_false, Bool.not_true, Bool.false_eq_true, or_self]
        at rejected
    · exact .skipped fun _ accepts => unmatched ((agrees _ accepts).1 ▸ accepts.matched)
    · refine .skipped fun filedata' accepts => ?_
      obtain ⟨rfl, rfl⟩ := agrees _ accepts
      have fits := accepts.bounded
      omega
    · refine .skipped fun filedata' accepts => ?_
      obtain ⟨rfl, rfl⟩ := agrees _ accepts
      exact not_le.mpr outside accepts.inside
    all_goals
      rw [not_or, not_not, Bool.not_eq_true', Bool.not_eq_false] at accepted
      have accepts : AcceptsFiledata entity pdu filedata :=
        ⟨by rw [decoded, accepted.1], accepted.2, not_not.mp matched, by omega, not_lt.mp inside⟩
    · exact .unwritten accepts unwritten
    · obtain rfl : rc = 0 := not_not.mp wrote
      cases added : rangesAdd entity.receiver.receivedRanges filedata.offset
          (filedata.offset + filedata.data.length) with
      | error status => exact .unranged accepts added
      | ok ranges =>
        simp only [Prog.wp_bind, wp_updateReceiver]
        cases updated : checksumUpdate entity.receiver.checksumState filedata.offset
            filedata.data with
        | error status => exact .unsummed accepts added updated
        | ok state =>
          simp only [Prog.wp_bind, wp_updateReceiver, Prog.wp_read, Prog.wp_ite, Prog.wp_pure,
            Entity.withReceiver_receiver, Entity.withReceiver_withReceiver, Bool.and_eq_true,
            beq_iff_eq, List.append_nil]
          refine ⟨fun ending => ?_, fun running => ?_⟩
          -- the EOF is known: this part may have been the last one missing
          · have filled := rangesAdd_ok added
            have inside := accepts.inside
            cases reported : rangesIsComplete ranges 0 entity.receiver.fileSize with
            -- does not happen: a part that was added has octets and lies within the file, which is not empty then
            | error status =>
              rw [rangesIsComplete, if_neg] at reported
              · cases reported
              · simp only [rangeIsValid, Bool.not_eq_true', decide_eq_false_iff_not, not_or, not_lt]
                exact ⟨by omega, filled.2.2.2⟩
            | ok complete =>
              cases complete with
              | false =>
                simp only [Bool.false_eq_true, if_false, Prog.wp_pure, List.append_nil]
                exact .written accepts added updated fun _ _ => reported
              | true =>
                simp only [if_true, Prog.wp_bind]
                refine Prog.wp_mono (receiverVerifyCompleteFile_outcome _ _ _) ?_
                rintro t status entity' ⟨buf, verified, rfl⟩
                have active := (receiverMatchActive_ok accepts.matched).1
                refine Prog.wp_mono (receiverFinish_outcome _ _ _ active) ?_
                intro u result entity' finished
                simp only [List.nil_append, List.singleton_append]
                exact .completed accepts added updated ending.1 ending.2 reported verified finished
          · exact .written accepts added updated fun eof mode => (running ⟨eof, mode⟩).elim

/-! ## EOF -/

/-- `send_nak_for_missing_ranges`. -/
inductive NakSent (entity : Entity) : Trace → Status → Prop where
  | toomany {failed : Status} :
      rangesMissing entity.receiver.receivedRanges 0 entity.receiver.fileSize = .error failed →
      NakSent entity [] (if failed = .bufferTooSmall then .nakLimitReached else failed)
  | sent {missing : Ranges} {t : Trace} {status : Status} :
      rangesMissing entity.receiver.receivedRanges 0 entity.receiver.fileSize = .ok missing →
      Sent entity.receiver.peerEntityId (encodeNak (nakPdu entity missing) maxPduSize) t status →
      NakSent entity t status

omit [ZephyrCrc] in
theorem sendNakForMissingRanges_outcome (entity : Entity) :
    sendNakForMissingRanges.wp once
      (fun t status entity' => NakSent entity t status ∧ entity' = entity) entity := by
  simp only [sendNakForMissingRanges, Prog.wp_bind, Prog.wp_read, List.nil_append]
  cases missing : rangesMissing entity.receiver.receivedRanges 0 entity.receiver.fileSize with
  | error failed => exact ⟨.toomany missing, rfl⟩
  | ok missing' =>
    refine Prog.wp_mono (sendEncodedPduTo_outcome _ _ _) ?_
    rintro t status entity' ⟨sent, rfl⟩
    exact ⟨.sent missing sent, rfl⟩

/-- A well-formed EOF PDU addressed to this entity. -/
structure ReadsEof (entity : Entity) (pdu : Bytes) (eof : EofPdu) : Prop where
  decoded : decodeEof pdu = .ok (eof, pdu.length)
  supported : incomingHeaderIsSupported entity eof.header = true

/-- An EOF PDU of the active transaction. -/
structure AcceptsEof (entity : Entity) (pdu : Bytes) (eof : EofPdu) : Prop
    extends ReadsEof entity pdu eof where
  matched : receiverMatchActive entity eof.header = .ok

/-- The slot once an EOF PDU is taken. -/
def TransactionSlot.withEofChecksum (slot : TransactionSlot) (checksum : Nat) : TransactionSlot :=
  { slot with eofChecksum := checksum }

/-- The slot once an EOF PDU found the file incomplete. -/
def incompleteSlot (slot : TransactionSlot) (checksum : Nat) : TransactionSlot :=
  { slot with eofReceived := true, eofChecksum := checksum }

/-- The end of `receiver_handle_eof`, for an EOF without error. -/
inductive EofCompleted (fs : FilestoreOps) (eof : EofPdu) (entity : Entity) :
    Trace → Status → Entity → Prop where
  | unchecked {status result : Status} {t : Trace} {entity' : Entity} :
      rangesIsComplete entity.receiver.receivedRanges 0 eof.fileSize = .error status →
      Finished fs entity status t result entity' → EofCompleted fs eof entity t result entity'
  | asked {t u : Trace} {now : Nat} :
      rangesIsComplete entity.receiver.receivedRanges 0 eof.fileSize = .ok false →
      entity.receiver.transmissionMode = .acknowledged →
      NakSent (entity.withReceiver (incompleteSlot entity.receiver eof.fileChecksum)) t .ok →
      Clock entity u now →
      EofCompleted fs eof entity (t ++ u) .ok
        (entity.withReceiver
          (armRetry (incompleteSlot entity.receiver eof.fileChecksum).startRecovery now))
  | unasked {t u : Trace} {status result : Status} {entity' : Entity} :
      rangesIsComplete entity.receiver.receivedRanges 0 eof.fileSize = .ok false →
      entity.receiver.transmissionMode = .acknowledged →
      NakSent (entity.withReceiver (incompleteSlot entity.receiver eof.fileChecksum)) t status →
      status ≠ .ok →
      Finished fs (entity.withReceiver (incompleteSlot entity.receiver eof.fileChecksum)) status u
        result entity' →
      EofCompleted fs eof entity (t ++ u) result entity'
  | short {t : Trace} {result : Status} {entity' : Entity} :
      rangesIsComplete entity.receiver.receivedRanges 0 eof.fileSize = .ok false →
      entity.receiver.transmissionMode = .unacknowledged →
      Finished fs entity .fileSizeError t result entity' → EofCompleted fs eof entity t result entity'
  | complete {t u : Trace} {status result : Status} {buf : Bytes} {entity' : Entity} :
      rangesIsComplete entity.receiver.receivedRanges 0 eof.fileSize = .ok true →
      Verified fs entity.receiver entity.fileSegmentBuf eof.fileChecksum t status buf →
      Finished fs (entity.withBuf buf) status u result entity' →
      EofCompleted fs eof entity (t ++ u) result entity'

theorem receiverHandleEofComplete_outcome (fs : FilestoreOps) (eof : EofPdu) (entity : Entity)
    (active : entity.receiver.active = true) :
    (receiverHandleEofComplete fs eof).wp once (EofCompleted fs eof entity) entity := by
  simp only [receiverHandleEofComplete, Prog.wp_bind, Prog.wp_read, List.nil_append]
  cases reported : rangesIsComplete entity.receiver.receivedRanges 0 eof.fileSize with
  | error status =>
    refine Prog.wp_mono (receiverFinish_outcome _ _ _ active) ?_
    exact fun t result entity' finished => .unchecked reported finished
  | ok complete =>
    cases complete with
    | false =>
      simp only [Bool.not_false, if_true, Prog.wp_ite, Prog.wp_bind, wp_updateReceiver,
        List.nil_append]
      refine ⟨fun acknowledged => ?_, fun unacknowledged => ?_⟩
      · refine Prog.wp_mono (sendNakForMissingRanges_outcome _) ?_
        rintro t status entity' ⟨nak, rfl⟩
        refine ⟨fun failed => ?_, fun asked => ?_⟩
        · refine Prog.wp_mono (receiverFinish_outcome _ _ _ active) ?_
          exact fun u result entity' finished => .unasked reported acknowledged nak failed finished
        · obtain rfl := not_not.mp asked
          refine Prog.wp_mono (entityNowMs_outcome _) ?_
          rintro u now entity' ⟨clock, rfl⟩
          simp only [Prog.wp_pure, List.append_nil]
          refine .asked reported acknowledged nak ?_
          cases clock with
          | asked now set => exact .asked now set
          | none unset => exact .none unset
      · refine Prog.wp_mono (receiverFinish_outcome _ _ _ active) ?_
        exact fun t result entity' finished =>
          .short reported (TransmissionMode.eq_unacknowledged unacknowledged) finished
    | true =>
      simp only [Bool.not_true, Bool.false_eq_true, if_false, Prog.wp_bind]
      refine Prog.wp_mono (receiverVerifyCompleteFile_outcome _ _ _) ?_
      rintro t status entity' ⟨buf, verified, rfl⟩
      refine Prog.wp_mono (receiverFinish_outcome _ _ _ active) ?_
      exact fun u result entity' finished => .complete reported verified finished

inductive EofHandled (fs : FilestoreOps) (pdu : Bytes) (entity : Entity) :
    Trace → Status → Entity → Prop where
  | skipped {status : Status} : (∀ eof, ¬ AcceptsEof entity pdu eof) →
      EofHandled fs pdu entity [] status entity
  | repeated {eof : EofPdu} {t : Trace} {status : Status} : AcceptsEof entity pdu eof →
      entity.receiver.waitingForFinishedAck = true →
      Sent entity.receiver.peerEntityId
        (encodeFinished (finishedPdu entity entity.receiver.finishedStatus) maxPduSize) t status →
      EofHandled fs pdu entity t status entity
  | refused {eof : EofPdu} {t u : Trace} {sent result : Status} {entity' : Entity} :
      AcceptsEof entity pdu eof → entity.receiver.waitingForFinishedAck = false →
      (eof.conditionCode ≠ conditionNoError ∨ eof.fileSize ≠ entity.receiver.fileSize) →
      (entity.receiver.transmissionMode = .acknowledged →
        Sent entity.receiver.peerEntityId (encodeAck (ackEofPdu entity eof.conditionCode) maxPduSize)
          t sent) →
      (entity.receiver.transmissionMode = .unacknowledged → t = []) →
      Finished fs (entity.withReceiver (entity.receiver.withEofChecksum eof.fileChecksum))
        .fileSizeError u result entity' →
      EofHandled fs pdu entity (t ++ u) result entity'
  | unacknowledged {eof : EofPdu} {t : Trace} {status : Status} :
      AcceptsEof entity pdu eof → entity.receiver.waitingForFinishedAck = false →
      eof.conditionCode = conditionNoError → eof.fileSize = entity.receiver.fileSize →
      entity.receiver.transmissionMode = .acknowledged →
      Sent entity.receiver.peerEntityId (encodeAck (ackEofPdu entity eof.conditionCode) maxPduSize)
        t status →
      status ≠ .ok →
      EofHandled fs pdu entity t status
        (entity.withReceiver (entity.receiver.withEofChecksum eof.fileChecksum))
  | taken {eof : EofPdu} {t u : Trace} {result : Status} {entity' : Entity} :
      AcceptsEof entity pdu eof → entity.receiver.waitingForFinishedAck = false →
      eof.conditionCode = conditionNoError → eof.fileSize = entity.receiver.fileSize →
      (entity.receiver.transmissionMode = .acknowledged →
        Sent entity.receiver.peerEntityId (encodeAck (ackEofPdu entity eof.conditionCode) maxPduSize)
          t .ok) →
      (entity.receiver.transmissionMode = .unacknowledged → t = []) →
      EofCompleted fs eof (entity.withReceiver (entity.receiver.withEofChecksum eof.fileChecksum)) u
        result entity' →
      EofHandled fs pdu entity (t ++ u) result entity'

omit [ZephyrCrc] in
theorem sendAckEof_outcome (code : Nat) (entity : Entity) :
    (sendAckEof code).wp once
      (fun t status entity' =>
        Sent entity.receiver.peerEntityId (encodeAck (ackEofPdu entity code) maxPduSize) t status ∧
        entity' = entity) entity := by
  simp only [sendAckEof, Prog.wp_bind, Prog.wp_read, List.nil_append]
  exact sendEncodedPduTo_outcome _ _ _

theorem receiverHandleEof_outcome (fs : FilestoreOps) (pdu : Bytes) (entity : Entity) :
    (receiverHandleEof fs pdu).wp once (EofHandled fs pdu entity) entity := by
  simp only [receiverHandleEof, Prog.wp_bind, Prog.wp_read, List.nil_append]
  cases decoded : decodeEof pdu with
  | error status =>
    refine .skipped fun eof accepts => ?_
    rw [accepts.decoded] at decoded
    cases decoded
  | ok result =>
    obtain ⟨eof, consumed⟩ := result
    have agrees : ∀ eof', AcceptsEof entity pdu eof' → eof' = eof ∧ consumed = pdu.length := by
      intro eof' accepts
      have same := accepts.decoded
      rw [decoded] at same
      cases same
      exact ⟨rfl, rfl⟩
    simp only [Prog.wp_ite, Prog.wp_pure, Prog.wp_bind, wp_updateReceiver, Prog.wp_read,
      sendFinishedForReceiverStatus, List.nil_append]
    refine ⟨fun rejected => ?_, fun accepted => ⟨fun unmatched => ?_, fun matched =>
      ⟨fun waiting => ?_, fun running => ⟨fun bad => ?_, fun good => ?_⟩⟩⟩⟩
    · refine .skipped fun eof' accepts => ?_
      obtain ⟨rfl, rfl⟩ := agrees _ accepts
      have supported := accepts.supported
      simp only [supported, ne_eq, not_true_eq_false, Bool.not_true, Bool.false_eq_true, or_self]
        at rejected
    · exact .skipped fun _ accepts => unmatched ((agrees _ accepts).1 ▸ accepts.matched)
    all_goals
      rw [not_or, not_not, Bool.not_eq_true', Bool.not_eq_false] at accepted
      have accepts : AcceptsEof entity pdu eof :=
        ⟨⟨by rw [decoded, accepted.1], accepted.2⟩, not_not.mp matched⟩
      have active := (receiverMatchActive_ok accepts.matched).1
    -- the Finished PDU waits for its ACK: a repeated EOF makes the entity send it again
    · refine Prog.wp_mono (sendEncodedPduTo_outcome _ _ _) ?_
      rintro t status entity' ⟨sent, rfl⟩
      exact .repeated accepts waiting sent
    · rw [Bool.not_eq_true] at running
      -- a bad condition or size: the status of the ACK, if one is sent, is ignored, and the transaction ends
      refine ⟨fun acknowledged => ?_, fun unacknowledged => ?_⟩
      · refine Prog.wp_mono (sendAckEof_outcome _ _) ?_
        rintro t sent entity' ⟨ack, rfl⟩
        refine Prog.wp_mono (receiverFinish_outcome _ _ _ active) ?_
        intro u result entity' finished
        refine .refused accepts running bad (fun _ => ack) (fun no => ?_) finished
        rw [acknowledged] at no
        cases no
      · refine Prog.wp_mono (receiverFinish_outcome _ _ _ active) ?_
        intro u result entity' finished
        have unsent : entity.receiver.transmissionMode = .acknowledged →
            Sent entity.receiver.peerEntityId
              (encodeAck (ackEofPdu entity eof.conditionCode) maxPduSize) [] .ok :=
          fun yes => (unacknowledged yes).elim
        exact .refused accepts running bad unsent (fun _ => rfl) finished
    · rw [Bool.not_eq_true] at running
      rw [not_or, not_not, not_not] at good
      refine ⟨fun acknowledged => ?_, fun unacknowledged => ?_⟩
      · refine Prog.wp_mono (sendAckEof_outcome _ _) ?_
        rintro t sent entity' ⟨ack, rfl⟩
        simp only [List.append_nil]
        refine ⟨fun failed => .unacknowledged accepts running good.1 good.2 acknowledged ack failed,
          fun acked => ?_⟩
        obtain rfl := not_not.mp acked
        refine Prog.wp_mono (receiverHandleEofComplete_outcome _ _ _ active) ?_
        intro u result entity' completed
        refine .taken accepts running good.1 good.2 (fun _ => ack) (fun no => ?_) completed
        rw [acknowledged] at no
        cases no
      · refine Prog.wp_mono (receiverHandleEofComplete_outcome _ _ _ active) ?_
        intro u result entity' completed
        exact .taken (t := []) accepts running good.1 good.2 (fun yes => (unacknowledged yes).elim)
          (fun _ => rfl) completed

/-! ## ACK of a Finished PDU -/

/-- An ACK of a Finished PDU for the active transaction. -/
structure AcceptsAck (entity : Entity) (pdu : Bytes) (ack : AckPdu) : Prop where
  decoded : decodeAck pdu = .ok (ack, pdu.length)
  supported : incomingHeaderIsSupported entity ack.header = true
  finished : ack.acknowledgedDirective = directiveFinished
  subtype : ack.directiveSubtype = ackDirectiveSubtypeFinished
  acknowledged : ack.header.transmissionMode = .acknowledged
  matched : receiverActiveMatchesHeader entity ack.header = true

inductive AckHandled (pdu : Bytes) (entity : Entity) : Trace → Status → Entity → Prop where
  | skipped {status : Status} : (∀ ack, ¬ AcceptsAck entity pdu ack) →
      AckHandled pdu entity [] status entity
  | released {ack : AckPdu} : AcceptsAck entity pdu ack →
      AckHandled pdu entity
        (terminalEvent entity .receiver entity.receiver.id entity.receiver.finishedStatus) .ok
        (entity.withReceiver .zero)

omit [ZephyrCrc] in
theorem receiverHandleAck_outcome (pdu : Bytes) (entity : Entity) :
    (receiverHandleAck pdu).wp once (AckHandled pdu entity) entity := by
  simp only [receiverHandleAck, Prog.wp_bind, Prog.wp_read, List.nil_append]
  cases decoded : decodeAck pdu with
  | error status =>
    refine .skipped fun ack accepts => ?_
    rw [accepts.decoded] at decoded
    cases decoded
  | ok result =>
    obtain ⟨ack, consumed⟩ := result
    have agrees : ∀ ack', AcceptsAck entity pdu ack' → ack' = ack ∧ consumed = pdu.length := by
      intro ack' accepts
      have same := accepts.decoded
      rw [decoded] at same
      cases same
      exact ⟨rfl, rfl⟩
    simp only [Prog.wp_ite, Prog.wp_pure, Prog.wp_bind, wp_releaseReceiverTerminal, List.append_nil]
    refine ⟨fun rejected => ?_, fun accepted => ⟨fun other => ?_, fun kind =>
      ⟨fun unmatched => ?_, fun matched => ?_⟩⟩⟩
    · refine .skipped fun ack' accepts => ?_
      obtain ⟨rfl, rfl⟩ := agrees _ accepts
      have supported := accepts.supported
      simp only [supported, ne_eq, not_true_eq_false, Bool.not_true, Bool.false_eq_true, or_self]
        at rejected
    · refine .skipped fun ack' accepts => ?_
      obtain ⟨rfl, rfl⟩ := agrees _ accepts
      rcases other with other | other | other
      · exact other accepts.finished
      · exact other accepts.subtype
      · exact other accepts.acknowledged
    · refine .skipped fun ack' accepts => ?_
      obtain ⟨rfl, rfl⟩ := agrees _ accepts
      rw [Bool.not_eq_true', accepts.matched] at unmatched
      cases unmatched
    · rw [not_or, not_not, Bool.not_eq_true', Bool.not_eq_false] at accepted
      rw [not_or, not_or, not_not, not_not, not_not] at kind
      rw [Bool.not_eq_true', Bool.not_eq_false] at matched
      exact .released ⟨by rw [decoded, accepted.1], accepted.2, kind.1, kind.2.1, kind.2.2, matched⟩

/-! ## One PDU -/

/-- One handler of the receiver.  Only `receiver_handle_eof` is given an EOF PDU. -/
inductive Handled (fs : FilestoreOps) (pdu : Bytes) (entity : Entity) :
    Trace → Status → Entity → Prop where
  | ignored {status : Status} : (∀ eof, ¬ ReadsEof entity pdu eof) →
      Handled fs pdu entity [] status entity
  | metadata {t : Trace} {status : Status} {entity' : Entity} :
      (∀ eof, ¬ ReadsEof entity pdu eof) → MetadataHandled fs pdu entity t status entity' →
      Handled fs pdu entity t status entity'
  | filedata {t : Trace} {status : Status} {entity' : Entity} :
      (∀ eof, ¬ ReadsEof entity pdu eof) → FiledataHandled fs pdu entity t status entity' →
      Handled fs pdu entity t status entity'
  | eof {t : Trace} {status : Status} {entity' : Entity} :
      EofHandled fs pdu entity t status entity' → Handled fs pdu entity t status entity'
  | ack {t : Trace} {status : Status} {entity' : Entity} :
      (∀ eof, ¬ ReadsEof entity pdu eof) → AckHandled pdu entity t status entity' →
      Handled fs pdu entity t status entity'

/-- `receive_pdu` for the receiver: a handler, and the release when it failed. -/
inductive ReceiverStep (fs : FilestoreOps) (pdu : Bytes) (entity : Entity) :
    Trace → Status → Entity → Prop where
  | unhandled {status : Status} : (∀ eof, ¬ ReadsEof entity pdu eof) →
      ReceiverStep fs pdu entity [] status entity
  | kept {header : PduHeader} {headerLen : Nat} {t : Trace} {status : Status} {entity' : Entity} :
      decodeHeader pdu = .ok (header, headerLen) → incomingHeaderIsSupported entity header = true →
      Handled fs pdu entity t status entity' →
      (status = .ok ∨ receiverActiveMatchesHeader entity' header = false) →
      ReceiverStep fs pdu entity t status entity'
  | failed {header : PduHeader} {headerLen : Nat} {t u : Trace} {status : Status}
      {entity' : Entity} :
      decodeHeader pdu = .ok (header, headerLen) → incomingHeaderIsSupported entity header = true →
      Handled fs pdu entity t status entity' → status ≠ .ok →
      receiverActiveMatchesHeader entity' header = true → Dropped entity' status u →
      ReceiverStep fs pdu entity (t ++ u) status (entity'.withReceiver .zero)

omit [ZephyrCrc] in
/-- The directive decides whether a PDU is an EOF PDU. -/
theorem not_readsEof {entity : Entity} {pdu : Bytes} {header : PduHeader} {headerLen : Nat}
    (decoded : decodeHeader pdu = .ok (header, headerLen))
    (other : header.pduType = .fileData ∨ byteAt pdu headerLen ≠ directiveEof) (eof : EofPdu) :
    ¬ ReadsEof entity pdu eof := by
  intro reads
  obtain ⟨len, header', kind, directive⟩ := decodeEof_header reads.decoded
  rw [decoded] at header'
  cases header'
  rcases other with filedata | directive'
  · rw [kind] at filedata
    cases filedata
  · exact directive' directive

omit [Kconfig] [ZephyrCrc] in
theorem failReceiverOnError_outcome (header : PduHeader) (status : Status) (entity : Entity) :
    (failReceiverOnError header status).wp once
      (fun t result entity' => result = status ∧
        ((status = .ok ∨ receiverActiveMatchesHeader entity header = false) ∧ t = [] ∧
            entity' = entity ∨
          status ≠ .ok ∧ receiverActiveMatchesHeader entity header = true ∧
            Dropped entity status t ∧ entity' = entity.withReceiver .zero)) entity := by
  simp only [failReceiverOnError, Prog.wp_bind, Prog.wp_read, Prog.wp_ite, Prog.wp_pure,
    List.nil_append]
  refine ⟨fun failing => ?_, fun fine => ?_⟩
  · refine Prog.wp_mono (failReceiverActiveTransaction_outcome _ _) ?_
    rintro t _ entity' ⟨dropped, rfl⟩
    rw [List.append_nil]
    exact ⟨trivial, .inr ⟨failing.1, failing.2, dropped, rfl⟩⟩
  · rw [not_and_or, not_not, Bool.not_eq_true] at fine
    exact ⟨trivial, .inl ⟨fine, trivial, trivial⟩⟩

theorem receivePduTowardReceiver_outcome (fs : FilestoreOps) (header : PduHeader) (headerLen : Nat)
    (pdu : Bytes) (entity : Entity) (decoded : decodeHeader pdu = .ok (header, headerLen))
    (supported : incomingHeaderIsSupported entity header = true) :
    (receivePduTowardReceiver fs header headerLen pdu).wp once (ReceiverStep fs pdu entity)
      entity := by
  have settle : ∀ (handler : EntityM Status),
      handler.wp once (Handled fs pdu entity) entity →
      (handler >>= fun status => failReceiverOnError header status).wp once
        (ReceiverStep fs pdu entity) entity := by
    intro handler handled
    rw [Prog.wp_bind]
    refine Prog.wp_mono handled ?_
    intro t status entity' handled
    refine Prog.wp_mono (failReceiverOnError_outcome header status entity') ?_
    rintro u result entity'' ⟨rfl, ⟨fine, rfl, rfl⟩ | ⟨failing, matched, dropped, rfl⟩⟩
    · rw [List.append_nil]
      exact .kept decoded supported handled fine
    · exact .failed decoded supported handled failing matched dropped
  rw [receivePduTowardReceiver, Prog.wp_ite]
  refine ⟨fun filedata => settle _ ?_, fun directive => ?_⟩
  · exact Prog.wp_mono (receiverHandleFiledata_outcome fs pdu entity)
      fun _ _ _ handled => .filedata (not_readsEof decoded (.inl filedata)) handled
  · rw [Prog.wp_ite]
    refine ⟨fun short => .unhandled fun eof reads => ?_, fun _ => settle _ ?_⟩
    · obtain ⟨len, header', sized, fits⟩ := decodeEof_fits reads.decoded
      rw [decoded] at header'
      cases header'
      rw [eofDataLen] at sized
      omega
    simp only [receiverHandleDirective, Prog.wp_ite, Prog.wp_pure]
    refine ⟨fun kind => ?_, fun _ => ⟨fun _ => ?_, fun kind => ⟨fun _ => ?_, fun _ => ?_⟩⟩⟩
    · exact Prog.wp_mono (receiverHandleMetadata_outcome fs pdu entity)
        fun _ _ _ handled => .metadata (not_readsEof decoded (.inr (by rw [kind]; decide))) handled
    · exact Prog.wp_mono (receiverHandleEof_outcome fs pdu entity)
        fun _ _ _ handled => .eof handled
    · exact Prog.wp_mono (receiverHandleAck_outcome pdu entity)
        fun _ _ _ handled => .ack (not_readsEof decoded (.inr kind)) handled
    · exact .ignored (not_readsEof decoded (.inr kind))

/-! ## Polling -/

/-- The receiver's part of `poll`, one of the two retry loops. -/
inductive ReceiverPolled (entity : Entity) (now : Nat) : Trace → Entity → Prop where
  | idle : ReceiverPolled entity now [] entity
  | askedAgain {t : Trace} : entity.receiver.active = true →
      entity.receiver.transmissionMode = .acknowledged → entity.receiver.recoveryPending = true →
      NakSent entity t .ok →
      ReceiverPolled entity now t
        (entity.withReceiver (armRetry entity.receiver.countRetry now))
  | recoveryEnded {t u : Trace} {status : Status} : entity.receiver.active = true →
      entity.receiver.transmissionMode = .acknowledged → entity.receiver.recoveryPending = true →
      (t = [] ∨ NakSent entity t status) → status ≠ .ok → Discarded entity.receiver u →
      ReceiverPolled entity now
        (t ++ (u ++ terminalEvent entity .receiver entity.receiver.id status))
        (entity.withReceiver .zero)
  | reportedAgain {t : Trace} : entity.receiver.active = true →
      entity.receiver.transmissionMode = .acknowledged →
      entity.receiver.waitingForFinishedAck = true →
      Sent entity.receiver.peerEntityId
        (encodeFinished (finishedPdu entity entity.receiver.finishedStatus) maxPduSize) t .ok →
      ReceiverPolled entity now t
        (entity.withReceiver (armRetry entity.receiver.countRetry now))
  | waitEnded {t : Trace} {status : Status} : entity.receiver.active = true →
      entity.receiver.transmissionMode = .acknowledged →
      entity.receiver.waitingForFinishedAck = true →
      (t = [] ∨ Sent entity.receiver.peerEntityId
        (encodeFinished (finishedPdu entity entity.receiver.finishedStatus) maxPduSize) t status) →
      status ≠ .ok →
      ReceiverPolled entity now (t ++ terminalEvent entity .receiver entity.receiver.id status)
        (entity.withReceiver .zero)

omit [ZephyrCrc] in
theorem pollRecovery_outcome (now : Nat) (entity : Entity) :
    (pollRecovery now).wp once (fun t _ entity' => ReceiverPolled entity now t entity') entity := by
  simp only [pollRecovery, Prog.wp_bind, Prog.wp_read, Prog.wp_ite, Prog.wp_pure,
    wp_updateReceiver, wp_releaseReceiverTerminal, Bool.and_eq_true, beq_iff_eq, List.nil_append]
  refine ⟨?_, fun _ => .idle⟩
  rintro ⟨⟨⟨active, acknowledged⟩, recovery⟩, due⟩
  refine ⟨fun spent => ?_, fun more => ?_⟩
  · refine Prog.wp_mono (closeDiscardReceiver_outcome entity) ?_
    rintro t _ entity' ⟨discarded, rfl | rfl⟩
    · exact .recoveryEnded (t := []) active acknowledged recovery (.inl rfl) (by simp) discarded
    · exact .recoveryEnded (t := []) active acknowledged recovery (.inl rfl) (by simp) discarded
  · refine Prog.wp_mono (sendNakForMissingRanges_outcome _) ?_
    rintro t status entity' ⟨nak, rfl⟩
    refine ⟨fun ok => ?_, fun failed => ?_⟩
    · subst ok
      rw [List.append_nil]
      exact .askedAgain active acknowledged recovery nak
    · refine Prog.wp_mono (closeDiscardReceiver_outcome _) ?_
      rintro u _ entity'' ⟨discarded, rfl | rfl⟩
      · exact .recoveryEnded active acknowledged recovery (.inr nak) failed discarded
      · exact .recoveryEnded active acknowledged recovery (.inr nak) failed discarded

omit [ZephyrCrc] in
theorem pollFinished_outcome (now : Nat) (entity : Entity) :
    (pollFinished now).wp once (fun t _ entity' => ReceiverPolled entity now t entity') entity := by
  simp only [pollFinished, sendFinishedForReceiverStatus, Prog.wp_bind, Prog.wp_read, Prog.wp_ite,
    Prog.wp_pure, wp_updateReceiver, wp_releaseReceiverTerminal, Bool.and_eq_true, beq_iff_eq,
    List.nil_append]
  refine ⟨?_, fun _ => .idle⟩
  rintro ⟨⟨⟨active, acknowledged⟩, waiting⟩, due⟩
  refine ⟨fun spent => ?_, fun more => ?_⟩
  · exact .waitEnded (t := []) active acknowledged waiting (.inl rfl) (by simp)
  · refine Prog.wp_mono (sendEncodedPduTo_outcome _ _ _) ?_
    rintro t status entity' ⟨sent, rfl⟩
    refine ⟨fun ok => ?_, fun failed => ?_⟩
    · subst ok
      rw [List.append_nil]
      exact .reportedAgain active acknowledged waiting sent
    · exact .waitEnded active acknowledged waiting (.inr sent) failed

end ZephyrCcsds.Cfdp
