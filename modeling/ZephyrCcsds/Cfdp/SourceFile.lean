import ZephyrCcsds.Cfdp.FileTransfer

/-! # What a sender says about its files

Every file that `send_file` opened is a `Put`.  The Metadata and File Data PDUs of a sender `Tell` of one: its size,
the path it goes to and octets of it, at the offset where they stand.  The sender reports COMPLETE only for a file
whose receiver has reported that it is stored.

* `Source.answers` — the filestore that holds the file to send.
* `Tells`, `Reports` — what a PDU says that a party sends about its own files, and about those of its peer.
* `Spoken` — a trace of the sender: what it sends is true, and so is what it completes.
* `Sending` — the sender slot between two calls.
-/

namespace ZephyrCcsds.Cfdp

open Callback Bytes

/-- A file given to `send_file`: the id of its transaction, the path that is announced for it and its octets -/
structure Put where
  id : TransactionId
  destination : Bytes
  acknowledged : Bool
  octets : Bytes
  deriving DecidableEq, Repr

/-! ## PDUs -/

section Pdus

variable [Kconfig]

/-- What a PDU says about the files that its sender has put -/
structure Tells (puts : List Put) (pdu : Bytes) : Prop where
  metadata : ∀ {metadata consumed}, decodeMetadata pdu = .ok (metadata, consumed) →
    ∃ put ∈ puts, put.id = transactionIdFromHeader metadata.header ∧
      put.destination = cString metadata.destinationFilename ∧ put.octets.length = metadata.fileSize
  filedata : ∀ {filedata consumed}, decodeFiledata pdu = .ok (filedata, consumed) →
    ∃ put ∈ puts, put.id = transactionIdFromHeader filedata.header ∧
      filedata.data = slice put.octets filedata.offset filedata.data.length

/-- A transaction whose file is stored, if its receiver was to acknowledge that -/
def Completed (puts : List Put) (stored : List (Bytes × Bytes)) (id : TransactionId) : Prop :=
  ∃ put ∈ puts, put.id = id ∧ (put.acknowledged = true → (put.destination, put.octets) ∈ stored)

/-- A transaction whose file is stored -/
def Deposited (puts : List Put) (stored : List (Bytes × Bytes)) (id : TransactionId) : Prop :=
  ∃ put ∈ puts, put.id = id ∧ (put.destination, put.octets) ∈ stored

/-- What a PDU says about the files that its sender has stored -/
def Reports (puts : List Put) (stored : List (Bytes × Bytes)) (pdu : Bytes) : Prop :=
  ∀ finished consumed, decodeFinished pdu = .ok (finished, consumed) → statusFromFinished finished = .ok →
    Deposited puts stored (transactionIdFromHeader finished.header)

variable {puts puts' : List Put} {stored stored' : List (Bytes × Bytes)} {pdu : Bytes} {entity : Entity}

theorem Tells.mono (tells : Tells puts pdu) (more : puts ⊆ puts') : Tells puts' pdu where
  metadata decoded := by
    obtain ⟨put, mem, said⟩ := tells.metadata decoded
    exact ⟨put, more mem, said⟩
  filedata decoded := by
    obtain ⟨put, mem, said⟩ := tells.filedata decoded
    exact ⟨put, more mem, said⟩

omit [Kconfig] in
theorem Completed.mono {id : TransactionId} (completed : Completed puts stored id) (more : puts ⊆ puts')
    (later : stored ⊆ stored') : Completed puts' stored' id := by
  obtain ⟨put, mem, same, delivered⟩ := completed
  exact ⟨put, more mem, same, fun acknowledged => later (delivered acknowledged)⟩

theorem Reports.mono (reports : Reports puts stored pdu) (more : puts ⊆ puts') (later : stored ⊆ stored') :
    Reports puts' stored' pdu := by
  intro finished consumed decoded ok
  obtain ⟨put, mem, same, delivered⟩ := reports _ _ decoded ok
  exact ⟨put, more mem, same, later delivered⟩

/-- A PDU that is no Finished PDU reports nothing. -/
theorem reports_of_none (none : reportOf pdu = none) : Reports puts stored pdu := by
  intro finished consumed decoded
  rw [reportOf, decoded] at none
  cases none

/-- A file directive is no File Data PDU. -/
theorem IsDirective.not_filedata {header : PduHeader} {directive : Nat} {result : FiledataPdu × Nat}
    (isDirective : IsDirective pdu header directive) : decodeFiledata pdu ≠ .ok result := by
  intro decodes
  obtain ⟨len, decoded, kind, _⟩ := isDirective
  obtain ⟨len', decoded', kind'⟩ := decodeFiledata_header decodes
  rw [decoded] at decoded'
  cases decoded'
  rw [kind] at kind'
  cases kind'

/-- A directive other than Metadata tells nothing of the file. -/
theorem tells_of_directive {header : PduHeader} {directive : Nat} (isDirective : IsDirective pdu header directive)
    (other : directive ≠ directiveMetadata) : Tells puts pdu := by
  constructor
  · intro metadata consumed decodes
    obtain ⟨len, decoded, _, octet⟩ := isDirective
    obtain ⟨len', decoded', _, octet'⟩ := decodeMetadata_header decodes
    rw [decoded] at decoded'
    cases decoded'
    exact (other (octet.symm.trans octet')).elim
  · exact fun decodes => (isDirective.not_filedata decodes).elim

/-- What the sender sends: it tells of its own files and makes no report. -/
structure Speaks (puts : List Put) (pdu : Bytes) : Prop where
  tells : Tells puts pdu
  silent : reportOf pdu = none

theorem speaks_eof {checksum fileSize : Nat} (bounded : entity.Bounded)
    (encoded : encodeEof (eofPdu entity checksum fileSize) maxPduSize = .ok pdu) : Speaks puts pdu where
  tells := tells_of_directive (encodeEof_isDirective encoded (bounded.senderHeader _)) (by decide)
  silent := SenderPdu.reportOf (.eof encoded) bounded

theorem speaks_ackFinished {code : Nat} (bounded : entity.Bounded)
    (encoded : encodeAck (ackFinishedPdu entity code) maxPduSize = .ok pdu) : Speaks puts pdu where
  tells := tells_of_directive (decodeAck_header (decodeAck_encodeAck encoded (bounded.senderHeader _))) (by decide)
  silent := SenderPdu.reportOf (.ack encoded) bounded

end Pdus

/-! ## The file to send -/

/-- The file that the sender slot holds open -/
structure Source where
  handle : Handle
  octets : Bytes
  deriving DecidableEq, Repr

/-- What a filestore answers about the file: it opens it with its size, and a read that succeeds gives its octets.
It may refuse, and it may give fewer octets than were asked for. -/
def Source.answers (source : Source) : Obs → Prop
  | ⟨.openRead _ _, reply⟩ =>
    reply.rc = 0 → reply.handle = source.handle ∧ reply.size.toNat = source.octets.length
  | ⟨.read _ handle offset len, reply⟩ =>
    handle = source.handle → reply.Good len → offset + reply.nread ≤ source.octets.length →
      reply.data.take reply.nread = slice source.octets offset reply.nread
  | _ => True

/-- A read that the entity accepts puts octets of the file at the front of the buffer. -/
theorem Source.segment {source : Source} {fs : FilestoreOps} {offset len : Nat} {reply : ReadReply} (buf : Bytes)
    (answers : source.answers ⟨.read fs source.handle offset len, reply⟩) (good : reply.Good len)
    (inside : offset + reply.nread ≤ source.octets.length) :
    segmentOctets buf len reply = slice source.octets offset reply.nread := by
  have octets := answers rfl good inside
  rw [segmentOctets, take_fillBuffer _ _ good.le (length_of_take_slice octets inside)]
  exact octets

/-- The sender slot is on a file that was put. -/
structure Offers (puts : List Put) (source : Source) (slot : TransactionSlot) (put : Put) : Prop where
  mem : put ∈ puts
  id : put.id = slot.id
  octets : put.octets = source.octets
  size : slot.fileSize = source.octets.length
  handle : slot.fileHandle = source.handle
  small : source.octets.length ≤ uint32Max

/-! ## Traces -/

section Traces

variable [Kconfig]

/-- A callback of the sender: what it sends and completes is true, and it leaves the temporary file alone. -/
def Speech (puts : List Put) (stored : List (Bytes × Bytes)) : Obs → Prop
  | ⟨.sendPdu _ pdu, _⟩ => Speaks puts pdu
  | ⟨.event role type id _, _⟩ => role = .sender ∧ (type = .complete → Completed puts stored id)
  | ⟨.openWriteTmp _ _, _⟩ => False
  | ⟨.write _ _ _ _, _⟩ => False
  | ⟨.commitTmp _ _, _⟩ => False
  | ⟨.discardTmp _ _, _⟩ => False
  | _ => True

abbrev Spoken (puts : List Put) (stored : List (Bytes × Bytes)) (t : Trace) : Prop :=
  ∀ obs ∈ t, Speech puts stored obs

variable {puts : List Put} {stored : List (Bytes × Bytes)} {source : Source} {put : Put} {entity entity' : Entity}
  {t u : Trace} {status : Status} {fs : FilestoreOps}

theorem Spoken.nil : Spoken puts stored [] := fun _ mem => by cases mem

theorem Spoken.append (first : Spoken puts stored t) (rest : Spoken puts stored u) : Spoken puts stored (t ++ u) := by
  intro obs mem
  rcases List.mem_append.mp mem with front | back
  · exact first obs front
  · exact rest obs back

theorem Spoken.cons {obs : Obs} (head : Speech puts stored obs) (rest : Spoken puts stored t) :
    Spoken puts stored (obs :: t) := by
  intro other mem
  rcases List.mem_cons.mp mem with rfl | back
  · exact head
  · exact rest other back

theorem Sent.spoken {dest : Nat} {encoded : Except Status Bytes} (sent : Sent dest encoded t status)
    (speaks : ∀ pdu, encoded = .ok pdu → Speaks puts pdu) : Spoken puts stored t := by
  cases sent with
  | refused => exact .nil
  | sent rc done => exact .cons (speaks _ done) .nil

theorem HandleClosed.spoken {slot : TransactionSlot} (closed : HandleClosed slot t) : Spoken puts stored t := by
  intro obs mem
  obtain ⟨fs, rc, _, rfl⟩ := closed.eq_close obs mem
  trivial

theorem terminalEvent_spoken {id : TransactionId} (delivered : status = .ok → Completed puts stored id) :
    Spoken puts stored (terminalEvent entity .sender id status) := by
  unfold terminalEvent
  split
  · refine .cons ⟨rfl, fun complete => delivered ?_⟩ .nil
    by_contra failed
    rw [terminalEventType, if_neg failed] at complete
    cases complete
  · exact .nil

theorem SenderFailed.spoken (failed : SenderFailed entity status t)
    (delivered : status = .ok → Completed puts stored entity.sender.id) : Spoken puts stored t := by
  obtain ⟨closed⟩ := failed
  exact closed.spoken.append (terminalEvent_spoken delivered)

theorem SenderReleased.spoken (released : SenderReleased entity status t)
    (delivered : status = .ok → Completed puts stored entity.sender.id) : Spoken puts stored t := by
  obtain ⟨closed⟩ := released
  exact (terminalEvent_spoken delivered).append closed.spoken

theorem Clock.spoken {now : Nat} (clock : Clock entity t now) : Spoken puts stored t := by
  cases clock with
  | asked => exact .cons trivial .nil
  | none => exact .nil

/-! ### File data -/

/-- A File Data PDU with octets of the file -/
theorem Offers.speaks (sends : Offers puts source entity.sender put) (bounded : entity.Bounded) {offset len : Nat}
    (inside : offset + len ≤ source.octets.length) {pdu : Bytes}
    (encoded : encodeFiledata (filedataPdu entity offset (slice source.octets offset len)) maxPduSize = .ok pdu) :
    Speaks puts pdu where
  tells := by
    have small := sends.small
    have decoded := decodeFiledata_encodeFiledata encoded (bounded.senderHeader _)
      (show offset ≤ uint32Max by omega)
    constructor
    · exact fun decodes => ((decodeMetadata_header decodes).not_filedata decoded).elim
    · intro filedata consumed decodes
      rw [decoded] at decodes
      cases decodes
      refine ⟨put, sends.mem, sends.id, ?_⟩
      show slice source.octets offset len =
        slice put.octets offset (slice source.octets offset len).length
      rw [slice_length_of_le inside, sends.octets]
  silent := SenderPdu.reportOf (.filedata encoded) bounded

/-- The octets that one turn of a loop sends -/
theorem Offers.segment (sends : Offers puts source entity.sender put) (bounded : entity.Bounded) {stop offset : Nat}
    {buf : Bytes} {reply : ReadReply} (more : offset < stop) (inside : stop ≤ source.octets.length)
    (good : reply.Good (segmentLen stop offset))
    (answers : source.answers ⟨.read fs source.handle offset (segmentLen stop offset), reply⟩)
    (sent : FiledataSent entity offset (segmentOctets buf (segmentLen stop offset) reply) t status) :
    Spoken puts stored t := by
  have le := good.le
  have short : segmentLen stop offset ≤ stop - offset := Nat.min_le_left _ _
  have fits : offset + reply.nread ≤ source.octets.length := by omega
  rw [FiledataSent, Source.segment buf answers good fits] at sent
  exact sent.spoken fun _ encoded => sends.speaks bounded fits encoded

theorem SegmentsSent.spoken {stop offset : Nat} {buf buf' : Bytes}
    (sent : SegmentsSent fs entity stop offset buf t status buf') (sends : Offers puts source entity.sender put)
    (bounded : entity.Bounded) (inside : stop ≤ source.octets.length) (answers : ∀ obs ∈ t, source.answers obs) :
    Spoken puts stored t := by
  induction sent with
  | done => exact .nil
  | unread => exact .cons trivial .nil
  | unsent more good segment =>
    have first := answers _ List.mem_cons_self
    rw [sends.handle] at first
    exact .cons trivial (sends.segment bounded more inside good first segment)
  | turn more good segment _ ih =>
    have first := answers _ List.mem_cons_self
    rw [sends.handle] at first
    refine .cons trivial (Spoken.append (sends.segment bounded more inside good first segment) (ih ?_))
    exact fun obs mem => answers obs (List.mem_cons_of_mem _ (List.mem_append_right _ mem))

theorem RangesSent.spoken {ranges : List NakRange} {buf buf' : Bytes}
    (sent : RangesSent fs entity ranges buf t status buf') (sends : Offers puts source entity.sender put)
    (bounded : entity.Bounded) (answers : ∀ obs ∈ t, source.answers obs) : Spoken puts stored t := by
  induction sent with
  | done | outside => exact .nil
  | failed inside segments => exact segments.spoken sends bounded (sends.size ▸ inside) answers
  | next inside segments _ ih =>
    exact (segments.spoken sends bounded (sends.size ▸ inside)
      (fun obs mem => answers obs (List.mem_append_left _ mem))).append
      (ih fun obs mem => answers obs (List.mem_append_right _ mem))

theorem FileSent.spoken [ZephyrCrc] {offset : Nat} {state : ChecksumState} {buf buf' : Bytes}
    {result : Except Status ChecksumState}
    (sent : FileSent fs entity source.handle source.octets.length state offset buf t result buf')
    (sends : Offers puts source entity.sender put) (bounded : entity.Bounded)
    (answers : ∀ obs ∈ t, source.answers obs) : Spoken puts stored t := by
  generalize size : source.octets.length = fileSize at sent
  induction sent with
  | done => exact .nil
  | unread => exact .cons trivial .nil
  | unsent more good segment | unsummed more good segment =>
    exact .cons trivial (sends.segment bounded more size.ge good (answers _ List.mem_cons_self) segment)
  | turn more good segment _ _ ih =>
    refine .cons trivial (Spoken.append
      (sends.segment bounded more size.ge good (answers _ List.mem_cons_self) segment) (ih ?_))
    exact fun obs mem => answers obs (List.mem_cons_of_mem _ (List.mem_append_right _ mem))

theorem FileSent.ne_error_ok [ZephyrCrc] {handle : Handle} {fileSize offset : Nat} {state : ChecksumState}
    {buf buf' : Bytes} {result : Except Status ChecksumState}
    (sent : FileSent fs entity handle fileSize state offset buf t result buf') : result ≠ .error .ok := by
  induction sent with
  | done => simp
  | unread _ _ failed | unsent _ _ _ failed => simpa using failed
  | unsummed _ _ _ failed =>
    intro same
    rw [Except.error.inj same] at failed
    exact checksumUpdate_ne_error_ok _ _ _ failed
  | turn _ _ _ _ _ ih => exact ih

end Traces

/-! ## The sender slot -/

/-- The sender slot between two calls, none of which was re-entered -/
structure Sending (puts : List Put) (source : Source) (slot : TransactionSlot) : Prop where
  unfinished : slot.finishedReceived = false
  mode : slot.active = true → slot.transmissionMode = .acknowledged
  sends : slot.active = true → ∃ put, Offers puts source slot put

theorem sending_zero (puts : List Put) (source : Source) : Sending puts source .zero where
  unfinished := rfl
  mode no := by cases no
  sends no := by cases no

section Handlers

variable [Kconfig] {puts : List Put} {stored : List (Bytes × Bytes)} {source : Source} {entity entity' : Entity}
  {t : Trace} {status : Status} {pdu : Bytes}

omit [Kconfig] in
/-- Counting and arming leave the file of a slot as it is. -/
theorem Sending.congr {slot slot' : TransactionSlot} (sending : Sending puts source slot)
    (active : slot'.active = slot.active) (unfinished : slot'.finishedReceived = slot.finishedReceived)
    (mode : slot'.transmissionMode = slot.transmissionMode) (id : slot'.id = slot.id)
    (size : slot'.fileSize = slot.fileSize) (handle : slot'.fileHandle = slot.fileHandle) :
    Sending puts source slot' where
  unfinished := unfinished.trans sending.unfinished
  mode yes := mode.trans (sending.mode (active ▸ yes))
  sends yes := by
    obtain ⟨put, sends⟩ := sending.sends (active ▸ yes)
    exact ⟨put, sends.mem, sends.id.trans id.symm, sends.octets, size.trans sends.size,
      handle.trans sends.handle, sends.small⟩

theorem NakAnswered.spoken {fs : FilestoreOps} {nak : NakPdu} {put : Put}
    (answered : NakAnswered fs nak entity t status entity') (sends : Offers puts source entity.sender put)
    (bounded : entity.Bounded) (answers : ∀ obs ∈ t, source.answers obs) : Spoken puts stored t := by
  have counted : Offers puts source (entity.withSender entity.sender.countNak).sender put := { sends with }
  have bounded' : (entity.withSender entity.sender.countNak).Bounded :=
    bounded.withSender (bounded.sender.congr rfl rfl)
  have eof : ∀ {u : Trace} {status : Status}, EofSent entity u status → Spoken puts stored u :=
    fun sent => sent.spoken fun _ encoded => speaks_eof bounded encoded
  cases answered with
  | refused _ failing failed => exact failed.spoken fun ok => (failing ok).elim
  | unsent _ sent failing failed =>
    exact (sent.spoken counted bounded' fun obs mem => answers obs (List.mem_append_left _ mem)).append
      (failed.spoken fun ok => (failing ok).elim)
  | unended _ sent ended failing failed =>
    exact (sent.spoken counted bounded' fun obs mem => answers obs (List.mem_append_left _ mem)).append
      ((eof ended).append (failed.spoken fun ok => (failing ok).elim))
  | answered _ sent ended =>
    exact (sent.spoken counted bounded' fun obs mem => answers obs (List.mem_append_left _ mem)).append (eof ended)

/-- One PDU: the sender completes its transaction only on the report of the receiver. -/
theorem SenderHandled.spoken (handled : SenderHandled pdu entity t status entity')
    (sending : Sending puts source entity.sender) (bounded : entity.Bounded) (reports : Reports puts stored pdu)
    (answers : entity.sender.fileHandleOpen = true → ∀ obs ∈ t, source.answers obs) :
    Spoken puts stored t := by
  cases handled with
  | ignored => exact .nil
  | finished handled =>
    have acked : ∀ {code : Nat} {u : Trace} {status : Status}, AckFinishedSent entity code u status →
        Spoken puts stored u := fun sent => sent.spoken fun _ encoded => speaks_ackFinished bounded encoded
    cases handled with
    | skipped | recorded => exact .nil
    | unacknowledged _ _ sent failing failed =>
      exact (acked sent).append (failed.spoken fun ok => (failing ok).elim)
    | acknowledged accepts _ sent released =>
      refine (acked sent).append (released.spoken fun ok => ?_)
      obtain ⟨put, mem, same, delivered⟩ := reports _ _ accepts.decoded ok
      have matched := accepts.matched
      simp only [senderActiveMatchesHeader, Bool.and_eq_true, beq_iff_eq] at matched
      exact ⟨put, mem, same.trans matched.2.symm, fun _ => delivered⟩
  | nak handled =>
    cases handled with
    | skipped => exact .nil
    | unreadable _ _ failing failed => exact failed.spoken fun ok => (failing ok).elim
    | answered accepts readable answered =>
      have matched := accepts.matched
      rw [senderActiveMatchesHeader, Bool.and_eq_true] at matched
      obtain ⟨put, sends⟩ := sending.sends matched.1
      exact answered.spoken sends bounded (answers readable.isOpen)

theorem SenderHandled.sending (handled : SenderHandled pdu entity t status entity')
    (sending : Sending puts source entity.sender) : Sending puts source entity'.sender := by
  cases handled with
  | ignored => exact sending
  | finished handled =>
    cases handled with
    | skipped => exact sending
    | recorded accepts mode =>
      -- an active slot is in acknowledged mode once `send_file` has returned
      have matched := accepts.matched
      rw [senderActiveMatchesHeader, Bool.and_eq_true] at matched
      rw [sending.mode matched.1] at mode
      cases mode
    | unacknowledged | acknowledged => exact sending_zero _ _
  | nak handled =>
    cases handled with
    | skipped => exact sending
    | unreadable => exact sending_zero _ _
    | answered _ _ answered =>
      cases answered with
      | refused | unsent | unended => exact sending_zero _ _
      | answered => exact sending.congr rfl rfl rfl rfl rfl rfl

theorem SenderStep.spoken (step : SenderStep pdu entity t status entity')
    (sending : Sending puts source entity.sender) (bounded : entity.Bounded) (reports : Reports puts stored pdu)
    (answers : entity.sender.fileHandleOpen = true → ∀ obs ∈ t, source.answers obs) :
    Spoken puts stored t ∧ Sending puts source entity'.sender := by
  cases step with
  | unhandled => exact ⟨.nil, sending⟩
  | kept _ _ handled => exact ⟨handled.spoken sending bounded reports answers, handled.sending sending⟩
  | failed _ _ handled failing _ released =>
    refine ⟨?_, sending_zero _ _⟩
    refine (handled.spoken sending bounded reports fun isOpen obs mem =>
      answers isOpen obs (List.mem_append_left _ mem)).append ?_
    exact released.spoken fun ok => (failing ok).elim

theorem SenderPolled.spoken {now : Nat} (polled : SenderPolled entity now t entity')
    (sending : Sending puts source entity.sender) (bounded : entity.Bounded) :
    Spoken puts stored t ∧ Sending puts source entity'.sender := by
  have eof : ∀ {u : Trace} {status : Status}, EofSent entity u status → Spoken puts stored u :=
    fun sent => sent.spoken fun _ encoded => speaks_eof bounded encoded
  cases polled with
  | idle => exact ⟨.nil, sending⟩
  | spent _ _ failed =>
    refine ⟨failed.spoken fun no => ?_, sending_zero _ _⟩
    cases no
  | unsent _ _ sent failing failed =>
    exact ⟨(eof sent).append (failed.spoken fun ok => (failing ok).elim), sending_zero _ _⟩
  | repeated _ _ sent => exact ⟨eof sent, sending.congr rfl rfl rfl rfl rfl rfl⟩

end Handlers

/-! ## A new file -/

section SendFile

variable [Kconfig] [ZephyrCrc] {puts : List Put} {stored : List (Bytes × Bytes)} {source : Source}
  {entity entity' : Entity} {t : Trace} {status : Status} {fs : FilestoreOps} {request : PutRequest}

/-- The transfer of an opened file.  It ends with OK and without the slot in unacknowledged mode only. -/
theorem Transferred.spoken {name destination : Bytes} {init : ChecksumState} {keep : Bool} {put : Put}
    (transferred : Transferred fs request name destination init source.handle source.octets.length entity t status
      keep entity')
    (sends : Offers puts source entity.sender put) (bounded : entity.Bounded)
    (destined : put.destination = cString destination) (answers : ∀ obs ∈ t, source.answers obs) :
    Spoken puts stored t ∧ (keep = false → status = .ok →
      request.acknowledgedMode = false ∨ entity.sender.finishedReceived = true) := by
  have announced : ∀ {u : Trace} {status : Status},
      MetadataSent entity request name destination source.octets.length u status → Spoken puts stored u := by
    intro u status sent
    refine sent.spoken fun pdu encoded => ?_
    have decoded := decodeMetadata_encodeMetadata encoded (bounded.senderHeader _) sends.small
    constructor
    · constructor
      · intro metadata consumed decodes
        rw [decoded] at decodes
        cases decodes
        exact ⟨put, sends.mem, sends.id, destined, congrArg List.length sends.octets⟩
      · exact fun decodes => ((decodeMetadata_header decoded).not_filedata decodes).elim
    · exact reportOf_directive (decodeMetadata_header decoded) (by decide)
  have eof : ∀ {checksum fileSize dest : Nat} {u : Trace} {status : Status},
      Sent dest (encodeEof (eofPdu entity checksum fileSize) maxPduSize) u status → Spoken puts stored u :=
    fun sent => sent.spoken fun _ encoded => speaks_eof bounded encoded
  cases transferred with
  | unannounced sent failing => exact ⟨announced sent, fun _ ok => (failing ok).elim⟩
  | interrupted sent loop =>
    refine ⟨(announced sent).append (loop.spoken sends bounded
      fun obs mem => answers obs (List.mem_append_right _ mem)), fun _ ok => ?_⟩
    subst ok
    exact (loop.ne_error_ok rfl).elim
  | unsummed sent loop failed =>
    refine ⟨(announced sent).append (loop.spoken sends bounded
      fun obs mem => answers obs (List.mem_append_right _ mem)), fun _ ok => ?_⟩
    subst ok
    exact (checksumFinish_ne_error_ok _ failed).elim
  | ended sent loop _ ended left failing =>
    refine ⟨(announced sent).append ((loop.spoken sends bounded
      fun obs mem => answers obs (List.mem_append_right _ (List.mem_append_left _ mem))).append (eof ended)), ?_⟩
    intro _ ok
    rcases left with failed | rest
    · exact (failed ((failing failed).symm.trans ok)).elim
    · exact rest
  | awaiting sent loop _ ended _ clock =>
    refine ⟨(announced sent).append ((loop.spoken sends bounded
      fun obs mem => answers obs (List.mem_append_right _ (List.mem_append_left _ mem))).append
      ((eof ended).append clock.spoken)), ?_⟩
    intro no
    cases no

/-- Whether a call of `send_file` got as far as an open file: `open_read` is its first callback. -/
def opensSource : Trace → Bool
  | ⟨.openRead _ _, reply⟩ :: _ => reply.rc == 0
  | _ => false

/-- What the next `send_file` puts, if it opens a file of these octets -/
def Entity.put (entity : Entity) (request : PutRequest) (octets : Bytes) : Put where
  id := entity.nextId
  destination := request.destinationName
  acknowledged := request.acknowledgedMode
  octets

omit [Kconfig] [ZephyrCrc] in
theorem Entity.startSend_unfinished (entity : Entity) (request : PutRequest) (name destination : Bytes) :
    (entity.startSend request name destination).sender.finishedReceived = entity.sender.finishedReceived := by
  show (advanceTransactionSequenceNumber entity).sender.finishedReceived = _
  unfold advanceTransactionSequenceNumber
  by_cases limit : transactionSequenceLimit entity.transactionSequenceNumberLen = 2 ^ 64 - 1
  · simp only [limit, if_true]
  · simp only [limit, if_false]

omit [ZephyrCrc] in
/-- An opened file -/
theorem Offers.opened {path name destination : Bytes} {init : ChecksumState} {reply : OpenReadReply}
    (puttable : Puttable request path name destination init) (rc : reply.rc = 0)
    (answers : source.answers ⟨.openRead fs (cString path), reply⟩) :
    Offers (puts ++ [entity.put request source.octets]) source
      ((entity.startSend request name destination).openSource fs request.checksumType reply).sender
      (entity.put request source.octets) ∧
    (entity.put request source.octets).destination = cString destination := by
  obtain ⟨handle, size⟩ := answers rc
  have bound := reply.size.toNat_lt
  constructor
  · constructor
    · simp
    · rfl
    · rfl
    · exact size
    · exact handle
    · unfold uint32Max
      omega
  · obtain ⟨path', len, requested, valid, rfl⟩ := puttable.destination
    show request.destinationName = _
    rw [take_pathLen valid, PutRequest.destinationName, requested, Option.getD_some]
    simp only [cString, List.takeWhile_idem]

theorem SendFileHandled.spoken (handled : SendFileHandled fs request entity t status entity')
    (sending : Sending puts source entity.sender) (bounded : entity.Bounded) :
    (opensSource t = false → Spoken puts stored t ∧ Sending puts source entity'.sender) ∧
      (opensSource t = true → ∀ file : Source, (∀ obs ∈ t, file.answers obs) →
        Spoken (puts ++ [entity.put request file.octets]) stored t ∧
          Sending (puts ++ [entity.put request file.octets]) file entity'.sender) := by
  have begun : ∀ {name destination : Bytes} {reply : OpenReadReply},
      ((entity.startSend request name destination).openSource fs request.checksumType reply).Bounded := by
    intro name destination reply
    have started := bounded.startSend request name destination
    exact started.withSender (started.sender.congr rfl rfl)
  cases handled with
  | rejected =>
    refine ⟨fun _ => ⟨.nil, sending⟩, fun no => ?_⟩
    cases no
  | unopened _ _ _ released =>
    have failed : ∀ {puts : List Put}, Spoken puts stored _ := fun {_} =>
      released.spoken fun no => by cases no
    exact ⟨fun _ => ⟨.cons trivial failed, sending_zero _ _⟩,
      fun _ _ _ => ⟨.cons trivial failed, sending_zero _ _⟩⟩
  | @released path name destination init reply t' u status entity₁ idle puttable rc transferred failed =>
    have opened : opensSource (⟨.openRead fs (cString path), reply⟩ :: (t' ++ u)) = true := by simp [opensSource, rc]
    refine ⟨fun no => absurd (opened.symm.trans no) (by simp), fun _ file answers => ⟨?_, sending_zero _ _⟩⟩
    have first := answers _ List.mem_cons_self
    obtain ⟨sends, destined⟩ := @Offers.opened _ puts file entity fs request _ _ _ _ reply puttable rc first
    obtain ⟨handle, size⟩ := first rc
    rw [handle, size] at transferred
    obtain ⟨spoken, left⟩ : Spoken _ stored _ ∧ _ := transferred.spoken sends begun destined
      fun obs mem => answers obs (List.mem_cons_of_mem _ (List.mem_append_left _ mem))
    have same : entity₁.sender.id = entity.nextId := by cases transferred <;> rfl
    refine .cons trivial (spoken.append (failed.spoken fun ok => ?_))
    -- in acknowledged mode `send_file` keeps the slot, unless the Finished PDU came in during a send
    rcases left rfl ok with unacknowledged | finished
    · refine ⟨_, sends.mem, same.symm, fun yes => ?_⟩
      exact absurd (unacknowledged.symm.trans yes) (by simp)
    · have unfinished := (entity.startSend_unfinished request name destination).trans sending.unfinished
      exact absurd (unfinished.symm.trans finished) (by simp)
  | @kept path name destination init reply t' status entity₁ idle puttable rc transferred =>
    have opened : opensSource (⟨.openRead fs (cString path), reply⟩ :: t') = true := by simp [opensSource, rc]
    refine ⟨fun no => absurd (opened.symm.trans no) (by simp), fun _ file answers => ?_⟩
    have first := answers _ List.mem_cons_self
    obtain ⟨sends, destined⟩ := @Offers.opened _ puts file entity fs request _ _ _ _ reply puttable rc first
    obtain ⟨handle, size⟩ := first rc
    rw [handle, size] at transferred
    obtain ⟨spoken, _⟩ : Spoken _ stored _ ∧ _ := transferred.spoken sends begun destined
      fun obs mem => answers obs (List.mem_cons_of_mem _ mem)
    refine ⟨.cons trivial spoken, ?_⟩
    cases transferred with
    | awaiting _ _ _ _ acknowledged _ =>
      constructor
      · exact (entity.startSend_unfinished request name destination).trans sending.unfinished
      · intro _
        show (if request.acknowledgedMode then TransmissionMode.acknowledged else _) = _
        rw [acknowledged, if_pos rfl]
      · exact fun _ => ⟨_, sends.mem, sends.id, sends.octets, sends.size, sends.handle, sends.small⟩

end SendFile

end ZephyrCcsds.Cfdp
