import ZephyrCcsds.Cfdp.ReceiverRuns

/-! # A COMPLETE event reports a committed file

The ledger reads the calls and callbacks of a history, never the entity: which octets
of the file were written, which EOF checksum was taken, what checksum the reads amount to
and whether the temporary file was committed on the strength of them.  It rejects a COMPLETE
event of the receiver when its transaction was not.

`Ledger.Follows` relates the ledger to the receiver slot; every step keeps it as long as an
ACK of a Finished PDU is received only in answer to one.
-/

namespace ZephyrCcsds.Cfdp

open Callback Spans

variable [Kconfig] [ZephyrCrc]

/-! ## The ledger -/

/-- What the history says about one transaction of the receiver. -/
structure Delivery where
  metadata : MetadataPdu
  written : List (Span Nat)
  eofChecksum : Option Nat
  /-- The checksum of the octets read so far, and where the next read must start. -/
  summed : Option (ChecksumState × Nat)
  stored : Bool
  committed : Bool

structure Ledger where
  pdu : Bytes
  buf : Bytes
  delivery : Option Delivery

/-- The PDU a call hands over. -/
def Call.pdu : Call → Bytes
  | .receivePdu _ pdu => pdu
  | _ => []

namespace Delivery

def start (metadata : MetadataPdu) : Delivery where
  metadata
  written := []
  eofChecksum := none
  summed := none
  stored := false
  committed := false

/-- The checksum of an EOF PDU counts until the file is committed or discarded. -/
def takeEof (delivery : Delivery) (eof : EofPdu) : Delivery :=
  if !delivery.stored ∧
      transactionIdFromHeader eof.header = transactionIdFromHeader delivery.metadata.header then
    { delivery with eofChecksum := some eof.fileChecksum }
  else delivery

def write (delivery : Delivery) (offset len : Nat) (rc : Int) : Delivery :=
  { delivery with
    written := if rc = 0 then { start := offset, stop := offset + len } :: delivery.written
      else delivery.written
    summed := none }

/-- The checksum state a read at this offset goes on from. -/
def sumFrom (delivery : Delivery) (offset : Nat) : Option ChecksumState :=
  if offset = 0 then (checksumInit delivery.metadata.checksumType).toOption
  else
    match delivery.summed with
    | none => none
    | some (state, reached) => if reached = offset then some state else none

def read (delivery : Delivery) (offset len : Nat) (reply : ReadReply) (octets : Bytes) :
    Delivery :=
  { delivery with
    summed :=
      match delivery.sumFrom offset with
      | none => none
      | some state =>
        if reply.rc = 0 ∧ 0 < reply.nread ∧ reply.nread ≤ len then
          match checksumUpdate state offset octets with
          | .error _ => none
          | .ok state => some (state, offset + reply.nread)
        else none }

/-- Every octet of the file was written, and the file read back has the EOF checksum. -/
def verified (delivery : Delivery) : Bool :=
  decide (∀ x < delivery.metadata.fileSize, ∃ span ∈ delivery.written,
    span.start ≤ x ∧ x < span.stop) &&
  match delivery.summed with
  | none => false
  | some (state, reached) =>
    decide (delivery.metadata.fileSize ≤ reached) &&
      match checksumFinish state with
      | .error _ => false
      | .ok checksum => delivery.eofChecksum == some checksum

def commit (delivery : Delivery) (path : Bytes) (rc : Int) : Delivery :=
  { delivery with
    stored := true
    committed := delivery.committed || (decide (rc = 0) &&
      path == cString delivery.metadata.destinationFilename && delivery.verified) }

def discard (delivery : Delivery) : Delivery := { delivery with stored := true }

end Delivery

namespace Ledger

def withDelivery (ledger : Ledger) (delivery : Option Delivery) : Ledger := { ledger with delivery }

def called (ledger : Ledger) (entity : Entity) (call : Call) : Ledger where
  pdu := call.pdu
  buf := ledger.buf
  delivery :=
    match takenEof entity call with
    | none => ledger.delivery
    | some eof => ledger.delivery.map fun delivery => delivery.takeEof eof

/-- A temporary file was opened for the Metadata PDU in hand. -/
def opened (ledger : Ledger) (rc : Int) : Ledger :=
  match decodeMetadata ledger.pdu with
  | .error _ => ledger.withDelivery none
  | .ok (metadata, _) => ledger.withDelivery (if rc = 0 then some (Delivery.start metadata) else none)

def read (ledger : Ledger) (offset len : Nat) (reply : ReadReply) : Ledger :=
  let buf := fillBuffer ledger.buf len reply.data
  { ledger with
    buf
    delivery := ledger.delivery.map fun delivery =>
      delivery.read offset len reply (buf.take reply.nread) }

def completes (ledger : Ledger) (id : TransactionId) : Bool :=
  match ledger.delivery with
  | none => false
  | some delivery =>
    delivery.committed && transactionIdFromHeader delivery.metadata.header == id

def back (ledger : Ledger) : Obs → Option Ledger
  | ⟨.openWriteTmp _ _, reply⟩ => some (ledger.opened reply.rc)
  | ⟨.read _ _ offset len, reply⟩ => some (ledger.read offset len reply)
  | ⟨.write _ _ offset data, rc⟩ =>
    some (ledger.withDelivery (ledger.delivery.map fun delivery =>
      delivery.write offset data.length rc))
  | ⟨.commitTmp _ path, rc⟩ =>
    some (ledger.withDelivery (ledger.delivery.map fun delivery => delivery.commit path rc))
  | ⟨.discardTmp _ _, _⟩ =>
    some (ledger.withDelivery (ledger.delivery.map Delivery.discard))
  | ⟨.event .receiver .complete id _, _⟩ =>
    if ledger.completes id then some (ledger.withDelivery none) else none
  | ⟨.event .receiver .failed _ _, _⟩ => some (ledger.withDelivery none)
  | _ => some ledger

end Ledger

/-- The ledger as a monitor of histories; `entity` gives the addresses of the configuration. -/
def account (entity : Entity) : Monitor Ledger Entry := fun ledger entry =>
  match entry with
  | .call call => some (ledger.called entity call)
  | .back obs => ledger.back obs

/-- The ledger before the first call. -/
def Ledger.empty (entity : Entity) : Ledger where
  pdu := []
  buf := entity.fileSegmentBuf
  delivery := none

/-! ## The ledger over a trace -/

abbrev Ledger.backs (ledger : Ledger) (t : Trace) : Option Ledger := Monitor.run Ledger.back ledger t

section Traces

variable {ledger : Ledger} {slot : TransactionSlot} {t : Trace} {status : Status}

omit [Kconfig] in
theorem Sent.backs [Kconfig] {dest : Nat} {encoded : Except Status Bytes}
    (sent : Sent dest encoded t status) : ledger.backs t = some ledger := by
  cases sent <;> rfl

theorem Clock.backs {entity : Entity} {now : Nat} (clock : Clock entity t now) : ledger.backs t = some ledger := by
  cases clock <;> rfl

theorem NakSent.backs {entity : Entity} (nak : NakSent entity t status) : ledger.backs t = some ledger := by
  cases nak with
  | toomany => rfl
  | sent _ sent => exact sent.backs

theorem closed_backs {c : Bool} {fs : FilestoreOps} {handle : Handle} {rc : Int}
    (closed : CalledIf c (.close fs handle) 0 t rc) : ledger.backs t = some ledger := by
  obtain ⟨_, rfl⟩ | ⟨_, rfl, _⟩ := closed.elim <;> rfl

theorem HandleClosed.backs (closed : HandleClosed slot t) : ledger.backs t = some ledger := by
  cases closed <;> rfl

/-- Discarding the file of a slot that is about to be released. -/
theorem Discarded.backs (discarded : Discarded slot t) :
    ∃ delivery, ledger.backs t = some (ledger.withDelivery delivery) := by
  cases discarded with
  | none => exact ⟨ledger.delivery, rfl⟩
  | discarded _ closed called =>
    rw [Ledger.backs, Monitor.run_append, ← Ledger.backs, closed.backs, Option.bind_some]
    obtain ⟨_, rfl⟩ | ⟨_, rfl, _⟩ := called.elim
    · exact ⟨_, rfl⟩
    · exact ⟨ledger.delivery, rfl⟩

/-- A terminal event is accepted unless it reports success without a commit. -/
theorem terminalEvent_backs (entity : Entity) {id : TransactionId}
    (backed : status = .ok → ledger.completes id = true) :
    ∃ delivery, ledger.backs (terminalEvent entity .receiver id status) =
      some (ledger.withDelivery delivery) := by
  cases reports : entity.eventCb with
  | false => exact ⟨ledger.delivery, by rw [terminalEvent, reports]; rfl⟩
  | true =>
    refine ⟨none, ?_⟩
    rw [terminalEvent, reports, if_pos rfl, Ledger.backs, Monitor.run_cons]
    by_cases ok : status = .ok
    · rw [terminalEventType, if_pos ok, Ledger.back, if_pos (backed ok)]
      rfl
    · rw [terminalEventType, if_neg ok]
      rfl

end Traces

/-! ## The ledger and the receiver slot -/

namespace Delivery

/-- The part of the agreement that finishing the transaction does not touch. -/
structure Matches (delivery : Delivery) (slot : TransactionSlot) : Prop where
  id : transactionIdFromHeader delivery.metadata.header = slot.id
  fileSize : delivery.metadata.fileSize = slot.fileSize
  checksumType : delivery.metadata.checksumType = slot.checksumType
  destinationPath : delivery.metadata.destinationFilename = slot.destinationPath
  written : cover slot.receivedRanges ⊆ cover delivery.written
  eofChecksum : slot.eofReceived = true → delivery.eofChecksum = some slot.eofChecksum

structure Follows (delivery : Delivery) (slot : TransactionSlot) : Prop
    extends delivery.Matches slot where
  stored : delivery.stored = slot.waitingForFinishedAck
  committed : slot.waitingForFinishedAck = true → slot.finishedStatus = .ok →
    delivery.committed = true

end Delivery

structure Ledger.Follows (ledger : Ledger) (entity : Entity) : Prop where
  buf : ledger.buf = entity.fileSegmentBuf
  delivery : entity.receiver.active = true →
    ∃ delivery, ledger.delivery = some delivery ∧ delivery.Follows entity.receiver

/-- The ledger accepts the trace and agrees with the entity at its end. -/
def Ledger.Tracks (ledger : Ledger) (t : Trace) (entity : Entity) : Prop :=
  ∃ ledger', ledger.backs t = some ledger' ∧ ledger'.Follows entity

namespace Ledger

variable {ledger ledger₁ : Ledger} {entity : Entity} {t u : Trace} {status : Status}

theorem Tracks.done (follows : ledger.Follows entity) : ledger.Tracks [] entity :=
  ⟨ledger, rfl, follows⟩

theorem Tracks.append (first : ledger.backs t = some ledger₁) (rest : ledger₁.Tracks u entity) :
    ledger.Tracks (t ++ u) entity := by
  obtain ⟨ledger', accepted, follows⟩ := rest
  refine ⟨ledger', ?_, follows⟩
  rw [backs, Monitor.run_append, ← backs, first, Option.bind_some]
  exact accepted

/-- A released receiver is tracked once its terminal event is accepted. -/
theorem tracks_released (ledger : Ledger) {id : TransactionId} (buf : ledger.buf = entity.fileSegmentBuf)
    (backed : status = .ok → ledger.completes id = true) {entity₀ : Entity} :
    ledger.Tracks (terminalEvent entity₀ .receiver id status) (entity.withReceiver .zero) := by
  obtain ⟨delivery, accepted⟩ := terminalEvent_backs entity₀ backed
  refine ⟨_, accepted, buf, ?_⟩
  intro no
  cases no

omit [Kconfig] [ZephyrCrc] in
theorem completes_of_committed {delivery : Delivery} {id : TransactionId}
    (held : ledger.delivery = some delivery) (committed : delivery.committed = true)
    (same : transactionIdFromHeader delivery.metadata.header = id) : ledger.completes id = true := by
  rw [completes, held]
  simp only [committed, same, beq_self_eq_true, Bool.and_self]

end Ledger

/-! ## Reading the file back -/

section Reading

variable {fs : FilestoreOps} {handle : Handle} {fileSize offset expected : Nat}
  {state : ChecksumState} {buf buf' : Bytes} {t : Trace} {status : Status}
  {result : Except Status ChecksumState} {ledger : Ledger} {delivery : Delivery}

/-- The ledger sums the octets that the read loop sums. -/
theorem ReadLoop.backs (loop : ReadLoop fs handle fileSize state offset buf t result buf')
    (same : ledger.buf = buf) (held : ledger.delivery = some delivery)
    (from_ : delivery.sumFrom offset = some state) :
    ∃ summed, ledger.backs t =
        some { ledger with buf := buf', delivery := some { delivery with summed } } ∧
      ∀ final, result = .ok final → (offset < fileSize ∨ delivery.summed = some (state, offset)) →
        ∃ reached, summed = some (final, reached) ∧ fileSize ≤ reached := by
  induction loop generalizing ledger delivery with
  | @done state offset buf finished =>
    refine ⟨delivery.summed, ?_, ?_⟩
    · subst same
      rw [Ledger.backs, Monitor.run_nil, ← held]
    · rintro final ok (more | summed)
      · omega
      · cases ok
        exact ⟨offset, summed, finished⟩
  | unread | unsummed =>
    subst same
    refine ⟨_, by simp only [Ledger.backs, Monitor.run_cons, Ledger.back, Ledger.read, held,
      Option.map_some, Option.bind_some, Monitor.run_nil]; rfl, ?_⟩
    intro final no
    cases no
  | @turn state state' offset buf buf' reply t result more good updated _ ih =>
    subst same
    have read : delivery.read offset (segmentLen fileSize offset) reply
        ((fillBuffer ledger.buf (segmentLen fileSize offset) reply.data).take reply.nread) =
        { delivery with summed := some (state', offset + reply.nread) } := by
      simp only [Delivery.read, from_, updated, good.rc, good.pos, good.le, and_self, if_true]
    have pos := good.pos
    have next : ({ delivery with summed := some (state', offset + reply.nread) } : Delivery).sumFrom
        (offset + reply.nread) = some state' := by
      rw [Delivery.sumFrom, if_neg (by omega)]
      simp only [if_true]
    have held' : (ledger.read offset (segmentLen fileSize offset) reply).delivery =
        some { delivery with summed := some (state', offset + reply.nread) } := by
      rw [Ledger.read, held, Option.map_some, read]
    obtain ⟨summed, accepted, reached⟩ := ih rfl held' next
    refine ⟨summed, ?_, fun final ok _ => reached final ok (.inr rfl)⟩
    simp only [Ledger.backs, Monitor.run_cons, Ledger.back, Option.bind_some]
    exact accepted

theorem Verified.backs {slot : TransactionSlot}
    (verified : Verified fs slot buf expected t status buf') (same : ledger.buf = buf)
    (held : ledger.delivery = some delivery) (matched : delivery.Matches slot) :
    ∃ summed, ledger.backs t =
        some { ledger with buf := buf', delivery := some { delivery with summed } } ∧
      (status = .ok → 0 < slot.fileSize → Set.Ico 0 slot.fileSize ⊆ cover slot.receivedRanges →
        delivery.eofChecksum = some expected →
        ({ delivery with summed } : Delivery).verified = true) := by
  have start : ∀ {init : ChecksumState}, checksumInit slot.checksumType = .ok init →
      delivery.sumFrom 0 = some init := by
    intro init supported
    rw [Delivery.sumFrom, if_pos rfl, matched.checksumType, supported]
    rfl
  by_cases ok : status = .ok
  · subst ok
    obtain ⟨init, final, supported, loop, finished⟩ := verified.ok
    obtain ⟨summed, accepted, reached⟩ := loop.backs same held (start supported)
    refine ⟨summed, accepted, fun _ nonempty covered eof => ?_⟩
    obtain ⟨stop, rfl, enough⟩ := reached final rfl (.inl nonempty)
    rw [Delivery.verified, Bool.and_eq_true, decide_eq_true_eq]
    refine ⟨fun x inside => ?_, ?_⟩
    · exact matched.written (covered ⟨Nat.zero_le x, matched.fileSize ▸ inside⟩)
    · simp only [finished, eof, beq_self_eq_true, Bool.and_true, decide_eq_true_eq]
      exact matched.fileSize.le.trans enough
  · have nothing : ∀ {summed}, (status = .ok → 0 < slot.fileSize →
        Set.Ico 0 slot.fileSize ⊆ cover slot.receivedRanges → delivery.eofChecksum = some expected →
        ({ delivery with summed } : Delivery).verified = true) := fun ok' => (ok ok').elim
    cases verified with
    | unsupported => exact ⟨delivery.summed, by rw [← same, Ledger.backs, Monitor.run_nil, ← held], nothing⟩
    | unread init loop | unfinished init loop | mismatched init loop | intact init loop =>
      obtain ⟨summed, accepted, _⟩ := loop.backs same held (start init)
      exact ⟨summed, accepted, nothing⟩

end Reading

/-! ## Finishing a transaction -/

section Finishing

variable {fs : FilestoreOps} {entity entity' : Entity} {t : Trace} {status stored result : Status}
  {ledger : Ledger} {delivery : Delivery}

theorem Stored.backs {slot : TransactionSlot} (store : Stored fs slot status t stored)
    (held : ledger.delivery = some delivery) (matched : delivery.Matches slot)
    (verified : status = .ok → delivery.verified = true) :
    ∃ committed, ledger.backs t = some (ledger.withDelivery
        (some { delivery with stored := true, committed })) ∧
      (stored = .ok → committed = true) := by
  have path : (cString slot.destinationPath == cString delivery.metadata.destinationFilename) = true := by
    rw [matched.destinationPath, beq_self_eq_true]
  cases store with
  | committed ok closed =>
    refine ⟨true, ?_, fun _ => rfl⟩
    simp only [Ledger.backs, Monitor.run_append, closed_backs closed, Option.bind_some,
      Monitor.run_cons, Monitor.run_nil, Ledger.back, held, Option.map_some, Delivery.commit, path,
      verified ok, decide_true, Bool.and_self, Bool.or_true]
  | uncommitted _ closed _ failed =>
    refine ⟨delivery.committed, ?_, fun no => by cases no⟩
    simp only [Ledger.backs, Monitor.run_append, closed_backs closed, Option.bind_some,
      Monitor.run_cons, Monitor.run_nil, Ledger.back, held, Option.map_some, Delivery.commit, failed,
      decide_false, Bool.false_and, Bool.or_false]
  | unclosed _ _ closed =>
    refine ⟨delivery.committed, ?_, fun no => by cases no⟩
    simp only [Ledger.backs, Monitor.run_append, closed_backs closed, Option.bind_some,
      Monitor.run_cons, Monitor.run_nil, Ledger.back, held, Option.map_some, Delivery.discard]
  | discarded _ failed closed =>
    refine ⟨delivery.committed, ?_, fun ok => (failed ok).elim⟩
    simp only [Ledger.backs, Monitor.run_append, closed_backs closed, Option.bind_some,
      Monitor.run_cons, Monitor.run_nil, Ledger.back, held, Option.map_some, Delivery.discard]

theorem Settled.tracks (settled : Settled entity status t result entity')
    (closes : Closes entity.receiver) (buf : ledger.buf = entity.fileSegmentBuf) (held : ledger.delivery = some delivery)
    (matched : delivery.Matches entity.receiver) (stored : delivery.stored = true)
    (committed : status = .ok → delivery.committed = true) : ledger.Tracks t entity' := by
  cases settled with
  | awaiting _ sent clock =>
    refine Ledger.Tracks.append sent.backs ⟨ledger, clock.backs, buf, fun _ => ⟨delivery, held, ?_⟩⟩
    constructor
    · exact { matched with }
    · exact stored
    · exact fun _ => committed
  | silent acknowledged unrequested =>
    rw [closes acknowledged] at unrequested
    cases unrequested
  | unreported _ sent failed =>
    exact Ledger.Tracks.append sent.backs (Ledger.tracks_released ledger buf fun ok => (failed ok).elim)
  | @released t' sent _ requested unrequested =>
    have silent : ledger.backs t' = some ledger := by
      cases closure : entity.receiver.closureRequested with
      | true => exact (requested closure).backs
      | false =>
        rw [(unrequested closure).1]
        rfl
    refine Ledger.Tracks.append silent (Ledger.tracks_released ledger buf fun ok => ?_)
    refine Ledger.completes_of_committed held (committed ?_) matched.id
    by_contra failed
    exact failed (by rwa [if_neg failed] at ok)

theorem Finished.tracks (finished : Finished fs entity status t result entity')
    (closes : Closes entity.receiver) (buf : ledger.buf = entity.fileSegmentBuf) (held : ledger.delivery = some delivery)
    (matched : delivery.Matches entity.receiver)
    (verified : status = .ok → delivery.verified = true) : ledger.Tracks t entity' := by
  obtain ⟨store, settled⟩ := finished
  obtain ⟨committed, accepted, ok⟩ := store.backs held matched verified
  exact Ledger.Tracks.append accepted (settled.tracks closes buf rfl { matched with } rfl ok)

/-- A file that is complete is verified, then finished. -/
theorem Verified.tracks (entity : Entity) {expected : Nat} {buf : Bytes} {u : Trace}
    (verify : Verified fs entity.receiver entity.fileSegmentBuf expected t status buf)
    (finished : Finished fs (entity.withBuf buf) status u result entity')
    (closes : Closes entity.receiver) (same : ledger.buf = entity.fileSegmentBuf) (held : ledger.delivery = some delivery)
    (matched : delivery.Matches entity.receiver)
    (complete : rangesIsComplete entity.receiver.receivedRanges 0 entity.receiver.fileSize = .ok true)
    (eof : delivery.eofChecksum = some expected) : ledger.Tracks (t ++ u) entity' := by
  obtain ⟨summed, accepted, verified⟩ := verify.backs same held matched
  obtain ⟨nonempty, _, scanned⟩ := rangesIsComplete_ok complete
  refine Ledger.Tracks.append accepted (finished.tracks closes rfl rfl ?_ fun ok => ?_)
  · exact { matched with }
  · exact verified ok nonempty (rangesScan_covers scanned.symm) eof

end Finishing

/-! ## One PDU -/

section Handlers

variable {fs : FilestoreOps} {pdu : Bytes} {entity entity' : Entity} {t : Trace} {status : Status}
  {ledger : Ledger}

theorem MetadataHandled.tracks (handled : MetadataHandled fs pdu entity t status entity')
    (inHand : ledger.pdu = pdu) (follows : ledger.Follows entity)
    (sound : ReceiverSound entity.receiver) : ledger.Tracks t entity' := by
  cases handled with
  | skipped => exact .done follows
  | @opened metadata init reply accepts idle supported ok =>
    refine ⟨ledger.opened reply.rc, rfl, ?_, fun _ => ?_⟩
    · simp only [Ledger.opened, inHand, accepts.decoded]
      exact follows.buf
    · simp only [Ledger.opened, inHand, accepts.decoded, ok, if_true]
      refine ⟨_, rfl, ?_⟩
      have zero := sound.rest idle
      constructor
      · refine ⟨rfl, rfl, rfl, rfl, subset_refl _, ?_⟩
        · simp only [Entity.withReceiver_receiver, openedSlot, metadataSlot, zero]
          intro no
          cases no
      · simp only [Entity.withReceiver_receiver, openedSlot, metadataSlot, zero]
        rfl
      · simp only [Entity.withReceiver_receiver, openedSlot, metadataSlot, zero]
        intro no
        cases no
  | @refused metadata reply accepts idle failed =>
    have released : (ledger.withDelivery none).Tracks (terminalEvent entity .receiver
        (transactionIdFromHeader metadata.header) .filestoreRejection)
        (entity.withReceiver .zero) :=
      Ledger.tracks_released (ledger.withDelivery none) follows.buf fun no => by cases no
    refine Ledger.Tracks.append (t := [_]) ?_ released
    simp only [Ledger.backs, Monitor.run_cons, Monitor.run_nil, Ledger.back, Ledger.opened, inHand,
      accepts.decoded, failed, if_false, Option.bind_some]

omit [ZephyrCrc] in
/-- Octets that were written and added to the received ranges. -/
theorem Delivery.Matches.write {delivery : Delivery} {slot : TransactionSlot}
    (matched : delivery.Matches slot) (sound : ReceiverSound slot) {offset len : Nat}
    {ranges : Ranges} (added : rangesAdd slot.receivedRanges offset (offset + len) = .ok ranges)
    (state : ChecksumState) : (delivery.write offset len 0).Matches (writtenSlot slot ranges state) := by
  obtain ⟨valid, _, rfl, _⟩ := rangesAdd_ok added
  refine { matched with written := ?_ }
  rw [writtenSlot, cover_insert sound.normal valid, Delivery.write, if_pos rfl, cover_cons]
  exact Set.union_subset (matched.written.trans Set.subset_union_right) Set.subset_union_left

theorem FiledataHandled.tracks (handled : FiledataHandled fs pdu entity t status entity')
    (follows : ledger.Follows entity) (sound : ReceiverSound entity.receiver) :
    ledger.Tracks t entity' := by
  -- the ledger after the write; `kept` restores the agreement with a slot that changed its ranges
  have wrote : ∀ {filedata : FiledataPdu} (rc : Int), AcceptsFiledata entity pdu filedata →
      ∃ delivery : Delivery, delivery.Follows entity.receiver ∧
        ledger.backs [⟨.write fs entity.receiver.fileHandle filedata.offset filedata.data, rc⟩] =
          some (ledger.withDelivery
            (some (delivery.write filedata.offset filedata.data.length rc))) := by
    intro filedata rc accepts
    obtain ⟨delivery, held, agrees⟩ := follows.delivery (receiverMatchActive_ok accepts.matched).1
    refine ⟨delivery, agrees, ?_⟩
    simp only [Ledger.backs, Monitor.run_cons, Monitor.run_nil, Ledger.back, held, Option.map_some,
      Option.bind_some]
  have unadded : ∀ {filedata : FiledataPdu} {rc : Int} {delivery : Delivery},
      delivery.Follows entity.receiver →
      (delivery.write filedata.offset filedata.data.length rc).Follows entity.receiver := by
    intro filedata rc delivery agrees
    refine { agrees with written := agrees.written.trans ?_ }
    rw [Delivery.write]
    split_ifs
    · rw [cover_cons]
      exact Set.subset_union_right
    · exact subset_rfl
  cases handled with
  | skipped => exact .done follows
  | unwritten accepts | unranged accepts =>
    obtain ⟨delivery, agrees, accepted⟩ := wrote _ accepts
    exact ⟨_, accepted, follows.buf, fun _ => ⟨_, rfl, unadded agrees⟩⟩
  | unsummed accepts added | written accepts added =>
    obtain ⟨delivery, agrees, accepted⟩ := wrote 0 accepts
    refine ⟨_, accepted, follows.buf, fun _ => ⟨_, rfl, ?_⟩⟩
    exact ⟨agrees.toMatches.write sound added _, agrees.stored, agrees.committed⟩
  | @completed filedata ranges state t u status result buf entity' accepts added _ eof _ complete
      verified finished =>
    obtain ⟨delivery, agrees, accepted⟩ := wrote 0 accepts
    have matched := agrees.toMatches.write sound added state
    have closes := sound.closes (receiverMatchActive_ok accepts.matched).1
    exact Ledger.Tracks.append (t := [_]) accepted
      (Verified.tracks (entity.withReceiver (writtenSlot entity.receiver ranges state)) verified
        finished closes follows.buf rfl matched complete (agrees.eofChecksum eof))

theorem EofCompleted.tracks {eof : EofPdu} (completed : EofCompleted fs eof entity t status entity')
    {delivery : Delivery} (closes : Closes entity.receiver) (buf : ledger.buf = entity.fileSegmentBuf)
    (held : ledger.delivery = some delivery) (agrees : delivery.Follows entity.receiver)
    (size : eof.fileSize = entity.receiver.fileSize)
    (checksum : delivery.eofChecksum = some eof.fileChecksum) : ledger.Tracks t entity' := by
  have incomplete : delivery.Matches (incompleteSlot entity.receiver eof.fileChecksum) :=
    { agrees.toMatches with eofChecksum := fun _ => checksum }
  cases completed with
  | unchecked failed finished =>
    refine finished.tracks closes buf held agrees.toMatches fun ok => ?_
    rw [ok, rangesIsComplete] at failed
    split_ifs at failed
    cases failed
  | asked _ _ nak clock =>
    refine Ledger.Tracks.append nak.backs ⟨ledger, clock.backs, buf, fun _ => ⟨delivery, held, ?_⟩⟩
    exact { incomplete, agrees with }
  | unasked _ _ nak failed finished =>
    exact Ledger.Tracks.append nak.backs
      (finished.tracks closes buf held incomplete fun ok => (failed ok).elim)
  | short _ _ finished =>
    refine finished.tracks closes buf held agrees.toMatches fun no => ?_
    cases no
  | complete complete verified finished =>
    rw [size] at complete
    exact Verified.tracks entity verified finished closes buf held agrees.toMatches complete checksum

omit [ZephyrCrc] in
/-- The ledger once the EOF PDU in hand is taken. -/
theorem Ledger.Follows.takeEof {ledger : Ledger} {eof : EofPdu} (follows : ledger.Follows entity)
    (accepts : AcceptsEof entity pdu eof) :
    ∃ delivery : Delivery, ledger.delivery = some delivery ∧ delivery.Follows entity.receiver ∧
      (entity.receiver.waitingForFinishedAck = true → delivery.takeEof eof = delivery) ∧
      (entity.receiver.waitingForFinishedAck = false →
        delivery.takeEof eof = { delivery with eofChecksum := some eof.fileChecksum }) := by
  obtain ⟨active, _, id⟩ := receiverMatchActive_ok accepts.matched
  obtain ⟨delivery, held, agrees⟩ := follows.delivery active
  refine ⟨delivery, held, agrees, fun waiting => ?_, fun running => ?_⟩
  · simp only [Delivery.takeEof, agrees.stored, waiting, Bool.not_true, Bool.false_eq_true,
      false_and, if_false]
  · simp only [Delivery.takeEof, agrees.stored, running, Bool.not_false, true_and, agrees.id, id,
      if_true]

omit [ZephyrCrc] in
/-- A call whose EOF PDU, if any, is not for the active transaction. -/
theorem Ledger.Follows.called {call : Call} (follows : ledger.Follows entity)
    (other : ∀ eof, takenEof entity call = some eof → entity.receiver.active = true →
      entity.receiver.id ≠ transactionIdFromHeader eof.header) :
    (ledger.called entity call).Follows entity := by
  refine ⟨follows.buf, fun active => ?_⟩
  obtain ⟨delivery, held, agrees⟩ := follows.delivery active
  refine ⟨delivery, ?_, agrees⟩
  rw [Ledger.called]
  cases taken : takenEof entity call with
  | none => exact held
  | some eof =>
    have apart := other eof taken active
    rw [← agrees.id] at apart
    simp only [held, Option.map_some, Delivery.takeEof, apart.symm, and_false, if_false]

theorem EofHandled.tracks (handled : EofHandled fs pdu entity t status entity')
    (valid : receiveFilestoreIsValid fs = true) (follows : ledger.Follows entity)
    (sound : ReceiverSound entity.receiver) :
    (ledger.called entity (.receivePdu (some fs) pdu)).Tracks t entity' := by
  have taken : ∀ {eof : EofPdu}, AcceptsEof entity pdu eof → ∃ delivery : Delivery,
      (ledger.called entity (.receivePdu (some fs) pdu)).delivery = some (delivery.takeEof eof) ∧
        delivery.Follows entity.receiver ∧
        (entity.receiver.waitingForFinishedAck = true → delivery.takeEof eof = delivery) ∧
        (entity.receiver.waitingForFinishedAck = false →
          delivery.takeEof eof = { delivery with eofChecksum := some eof.fileChecksum }) := by
    intro eof accepts
    obtain ⟨delivery, held, agrees⟩ := follows.takeEof accepts
    refine ⟨delivery, ?_, agrees⟩
    simp only [Ledger.called, takenEof_eq_some.mpr ⟨valid, accepts.toReadsEof⟩, held,
      Option.map_some]
  -- the slot with the checksum of the EOF PDU agrees with the ledger that took it
  have checksummed : ∀ {eof : EofPdu} {delivery : Delivery}, delivery.Follows entity.receiver →
      ({ delivery with eofChecksum := some eof.fileChecksum } : Delivery).Follows
        (entity.receiver.withEofChecksum eof.fileChecksum) :=
    fun agrees => { agrees with eofChecksum := fun _ => rfl }
  cases handled with
  | skipped unaccepted =>
    refine .done (follows.called fun eof took active same => ?_)
    refine unaccepted eof ⟨(takenEof_eq_some.mp took).2, ?_⟩
    simp only [receiverMatchActive, active, sound.metadata active, same, Bool.not_true, Bool.or_self,
      Bool.false_eq_true, if_false, ne_eq, not_true_eq_false]
  | repeated accepts waiting sent =>
    obtain ⟨delivery, held, agrees, kept, _⟩ := taken accepts
    refine ⟨_, sent.backs, follows.buf, fun _ => ⟨delivery, ?_, agrees⟩⟩
    rw [held, kept waiting]
  | @refused eof t u sent result entity' accepts running _ acknowledged unacknowledged finished =>
    obtain ⟨delivery, held, agrees, _, took⟩ := taken accepts
    rw [took running] at held
    have silent : (ledger.called entity (.receivePdu (some fs) pdu)).backs t =
        some (ledger.called entity (.receivePdu (some fs) pdu)) := by
      cases mode : entity.receiver.transmissionMode with
      | acknowledged => exact (acknowledged mode).backs
      | unacknowledged =>
        rw [unacknowledged mode]
        rfl
    have closes := sound.closes (receiverMatchActive_ok accepts.matched).1
    refine Ledger.Tracks.append silent
      (finished.tracks closes follows.buf held (checksummed agrees).toMatches ?_)
    intro no
    cases no
  | unacknowledged accepts running _ _ _ sent =>
    obtain ⟨delivery, held, agrees, _, took⟩ := taken accepts
    rw [took running] at held
    exact ⟨_, sent.backs, follows.buf, fun _ => ⟨_, held, checksummed agrees⟩⟩
  | @taken eof t u result entity' accepts running _ size acknowledged unacknowledged completed =>
    obtain ⟨delivery, held, agrees, _, took⟩ := taken accepts
    rw [took running] at held
    have silent : (ledger.called entity (.receivePdu (some fs) pdu)).backs t =
        some (ledger.called entity (.receivePdu (some fs) pdu)) := by
      cases mode : entity.receiver.transmissionMode with
      | acknowledged => exact (acknowledged mode).backs
      | unacknowledged =>
        rw [unacknowledged mode]
        rfl
    have closes := sound.closes (receiverMatchActive_ok accepts.matched).1
    exact Ledger.Tracks.append silent
      (completed.tracks closes follows.buf held (checksummed agrees) size rfl)

/-- The transaction is released with the status of its Finished PDU, if it has sent one. -/
theorem AckHandled.tracks (handled : AckHandled pdu entity t status entity')
    (expected : ∀ ack, AcceptsAck entity pdu ack → entity.receiver.waitingForFinishedAck = true)
    (follows : ledger.Follows entity) : ledger.Tracks t entity' := by
  cases handled with
  | skipped => exact .done follows
  | released accepts =>
    refine Ledger.tracks_released ledger follows.buf fun ok => ?_
    have matched := accepts.matched
    rw [receiverActiveMatchesHeader, Bool.and_eq_true] at matched
    obtain ⟨delivery, held, agrees⟩ := follows.delivery matched.1
    exact Ledger.completes_of_committed held (agrees.committed (expected _ accepts) ok) agrees.id

theorem Dropped.tracks {failed : Status} (dropped : Dropped entity failed t) (error : failed ≠ .ok)
    (buf : ledger.buf = entity.fileSegmentBuf) : ledger.Tracks t (entity.withReceiver .zero) := by
  cases dropped with
  | waiting => exact Ledger.tracks_released ledger buf fun ok => (error ok).elim
  | discarded _ discarded =>
    obtain ⟨delivery, accepted⟩ := discarded.backs
    exact Ledger.Tracks.append accepted
      (Ledger.tracks_released (ledger.withDelivery delivery) buf fun ok => (error ok).elim)

theorem ReceiverPolled.tracks {now : Nat} (polled : ReceiverPolled entity now t entity')
    (follows : ledger.Follows entity) : ledger.Tracks t entity' := by
  have rearmed : ∀ {now : Nat}, entity.receiver.active = true →
      ledger.Follows (entity.withReceiver (armRetry entity.receiver.countRetry now)) := by
    intro now active
    refine ⟨follows.buf, fun _ => ?_⟩
    obtain ⟨delivery, held, agrees⟩ := follows.delivery active
    exact ⟨delivery, held, { agrees with }⟩
  cases polled with
  | idle => exact .done follows
  | askedAgain active _ _ nak => exact ⟨_, nak.backs, rearmed active⟩
  | reportedAgain active _ _ sent => exact ⟨_, sent.backs, rearmed active⟩
  | @recoveryEnded t u status _ _ _ asked failed discarded =>
    have silent : ledger.backs t = some ledger := by
      rcases asked with rfl | nak
      · rfl
      · exact nak.backs
    obtain ⟨delivery, accepted⟩ := discarded.backs
    exact Ledger.Tracks.append silent (Ledger.Tracks.append accepted
      (Ledger.tracks_released (ledger.withDelivery delivery) follows.buf fun ok => (failed ok).elim))
  | @waitEnded t status _ _ _ asked failed =>
    have silent : ledger.backs t = some ledger := by
      rcases asked with rfl | sent
      · rfl
      · exact sent.backs
    exact Ledger.Tracks.append silent
      (Ledger.tracks_released ledger follows.buf fun ok => (failed ok).elim)

end Handlers

/-! ## Runs -/

/-- An ACK of a Finished PDU for the receiver's transaction comes only when one is awaited. -/
def AckExpected (entity : Entity) (call : Call) : Prop :=
  (acceptedAck entity call).isSome = true → entity.receiver.waitingForFinishedAck = true

instance (entity : Entity) (call : Call) : Decidable (AckExpected entity call) :=
  inferInstanceAs (Decidable (_ → _))

theorem Received.tracks {call : Call} {t : Trace} {entity entity' : Entity} {ledger : Ledger}
    (received : Received entity call t entity') (expected : AckExpected entity call)
    (follows : ledger.Follows entity) (sound : ReceiverSound entity.receiver) :
    (ledger.called entity call).Tracks t entity' := by
  have unread : takenEof entity call = none → (ledger.called entity call).Follows entity := by
    intro none
    refine follows.called fun eof taken => ?_
    rw [none] at taken
    cases taken
  have handled : ∀ {fs : FilestoreOps} {pdu : Bytes} {t : Trace} {status : Status}
      {entity' : Entity}, call = .receivePdu (some fs) pdu → receiveFilestoreIsValid fs = true →
      Handled fs pdu entity t status entity' → (ledger.called entity call).Tracks t entity' := by
    rintro fs pdu t status entity' rfl valid handled
    have follows' := fun none => unread (takenEof_eq_none fun _ => none)
    cases handled with
    | ignored none => exact .done (follows' none)
    | metadata none handled => exact handled.tracks rfl (follows' none) sound
    | filedata none handled => exact handled.tracks (follows' none) sound
    | eof handled => exact handled.tracks valid follows sound
    | ack none handled =>
      refine handled.tracks (fun ack accepts => expected ?_) (follows' none)
      rw [acceptedAck_eq_some.mpr ⟨valid, accepts⟩, Option.isSome_some]
  cases received with
  | nothing none => exact .done (unread none)
  | receive valid step =>
    cases step with
    | unhandled none => exact .done (unread (takenEof_eq_none fun _ => none))
    | kept _ _ done => exact handled rfl valid done
    | failed _ _ done error _ dropped =>
      obtain ⟨ledger₁, accepted, follows₁⟩ := handled rfl valid done
      exact Ledger.Tracks.append accepted (dropped.tracks error follows₁.buf)
  | poll first second =>
    obtain ⟨ledger₁, accepted, follows₁⟩ := first.tracks (unread rfl)
    exact Ledger.Tracks.append accepted (second.tracks follows₁)

/-- What a run keeps: the entity sends no file and the ledger follows the receiver. -/
structure Accounted (entity₀ : Entity) (ledger : Ledger) (entity : Entity) : Prop where
  only : OnlyReceiver entity₀ entity
  idle : entity.sender.active = false
  sound : ReceiverSound entity.receiver
  follows : ledger.Follows entity

theorem account_backs (entity : Entity) (ledger : Ledger) (t : Trace) :
    (account entity).run ledger (t.map .back) = ledger.backs t := by
  induction t generalizing ledger with
  | nil => rfl
  | cons obs t ih =>
    rw [List.map_cons, Monitor.run_cons, Ledger.backs, Monitor.run_cons, account]
    exact Option.bind_congr fun ledger' _ => ih ledger'

theorem accounted_step {entity₀ entity entity' : Entity} {ledger : Ledger} {step : Step}
    (accounted : Accounted entity₀ ledger entity) (run : ReceiverRunStep entity step entity')
    (expected : AckExpected entity step.call) :
    ∃ ledger', (account entity₀).run ledger step.entries = some ledger' ∧
      Accounted entity₀ ledger' entity' := by
  have received := receives_outcome run.receives accounted.idle run.quiet
  obtain ⟨ledger', accepted, follows⟩ := received.tracks expected accounted.follows accounted.sound
  refine ⟨ledger', ?_, ?_⟩
  · rw [Step.entries, Monitor.run_cons, account, Option.bind_some, account_backs]
    rw [← accepted, Ledger.called, Ledger.called, accounted.only.takenEof]
  · constructor
    · exact accounted.only.trans received.only
    · rw [received.only.sender]
      exact accounted.idle
    · exact received.sound accounted.sound
    · exact follows

/-- At every COMPLETE event of the receiver, the ledger of the history before it says that the
file of the event's transaction was received in full, verified and committed. -/
def CompleteAfterCommit (entity₀ : Entity) (history : List Entry) : Prop :=
  ∀ front back id status, history = front ++ .back ⟨.event .receiver .complete id status, ()⟩ :: back →
    ∃ ledger, (account entity₀).run (.empty entity₀) front = some ledger ∧ ledger.completes id = true

theorem completeAfterCommit_of_accepted {entity₀ : Entity} {history : List Entry} {ledger : Ledger}
    (accepted : (account entity₀).run (.empty entity₀) history = some ledger) :
    CompleteAfterCommit entity₀ history := by
  rintro front back id status rfl
  rw [Monitor.run_append, Option.bind_eq_some_iff] at accepted
  obtain ⟨before, run, rest⟩ := accepted
  refine ⟨before, run, ?_⟩
  rw [Monitor.run_cons, Option.bind_eq_some_iff] at rest
  obtain ⟨_, event, _⟩ := rest
  rw [account, Ledger.back] at event
  split_ifs at event with completes
  exact completes

/-- It is so in every run in which each ACK of a Finished PDU that the receiver accepts answers
one. -/
theorem complete_after_commit {config : EntityConfig} {ut : UtOps} {entity₀ entity : Entity}
    {steps : List Step} (init : entityInit config ut = .ok entity₀)
    (run : Run (fun entity step entity' =>
      ReceiverRunStep entity step entity' ∧ AckExpected entity step.call) entity₀ steps entity) :
    CompleteAfterCommit entity₀ (steps.flatMap Step.entries) := by
  have fresh : Accounted entity₀ (.empty entity₀) entity₀ := by
    rw [entityInit] at init
    split_ifs at init
    cases init
    refine ⟨.refl _, rfl, receiverSound_zero, rfl, ?_⟩
    intro no
    cases no
  have keep : ∀ ledger entity (step : Step) entity', Accounted entity₀ ledger entity →
      ReceiverRunStep entity step entity' ∧ AckExpected entity step.call →
      ∃ ledger', (account entity₀).run ledger step.entries = some ledger' ∧
        Accounted entity₀ ledger' entity' :=
    fun _ _ _ _ accounted step => accounted_step accounted step.1 step.2
  obtain ⟨ledger, accepted, _⟩ := Run.monitored keep fresh run
  exact completeAfterCommit_of_accepted accepted

end ZephyrCcsds.Cfdp

namespace ZephyrCcsds.Cfdp

attribute [local instance] defaultKconfig plainCrc

/-- The delivery of a file of one octet. -/
theorem complete_after_commit_delivered :
    CompleteAfterCommit freshReceiver
      ([openingStep, writingStep, finishingStep, releasingStep].flatMap Step.entries) := by
  have playable : (playAll (fun entity call => call.receives = true ∧ AckExpected entity call)
      freshReceiver [openingStep, writingStep, finishingStep, releasingStep]).isSome = true := by
    decide +kernel
  obtain ⟨entity, played⟩ := Option.isSome_iff_exists.mp playable
  exact complete_after_commit entityInit_receiverConfig
    ((run_of_playAll played).mono fun _ _ _ ⟨quiet, receives, expected⟩ =>
      ⟨⟨receives, quiet⟩, expected⟩)

/-- An ACK of a Finished PDU right after the Metadata PDU is reported as COMPLETE, with no octet
received and nothing committed: the finished status of the slot is still zero. -/
theorem complete_without_commit :
    ¬ ∀ (config : EntityConfig) (ut : UtOps) (entity₀ entity : Entity) (steps : List Step),
      entityInit config ut = .ok entity₀ → Run ReceiverRunStep entity₀ steps entity →
        CompleteAfterCommit entity₀ (steps.flatMap Step.entries) := by
  intro always
  have playable : (playAll (fun _ call => call.receives = true) freshReceiver
      [openingStep, releasingStep]).isSome = true := by
    decide +kernel
  obtain ⟨entity, played⟩ := Option.isSome_iff_exists.mp playable
  have run : Run ReceiverRunStep freshReceiver [openingStep, releasingStep] entity :=
    (run_of_playAll played).mono fun _ _ _ ⟨quiet, allowed⟩ => ⟨allowed, quiet⟩
  obtain ⟨ledger, accepted, completes⟩ := always _ _ _ _ _ entityInit_receiverConfig run
    [.call openingStep.call, .back ⟨.openWriteTmp wholeFilestore [98], { rc := 0, handle := 1 }⟩,
      .call releasingStep.call] [] deliveredId .ok rfl
  have uncommitted : ((account freshReceiver).run (.empty freshReceiver)
      [.call openingStep.call, .back ⟨.openWriteTmp wholeFilestore [98], { rc := 0, handle := 1 }⟩,
        .call releasingStep.call]).any (fun ledger => ledger.completes deliveredId) = false := by
    decide +kernel
  rw [accepted, Option.any_some, completes] at uncommitted
  cases uncommitted

end ZephyrCcsds.Cfdp
