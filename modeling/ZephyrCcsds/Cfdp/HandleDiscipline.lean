import ZephyrCcsds.Cfdp.ReceiverRuns

/-! # The temporary file of the receiver

A monitor of the filestore callbacks: the handle that is open and the temporary file that is
neither committed nor discarded.  It rejects a read, write or close of any other handle, a second
commit or discard, an open while a file is pending and a terminal event before both are gone.

Every step keeps it in agreement with the receiver slot as long as no File Data PDU and no
ACK of a Finished PDU reaches a handler that does not expect it.
-/

namespace ZephyrCcsds.Cfdp

open Callback

/-! ## The monitor -/

structure Store where
  handle : Option Handle
  pending : Option Bytes
  deriving DecidableEq, Repr

namespace Store

/-- Nothing open and nothing pending. -/
def settled : Store := { handle := none, pending := none }

def holding (handle : Handle) (path : Bytes) : Store := { handle := some handle, pending := some path }

def useHandle (store : Store) (handle : Handle) : Option Store :=
  if store.handle = some handle then some store else none

def closeHandle (store : Store) (handle : Handle) : Option Store :=
  if store.handle = some handle then some { store with handle := none } else none

def settle (store : Store) (path : Bytes) : Option Store :=
  if store.pending = some path then some { store with pending := none } else none

def back (store : Store) : Obs → Option Store
  | ⟨.openWriteTmp _ path, reply⟩ =>
    if reply.rc ≠ 0 then some store
    else if store = settled then some (holding reply.handle path)
    else none
  | ⟨.read _ handle _ _, _⟩ => store.useHandle handle
  | ⟨.write _ handle _ _, _⟩ => store.useHandle handle
  | ⟨.close _ handle, _⟩ => store.closeHandle handle
  | ⟨.commitTmp _ path, _⟩ => store.settle path
  | ⟨.discardTmp _ path, _⟩ => store.settle path
  | ⟨.event .receiver _ _ _, _⟩ => if store = settled then some store else none
  | _ => some store

theorem holding_useHandle (handle : Handle) (path : Bytes) :
    (holding handle path).useHandle handle = some (holding handle path) := if_pos rfl

theorem holding_closeHandle (handle : Handle) (path : Bytes) :
    (holding handle path).closeHandle handle = some { handle := none, pending := some path } :=
  if_pos rfl

theorem pending_settle (path : Bytes) :
    ({ handle := none, pending := some path } : Store).settle path = some settled := if_pos rfl

abbrev backs (store : Store) (t : Trace) : Option Store := Monitor.run Store.back store t

end Store

/-! ## Traces -/

section Traces

variable {store : Store} {t : Trace} {status : Status}

theorem Sent.onStore {dest : Nat} {encoded : Except Status Bytes} (sent : Sent dest encoded t status) :
    store.backs t = some store := by
  cases sent <;> rfl

theorem Clock.onStore {entity : Entity} {now : Nat} (clock : Clock entity t now) :
    store.backs t = some store := by
  cases clock <;> rfl

theorem NakSent.onStore [Kconfig] {entity : Entity} (nak : NakSent entity t status) :
    store.backs t = some store := by
  cases nak with
  | toomany => rfl
  | sent _ sent => exact sent.onStore

theorem terminalEvent_onStore (entity : Entity) (id : TransactionId) (status : Status) :
    Store.settled.backs (terminalEvent entity .receiver id status) = some .settled := by
  unfold terminalEvent
  split <;> rfl

theorem ReadLoop.onStore [Kconfig] [ZephyrCrc] {fs : FilestoreOps} {fileSize offset : Nat} {state : ChecksumState}
    {handle : Handle} {path buf buf' : Bytes} {result : Except Status ChecksumState}
    (loop : ReadLoop fs handle fileSize state offset buf t result buf') :
    (Store.holding handle path).backs t = some (.holding handle path) := by
  induction loop with
  | done => rfl
  | unread | unsummed => rw [Store.backs, Monitor.run_singleton, Store.back, Store.holding_useHandle]
  | turn _ _ _ _ ih =>
    rw [Store.backs, Monitor.run_cons, Store.back, Store.holding_useHandle]
    exact ih

theorem Verified.onStore [Kconfig] [ZephyrCrc] {fs : FilestoreOps} {slot : TransactionSlot} {expected : Nat}
    {path buf buf' : Bytes} (verified : Verified fs slot buf expected t status buf') :
    (Store.holding slot.fileHandle path).backs t = some (.holding slot.fileHandle path) := by
  cases verified with
  | unsupported => rfl
  | unread _ loop | unfinished _ loop | mismatched _ loop | intact _ loop => exact loop.onStore

/-- Closing the open handle, whatever the filestore answers. -/
theorem close_onStore {fs : FilestoreOps} {handle : Handle} {path : Bytes} {rc : Int}
    (closed : CalledIf true (.close fs handle) 0 t rc) :
    (Store.holding handle path).backs t = some { handle := none, pending := some path } := by
  obtain ⟨_, rfl⟩ | ⟨no, _⟩ := closed.elim
  · rw [Store.backs, Monitor.run_singleton, Store.back, Store.holding_closeHandle]
  · cases no

end Traces

/-! ## The store and the receiver slot -/

/-- A transaction with its temporary file open. -/
structure Receiving (fs : FilestoreOps) (slot : TransactionSlot) : Prop where
  filestore : slot.filestore = some fs
  isOpen : slot.fileHandleOpen = true
  valid : receiveFilestoreIsValid fs = true

structure Store.Follows (fs : FilestoreOps) (store : Store) (slot : TransactionSlot) : Prop where
  rest : slot.active = false → store = .settled
  waiting : slot.active = true → slot.waitingForFinishedAck = true →
    store = .settled ∧ slot.recoveryPending = false
  receiving : slot.active = true → slot.waitingForFinishedAck = false →
    store = .holding slot.fileHandle (cString slot.destinationPath) ∧ Receiving fs slot

/-- The monitor accepts the trace and agrees with the slot at its end. -/
def Store.Tracks (fs : FilestoreOps) (store : Store) (t : Trace) (slot : TransactionSlot) : Prop :=
  ∃ store', store.backs t = some store' ∧ store'.Follows fs slot

namespace Store

variable {fs : FilestoreOps} {store store₁ : Store} {slot : TransactionSlot} {t u : Trace}

theorem follows_zero : Store.settled.Follows fs .zero where
  rest _ := rfl
  waiting no := by cases no
  receiving no := by cases no

theorem Tracks.done (follows : store.Follows fs slot) : store.Tracks fs [] slot :=
  ⟨store, rfl, follows⟩

theorem Tracks.append (first : store.backs t = some store₁) (rest : store₁.Tracks fs u slot) :
    store.Tracks fs (t ++ u) slot := by
  obtain ⟨store', accepted, follows⟩ := rest
  refine ⟨store', ?_, follows⟩
  rw [backs, Monitor.run_append, ← backs, first, Option.bind_some]
  exact accepted

theorem tracks_released (entity : Entity) (id : TransactionId) (status : Status) :
    Store.settled.Tracks fs (terminalEvent entity .receiver id status) .zero :=
  ⟨.settled, terminalEvent_onStore entity id status, follows_zero⟩

end Store

section Handlers

variable [Kconfig] [ZephyrCrc] {fs : FilestoreOps} {pdu : Bytes} {entity entity' : Entity} {t : Trace}
  {status stored result : Status}

/-- A slot that is receiving holds its handle and its destination path. -/
abbrev slotStore (slot : TransactionSlot) : Store :=
  .holding slot.fileHandle (cString slot.destinationPath)

omit [Kconfig] [ZephyrCrc] in
theorem Stored.onStore {slot : TransactionSlot} (store : Stored fs slot status t stored)
    (isOpen : slot.fileHandleOpen = true) : (slotStore slot).backs t = some .settled := by
  have settled : ∀ {t : Trace} {c : Int} {obs : Obs},
      CalledIf slot.fileHandleOpen (.close fs slot.fileHandle) 0 t c →
      (∀ store : Store, store.back obs = store.settle (cString slot.destinationPath)) →
      (slotStore slot).backs (t ++ [obs]) = some .settled := by
    intro t c obs closed settles
    rw [isOpen] at closed
    rw [Store.backs, Monitor.run_append, ← Store.backs, close_onStore closed, Option.bind_some,
      Monitor.run_singleton, settles, Store.pending_settle]
  cases store with
  | committed _ closed | uncommitted _ closed | unclosed _ _ closed | discarded _ _ closed =>
    exact settled closed fun _ => rfl

omit [Kconfig] [ZephyrCrc] in
theorem Discarded.onStore {slot : TransactionSlot} (discarded : Discarded slot t)
    (receiving : Receiving fs slot) : (slotStore slot).backs t = some .settled := by
  have valid := receiving.valid
  simp only [receiveFilestoreIsValid, Bool.and_eq_true] at valid
  obtain ⟨⟨⟨_, close⟩, _⟩, discard⟩ := valid
  cases discarded with
  | none none =>
    rw [receiving.filestore] at none
    cases none
  | @discarded fs' t u rc filestore closed called =>
    rw [receiving.filestore] at filestore
    obtain rfl := Option.some.inj filestore
    have shut : (slotStore slot).backs t =
        some { handle := .none, pending := some (cString slot.destinationPath) } := by
      cases closed with
      | none none =>
        rw [receiving.filestore] at none
        cases none
      | shut some kept =>
        rw [receiving.filestore] at some
        obtain rfl := Option.some.inj some
        rw [receiving.isOpen, close] at kept
        cases kept
      | closed => rw [Store.backs, Monitor.run_singleton, Store.back, Store.holding_closeHandle]
    rw [Store.backs, Monitor.run_append, ← Store.backs, shut, Option.bind_some]
    obtain ⟨_, rfl⟩ | ⟨no, _⟩ := called.elim
    · rw [Monitor.run_singleton, Store.back, Store.pending_settle]
    · rw [discard] at no
      cases no

omit [ZephyrCrc] in
theorem Settled.onStore (settled : Settled entity status t result entity') :
    Store.settled.Tracks fs t entity'.receiver := by
  cases settled with
  | awaiting _ sent clock =>
    refine Store.Tracks.append sent.onStore ⟨.settled, clock.onStore, ?_⟩
    constructor
    · exact fun _ => rfl
    · exact fun _ _ => ⟨rfl, rfl⟩
    · intro _ no
      cases no
  | silent _ _ clock =>
    refine ⟨.settled, clock.onStore, ?_⟩
    constructor
    · exact fun _ => rfl
    · exact fun _ _ => ⟨rfl, rfl⟩
    · intro _ no
      cases no
  | unreported _ sent =>
    exact Store.Tracks.append sent.onStore (Store.tracks_released _ _ _)
  | @released t' sent _ requested unrequested =>
    have silent : Store.settled.backs t' = some .settled := by
      cases closure : entity.receiver.closureRequested with
      | true => exact (requested closure).onStore
      | false =>
        rw [(unrequested closure).1]
        rfl
    exact Store.Tracks.append silent (Store.tracks_released _ _ _)

omit [ZephyrCrc] in
theorem Finished.onStore (finished : Finished fs entity status t result entity')
    (isOpen : entity.receiver.fileHandleOpen = true) :
    (slotStore entity.receiver).Tracks fs t entity'.receiver := by
  obtain ⟨store, settled⟩ := finished
  exact Store.Tracks.append (store.onStore isOpen) settled.onStore

omit [ZephyrCrc] in
theorem MetadataHandled.onStore {store : Store} (handled : MetadataHandled fs pdu entity t status entity')
    (valid : receiveFilestoreIsValid fs = true) (follows : store.Follows fs entity.receiver)
    (sound : ReceiverSound entity.receiver) : store.Tracks fs t entity'.receiver := by
  cases handled with
  | skipped => exact .done follows
  | @opened metadata init reply _ idle _ ok =>
    obtain rfl := follows.rest idle
    refine ⟨.holding reply.handle (cString metadata.destinationFilename), ?_, ?_⟩
    · simp only [Store.backs, Monitor.run_cons, Monitor.run_nil, Store.back, ok, ne_eq,
        not_true_eq_false, if_false, if_true, Option.bind_some]
    · constructor
      · intro no
        cases no
      · intro _ waiting
        simp only [Entity.withReceiver_receiver, openedSlot, metadataSlot, sound.rest idle] at waiting
        cases waiting
      · exact fun _ _ => ⟨rfl, rfl, rfl, valid⟩
  | @refused metadata reply _ idle failed =>
    obtain rfl := follows.rest idle
    refine Store.Tracks.append (t := [_]) ?_ (Store.tracks_released _ _ _)
    simp only [Store.backs, Monitor.run_cons, Monitor.run_nil, Store.back, failed, ne_eq,
      not_false_eq_true, if_true, Option.bind_some]

theorem FiledataHandled.onStore {store : Store}
    (handled : FiledataHandled fs pdu entity t status entity')
    (running : ∀ filedata, AcceptsFiledata entity pdu filedata →
      entity.receiver.waitingForFinishedAck = false)
    (follows : store.Follows fs entity.receiver) : store.Tracks fs t entity'.receiver := by
  have receiving : ∀ {filedata : FiledataPdu} {rc : Int}, AcceptsFiledata entity pdu filedata →
      store = slotStore entity.receiver ∧ Receiving fs entity.receiver ∧
        store.backs [⟨.write fs entity.receiver.fileHandle filedata.offset filedata.data, rc⟩] =
          some store := by
    intro filedata rc accepts
    obtain ⟨rfl, receiving⟩ := follows.receiving (receiverMatchActive_ok accepts.matched).1
      (running _ accepts)
    refine ⟨rfl, receiving, ?_⟩
    rw [Store.backs, Monitor.run_singleton, Store.back, Store.holding_useHandle]
  cases handled with
  | skipped => exact .done follows
  | unwritten accepts | unranged accepts => exact ⟨store, (receiving accepts).2.2, follows⟩
  | unsummed accepts | written accepts =>
    exact ⟨store, (receiving accepts).2.2, follows.rest, follows.waiting, fun active running =>
      let ⟨same, receiving⟩ := follows.receiving active running
      ⟨same, receiving.filestore, receiving.isOpen, receiving.valid⟩⟩
  | completed accepts _ _ _ _ _ verified finished =>
    obtain ⟨rfl, receiving, accepted⟩ := receiving accepts
    exact Store.Tracks.append (t := [_]) accepted
      (Store.Tracks.append verified.onStore (finished.onStore receiving.isOpen))

theorem EofCompleted.onStore {eof : EofPdu} (completed : EofCompleted fs eof entity t status entity')
    (active : entity.receiver.active = true) (running : entity.receiver.waitingForFinishedAck = false)
    (receiving : Receiving fs entity.receiver) :
    (slotStore entity.receiver).Tracks fs t entity'.receiver := by
  cases completed with
  | unchecked _ finished | short _ _ finished => exact finished.onStore receiving.isOpen
  | asked _ _ nak clock =>
    refine Store.Tracks.append nak.onStore ⟨_, clock.onStore, ?_⟩
    constructor
    · intro no
      exact (Bool.false_ne_true (no.symm.trans active)).elim
    · intro _ waiting
      exact (Bool.false_ne_true (running.symm.trans waiting)).elim
    · exact fun _ _ => ⟨rfl, receiving.filestore, receiving.isOpen, receiving.valid⟩
  | unasked _ _ nak _ finished => exact Store.Tracks.append nak.onStore (finished.onStore receiving.isOpen)
  | complete _ verified finished =>
    exact Store.Tracks.append verified.onStore (finished.onStore receiving.isOpen)

theorem EofHandled.onStore {store : Store} (handled : EofHandled fs pdu entity t status entity')
    (follows : store.Follows fs entity.receiver) : store.Tracks fs t entity'.receiver := by
  cases handled with
  | skipped => exact .done follows
  | repeated _ _ sent => exact ⟨store, sent.onStore, follows⟩
  | @refused eof t u sent result entity' accepts running _ acknowledged unacknowledged finished =>
    obtain ⟨rfl, receiving⟩ := follows.receiving (receiverMatchActive_ok accepts.matched).1 running
    have silent : (slotStore entity.receiver).backs t = some (slotStore entity.receiver) := by
      cases mode : entity.receiver.transmissionMode with
      | acknowledged => exact (acknowledged mode).onStore
      | unacknowledged =>
        rw [unacknowledged mode]
        rfl
    exact Store.Tracks.append silent (finished.onStore receiving.isOpen)
  | unacknowledged accepts running _ _ _ sent =>
    refine ⟨store, sent.onStore, follows.rest, follows.waiting, fun active running => ?_⟩
    obtain ⟨same, receiving⟩ := follows.receiving active running
    exact ⟨same, receiving.filestore, receiving.isOpen, receiving.valid⟩
  | @taken eof t u result entity' accepts running _ _ acknowledged unacknowledged completed =>
    have active := (receiverMatchActive_ok accepts.matched).1
    obtain ⟨rfl, receiving⟩ := follows.receiving active running
    have silent : (slotStore entity.receiver).backs t = some (slotStore entity.receiver) := by
      cases mode : entity.receiver.transmissionMode with
      | acknowledged => exact (acknowledged mode).onStore
      | unacknowledged =>
        rw [unacknowledged mode]
        rfl
    exact Store.Tracks.append silent
      (completed.onStore active running ⟨receiving.filestore, receiving.isOpen, receiving.valid⟩)

omit [ZephyrCrc] in
theorem AckHandled.onStore {store : Store} (handled : AckHandled pdu entity t status entity')
    (expected : ∀ ack, AcceptsAck entity pdu ack → entity.receiver.waitingForFinishedAck = true)
    (follows : store.Follows fs entity.receiver) : store.Tracks fs t entity'.receiver := by
  cases handled with
  | skipped => exact .done follows
  | released accepts =>
    have matched := accepts.matched
    rw [receiverActiveMatchesHeader, Bool.and_eq_true] at matched
    obtain ⟨rfl, _⟩ := follows.waiting matched.1 (expected _ accepts)
    exact Store.tracks_released _ _ _

omit [Kconfig] [ZephyrCrc] in
theorem Dropped.onStore {store : Store} (dropped : Dropped entity status t)
    (active : entity.receiver.active = true) (follows : store.Follows fs entity.receiver) :
    store.Tracks fs t .zero := by
  cases dropped with
  | waiting waiting =>
    obtain ⟨rfl, _⟩ := follows.waiting active waiting
    exact Store.tracks_released _ _ _
  | discarded running discarded =>
    obtain ⟨rfl, receiving⟩ := follows.receiving active running
    exact Store.Tracks.append (discarded.onStore receiving) (Store.tracks_released _ _ _)

omit [ZephyrCrc] in
theorem ReceiverPolled.onStore {store : Store} {now : Nat} (polled : ReceiverPolled entity now t entity')
    (follows : store.Follows fs entity.receiver) : store.Tracks fs t entity'.receiver := by
  have rearmed : ∀ now, store.Follows fs (armRetry entity.receiver.countRetry now) := by
    refine fun now => ⟨follows.rest, follows.waiting, fun active running => ?_⟩
    obtain ⟨same, receiving⟩ := follows.receiving active running
    exact ⟨same, receiving.filestore, receiving.isOpen, receiving.valid⟩
  cases polled with
  | idle => exact .done follows
  | askedAgain _ _ _ nak => exact ⟨store, nak.onStore, rearmed now⟩
  | reportedAgain _ _ _ sent => exact ⟨store, sent.onStore, rearmed now⟩
  | @recoveryEnded t u status active _ recovery asked _ discarded =>
    have silent : store.backs t = some store := by
      rcases asked with rfl | nak
      · rfl
      · exact nak.onStore
    cases waiting : entity.receiver.waitingForFinishedAck with
    | true =>
      rw [(follows.waiting active waiting).2] at recovery
      cases recovery
    | false =>
      obtain ⟨rfl, receiving⟩ := follows.receiving active waiting
      exact Store.Tracks.append silent
        (Store.Tracks.append (discarded.onStore receiving) (Store.tracks_released _ _ _))
  | @waitEnded t status active _ waiting asked =>
    obtain ⟨rfl, _⟩ := follows.waiting active waiting
    have silent : Store.settled.backs t = some .settled := by
      rcases asked with rfl | sent
      · rfl
      · exact sent.onStore
    exact Store.Tracks.append silent (Store.tracks_released _ _ _)

end Handlers

/-! ## Runs -/

section Runs

variable [Kconfig] [ZephyrCrc]

/-- Every call that passes a filestore passes this one. -/
def UsesFilestore (fs : FilestoreOps) : Call → Prop
  | .receivePdu (some fs') _ => fs' = fs
  | _ => True

/-- A File Data PDU is accepted only before the end of the transaction is reported, an ACK of a
Finished PDU only after. -/
structure ExpectedPdu (entity : Entity) (call : Call) : Prop where
  filedata : (acceptedFiledata entity call).isSome = true →
    entity.receiver.waitingForFinishedAck = false
  ack : (acceptedAck entity call).isSome = true → entity.receiver.waitingForFinishedAck = true

instance (fs : FilestoreOps) (call : Call) : Decidable (UsesFilestore fs call) :=
  match call with
  | .receivePdu (some fs') _ => inferInstanceAs (Decidable (fs' = fs))
  | .receivePdu none _ | .sendFile _ _ | .poll _ => isTrue trivial

instance (entity : Entity) (call : Call) : Decidable (ExpectedPdu entity call) :=
  decidable_of_iff (((acceptedFiledata entity call).isSome = true →
      entity.receiver.waitingForFinishedAck = false) ∧
      ((acceptedAck entity call).isSome = true → entity.receiver.waitingForFinishedAck = true))
    ⟨fun expected => ⟨expected.1, expected.2⟩, fun expected => ⟨expected.filedata, expected.ack⟩⟩

theorem Received.onStore {fs : FilestoreOps} {call : Call} {t : Trace} {entity entity' : Entity}
    {store : Store} (received : Received entity call t entity') (uses : UsesFilestore fs call)
    (expected : ExpectedPdu entity call)
    (follows : store.Follows fs entity.receiver) (sound : ReceiverSound entity.receiver) :
    store.Tracks fs t entity'.receiver := by
  have handled : ∀ {pdu : Bytes} {t : Trace} {status : Status} {entity' : Entity},
      call = .receivePdu (some fs) pdu → receiveFilestoreIsValid fs = true →
      Handled fs pdu entity t status entity' → store.Tracks fs t entity'.receiver := by
    rintro pdu t status entity' rfl valid handled
    cases handled with
    | ignored => exact .done follows
    | metadata _ handled => exact handled.onStore valid follows sound
    | filedata _ handled =>
      refine handled.onStore (fun filedata accepts => expected.filedata ?_) follows
      rw [acceptedFiledata_eq_some.mpr ⟨valid, accepts⟩, Option.isSome_some]
    | eof handled => exact handled.onStore follows
    | ack _ handled =>
      refine handled.onStore (fun ack accepts => expected.ack ?_) follows
      rw [acceptedAck_eq_some.mpr ⟨valid, accepts⟩, Option.isSome_some]
  cases received with
  | nothing => exact .done follows
  | receive valid step =>
    obtain rfl := uses
    cases step with
    | unhandled => exact .done follows
    | kept _ _ done => exact handled rfl valid done
    | failed _ _ done _ matched dropped =>
      obtain ⟨store₁, accepted, follows₁⟩ := handled rfl valid done
      rw [receiverActiveMatchesHeader, Bool.and_eq_true] at matched
      exact Store.Tracks.append accepted (dropped.onStore matched.1 follows₁)
  | poll first second =>
    obtain ⟨store₁, accepted, follows₁⟩ := first.onStore follows
    exact Store.Tracks.append accepted (second.onStore follows₁)

/-- The filestore callbacks of a history use open handles only, and every temporary file is closed
once and committed or discarded once before the receiver becomes inactive. -/
def TemporaryFileSettled (history : List Step) (entity : Entity) : Prop :=
  ∃ store, Store.settled.backs (history.flatMap Step.trace) = some store ∧
    (entity.receiver.active = false → store = .settled)

/-- It is so at every point of a run in which the receiver accepts only the PDUs it expects. -/
theorem temporary_file_settled {config : EntityConfig} {ut : UtOps} {fs : FilestoreOps}
    {entity₀ entity : Entity} {steps : List Step} (init : entityInit config ut = .ok entity₀)
    (run : Run (fun entity step entity' => ReceiverRunStep entity step entity' ∧
      UsesFilestore fs step.call ∧ ExpectedPdu entity step.call) entity₀ steps entity) :
    TemporaryFileSettled steps entity := by
  let Related (store : Store) (entity : Entity) : Prop :=
    entity.sender.active = false ∧ ReceiverSound entity.receiver ∧ store.Follows fs entity.receiver
  have fresh : Related .settled entity₀ := by
    rw [entityInit] at init
    split_ifs at init
    cases init
    exact ⟨rfl, receiverSound_zero, Store.follows_zero⟩
  have keep : ∀ store entity (step : Step) entity', Related store entity →
      ReceiverRunStep entity step entity' ∧ UsesFilestore fs step.call ∧ ExpectedPdu entity step.call →
      ∃ store', Monitor.run Store.back store step.trace = some store' ∧ Related store' entity' := by
    rintro store entity step entity' ⟨idle, sound, follows⟩ ⟨run, uses, expected⟩
    have received := receives_outcome run.receives idle run.quiet
    obtain ⟨store', accepted, follows'⟩ := received.onStore uses expected follows sound
    refine ⟨store', accepted, ?_, received.sound sound, follows'⟩
    rw [received.only.sender]
    exact idle
  obtain ⟨store, accepted, _, _, follows⟩ := Run.monitored keep fresh run
  exact ⟨store, accepted, follows.rest⟩

end Runs

end ZephyrCcsds.Cfdp

namespace ZephyrCcsds.Cfdp

attribute [local instance] defaultKconfig plainCrc

/-- The delivery of a file of one octet. -/
theorem temporary_file_settled_delivered : ∃ entity,
    playAll (fun entity call => call.receives = true ∧ UsesFilestore wholeFilestore call ∧
        ExpectedPdu entity call) freshReceiver
      [openingStep, writingStep, finishingStep, releasingStep] = some entity ∧
    TemporaryFileSettled [openingStep, writingStep, finishingStep, releasingStep] entity := by
  obtain ⟨entity, played⟩ := Option.isSome_iff_exists.mp (show (playAll
    (fun entity call => call.receives = true ∧ UsesFilestore wholeFilestore call ∧
      ExpectedPdu entity call) freshReceiver
    [openingStep, writingStep, finishingStep, releasingStep]).isSome = true by decide +kernel)
  exact ⟨entity, played, temporary_file_settled entityInit_receiverConfig
    ((run_of_playAll played).mono fun _ _ _ ⟨quiet, receives, uses, expected⟩ =>
      ⟨⟨receives, quiet⟩, uses, expected⟩)⟩

/-- An ACK of a Finished PDU right after the Metadata PDU releases the slot with its file open, and
a File Data PDU that comes after the end was reported is written to a handle that is not open. -/
theorem temporary_file_unsettled :
    (∃ entity, Run ReceiverRunStep freshReceiver [openingStep, releasingStep] entity ∧
      ¬ TemporaryFileSettled [openingStep, releasingStep] entity) ∧
    ∃ entity, Run ReceiverRunStep freshReceiver [openingStep, writingStep, finishingStep, lateStep] entity ∧
      ¬ TemporaryFileSettled [openingStep, writingStep, finishingStep, lateStep] entity := by
  have run : ∀ {steps : List Step} {entity : Entity},
      playAll (fun _ call => call.receives = true) freshReceiver steps = some entity →
      Run ReceiverRunStep freshReceiver steps entity :=
    fun played => (run_of_playAll played).mono fun _ _ _ ⟨quiet, receives⟩ => ⟨receives, quiet⟩
  constructor
  · obtain ⟨entity, played⟩ := Option.isSome_iff_exists.mp (show (playAll
      (fun _ call => call.receives = true) freshReceiver [openingStep, releasingStep]).isSome = true by
        decide +kernel)
    refine ⟨entity, run played, ?_⟩
    rintro ⟨store, accepted, _⟩
    have rejected : Store.settled.backs ([openingStep, releasingStep].flatMap Step.trace) = none := by
      decide +kernel
    rw [rejected] at accepted
    cases accepted
  · obtain ⟨entity, played⟩ := Option.isSome_iff_exists.mp (show (playAll
      (fun _ call => call.receives = true) freshReceiver
      [openingStep, writingStep, finishingStep, lateStep]).isSome = true by decide +kernel)
    refine ⟨entity, run played, ?_⟩
    rintro ⟨store, accepted, _⟩
    have rejected : Store.settled.backs
        ([openingStep, writingStep, finishingStep, lateStep].flatMap Step.trace) = none := by
      decide +kernel
    rw [rejected] at accepted
    cases accepted

end ZephyrCcsds.Cfdp
