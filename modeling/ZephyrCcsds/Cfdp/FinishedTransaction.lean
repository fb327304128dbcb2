import ZephyrCcsds.Cfdp.SenderTrace

/-! # A finished transaction of the receiver

Once the receiver has reported the end of an acknowledged transaction it waits for the ACK of
its Finished PDU.  Until the slot is released, every PDU and every `poll` leaves the temporary
file alone and repeats the report that was sent first, as long as no File Data PDU is accepted.
-/

namespace ZephyrCcsds.Cfdp

open Callback

variable [Kconfig]

/-! ## The first report -/

/-- The report of a transaction that ends with a status. -/
def statusReport (status : Status) : Report where
  conditionCode := finishedConditionFromStatus status
  deliveryCode := finishedDeliveryCodeFromStatus status
  fileStatus := finishedFileStatusFromStatus status

/-- A slot that waits for the ACK of the Finished PDU of its status. -/
structure Awaiting (status : Status) (slot : TransactionSlot) : Prop where
  active : slot.active = true
  waiting : slot.waitingForFinishedAck = true
  settled : slot.recoveryPending = false
  status : slot.finishedStatus = status

section Reports

variable {entity entity' : Entity} {t : Trace} {status result : Status} {fs : FilestoreOps}

theorem reportOf_finished {pdu : Bytes} (bounded : entity.Bounded)
    (encoded : encodeFinished (finishedPdu entity status) maxPduSize = .ok pdu) :
    reportOf pdu = some (statusReport status) := by
  have decoded := decodeFinished_encodeFinished encoded bounded.receiverHeader
  rw [reportOf, decoded]
  rfl

/-- The send of the Finished PDU of a status. -/
abbrev FinishedSent (entity : Entity) (status : Status) : Trace → Status → Prop :=
  Sent entity.receiver.peerEntityId (encodeFinished (finishedPdu entity status) maxPduSize)

theorem FinishedSent.reports {sent : Status} (finished : FinishedSent entity status t sent)
    (bounded : entity.Bounded) : ∀ report ∈ sentReports t, report = statusReport status := by
  intro report mem
  cases finished with
  | refused => cases mem
  | sent rc encoded =>
    simp only [sentReports, List.filterMap_cons, reportOf_finished bounded encoded,
      List.filterMap_nil, List.mem_singleton] at mem
    exact mem

theorem FinishedSent.report (finished : FinishedSent entity status t .ok)
    (bounded : entity.Bounded) : sentReports t = [statusReport status] := by
  obtain ⟨pdu, encoded, rfl⟩ := Sent.ok (encodeFinished_ne_error_ok _ _) finished
  simp only [sentReports, List.filterMap_cons, reportOf_finished bounded encoded,
    List.filterMap_nil]

theorem Clock.reports {now : Nat} (clock : Clock entity t now) : sentReports t = [] := by
  cases clock <;> rfl

theorem AckEofSent.reports {code : Nat} {sent : Status}
    (acked : Sent entity.receiver.peerEntityId (encodeAck (ackEofPdu entity code) maxPduSize) t sent)
    (bounded : entity.Bounded) : sentReports t = [] := by
  cases acked with
  | refused => rfl
  | sent rc encoded =>
    have decoded := decodeAck_encodeAck encoded bounded.receiverHeader
    simp only [sentReports, List.filterMap_cons, List.filterMap_nil,
      reportOf_directive (decodeAck_header decoded) (by decide)]

theorem NakSent.reports {sent : Status} (nak : NakSent entity t sent) (bounded : entity.Bounded) :
    sentReports t = [] := by
  cases nak with
  | toomany => rfl
  | sent _ sent =>
    cases sent with
    | refused => rfl
    | sent rc encoded =>
      have directive := encodeNak_isDirective encoded bounded.receiverHeader
      simp only [sentReports, List.filterMap_cons, List.filterMap_nil,
        reportOf_directive directive (by decide)]

theorem Stored.reports {slot : TransactionSlot} {stored : Status}
    (store : Stored fs slot status t stored) : sentReports t = [] := by
  have closed : ∀ {t : Trace} {c : Int} {obs : Obs},
      CalledIf slot.fileHandleOpen (.close fs slot.fileHandle) 0 t c → sentReports [obs] = [] →
      sentReports (t ++ [obs]) = [] := by
    intro t c obs closed last
    rw [sentReports_append, last, List.append_nil]
    obtain ⟨_, rfl⟩ | ⟨_, rfl, _⟩ := closed.elim <;> rfl
  cases store with
  | committed _ close | uncommitted _ close | unclosed _ _ close | discarded _ _ close =>
    exact closed close rfl

theorem ReadLoop.reports [ZephyrCrc] {handle : Handle} {fileSize offset : Nat} {state : ChecksumState}
    {buf buf' : Bytes} {final : Except Status ChecksumState}
    (loop : ReadLoop fs handle fileSize state offset buf t final buf') : sentReports t = [] := by
  induction loop with
  | done | unread | unsummed => rfl
  | turn _ _ _ _ ih => exact ih

theorem Verified.reports [ZephyrCrc] {slot : TransactionSlot} {buf buf' : Bytes} {expected : Nat}
    (verified : Verified fs slot buf expected t status buf') : sentReports t = [] := by
  cases verified with
  | unsupported => rfl
  | unread _ loop | unfinished _ loop | mismatched _ loop | intact _ loop => exact loop.reports

/-- A trace after which the slot waits, with the one report it sent. -/
def Announced (t : Trace) (slot : TransactionSlot) : Prop :=
  ∃ status, Awaiting status slot ∧ sentReports t = [statusReport status]

theorem Announced.prepend {u : Trace} {slot : TransactionSlot}
    (announced : Announced t slot) (silent : sentReports u = []) : Announced (u ++ t) slot := by
  obtain ⟨status, awaiting, reports⟩ := announced
  exact ⟨status, awaiting, by rw [sentReports_append, silent, reports, List.nil_append]⟩

theorem Finished.announced (finished : Finished fs entity status t result entity')
    (closes : Closes entity.receiver) (bounded : entity.Bounded)
    (active : entity'.receiver.active = true) : Announced t entity'.receiver := by
  obtain ⟨store, settled⟩ := finished
  apply Announced.prepend _ store.reports
  cases settled with
  | awaiting _ sent clock =>
    refine ⟨result, ⟨active, rfl, rfl, rfl⟩, ?_⟩
    have report := FinishedSent.report sent
      (bounded.withReceiver (bounded.receiver.congr rfl rfl))
    rw [sentReports_append, report, clock.reports, List.append_nil]
  | silent acknowledged unrequested => cases (closes acknowledged).symm.trans unrequested
  | unreported | released => cases active

end Reports

/-- A step in which the receiver finishes its transaction. -/
structure Finishes (entity entity' : Entity) : Prop where
  running : entity.receiver.waitingForFinishedAck = false
  active : entity'.receiver.active = true
  waiting : entity'.receiver.waitingForFinishedAck = true

section Finishing

variable [ZephyrCrc] {entity entity' : Entity} {t : Trace} {status : Status} {fs : FilestoreOps} {pdu : Bytes}

omit [Kconfig] [ZephyrCrc] in
/-- A step that does not touch the flag does not finish the transaction. -/
theorem Finishes.changed (finishes : Finishes entity entity') :
    entity'.receiver.waitingForFinishedAck ≠ entity.receiver.waitingForFinishedAck := by
  rw [finishes.running, finishes.waiting]
  decide

theorem FiledataHandled.announced (handled : FiledataHandled fs pdu entity t status entity')
    (sound : ReceiverSound entity.receiver) (bounded : entity.Bounded) (finishes : Finishes entity entity') :
    Announced t entity'.receiver := by
  cases handled with
  | skipped | unwritten | unranged | unsummed | written => exact (finishes.changed rfl).elim
  | completed accepts _ _ _ _ _ verified finished =>
    have closes := sound.closes (receiverMatchActive_ok accepts.matched).1
    apply Announced.prepend (u := [_]) _ rfl
    apply Announced.prepend _ verified.reports
    apply finished.announced closes _ finishes.active
    apply Entity.Bounded.withBuf
    exact bounded.withReceiver (bounded.receiver.congr rfl rfl)

theorem EofCompleted.announced {eof : EofPdu}
    (completed : EofCompleted fs eof entity t status entity') (closes : Closes entity.receiver)
    (bounded : entity.Bounded) (finishes : Finishes entity entity') : Announced t entity'.receiver := by
  have incomplete : ∀ {slot : TransactionSlot}, slot.id = entity.receiver.id →
      slot.peerEntityId = entity.receiver.peerEntityId → (entity.withReceiver slot).Bounded :=
    fun id peer => bounded.withReceiver (bounded.receiver.congr id peer)
  cases completed with
  | unchecked _ finished | short _ _ finished => exact finished.announced closes bounded finishes.active
  | asked => exact (finishes.changed rfl).elim
  | unasked _ _ nak _ finished =>
    apply Announced.prepend _ (nak.reports (incomplete rfl rfl))
    exact finished.announced closes (incomplete rfl rfl) finishes.active
  | complete _ verified finished =>
    apply Announced.prepend _ verified.reports
    exact finished.announced closes (bounded.withBuf _) finishes.active

theorem EofHandled.announced (handled : EofHandled fs pdu entity t status entity')
    (sound : ReceiverSound entity.receiver) (bounded : entity.Bounded)
    (finishes : Finishes entity entity') : Announced t entity'.receiver := by
  have taken : ∀ checksum, (entity.withReceiver (entity.receiver.withEofChecksum checksum)).Bounded :=
    fun checksum => bounded.withReceiver (bounded.receiver.congr rfl rfl)
  have silent : ∀ {t : Trace} {code : Nat} {sent : Status},
      (entity.receiver.transmissionMode = .acknowledged →
        Sent entity.receiver.peerEntityId (encodeAck (ackEofPdu entity code) maxPduSize) t sent) →
      (entity.receiver.transmissionMode = .unacknowledged → t = []) → sentReports t = [] := by
    intro t code sent acknowledged unacknowledged
    cases mode : entity.receiver.transmissionMode with
    | acknowledged => exact AckEofSent.reports (acknowledged mode) bounded
    | unacknowledged =>
      rw [unacknowledged mode]
      rfl
  cases handled with
  | skipped | repeated | unacknowledged => exact (finishes.changed rfl).elim
  | refused accepts _ _ acknowledged unacknowledged finished =>
    have closes := sound.closes (receiverMatchActive_ok accepts.matched).1
    apply Announced.prepend _ (silent acknowledged unacknowledged)
    exact finished.announced closes (taken _) finishes.active
  | taken accepts running _ _ acknowledged unacknowledged completed =>
    have closes := sound.closes (receiverMatchActive_ok accepts.matched).1
    apply Announced.prepend _ (silent acknowledged unacknowledged)
    exact completed.announced closes (taken _) ⟨running, finishes.active, finishes.waiting⟩

theorem ReceiverStep.announced (step : ReceiverStep fs pdu entity t status entity')
    (sound : ReceiverSound entity.receiver) (bounded : entity.Bounded)
    (finishes : Finishes entity entity') : Announced t entity'.receiver := by
  cases step with
  | unhandled => exact (finishes.changed rfl).elim
  | failed => cases finishes.active
  | kept _ _ handled =>
    cases handled with
    | ignored => exact (finishes.changed rfl).elim
    | filedata _ handled => exact handled.announced sound bounded finishes
    | eof handled => exact handled.announced sound bounded finishes
    | metadata _ handled =>
      cases handled with
      | skipped => exact (finishes.changed rfl).elim
      | opened _ idle =>
        have waiting := finishes.waiting
        simp only [Entity.withReceiver_receiver, openedSlot, metadataSlot, sound.rest idle] at waiting
        cases waiting
      | refused => cases finishes.active
    | ack _ handled =>
      cases handled with
      | skipped => exact (finishes.changed rfl).elim
      | released => cases finishes.active

theorem Called.announced {call : Call} (called : Called entity call t entity')
    (sound : ReceiverSound entity.receiver) (bounded : entity.Bounded)
    (finishes : Finishes entity entity') : Announced t entity'.receiver := by
  have kept : ∀ {entity entity' : Entity} {now : Nat} {t : Trace},
      ReceiverPolled entity now t entity' → entity.receiver.waitingForFinishedAck = false →
      entity'.receiver.waitingForFinishedAck = false := by
    intro entity entity' now t polled running
    cases polled with
    | idle | askedAgain | reportedAgain => exact running
    | recoveryEnded | waitEnded => rfl
  cases called with
  | sendFile handled => exact (finishes.changed (by rw [handled.only.receiver])).elim
  | unheard => exact (finishes.changed rfl).elim
  | sender step => exact (finishes.changed (by rw [step.only.receiver])).elim
  | receiver _ step => exact step.announced sound bounded finishes
  | poll first second third =>
    have running := kept second (kept first finishes.running)
    rw [← third.only.receiver, finishes.waiting] at running
    cases running

end Finishing

/-! ## What follows it -/

/-- An operation that reads or closes the file of the sender, or is no filestore operation. -/
def OnSenderFile (slot : TransactionSlot) : Op → Prop
  | .read fs handle _ _ | .close fs handle => slot.filestore = some fs ∧ handle = slot.fileHandle
  | .openRead .. | .openWriteTmp .. | .write .. | .commitTmp .. | .discardTmp .. => False
  | .sendPdu .. | .nowMs | .event .. => True

/-- A trace without filestore operations of the receiver that repeats one report. -/
structure Harmless (first : Report) (sender : TransactionSlot) (t : Trace) : Prop where
  reports : ∀ report ∈ sentReports t, report = first
  files : ∀ obs ∈ t, OnSenderFile sender obs.1

section Harmless

variable {first : Report} {sender : TransactionSlot} {entity entity' : Entity} {t u : Trace}
  {status : Status}

omit [Kconfig] in
theorem Harmless.nil [Kconfig] : Harmless first sender [] :=
  ⟨fun _ mem => (by cases mem), fun _ mem => (by cases mem)⟩

theorem Harmless.append (front : Harmless first sender t) (back : Harmless first sender u) :
    Harmless first sender (t ++ u) := by
  constructor
  · intro report mem
    rw [sentReports_append, List.mem_append] at mem
    exact mem.elim (front.reports report) (back.reports report)
  · intro obs mem
    exact (List.mem_append.mp mem).elim (front.files obs) (back.files obs)

theorem terminalEvent_harmless (role : Role) (id : TransactionId) :
    Harmless first sender (terminalEvent entity role id status) := by
  unfold terminalEvent
  split
  · constructor
    · intro report mem
      cases mem
    · intro obs mem
      rw [List.mem_singleton] at mem
      rw [mem]
      trivial
  · exact .nil

omit [Kconfig] in
theorem Sent.files {dest : Nat} {encoded : Except Status Bytes} (sent : Sent dest encoded t status) :
    ∀ obs ∈ t, OnSenderFile sender obs.1 := by
  intro obs mem
  cases sent with
  | refused => cases mem
  | sent =>
    rw [List.mem_singleton] at mem
    rw [mem]
    trivial

theorem FinishedSent.harmless {sent : Status} (finished : FinishedSent entity status t sent)
    (bounded : entity.Bounded) : Harmless (statusReport status) sender t :=
  ⟨finished.reports bounded, Sent.files finished⟩

theorem AllOfSender.harmless (all : AllOfSender entity t) (bounded : entity.Bounded) :
    Harmless first entity.sender t := by
  constructor
  · intro report mem
    rw [all.sentReports bounded] at mem
    cases mem
  · rintro ⟨op, result⟩ mem
    have own := all _ mem
    cases op with
    | sendPdu | nowMs | event => trivial
    | read | close => exact own
    | openRead | openWriteTmp | write | commitTmp | discardTmp => exact own.elim

end Harmless

section Further

variable [ZephyrCrc] {entity entity' : Entity} {t : Trace} {status result : Status}
  {fs : FilestoreOps} {pdu : Bytes}

omit [Kconfig] [ZephyrCrc] in
theorem Awaiting.not_running (awaiting : Awaiting status entity.receiver) :
    entity.receiver.waitingForFinishedAck ≠ false := by
  rw [awaiting.waiting]
  decide

/-- A handler releases the waiting slot or leaves it as it is. -/
theorem Handled.repeats (handled : Handled fs pdu entity t result entity')
    (unwritten : ∀ filedata, ¬ AcceptsFiledata entity pdu filedata)
    (awaiting : Awaiting status entity.receiver) (bounded : entity.Bounded) :
    (entity'.receiver = .zero ∨ entity'.receiver = entity.receiver) ∧
      Harmless (statusReport status) entity.sender t := by
  cases handled with
  | ignored => exact ⟨.inr rfl, .nil⟩
  | metadata _ handled =>
    cases handled with
    | skipped => exact ⟨.inr rfl, .nil⟩
    | opened _ idle | refused _ idle =>
      rw [awaiting.active] at idle
      cases idle
  | filedata _ handled =>
    cases handled with
    | skipped => exact ⟨.inr rfl, .nil⟩
    | unwritten accepts | unranged accepts | unsummed accepts | written accepts
    | completed accepts => exact (unwritten _ accepts).elim
  | eof handled =>
    cases handled with
    | skipped => exact ⟨.inr rfl, .nil⟩
    | repeated _ _ sent =>
      rw [awaiting.status] at sent
      exact ⟨.inr rfl, FinishedSent.harmless sent bounded⟩
    | refused _ running | unacknowledged _ running | taken _ running =>
      exact (awaiting.not_running running).elim
  | ack _ handled =>
    cases handled with
    | skipped => exact ⟨.inr rfl, .nil⟩
    | released => exact ⟨.inl rfl, terminalEvent_harmless _ _⟩

theorem ReceiverStep.repeats (step : ReceiverStep fs pdu entity t result entity')
    (unwritten : ∀ filedata, ¬ AcceptsFiledata entity pdu filedata)
    (awaiting : Awaiting status entity.receiver) (bounded : entity.Bounded) :
    (entity'.receiver = .zero ∨ entity'.receiver = entity.receiver) ∧
      Harmless (statusReport status) entity.sender t := by
  cases step with
  | unhandled => exact ⟨.inr rfl, .nil⟩
  | kept _ _ handled => exact handled.repeats unwritten awaiting bounded
  | failed _ _ handled _ matched dropped =>
    obtain ⟨slot, harmless⟩ := handled.repeats unwritten awaiting bounded
    refine ⟨.inl rfl, harmless.append ?_⟩
    cases dropped with
    | waiting => exact terminalEvent_harmless _ _
    | discarded running =>
      -- only a slot that is gone does not wait, and that one matches no header
      rcases slot with zero | same
      · rw [receiverActiveMatchesHeader, zero] at matched
        cases matched
      · rw [same] at running
        exact (awaiting.not_running running).elim

omit [ZephyrCrc] in
theorem ReceiverPolled.repeats {now : Nat} (polled : ReceiverPolled entity now t entity')
    (still : entity.receiver = .zero ∨ Awaiting status entity.receiver) (bounded : entity.Bounded) :
    (entity'.receiver = .zero ∨ Awaiting status entity'.receiver) ∧
      Harmless (statusReport status) entity.sender t := by
  have awaits : entity.receiver.active = true → Awaiting status entity.receiver := by
    intro active
    rcases still with zero | awaiting
    · rw [zero] at active
      cases active
    · exact awaiting
  cases polled with
  | idle => exact ⟨still, .nil⟩
  | askedAgain active _ recovery | recoveryEnded active _ recovery =>
    rw [(awaits active).settled] at recovery
    cases recovery
  | reportedAgain active _ _ sent =>
    have awaiting := awaits active
    rw [awaiting.status] at sent
    exact ⟨.inr ⟨active, awaiting.waiting, awaiting.settled, awaiting.status⟩,
      FinishedSent.harmless sent bounded⟩
  | waitEnded active _ _ asked =>
    have awaiting := awaits active
    rw [awaiting.status] at asked
    refine ⟨.inl rfl, Harmless.append ?_ (terminalEvent_harmless _ _)⟩
    rcases asked with rfl | sent
    · exact .nil
    · exact FinishedSent.harmless sent bounded

/-- A call while the receiver waits. -/
theorem Called.repeats {call : Call} (called : Called entity call t entity')
    (receives : call.receives = true) (unwritten : acceptedFiledata entity call = none)
    (awaiting : Awaiting status entity.receiver) (bounded : entity.Bounded) :
    (entity'.receiver = .zero ∨ Awaiting status entity'.receiver) ∧
      Harmless (statusReport status) entity.sender t := by
  cases called with
  | sendFile => cases receives
  | unheard => exact ⟨.inr awaiting, .nil⟩
  | sender step => exact ⟨.inr (step.only.receiver ▸ awaiting), step.ofSender.harmless bounded⟩
  | @receiver _ pdu _ _ _ valid step =>
    have none : ∀ filedata, ¬ AcceptsFiledata entity pdu filedata := by
      intro filedata accepts
      rw [acceptedFiledata_eq_some.mpr ⟨valid, accepts⟩] at unwritten
      cases unwritten
    obtain ⟨zero | same, harmless⟩ := step.repeats none awaiting bounded
    · exact ⟨.inl zero, harmless⟩
    · exact ⟨.inr (same ▸ awaiting), harmless⟩
  | poll first second third =>
    obtain ⟨still, first'⟩ := first.repeats (.inr awaiting) bounded
    obtain ⟨still, second'⟩ := second.repeats still (first.bounded bounded)
    have third' : Harmless (statusReport status) _ _ :=
      third.ofSender.harmless (second.bounded (first.bounded bounded))
    rw [first.sender] at second'
    rw [second.sender, first.sender] at third'
    exact ⟨third.only.receiver ▸ still, first'.append (second'.append third')⟩

end Further

/-! ## Runs -/

/-- A call after the transaction was finished, made before the slot is released. -/
structure FurtherStep [ZephyrCrc] (entity : Entity) (step : Step) (entity' : Entity) : Prop where
  quiet : QuietStep entity step entity'
  receives : step.call.receives = true
  kept : entity.receiver.active = true

/-- In a history in which the receiver finishes a transaction, a later step that starts before the
slot is released leaves the temporary file alone and repeats the first report. -/
def StaysFinished (finishing later : Step) (entity : Entity) : Prop :=
  ∃ first, sentReports finishing.trace = [first] ∧ Harmless first entity.sender later.trace

variable [ZephyrCrc]

/-- It is so in every run in which no File Data PDU is accepted after the transaction finished. -/
theorem finished_stays_finished {config : EntityConfig} {ut : UtOps}
    {entity₀ entity entity₁ later₀ later₁ : Entity} {before after : List Step}
    {finishing later : Step} (init : entityInit config ut = .ok entity₀)
    (history : Run QuietStep entity₀ before entity) (quiet : QuietStep entity finishing entity₁)
    (finishes : Finishes entity entity₁)
    (further : Run (fun entity step entity' => FurtherStep entity step entity' ∧
      acceptedFiledata entity step.call = none) entity₁ after later₀)
    (step : FurtherStep later₀ later later₁) (unwritten : acceptedFiledata later₀ later.call = none) :
    StaysFinished finishing later later₀ := by
  have sound := receiverSound_of_run init history
  have bounded := bounded_of_run init history
  have called := called_outcome quiet
  obtain ⟨status, awaiting, first⟩ := called.announced sound bounded finishes
  -- the slot waits with the same status until it is released
  let Inv (entity : Entity) : Prop :=
    entity.Bounded ∧ (entity.receiver = .zero ∨ Awaiting status entity.receiver)
  have keep : ∀ entity (step : Step) entity', Inv entity →
      FurtherStep entity step entity' ∧ acceptedFiledata entity step.call = none → Inv entity' := by
    rintro entity step entity' ⟨bounded, still⟩ ⟨further, unwritten⟩
    have called := called_outcome further.quiet
    refine ⟨called.bounded bounded, ?_⟩
    rcases still with zero | awaiting
    · have kept := further.kept
      rw [zero] at kept
      cases kept
    · exact (called.repeats further.receives unwritten awaiting bounded).1
  obtain ⟨bounded', still⟩ := further.invariant keep ⟨called.bounded bounded, .inr awaiting⟩
  refine ⟨_, first, ?_⟩
  rcases still with zero | awaiting'
  · have kept := step.kept
    rw [zero] at kept
    cases kept
  · have called' := called_outcome step.quiet
    exact (called'.repeats step.receives unwritten awaiting' bounded').2

end ZephyrCcsds.Cfdp

namespace ZephyrCcsds.Cfdp

attribute [local instance] defaultKconfig plainCrc

/-- The Finished PDU of the delivered file. -/
def finishedOctets : Bytes := [40, 0, 2, 0, 1, 7, 2, 5, 2]

/-- A second EOF PDU is answered with the Finished PDU. -/
def repeatingStep : Step where
  call := .receivePdu (some wholeFilestore) eofOctets
  trace := [⟨.sendPdu 1 finishedOctets, (0 : Int)⟩]

/-- The EOF PDU arrives again, then the ACK, after a file of one octet was delivered. -/
theorem finished_stays_finished_delivered : ∃ entity entity₁ later₀ later₁,
    playAll (fun _ _ => True) freshReceiver [openingStep, writingStep] = some entity ∧
    finishingStep.play entity = some entity₁ ∧
    playAll (fun entity call => call.receives = true ∧ entity.receiver.active = true ∧
      acceptedFiledata entity call = none) entity₁ [repeatingStep] = some later₀ ∧
    releasingStep.play later₀ = some later₁ ∧
    StaysFinished finishingStep releasingStep later₀ := by
  have played : ((playAll (fun _ _ => True) freshReceiver [openingStep, writingStep]).bind
      fun entity => (finishingStep.play entity).bind fun entity₁ =>
        (playAll (fun entity call => call.receives = true ∧ entity.receiver.active = true ∧
          acceptedFiledata entity call = none) entity₁ [repeatingStep]).bind fun later₀ =>
        (releasingStep.play later₀).map fun _ =>
          decide (entity.receiver.waitingForFinishedAck = false ∧ entity₁.receiver.active = true ∧
            entity₁.receiver.waitingForFinishedAck = true ∧ later₀.receiver.active = true ∧
            acceptedFiledata later₀ releasingStep.call = none)) = some true := by
    decide +kernel
  simp only [Option.bind_eq_some_iff, Option.map_eq_some_iff, decide_eq_true_eq] at played
  obtain ⟨entity, history, entity₁, finishing, later₀, further, later₁, later, running, active,
    waiting, kept, unwritten⟩ := played
  refine ⟨entity, entity₁, later₀, later₁, history, finishing, further, later, ?_⟩
  exact finished_stays_finished entityInit_receiverConfig
    ((run_of_playAll history).mono fun _ _ _ quiet => quiet.1) (quietStep_of_play finishing)
    ⟨running, active, waiting⟩
    ((run_of_playAll further).mono fun _ _ _ ⟨quiet, receives, kept, unwritten⟩ =>
      ⟨⟨quiet, receives, kept⟩, unwritten⟩)
    ⟨quietStep_of_play later, rfl, kept⟩ unwritten

/-- A File Data PDU that arrives after the end was reported is written. -/
theorem finished_written : ∃ entity entity₁ entity₂,
    Run QuietStep freshReceiver [openingStep, writingStep] entity ∧
    QuietStep entity finishingStep entity₁ ∧ Finishes entity entity₁ ∧
    FurtherStep entity₁ lateStep entity₂ ∧ ¬ StaysFinished finishingStep lateStep entity₁ := by
  have played : ((playAll (fun _ _ => True) freshReceiver [openingStep, writingStep]).bind
      fun entity => (finishingStep.play entity).bind fun entity₁ =>
        (lateStep.play entity₁).map fun _ =>
          decide (entity.receiver.waitingForFinishedAck = false ∧ entity₁.receiver.active = true ∧
            entity₁.receiver.waitingForFinishedAck = true)) = some true := by
    decide +kernel
  simp only [Option.bind_eq_some_iff, Option.map_eq_some_iff, decide_eq_true_eq] at played
  obtain ⟨entity, history, entity₁, finishing, entity₂, late, running, active, waiting⟩ := played
  refine ⟨entity, entity₁, entity₂, (run_of_playAll history).mono fun _ _ _ quiet => quiet.1,
    quietStep_of_play finishing, ⟨running, active, waiting⟩, ⟨quietStep_of_play late, rfl, active⟩, ?_⟩
  rintro ⟨first, _, harmless⟩
  exact harmless.files ⟨.write wholeFilestore 0 0 [104], (0 : Int)⟩ (List.mem_singleton.mpr rfl)

end ZephyrCcsds.Cfdp
