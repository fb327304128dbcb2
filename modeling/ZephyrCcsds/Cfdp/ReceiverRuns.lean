import ZephyrCcsds.Callback.Script
import ZephyrCcsds.Cfdp.ReceiverOutcome
import ZephyrCcsds.Runs

/-! # Runs of `receive_pdu` and `poll`

A run without re-entry is a list of calls with their traces.  While the entity sends no
file, a call either leaves it alone or is a step of the receiver (`receives_outcome`).
`ReceiverSound` collects what every such run keeps true of the receiver slot.
-/

namespace ZephyrCcsds.Cfdp

open Callback

variable [Kconfig] [ZephyrCrc]

/-! ## Steps and histories -/

/-- A completed call with the callbacks it made. -/
structure Step where
  call : Call
  trace : Trace

/-- What a history lists: the calls and the callbacks made in them. -/
inductive Entry where
  | call (call : Call)
  | back (obs : Obs)

def Step.entries (step : Step) : List Entry := .call step.call :: step.trace.map .back

/-- A call during which no callback re-enters the entity. -/
def QuietStep (entity : Entity) (step : Step) (entity' : Entity) : Prop :=
  ∃ status, step.call.body.Runs once entity step.trace status entity'

/-- The entity after a step, when its call makes the callbacks of its trace. -/
def Step.play (entity : Entity) (step : Step) : Option Entity :=
  ((step.call.body entity).play step.trace).map Prod.snd

theorem quietStep_of_play {entity entity' : Entity} {step : Step}
    (played : step.play entity = some entity') : QuietStep entity step entity' := by
  obtain ⟨⟨status, _⟩, run, rfl⟩ := Option.map_eq_some_iff.mp played
  exact ⟨status, Act.runs_of_play run⟩

/-- Play steps as long as each call is allowed in the state it starts from. -/
def playAll (allowed : Entity → Call → Prop) [∀ entity call, Decidable (allowed entity call)]
    (entity : Entity) (steps : List Step) : Option Entity :=
  steps.foldlM (fun entity step => if allowed entity step.call then step.play entity else none) entity

theorem run_of_playAll {allowed : Entity → Call → Prop}
    [∀ entity call, Decidable (allowed entity call)] {entity entity' : Entity} {steps : List Step}
    (played : playAll allowed entity steps = some entity') :
    Run (fun entity step entity' => QuietStep entity step entity' ∧ allowed entity step.call)
      entity steps entity' := by
  refine Run.of_foldlM (fun entity step entity' first => ?_) played
  split_ifs at first with permitted
  exact ⟨quietStep_of_play first, permitted⟩

def Call.receives : Call → Bool
  | .sendFile .. => false
  | .receivePdu .. | .poll _ => true

/-- A step in a run that sends no file. -/
structure ReceiverRunStep (entity : Entity) (step : Step) (entity' : Entity) : Prop where
  receives : step.call.receives = true
  quiet : QuietStep entity step entity'

/-! ## The PDU of a call -/

/-- What a decoder finds when it uses up the whole PDU. -/
def wholePdu {α : Type} (decode : Bytes → Except Status (α × Nat)) (pdu : Bytes) : Option α :=
  match decode pdu with
  | .error _ => none
  | .ok (found, consumed) => if consumed = pdu.length then some found else none

/-- The PDU that a call hands to the receiver, as a decoder reads it. -/
def Call.handed {α : Type} (decode : Bytes → Except Status (α × Nat)) : Call → Option α
  | .receivePdu (some fs) pdu => if receiveFilestoreIsValid fs then wholePdu decode pdu else none
  | _ => none

omit [Kconfig] [ZephyrCrc] in
theorem wholePdu_eq_some {α : Type} {decode : Bytes → Except Status (α × Nat)} {pdu : Bytes}
    {found : α} : wholePdu decode pdu = some found ↔ decode pdu = .ok (found, pdu.length) := by
  rw [wholePdu]
  cases decode pdu with
  | error status => simp only [reduceCtorEq]
  | ok result =>
    obtain ⟨found', consumed⟩ := result
    simp only [Option.ite_none_right_eq_some, Option.some.injEq, Except.ok.injEq, Prod.mk.injEq]
    exact and_comm

omit [Kconfig] [ZephyrCrc] in
theorem Call.handed_eq_some {α : Type} {decode : Bytes → Except Status (α × Nat)}
    {fs : FilestoreOps} {pdu : Bytes} {found : α} :
    (Call.receivePdu (some fs) pdu).handed decode = some found ↔
      receiveFilestoreIsValid fs = true ∧ decode pdu = .ok (found, pdu.length) := by
  rw [Call.handed, Option.ite_none_right_eq_some, wholePdu_eq_some]

/-- The EOF PDU that a call takes to `receiver_handle_eof`. -/
def takenEof (entity : Entity) (call : Call) : Option EofPdu :=
  (call.handed decodeEof).filter fun eof => incomingHeaderIsSupported entity eof.header

/-- The File Data PDU that a call writes. -/
def acceptedFiledata (entity : Entity) (call : Call) : Option FiledataPdu :=
  (call.handed decodeFiledata).filter fun filedata =>
    incomingHeaderIsSupported entity filedata.header &&
      receiverMatchActive entity filedata.header == .ok &&
      decide (filedata.offset + filedata.data.length ≤ uint32Max) &&
      decide (filedata.offset + filedata.data.length ≤ entity.receiver.fileSize)

/-- The ACK of a Finished PDU that releases the receiver. -/
def acceptedAck (entity : Entity) (call : Call) : Option AckPdu :=
  (call.handed decodeAck).filter fun ack =>
    incomingHeaderIsSupported entity ack.header &&
      ack.acknowledgedDirective == directiveFinished &&
      ack.directiveSubtype == ackDirectiveSubtypeFinished &&
      ack.header.transmissionMode == .acknowledged && receiverActiveMatchesHeader entity ack.header

section Handed

variable {entity : Entity} {fs : FilestoreOps} {pdu : Bytes}

omit [ZephyrCrc]

theorem takenEof_eq_some {eof : EofPdu} :
    takenEof entity (.receivePdu (some fs) pdu) = some eof ↔
      receiveFilestoreIsValid fs = true ∧ ReadsEof entity pdu eof := by
  rw [takenEof, Option.filter_eq_some_iff, Call.handed_eq_some, and_assoc]
  exact and_congr_right fun _ => ⟨fun ⟨decoded, supported⟩ => ⟨decoded, supported⟩,
    fun reads => ⟨reads.decoded, reads.supported⟩⟩

theorem acceptedFiledata_eq_some {filedata : FiledataPdu} :
    acceptedFiledata entity (.receivePdu (some fs) pdu) = some filedata ↔
      receiveFilestoreIsValid fs = true ∧ AcceptsFiledata entity pdu filedata := by
  rw [acceptedFiledata, Option.filter_eq_some_iff, Call.handed_eq_some, and_assoc]
  refine and_congr_right fun _ => ?_
  simp only [Bool.and_eq_true, beq_iff_eq, decide_eq_true_eq]
  constructor
  · rintro ⟨decoded, ⟨⟨supported, matched⟩, bounded⟩, inside⟩
    exact ⟨decoded, supported, matched, bounded, inside⟩
  · exact fun accepts => ⟨accepts.decoded, ⟨⟨accepts.supported, accepts.matched⟩, accepts.bounded⟩,
      accepts.inside⟩

theorem acceptedAck_eq_some {ack : AckPdu} :
    acceptedAck entity (.receivePdu (some fs) pdu) = some ack ↔
      receiveFilestoreIsValid fs = true ∧ AcceptsAck entity pdu ack := by
  rw [acceptedAck, Option.filter_eq_some_iff, Call.handed_eq_some, and_assoc]
  refine and_congr_right fun _ => ?_
  simp only [Bool.and_eq_true, beq_iff_eq]
  constructor
  · rintro ⟨decoded, ⟨⟨⟨supported, finished⟩, subtype⟩, acknowledged⟩, matched⟩
    exact ⟨decoded, supported, finished, subtype, acknowledged, matched⟩
  · exact fun accepts => ⟨accepts.decoded, ⟨⟨⟨accepts.supported, accepts.finished⟩,
      accepts.subtype⟩, accepts.acknowledged⟩, accepts.matched⟩

theorem takenEof_eq_none (unread : receiveFilestoreIsValid fs = true → ∀ eof, ¬ ReadsEof entity pdu eof) :
    takenEof entity (.receivePdu (some fs) pdu) = none := by
  rw [Option.eq_none_iff_forall_ne_some]
  intro eof taken
  obtain ⟨valid, reads⟩ := takenEof_eq_some.mp taken
  exact unread valid eof reads

end Handed

/-- The effect of a call on an entity that sends no file. -/
inductive Received (entity : Entity) : Call → Trace → Entity → Prop where
  | nothing {call : Call} : takenEof entity call = none → Received entity call [] entity
  | receive {fs : FilestoreOps} {pdu : Bytes} {t : Trace} {status : Status} {entity' : Entity} :
      receiveFilestoreIsValid fs = true → ReceiverStep fs pdu entity t status entity' →
      Received entity (.receivePdu (some fs) pdu) t entity'
  | poll {now : UInt64} {t u : Trace} {entity₁ entity' : Entity} :
      ReceiverPolled entity now.toNat t entity₁ → ReceiverPolled entity₁ now.toNat u entity' →
      Received entity (.poll now) (t ++ u) entity'

/-! ## An idle sender -/

omit [Kconfig] [ZephyrCrc] in
theorem senderActiveMatchesHeader_idle {entity : Entity} (idle : entity.sender.active = false)
    (header : PduHeader) : senderActiveMatchesHeader entity header = false := by
  rw [senderActiveMatchesHeader, idle, Bool.false_and]

omit [ZephyrCrc] in
theorem senderHandleDirective_idle {entity : Entity} (idle : entity.sender.active = false)
    (directive : Nat) (pdu : Bytes) :
    (senderHandleDirective directive pdu).wp once (fun t _ entity' => t = [] ∧ entity' = entity)
      entity := by
  simp only [senderHandleDirective, Prog.wp_ite, Prog.wp_pure]
  refine ⟨fun _ => ?_, fun _ => ⟨fun _ => ?_, fun _ => ⟨fun _ => ?_, fun _ => ⟨trivial, trivial⟩⟩⟩⟩
  · simp only [senderHandleFinished, Prog.wp_bind, Prog.wp_read, List.nil_append]
    cases decodeFinished pdu with
    | error status => exact ⟨rfl, rfl⟩
    | ok result =>
      simp only [senderActiveMatchesHeader_idle idle, Bool.not_false, if_true, Prog.wp_ite,
        Prog.wp_pure, and_self, implies_true]
  · simp only [senderHandleAck, Prog.wp_bind, Prog.wp_read, List.nil_append]
    cases decodeAck pdu with
    | error status => exact ⟨rfl, rfl⟩
    | ok result =>
      simp only [senderActiveMatchesHeader_idle idle, Bool.not_false, if_true, Prog.wp_ite,
        Prog.wp_pure, and_self, implies_true]
  · simp only [senderHandleNak, Prog.wp_bind, Prog.wp_read, List.nil_append]
    cases decodeNak pdu with
    | error status => exact ⟨rfl, rfl⟩
    | ok result =>
      simp only [senderActiveMatchesHeader_idle idle, Bool.not_false, if_true, Prog.wp_ite,
        Prog.wp_pure, and_self, implies_true]

omit [ZephyrCrc] in
theorem receivePduTowardSender_idle {entity : Entity} (idle : entity.sender.active = false)
    (header : PduHeader) (headerLen : Nat) (pdu : Bytes) :
    (receivePduTowardSender header headerLen pdu).wp once
      (fun t _ entity' => t = [] ∧ entity' = entity) entity := by
  simp only [receivePduTowardSender, Prog.wp_bind, Prog.wp_read, Prog.wp_ite, Prog.wp_pure,
    List.nil_append]
  refine ⟨fun _ => ⟨trivial, trivial⟩, fun _ => ?_⟩
  refine Prog.wp_mono (senderHandleDirective_idle idle _ _) ?_
  rintro t status entity' ⟨rfl, rfl⟩
  simp only [senderActiveMatchesHeader_idle idle, Bool.false_eq_true, and_false, false_implies,
    not_false_eq_true, List.append_nil, and_self, implies_true]

omit [ZephyrCrc] in
theorem pollSender_idle {entity : Entity} (idle : entity.sender.active = false) (now : Nat) :
    (pollSender now).wp once (fun t _ entity' => t = [] ∧ entity' = entity) entity := by
  simp only [pollSender, Prog.wp_bind, Prog.wp_read, List.nil_append, idle, Bool.false_and,
    Bool.false_eq_true, if_false, Prog.wp_pure, and_self]

/-! ## One call -/

omit [Kconfig] [ZephyrCrc] in
theorem incomingHeaderIsSupported_direction {entity : Entity} {header : PduHeader}
    (supported : incomingHeaderIsSupported entity header = true) :
    header.direction = .towardReceiver := by
  simp only [incomingHeaderIsSupported, Bool.and_eq_true, beq_iff_eq] at supported
  exact supported.1.2

theorem receivePdu_idle_outcome {entity : Entity} (idle : entity.sender.active = false)
    (filestore : Option FilestoreOps) (pdu : Bytes) :
    (receivePdu filestore pdu).wp once
      (fun t _ entity' => Received entity (.receivePdu filestore pdu) t entity') entity := by
  -- an EOF PDU has a header that decodes and is supported
  have unread : (∀ header headerLen, decodeHeader pdu = .ok (header, headerLen) →
      incomingHeaderIsSupported entity header = false) →
      takenEof entity (.receivePdu filestore pdu) = none := by
    intro unsupported
    cases filestore with
    | none => rfl
    | some fs =>
      refine takenEof_eq_none fun _ eof reads => ?_
      obtain ⟨headerLen, header, _, _⟩ := decodeEof_header reads.decoded
      have supported := reads.supported
      rw [unsupported _ _ header] at supported
      cases supported
  unfold receivePdu
  cases decoded : decodeHeader pdu with
  | error status =>
    refine .nothing (unread fun header headerLen decoded' => ?_)
    rw [decoded] at decoded'
    cases decoded'
  | ok result =>
    obtain ⟨header, headerLen⟩ := result
    have only : incomingHeaderIsSupported entity header = false →
        takenEof entity (.receivePdu filestore pdu) = none := by
      intro unsupported
      refine unread fun header' headerLen' decoded' => ?_
      rw [decoded] at decoded'
      cases decoded'
      exact unsupported
    simp only [Prog.wp_ite, Prog.wp_bind, Prog.wp_read, Prog.wp_pure, List.nil_append]
    refine ⟨fun back => ?_, fun _ => ⟨fun unsupported => ?_, fun supported => ?_⟩⟩
    · refine Prog.wp_mono (receivePduTowardSender_idle idle _ _ _) ?_
      rintro t _ entity' ⟨rfl, rfl⟩
      refine .nothing (only ?_)
      rw [← Bool.not_eq_true]
      intro supported
      rw [incomingHeaderIsSupported_direction supported] at back
      cases back
    · exact .nothing (only ((Bool.not_eq_true' _).mp unsupported))
    · rw [Bool.not_eq_true', Bool.not_eq_false] at supported
      cases filestore with
      | none => exact .nothing rfl
      | some fs =>
        simp only [Prog.wp_ite, Prog.wp_pure]
        refine ⟨fun invalid => ?_, fun valid => ?_⟩
        · refine .nothing (takenEof_eq_none fun valid => ?_)
          rw [valid] at invalid
          cases invalid
        · rw [Bool.not_eq_true', Bool.not_eq_false] at valid
          exact Prog.wp_mono
            (receivePduTowardReceiver_outcome fs header headerLen pdu entity decoded supported)
            fun _ _ _ step => .receive valid step

omit [ZephyrCrc] in
theorem ReceiverPolled.sender {entity entity' : Entity} {now : Nat} {t : Trace}
    (polled : ReceiverPolled entity now t entity') : entity'.sender = entity.sender := by
  cases polled <;> rfl

theorem poll_idle_outcome {entity : Entity} (idle : entity.sender.active = false) (now : UInt64) :
    (poll now).wp once
      (fun t _ entity' => Received entity (.poll now) t entity') entity := by
  simp only [poll, Prog.wp_bind]
  refine Prog.wp_mono (pollRecovery_outcome now.toNat entity) ?_
  intro t _ entity₁ first
  refine Prog.wp_mono (pollFinished_outcome now.toNat entity₁) ?_
  intro u _ entity₂ second
  have still : entity₂.sender.active = false := by
    rw [second.sender, first.sender]
    exact idle
  refine Prog.wp_mono (pollSender_idle still now.toNat) ?_
  rintro v _ entity₃ ⟨rfl, rfl⟩
  rw [List.append_nil]
  exact .poll first second

theorem receives_outcome {entity entity' : Entity} {step : Step} (receives : step.call.receives = true)
    (idle : entity.sender.active = false)
    (quiet : QuietStep entity step entity') : Received entity step.call step.trace entity' := by
  obtain ⟨call, t⟩ := step
  obtain ⟨status, run⟩ := quiet
  cases call with
  | sendFile fs request => cases receives
  | receivePdu filestore pdu =>
    exact Prog.wp_of_runs (receivePdu_idle_outcome idle filestore pdu) run
  | poll now =>
    have post : (Call.poll now).body.wp once
        (fun t _ entity' => Received entity (.poll now) t entity') entity := by
      simp only [Call.body, Prog.wp_bind, Prog.wp_pure, List.append_nil]
      exact poll_idle_outcome idle now
    exact Prog.wp_of_runs post run

/-! ## What every step keeps -/

/-- An acknowledged transaction reports its end. -/
abbrev Closes (slot : TransactionSlot) : Prop :=
  slot.transmissionMode = .acknowledged → slot.closureRequested = true

/-- The receiver slot between two calls. -/
structure ReceiverSound (slot : TransactionSlot) : Prop where
  rest : slot.active = false → slot = .zero
  metadata : slot.active = true → slot.metadataReceived = true
  closes : slot.active = true → Closes slot
  normal : Spans.Normal slot.receivedRanges

omit [Kconfig] [ZephyrCrc] in
theorem receiverSound_zero : ReceiverSound .zero where
  rest _ := rfl
  metadata no := by cases no
  closes no := by cases no
  normal := Spans.Normal.nil

omit [Kconfig] [ZephyrCrc] in
/-- Fields that no soundness condition reads may change while a transaction is active. -/
theorem ReceiverSound.congr {slot slot' : TransactionSlot} (sound : ReceiverSound slot)
    (active : slot'.active = true) (was : slot.active = true)
    (metadata : slot'.metadataReceived = slot.metadataReceived)
    (mode : slot'.transmissionMode = slot.transmissionMode)
    (closure : slot'.closureRequested = slot.closureRequested)
    (normal : Spans.Normal slot'.receivedRanges) : ReceiverSound slot' where
  rest no := by
    rw [active] at no
    cases no
  metadata _ := metadata.trans (sound.metadata was)
  closes _ acknowledged := closure.trans (sound.closes was (mode ▸ acknowledged))
  normal := normal

/-- Two entities that differ in the receiver slot and the segment buffer at most. -/
def OnlyReceiver (entity entity' : Entity) : Prop :=
  ∃ slot buf, entity' = (entity.withReceiver slot).withBuf buf

namespace OnlyReceiver

variable {entity entity' entity'' : Entity}

omit [Kconfig] [ZephyrCrc]

theorem withReceiver (entity : Entity) (slot : TransactionSlot) :
    OnlyReceiver entity (entity.withReceiver slot) := ⟨slot, entity.fileSegmentBuf, rfl⟩

theorem withBuf (entity : Entity) (buf : Bytes) : OnlyReceiver entity (entity.withBuf buf) :=
  ⟨entity.receiver, buf, rfl⟩

theorem refl (entity : Entity) : OnlyReceiver entity entity := .withReceiver entity entity.receiver

theorem trans (first : OnlyReceiver entity entity') (second : OnlyReceiver entity' entity'') :
    OnlyReceiver entity entity'' := by
  obtain ⟨_, _, rfl⟩ := first
  obtain ⟨_, _, rfl⟩ := second
  exact ⟨_, _, rfl⟩

theorem sender (only : OnlyReceiver entity entity') : entity'.sender = entity.sender := by
  obtain ⟨_, _, rfl⟩ := only
  rfl

theorem takenEof [Kconfig] (only : OnlyReceiver entity entity') (call : Call) :
    takenEof entity' call = Cfdp.takenEof entity call := by
  obtain ⟨_, _, rfl⟩ := only
  rfl

end OnlyReceiver

section Frames

variable {fs : FilestoreOps} {pdu : Bytes} {entity entity' : Entity} {t : Trace}
  {status result : Status}

omit [ZephyrCrc] in
theorem Finished.only (finished : Finished fs entity status t result entity') :
    OnlyReceiver entity entity' := by
  obtain ⟨_, settled⟩ := finished
  cases settled <;> exact (OnlyReceiver.withReceiver _ _).trans (.withReceiver _ _)

omit [ZephyrCrc] in
theorem Finished.sound (finished : Finished fs entity status t result entity')
    (active : entity.receiver.active = true) (sound : ReceiverSound entity.receiver) :
    ReceiverSound entity'.receiver := by
  obtain ⟨_, settled⟩ := finished
  cases settled with
  | awaiting | silent => exact sound.congr active active rfl rfl rfl sound.normal
  | unreported | released => exact receiverSound_zero

omit [ZephyrCrc] in
theorem MetadataHandled.only (handled : MetadataHandled fs pdu entity t status entity') :
    OnlyReceiver entity entity' := by
  cases handled with
  | skipped => exact .refl _
  | opened | refused => exact .withReceiver _ _

omit [ZephyrCrc] in
theorem MetadataHandled.sound (handled : MetadataHandled fs pdu entity t status entity')
    (sound : ReceiverSound entity.receiver) : ReceiverSound entity'.receiver := by
  cases handled with
  | skipped => exact sound
  | refused => exact receiverSound_zero
  | opened =>
    constructor
    · intro no
      cases no
    · exact fun _ => rfl
    · intro _ acknowledged
      simp only [openedSlot, metadataSlot, Entity.withReceiver_receiver] at acknowledged ⊢
      simp only [acknowledged, beq_self_eq_true, Bool.or_true]
    · exact Spans.Normal.nil

theorem FiledataHandled.only (handled : FiledataHandled fs pdu entity t status entity') :
    OnlyReceiver entity entity' := by
  cases handled with
  | skipped | unwritten | unranged => exact .refl _
  | unsummed | written => exact .withReceiver _ _
  | completed _ _ _ _ _ _ _ finished =>
    exact ((OnlyReceiver.withReceiver _ _).trans (.withBuf _ _)).trans finished.only

theorem FiledataHandled.sound (handled : FiledataHandled fs pdu entity t status entity')
    (sound : ReceiverSound entity.receiver) : ReceiverSound entity'.receiver := by
  have added : ∀ {filedata : FiledataPdu} {ranges : Ranges}, AcceptsFiledata entity pdu filedata →
      rangesAdd entity.receiver.receivedRanges filedata.offset
        (filedata.offset + filedata.data.length) = .ok ranges →
      entity.receiver.active = true ∧ Spans.Normal ranges := by
    intro filedata ranges accepts added
    obtain ⟨valid, _, rfl, _⟩ := rangesAdd_ok added
    exact ⟨(receiverMatchActive_ok accepts.matched).1, sound.normal.insert valid⟩
  cases handled with
  | skipped | unwritten | unranged => exact sound
  | unsummed accepts ranges | written accepts ranges =>
    obtain ⟨active, normal⟩ := added accepts ranges
    exact sound.congr active active rfl rfl rfl normal
  | completed accepts ranges _ _ _ _ _ finished =>
    obtain ⟨active, normal⟩ := added accepts ranges
    exact finished.sound active (sound.congr active active rfl rfl rfl normal)

theorem EofCompleted.only {eof : EofPdu} (completed : EofCompleted fs eof entity t status entity') :
    OnlyReceiver entity entity' := by
  cases completed with
  | unchecked _ finished | short _ _ finished => exact finished.only
  | asked => exact .withReceiver _ _
  | unasked _ _ _ _ finished => exact (OnlyReceiver.withReceiver _ _).trans finished.only
  | complete _ _ finished => exact (OnlyReceiver.withBuf _ _).trans finished.only

theorem EofCompleted.sound {eof : EofPdu} (completed : EofCompleted fs eof entity t status entity')
    (active : entity.receiver.active = true) (sound : ReceiverSound entity.receiver) :
    ReceiverSound entity'.receiver := by
  cases completed with
  | unchecked _ finished | short _ _ finished | complete _ _ finished =>
    exact finished.sound active sound
  | asked => exact sound.congr active active rfl rfl rfl sound.normal
  | unasked _ _ _ _ finished =>
    exact finished.sound active (sound.congr active active rfl rfl rfl sound.normal)

theorem EofHandled.only (handled : EofHandled fs pdu entity t status entity') :
    OnlyReceiver entity entity' := by
  cases handled with
  | skipped | repeated => exact .refl _
  | refused _ _ _ _ _ finished => exact (OnlyReceiver.withReceiver _ _).trans finished.only
  | unacknowledged => exact .withReceiver _ _
  | taken _ _ _ _ _ _ completed => exact (OnlyReceiver.withReceiver _ _).trans completed.only

theorem EofHandled.sound (handled : EofHandled fs pdu entity t status entity')
    (sound : ReceiverSound entity.receiver) : ReceiverSound entity'.receiver := by
  have checksum : ∀ {eof : EofPdu}, AcceptsEof entity pdu eof →
      entity.receiver.active = true ∧
        ReceiverSound (entity.receiver.withEofChecksum eof.fileChecksum) := by
    intro eof accepts
    have active := (receiverMatchActive_ok accepts.matched).1
    exact ⟨active, sound.congr active active rfl rfl rfl sound.normal⟩
  cases handled with
  | skipped | repeated => exact sound
  | refused accepts _ _ _ _ finished =>
    exact finished.sound (checksum accepts).1 (checksum accepts).2
  | unacknowledged accepts => exact (checksum accepts).2
  | taken accepts _ _ _ _ _ completed =>
    exact completed.sound (checksum accepts).1 (checksum accepts).2

theorem Handled.only (handled : Handled fs pdu entity t status entity') :
    OnlyReceiver entity entity' := by
  cases handled with
  | ignored => exact .refl _
  | metadata _ handled => exact handled.only
  | filedata _ handled => exact handled.only
  | eof handled => exact handled.only
  | ack _ handled =>
    cases handled with
    | skipped => exact .refl _
    | released => exact .withReceiver _ _

theorem Handled.sound (handled : Handled fs pdu entity t status entity')
    (sound : ReceiverSound entity.receiver) : ReceiverSound entity'.receiver := by
  cases handled with
  | ignored => exact sound
  | metadata _ handled => exact handled.sound sound
  | filedata _ handled => exact handled.sound sound
  | eof handled => exact handled.sound sound
  | ack _ handled =>
    cases handled with
    | skipped => exact sound
    | released => exact receiverSound_zero

omit [ZephyrCrc] in
theorem ReceiverPolled.only {now : Nat} (polled : ReceiverPolled entity now t entity') :
    OnlyReceiver entity entity' := by
  cases polled with
  | idle => exact .refl _
  | askedAgain | recoveryEnded | reportedAgain | waitEnded => exact .withReceiver _ _

omit [ZephyrCrc] in
theorem ReceiverPolled.sound {now : Nat} (polled : ReceiverPolled entity now t entity')
    (sound : ReceiverSound entity.receiver) : ReceiverSound entity'.receiver := by
  cases polled with
  | idle => exact sound
  | askedAgain active | reportedAgain active =>
    exact sound.congr active active rfl rfl rfl sound.normal
  | recoveryEnded | waitEnded => exact receiverSound_zero

theorem Received.only {call : Call} (received : Received entity call t entity') :
    OnlyReceiver entity entity' := by
  cases received with
  | nothing => exact .refl _
  | receive _ step =>
    cases step with
    | unhandled => exact .refl _
    | kept _ _ handled => exact handled.only
    | failed _ _ handled => exact handled.only.trans (.withReceiver _ _)
  | poll first second => exact first.only.trans second.only

theorem Received.sound {call : Call} (received : Received entity call t entity')
    (sound : ReceiverSound entity.receiver) : ReceiverSound entity'.receiver := by
  cases received with
  | nothing => exact sound
  | receive _ step =>
    cases step with
    | unhandled => exact sound
    | kept _ _ handled => exact handled.sound sound
    | failed => exact receiverSound_zero
  | poll first second => exact second.sound (first.sound sound)

end Frames

end ZephyrCcsds.Cfdp

/-! ## A receiver to play

Entity 2 in the default configuration, with one-octet fields in its headers and no clock.
-/

namespace ZephyrCcsds.Cfdp

/-- CRC routines for runs that use none. -/
@[reducible] def plainCrc : ZephyrCrc where
  crc32C value _ _ _ := value
  crc32IeeeUpdate value _ := value

def receiverConfig : EntityConfig where
  localEntityId := 2
  remoteEntityId := 1
  entityIdLen := 1
  transactionSequenceNumberLen := 1
  initialTransactionSequenceNumber := 0
  eventCb := true

def clocklessUt : UtOps where
  sendPdu := true
  nowMs := false

def wholeFilestore : FilestoreOps where
  user := 0
  openRead := true
  openWriteTmp := true
  read := true
  write := true
  close := true
  commitTmp := true
  discardTmp := true

/-- The entity after `entityInit receiverConfig clocklessUt`. -/
def freshReceiver : Entity where
  localEntityId := 2
  remoteEntityId := 1
  entityIdLen := 1
  transactionSequenceNumberLen := 1
  nextTransactionSequenceNumber := 0
  nowMs := false
  eventCb := true
  sender := .zero
  receiver := .zero
  senderCompletionAvailable := false
  senderCompletionStatus := .ok
  fileSegmentBuf := List.replicate 384 0

theorem entityInit_receiverConfig :
    @entityInit defaultKconfig receiverConfig clocklessUt = .ok freshReceiver := by
  decide +kernel

/-- The Metadata PDU of transaction 7: one octet from `a` to `b`, in acknowledged mode. -/
def metadataOctets : Bytes := [0x20, 0, 10, 0, 1, 7, 2, 7, 0, 0, 0, 0, 1, 1, 97, 1, 98]

/-- Its File Data PDU, with the octet 104. -/
def filedataOctets : Bytes := [0x30, 0, 5, 0, 1, 7, 2, 0, 0, 0, 0, 104]

/-- Its EOF PDU: no error, the modular checksum of the octet and the size. -/
def eofOctets : Bytes := [0x20, 0, 10, 0, 1, 7, 2, 4, 0, 104, 0, 0, 0, 0, 0, 0, 1]

/-- The ACK of a Finished PDU of that transaction. -/
def ackFinishedOctets : Bytes := [0x20, 0, 3, 0, 1, 7, 2, 6, 0x51, 2]

def deliveredId : TransactionId where
  sourceEntityId := 1
  transactionSequenceNumber := 7

def openingStep : Step where
  call := .receivePdu (some wholeFilestore) metadataOctets
  trace := [⟨.openWriteTmp wholeFilestore [98], { rc := 0, handle := 1 }⟩]

def writingStep : Step where
  call := .receivePdu (some wholeFilestore) filedataOctets
  trace := [⟨.write wholeFilestore 1 0 [104], (0 : Int)⟩]

/-- The EOF is acknowledged, the file verified and committed and the end reported. -/
def finishingStep : Step where
  call := .receivePdu (some wholeFilestore) eofOctets
  trace :=
    [⟨.sendPdu 1 [40, 0, 3, 0, 1, 7, 2, 6, 64, 1], (0 : Int)⟩,
      ⟨.read wholeFilestore 1 0 1, { rc := 0, nread := 1, data := [104] }⟩,
      ⟨.close wholeFilestore 1, (0 : Int)⟩,
      ⟨.commitTmp wholeFilestore [98], (0 : Int)⟩,
      ⟨.sendPdu 1 [40, 0, 2, 0, 1, 7, 2, 5, 2], (0 : Int)⟩]

/-- The File Data PDU arrives again, after its file was closed. -/
def lateStep : Step where
  call := .receivePdu (some wholeFilestore) filedataOctets
  trace := [⟨.write wholeFilestore 0 0 [104], (0 : Int)⟩]

/-- The ACK of a Finished PDU releases the receiver with its finished status. -/
def releasingStep : Step where
  call := .receivePdu (some wholeFilestore) ackFinishedOctets
  trace := [⟨.event .receiver .complete deliveredId .ok, ()⟩]

end ZephyrCcsds.Cfdp
