import ZephyrCcsds.Cfdp.ReceiverFiles

/-! # The source file of the sender

A monitor of the callbacks that are made for the sender: the source file that is open.  It rejects a second
open, and a read or a close of any other file, so that a file that it lets be opened is closed once and not
read afterwards.

The handle lives in the sender slot: a slot that is active holds the open file, and every way to release the
slot closes it first.  A second close on the same way finds the handle gone.

The callbacks that are made for the receiver open nothing for reading, and keep to the handle that was opened
last for writing.  So the whole trace of a run closes every source file once, unless the filestore hands the
same handle out for writing too.
-/

namespace ZephyrCcsds.Cfdp

open Callback

/-! ## The monitor -/

/-- An open file: the filestore and the handle that it gave -/
structure SourceFile where
  fs : FilestoreOps
  handle : Handle
  deriving DecidableEq, Repr

/-- A handle that is not `NULL` stands for an open file. -/
def sourceFile (fs : FilestoreOps) (handle : Handle) : Option SourceFile :=
  if handle = 0 then none else some { fs, handle }

/-- What is open after a callback, unless the callback is out of order -/
def sourceBack (file : Option SourceFile) : Obs → Option (Option SourceFile)
  | ⟨.openRead fs _, reply⟩ =>
    if reply.rc ≠ 0 ∨ reply.handle = 0 then some file
    else if file = none then some (sourceFile fs reply.handle)
    else none
  | ⟨.read fs handle _ _, _⟩ => if file = sourceFile fs handle then some file else none
  | ⟨.close fs handle, _⟩ => if file = sourceFile fs handle then some none else none
  | _ => some file

abbrev sourceBacks (file : Option SourceFile) (t : Trace) : Option (Option SourceFile) :=
  Monitor.run sourceBack file t

/-! ## Calls, taken apart by role -/

section Calls

variable [Kconfig] [ZephyrCrc]

/-- The entry points, and `ccsds_cfdp_entity_release_sender_transaction` -/
inductive PublicCall where
  | enter (call : Call)
  | releaseSender
  deriving DecidableEq, Repr

def PublicCall.body : PublicCall → EntityM Status
  | .enter call => call.body
  | .releaseSender => do
    releaseSenderTransaction
    pure .ok

/-- A completed call: the callbacks made for the receiver and, behind them, those made for the sender -/
structure PublicStep where
  call : PublicCall
  ofReceiver : Trace
  ofSender : Trace

/-- A call without re-entry.  The direction of a PDU says which role it is for; `poll` looks at the receiver
first. -/
inductive PublicStep.Runs (entity : Entity) : PublicStep → Entity → Prop where
  | sendFile {fs : FilestoreOps} {request : PutRequest} {t : Trace} {result : Status × Option TransactionId}
      {entity' : Entity} : (sendFile fs request).Runs once entity t result entity' →
      Runs entity { call := .enter (.sendFile fs request), ofReceiver := [], ofSender := t } entity'
  | towardSender {filestore : Option FilestoreOps} {pdu : Bytes} {header : PduHeader} {headerLen : Nat}
      {t : Trace} {status : Status} {entity' : Entity} : decodeHeader pdu = .ok (header, headerLen) →
      header.direction = .towardSender → (receivePdu filestore pdu).Runs once entity t status entity' →
      Runs entity { call := .enter (.receivePdu filestore pdu), ofReceiver := [], ofSender := t } entity'
  | towardReceiver {filestore : Option FilestoreOps} {pdu : Bytes} {t : Trace} {status : Status}
      {entity' : Entity} :
      (∀ header headerLen, decodeHeader pdu = .ok (header, headerLen) → header.direction ≠ .towardSender) →
      (receivePdu filestore pdu).Runs once entity t status entity' →
      Runs entity { call := .enter (.receivePdu filestore pdu), ofReceiver := t, ofSender := [] } entity'
  | poll {now : UInt64} {t u v : Trace} {entity₁ entity₂ entity' : Entity} :
      (pollRecovery now.toNat).Runs once entity t () entity₁ →
      (pollFinished now.toNat).Runs once entity₁ u () entity₂ →
      (pollSender now.toNat).Runs once entity₂ v () entity' →
      Runs entity { call := .enter (.poll now), ofReceiver := t ++ u, ofSender := v } entity'
  | releaseSender {t : Trace} {entity' : Entity} : releaseSenderTransaction.Runs once entity t () entity' →
      Runs entity { call := .releaseSender, ofReceiver := [], ofSender := t } entity'

/-- Every call without re-entry can be taken apart. -/
theorem PublicStep.exists_runs {call : PublicCall} {t : Trace} {status : Status} {entity entity' : Entity}
    (run : call.body.Runs once entity t status entity') : ∃ ofReceiver ofSender, t = ofReceiver ++ ofSender ∧
      PublicStep.Runs entity { call, ofReceiver, ofSender } entity' := by
  cases call with
  | releaseSender =>
    have post : releaseSenderTransaction.wp once
        (fun t _ entity' => releaseSenderTransaction.Runs once entity t () entity') entity :=
      Prog.wp_iff_runs.mpr fun _ _ _ released => released
    have body : PublicCall.releaseSender.body.wp once (fun t _ entity' =>
        releaseSenderTransaction.Runs once entity t () entity') entity := by
      simp only [PublicCall.body, Prog.wp_bind, Prog.wp_pure, List.append_nil]
      exact post
    exact ⟨[], t, rfl, .releaseSender (Prog.wp_of_runs body run)⟩
  | enter call =>
    cases call with
    | sendFile fs request =>
      have body : (Call.sendFile fs request).body.wp once (fun t _ entity' =>
          ∃ result, (sendFile fs request).Runs once entity t result entity') entity := by
        simp only [Call.body, Prog.wp_bind, Prog.wp_pure, List.append_nil]
        exact Prog.wp_iff_runs.mpr fun _ result _ sent => ⟨result, sent⟩
      obtain ⟨result, sent⟩ := Prog.wp_of_runs body run
      exact ⟨[], t, rfl, .sendFile sent⟩
    | receivePdu filestore pdu =>
      by_cases direction : ∃ header headerLen, decodeHeader pdu = .ok (header, headerLen) ∧
          header.direction = .towardSender
      · obtain ⟨header, headerLen, decoded, toward⟩ := direction
        exact ⟨[], t, rfl, .towardSender decoded toward run⟩
      · refine ⟨t, [], (List.append_nil t).symm, .towardReceiver ?_ run⟩
        intro header headerLen decoded toward
        exact direction ⟨header, headerLen, decoded, toward⟩
    | poll now =>
      have body : (Call.poll now).body.wp once (fun t _ entity' => ∃ u v w entity₁ entity₂,
          t = u ++ (v ++ w) ∧ (pollRecovery now.toNat).Runs once entity u () entity₁ ∧
          (pollFinished now.toNat).Runs once entity₁ v () entity₂ ∧
          (pollSender now.toNat).Runs once entity₂ w () entity') entity := by
        simp only [Call.body, Cfdp.poll, Prog.wp_bind, Prog.wp_pure, List.append_nil]
        refine Prog.wp_iff_runs.mpr fun u _ entity₁ first => ?_
        refine Prog.wp_iff_runs.mpr fun v _ entity₂ second => ?_
        refine Prog.wp_iff_runs.mpr fun w _ entity₃ third => ?_
        exact ⟨u, v, w, entity₁, entity₂, rfl, first, second, third⟩
      obtain ⟨u, v, w, entity₁, entity₂, rfl, first, second, third⟩ := Prog.wp_of_runs body run
      exact ⟨u ++ v, w, (List.append_assoc u v w).symm, .poll first second third⟩

end Calls

/-! ## The open file and the sender slot -/

/-- An idle slot has nothing open; an active one holds the open file, with a filestore that can close it. -/
structure Holds (slot : TransactionSlot) (file : Option SourceFile) : Prop where
  idle : slot.active = false → slot.fileHandleOpen = false ∧ file = none
  busy : slot.active = true → slot.fileHandleOpen = true ∧
    ∃ fs, fs.close = true ∧ slot.filestore = some fs ∧ file = sourceFile fs slot.fileHandle

/-- The monitor accepts the trace and agrees with the slot at its end. -/
def HoldsAfter (slot : TransactionSlot) (file : Option SourceFile) (t : Trace) : Prop :=
  ∃ file', sourceBacks file t = some file' ∧ Holds slot file'

section Traces

variable {slot slot' : TransactionSlot} {file file₁ : Option SourceFile} {t u : Trace} {status : Status}

theorem holds_zero : Holds .zero none where
  idle _ := ⟨rfl, rfl⟩
  busy no := by cases no

/-- Only four fields of the slot matter. -/
theorem Holds.congr (holds : Holds slot file) (active : slot'.active = slot.active)
    (isOpen : slot'.fileHandleOpen = slot.fileHandleOpen) (filestore : slot'.filestore = slot.filestore)
    (handle : slot'.fileHandle = slot.fileHandle) : Holds slot' file := by
  constructor
  · rw [active, isOpen]
    exact holds.idle
  · rw [active, isOpen, filestore, handle]
    exact holds.busy

theorem HoldsAfter.done (holds : Holds slot file) : HoldsAfter slot file [] := ⟨file, rfl, holds⟩

theorem HoldsAfter.append (first : sourceBacks file t = some file₁) (rest : HoldsAfter slot file₁ u) :
    HoldsAfter slot file (t ++ u) := by
  obtain ⟨file', accepted, holds⟩ := rest
  refine ⟨file', ?_, holds⟩
  rw [sourceBacks, Monitor.run_append, ← sourceBacks, first, Option.bind_some]
  exact accepted

theorem Sent.onSource {dest : Nat} {encoded : Except Status Bytes} (sent : Sent dest encoded t status) :
    sourceBacks file t = some file := by
  cases sent <;> rfl

theorem Clock.onSource {entity : Entity} {now : Nat} (clock : Clock entity t now) :
    sourceBacks file t = some file := by
  cases clock <;> rfl

theorem terminalEvent_onSource (entity : Entity) (id : TransactionId) (status : Status) :
    sourceBacks file (terminalEvent entity .sender id status) = some file := by
  unfold terminalEvent
  split <;> rfl

theorem read_onSource (fs : FilestoreOps) (handle : Handle) (offset len : Nat) (reply : ReadReply) :
    sourceBack (sourceFile fs handle) ⟨.read fs handle offset len, reply⟩ = some (sourceFile fs handle) := by
  rw [sourceBack, if_pos rfl]

/-- Whatever the slot holds is closed, once. -/
theorem HandleClosed.onSource (closed : HandleClosed slot t) (holds : Holds slot file) :
    sourceBacks file t = some .none := by
  cases active : slot.active with
  | false =>
    obtain ⟨shut, rfl⟩ := holds.idle active
    rw [closed.eq_nil shut]
    rfl
  | true =>
    obtain ⟨isOpen, fs, canClose, filestore, rfl⟩ := holds.busy active
    cases closed with
    | none missing =>
      rw [filestore] at missing
      cases missing
    | shut found shut =>
      rw [filestore] at found
      cases found
      rw [isOpen, canClose] at shut
      cases shut
    | closed rc found =>
      rw [filestore] at found
      cases found
      rw [sourceBacks, Monitor.run_singleton, sourceBack, if_pos rfl]

theorem SenderFailed.onSource {entity : Entity} (failed : SenderFailed entity status t)
    (holds : Holds entity.sender file) : HoldsAfter .zero file t := by
  obtain ⟨closed⟩ := failed
  exact .append (closed.onSource holds) ⟨none, terminalEvent_onSource _ _ _, holds_zero⟩

theorem SenderReleased.onSource {entity : Entity} (released : SenderReleased entity status t)
    (holds : Holds entity.sender file) : HoldsAfter .zero file t := by
  obtain ⟨closed⟩ := released
  exact .append (terminalEvent_onSource _ _ _) ⟨none, closed.onSource holds, holds_zero⟩

section Segments

variable [Kconfig]

/-- The loop of a retransmission reads the file of the slot. -/
theorem SegmentsSent.onSource {fs : FilestoreOps} {entity : Entity} {stop offset : Nat} {buf buf' : Bytes}
    (sent : SegmentsSent fs entity stop offset buf t status buf') :
    sourceBacks (sourceFile fs entity.sender.fileHandle) t =
      some (sourceFile fs entity.sender.fileHandle) := by
  induction sent with
  | done => rfl
  | unread => rw [sourceBacks, Monitor.run_singleton, read_onSource]
  | unsent _ _ segment =>
    rw [sourceBacks, Monitor.run_cons, read_onSource, Option.bind_some]
    exact segment.onSource
  | turn _ _ segment _ ih =>
    rw [sourceBacks, Monitor.run_cons, read_onSource, Option.bind_some, Monitor.run_append, ← sourceBacks,
      segment.onSource, Option.bind_some]
    exact ih

theorem RangesSent.onSource {fs : FilestoreOps} {entity : Entity} {ranges : List NakRange} {buf buf' : Bytes}
    (sent : RangesSent fs entity ranges buf t status buf') :
    sourceBacks (sourceFile fs entity.sender.fileHandle) t =
      some (sourceFile fs entity.sender.fileHandle) := by
  induction sent with
  | done | outside => rfl
  | failed _ segments => exact segments.onSource
  | next _ segments _ ih =>
    rw [sourceBacks, Monitor.run_append, ← sourceBacks, segments.onSource, Option.bind_some]
    exact ih

variable [ZephyrCrc]

/-- The loop of `send_file` reads the file that it was handed. -/
theorem FileSent.onSource {fs : FilestoreOps} {entity : Entity} {handle : Handle} {fileSize offset : Nat}
    {state : ChecksumState} {buf buf' : Bytes} {result : Except Status ChecksumState}
    (sent : FileSent fs entity handle fileSize state offset buf t result buf') :
    sourceBacks (sourceFile fs handle) t = some (sourceFile fs handle) := by
  induction sent with
  | done => rfl
  | unread => rw [sourceBacks, Monitor.run_singleton, read_onSource]
  | unsent _ _ segment | unsummed _ _ segment =>
    rw [sourceBacks, Monitor.run_cons, read_onSource, Option.bind_some]
    exact segment.onSource
  | turn _ _ segment _ _ ih =>
    rw [sourceBacks, Monitor.run_cons, read_onSource, Option.bind_some, Monitor.run_append, ← sourceBacks,
      segment.onSource, Option.bind_some]
    exact ih

end Segments

end Traces

/-! ## Steps -/

section Steps

variable [Kconfig] [ZephyrCrc] {fs : FilestoreOps} {pdu : Bytes} {entity entity' : Entity}
  {file : Option SourceFile} {t : Trace} {status : Status}

omit [ZephyrCrc] in
theorem NakAnswered.onSource {nak : NakPdu} (answered : NakAnswered fs nak entity t status entity')
    (holds : Holds entity.sender file) (held : file = sourceFile fs entity.sender.fileHandle) :
    HoldsAfter entity'.sender file t := by
  cases answered with
  | refused _ _ failed => exact failed.onSource holds
  | unsent _ sent _ failed =>
    rw [held]
    refine .append sent.onSource ?_
    exact failed.onSource (held ▸ holds)
  | unended _ sent ended _ failed =>
    rw [held]
    refine .append sent.onSource (.append ended.onSource ?_)
    exact failed.onSource (held ▸ holds)
  | answered _ sent ended =>
    rw [held]
    refine .append sent.onSource ⟨_, ended.onSource, ?_⟩
    exact (held ▸ holds).congr rfl rfl rfl rfl

omit [ZephyrCrc] in
theorem SenderHandled.onSource (handled : SenderHandled pdu entity t status entity')
    (holds : Holds entity.sender file) : HoldsAfter entity'.sender file t := by
  cases handled with
  | ignored => exact .done holds
  | finished handled =>
    cases handled with
    | skipped => exact .done holds
    | recorded => exact .done (holds.congr rfl rfl rfl rfl)
    | unacknowledged _ _ acked _ failed => exact .append acked.onSource (failed.onSource holds)
    | acknowledged _ _ acked released => exact .append acked.onSource (released.onSource holds)
  | nak handled =>
    cases handled with
    | skipped => exact .done holds
    | unreadable _ _ _ failed => exact failed.onSource holds
    | answered accepts readable answered =>
      -- a NAK is answered from the filestore of the slot
      have matched := accepts.matched
      rw [senderActiveMatchesHeader, Bool.and_eq_true] at matched
      obtain ⟨-, other, -, filestore, held⟩ := holds.busy matched.1
      rw [readable.filestore] at filestore
      cases filestore
      exact answered.onSource holds held

omit [ZephyrCrc] in
theorem SenderStep.onSource (step : SenderStep pdu entity t status entity')
    (holds : Holds entity.sender file) : HoldsAfter entity'.sender file t := by
  cases step with
  | unhandled => exact .done holds
  | kept _ _ handled => exact handled.onSource holds
  | failed _ _ handled _ _ released =>
    obtain ⟨file₁, accepted, holds₁⟩ := handled.onSource holds
    exact .append accepted (released.onSource holds₁)

omit [ZephyrCrc] in
theorem SenderPolled.onSource {now : Nat} (polled : SenderPolled entity now t entity')
    (holds : Holds entity.sender file) : HoldsAfter entity'.sender file t := by
  cases polled with
  | idle => exact .done holds
  | spent _ _ failed => exact failed.onSource holds
  | unsent _ _ sent _ failed => exact .append sent.onSource (failed.onSource holds)
  | repeated _ _ sent => exact ⟨file, sent.onSource, holds.congr rfl rfl rfl rfl⟩

theorem Transferred.onSource {request : PutRequest} {source destination : Bytes} {init : ChecksumState}
    {handle : Handle} {fileSize : Nat} {keep : Bool}
    (transferred : Transferred fs request source destination init handle fileSize entity t status keep entity')
    (holds : Holds entity.sender (sourceFile fs handle)) :
    sourceBacks (sourceFile fs handle) t = some (sourceFile fs handle) ∧
      Holds entity'.sender (sourceFile fs handle) := by
  have joined : ∀ {t u : Trace}, sourceBacks (sourceFile fs handle) t = some (sourceFile fs handle) →
      sourceBacks (sourceFile fs handle) u = some (sourceFile fs handle) →
      sourceBacks (sourceFile fs handle) (t ++ u) = some (sourceFile fs handle) := by
    intro t u first rest
    rw [sourceBacks, Monitor.run_append, ← sourceBacks, first, Option.bind_some]
    exact rest
  cases transferred with
  | unannounced announced => exact ⟨announced.onSource, holds⟩
  | interrupted announced sent | unsummed announced sent =>
    exact ⟨joined announced.onSource sent.onSource, holds⟩
  | ended announced sent _ ended =>
    exact ⟨joined announced.onSource (joined sent.onSource ended.onSource), holds.congr rfl rfl rfl rfl⟩
  | awaiting announced sent _ ended _ clock =>
    exact ⟨joined announced.onSource (joined sent.onSource (joined ended.onSource clock.onSource)),
      holds.congr rfl rfl rfl rfl⟩

/-- The first checks of `send_file` ask for a filestore that can close. -/
theorem sendFile_unusable {request : PutRequest} (unusable : filestoreIsValid (some fs) = false)
    (entity : Entity) : (sendFile fs request).wp once (fun t _ entity' => t = [] ∧ entity' = entity) entity := by
  unfold sendFile
  split
  · split
    · rw [if_pos (by rw [unusable]; rfl)]
      exact ⟨rfl, rfl⟩
    · exact ⟨rfl, rfl⟩
  · exact ⟨rfl, rfl⟩

omit [Kconfig] [ZephyrCrc] in
/-- Starting a transaction opens no file. -/
theorem startSend_shut (request : PutRequest) (source destination : Bytes)
    (shut : entity.sender.fileHandleOpen = false) :
    (entity.startSend request source destination).sender.fileHandleOpen = false := by
  have kept : (advanceTransactionSequenceNumber entity).sender = entity.sender := by
    unfold advanceTransactionSequenceNumber
    dsimp only
    split <;> rfl
  show (advanceTransactionSequenceNumber entity).sender.fileHandleOpen = false
  rw [kept, shut]

omit [Kconfig] [ZephyrCrc] in
/-- A file that `send_file` goes on with is open, unless it has no handle. -/
theorem openRead_onSource {path : Bytes} {reply : OpenReadReply} (ok : reply.rc = 0) :
    sourceBacks none [⟨.openRead fs path, reply⟩] = some (sourceFile fs reply.handle) := by
  rw [sourceBacks, Monitor.run_singleton, sourceBack]
  by_cases null : reply.handle = 0
  · rw [if_pos (.inr null), sourceFile, if_pos null]
  · rw [if_neg (not_or.mpr ⟨not_not.mpr ok, null⟩), if_pos rfl]

omit [Kconfig] [ZephyrCrc] in
theorem openRead_refused {path : Bytes} {reply : OpenReadReply} (refused : reply.rc ≠ 0 ∨ reply.handle = 0) :
    sourceBacks none [⟨.openRead fs path, reply⟩] = some none := by
  rw [sourceBacks, Monitor.run_singleton, sourceBack, if_pos refused]

theorem SendFileHandled.onSource {request : PutRequest} (canClose : fs.close = true)
    (handled : SendFileHandled fs request entity t status entity') (holds : Holds entity.sender file) :
    HoldsAfter entity'.sender file t := by
  have opened : ∀ {source destination : Bytes} {reply : OpenReadReply},
      Holds ((entity.startSend request source destination).openSource fs request.checksumType reply).sender
        (sourceFile fs reply.handle) := by
    intro source destination reply
    constructor
    · intro no
      cases no
    · exact fun _ => ⟨rfl, fs, canClose, rfl, rfl⟩
  cases handled with
  | rejected => exact .done holds
  | @unopened path _ _ _ reply _ idle _ failed released =>
    obtain ⟨shut, rfl⟩ := holds.idle idle
    -- nothing was opened, so the released slot has no file to close
    refine HoldsAfter.append (t := [_]) (openRead_refused (failed.imp_right And.left)) ?_
    obtain ⟨closed⟩ := released
    rw [closed.eq_nil (startSend_shut _ _ _ shut), List.append_nil]
    exact ⟨none, terminalEvent_onSource _ _ _, holds_zero⟩
  | released idle _ ok transferred failed =>
    obtain ⟨-, rfl⟩ := holds.idle idle
    obtain ⟨kept, holds'⟩ := transferred.onSource opened
    exact HoldsAfter.append (t := [_]) (openRead_onSource ok) (.append kept (failed.onSource holds'))
  | kept idle _ ok transferred =>
    obtain ⟨-, rfl⟩ := holds.idle idle
    obtain ⟨kept, holds'⟩ := transferred.onSource opened
    exact HoldsAfter.append (t := [_]) (openRead_onSource ok) ⟨_, kept, holds'⟩

omit [Kconfig] [ZephyrCrc] in
theorem releaseSender_onSource (entity : Entity) : releaseSenderTransaction.wp once
    (fun t _ entity' => ∀ file, Holds entity.sender file → HoldsAfter entity'.sender file t) entity := by
  simp only [releaseSenderTransaction, Prog.wp_bind]
  refine Prog.wp_mono (closeSenderHandle_outcome entity) ?_
  rintro t _ entity' ⟨closed, rfl⟩
  simp only [wp_updateSender, List.append_nil]
  intro file holds
  exact ⟨none, closed.onSource holds, holds_zero⟩

/-- What a PDU that is not for the sender does -/
inductive HeardByReceiver (pdu : Bytes) (entity : Entity) : Trace → Entity → Prop where
  | unheard : HeardByReceiver pdu entity [] entity
  | heard {fs : FilestoreOps} {t : Trace} {status : Status} {entity' : Entity} :
      ReceiverStep fs pdu entity t status entity' → HeardByReceiver pdu entity t entity'

theorem receivePdu_towardReceiver {filestore : Option FilestoreOps}
    (direction : ∀ header headerLen, decodeHeader pdu = .ok (header, headerLen) → header.direction ≠ .towardSender)
    (entity : Entity) :
    (receivePdu filestore pdu).wp once (fun t _ entity' => HeardByReceiver pdu entity t entity') entity := by
  unfold receivePdu
  cases decoded : decodeHeader pdu with
  | error status => exact .unheard
  | ok result =>
    obtain ⟨header, headerLen⟩ := result
    have other := direction header headerLen decoded
    simp only [Prog.wp_ite, Prog.wp_bind, Prog.wp_read, Prog.wp_pure, List.nil_append]
    refine ⟨fun same => (other same).elim, fun _ => ⟨fun _ => .unheard, fun supported => ?_⟩⟩
    rw [Bool.not_eq_true', Bool.not_eq_false] at supported
    cases filestore with
    | none => exact .unheard
    | some fs =>
      simp only [Prog.wp_ite, Prog.wp_pure]
      refine ⟨fun _ => .unheard, fun _ => ?_⟩
      exact Prog.wp_mono (receivePduTowardReceiver_outcome fs header headerLen pdu entity decoded supported)
        fun _ _ _ step => .heard step

/-- It leaves the sender alone. -/
theorem HeardByReceiver.sender (heard : HeardByReceiver pdu entity t entity') : entity'.sender = entity.sender := by
  cases heard with
  | unheard => rfl
  | heard step => exact step.only.sender

/-- Every call keeps the open file in the sender slot. -/
theorem PublicStep.Runs.onSource {step : PublicStep} (runs : step.Runs entity entity')
    (holds : Holds entity.sender file) : HoldsAfter entity'.sender file step.ofSender := by
  cases runs with
  | @sendFile fs request t result _ run =>
    cases usable : filestoreIsValid (some fs) with
    | false =>
      obtain ⟨rfl, rfl⟩ := Prog.wp_of_runs (sendFile_unusable usable entity) run
      exact .done holds
    | true =>
      rw [filestoreIsValid, Bool.and_eq_true] at usable
      exact (Prog.wp_of_runs (sendFile_outcome fs request entity) run).onSource usable.2 holds
  | @towardSender filestore pdu header headerLen t status _ decoded direction run =>
    have post := receivePduTowardSender_outcome header headerLen pdu entity decoded
    rw [receivePdu, decoded] at run
    dsimp only at run
    rw [if_pos direction] at run
    exact (Prog.wp_of_runs post run).onSource holds
  | towardReceiver direction run =>
    rw [(Prog.wp_of_runs (receivePdu_towardReceiver direction entity) run).sender]
    exact .done holds
  | @poll now t u v entity₁ entity₂ _ first second third =>
    have kept₁ := (Prog.wp_of_runs (pollRecovery_outcome now.toNat entity) first).only.sender
    have kept₂ := (Prog.wp_of_runs (pollFinished_outcome now.toNat entity₁) second).only.sender
    rw [← kept₁, ← kept₂] at holds
    exact (Prog.wp_of_runs (pollSender_outcome now.toNat entity₂) third).onSource holds
  | releaseSender run => exact Prog.wp_of_runs (releaseSender_onSource entity) run file holds

omit [Kconfig] [ZephyrCrc] in
theorem releaseSender_receiver (entity : Entity) : releaseSenderTransaction.wp once
    (fun _ _ entity' => entity'.receiver = entity.receiver) entity := by
  simp only [releaseSenderTransaction, Prog.wp_bind]
  apply Prog.wp_mono (closeSenderHandle_outcome entity)
  intro t _ entity' closed
  rw [wp_updateSender, closed.2]
  rfl

/-- Every call keeps the handle of the receiver slot among those that were opened for writing. -/
theorem PublicStep.Runs.onReceived {step : PublicStep} {received : Option Handle} (runs : step.Runs entity entity')
    (holds : HoldsReceived entity.receiver received) :
    ∃ received', receivedBacks received step.ofReceiver = some received' ∧
      HoldsReceived entity'.receiver received' := by
  have apart : entity'.receiver = entity.receiver → ∃ received', receivedBacks received [] = some received' ∧
      HoldsReceived entity'.receiver received' := fun same => ⟨received, rfl, same ▸ holds⟩
  cases runs with
  | @sendFile fs request _ _ _ run =>
    exact apart (Prog.wp_of_runs (sendFile_outcome fs request entity) run).only.receiver
  | @towardSender filestore pdu header headerLen t status _ decoded direction run =>
    have post := receivePduTowardSender_outcome header headerLen pdu entity decoded
    rw [receivePdu, decoded] at run
    dsimp only at run
    rw [if_pos direction] at run
    exact apart (Prog.wp_of_runs post run).only.receiver
  | towardReceiver direction run =>
    cases Prog.wp_of_runs (receivePdu_towardReceiver direction entity) run with
    | unheard => exact apart rfl
    | heard step => exact step.onReceived holds
  | @poll now t u v entity₁ entity₂ _ first second third =>
    obtain ⟨recovered, holds₁⟩ :=
      (Prog.wp_of_runs (pollRecovery_outcome now.toNat entity) first).onReceived holds
    obtain ⟨finished, holds₂⟩ :=
      (Prog.wp_of_runs (pollFinished_outcome now.toNat entity₁) second).onReceived holds₁
    have kept := (Prog.wp_of_runs (pollSender_outcome now.toNat entity₂) third).only.receiver
    refine ⟨received, ?_, kept ▸ holds₂⟩
    show receivedBacks received (t ++ u) = some received
    rw [receivedBacks, Monitor.run_append, ← receivedBacks, recovered, Option.bind_some]
    exact finished
  | releaseSender run => exact apart (Prog.wp_of_runs (releaseSender_receiver entity) run)

end Steps

/-! ## One file in a whole trace -/

/-- All callbacks of the call, in order -/
def PublicStep.trace (step : PublicStep) : Trace := step.ofReceiver ++ step.ofSender

/-- Whether a file is open after a callback, unless it is opened twice, or read or closed while it is not open -/
def fileBack (file : SourceFile) (isOpen : Bool) : Obs → Option Bool
  | ⟨.openRead fs _, reply⟩ =>
    if reply.rc = 0 ∧ file = { fs, handle := reply.handle } then
      if isOpen then none else some true
    else some isOpen
  | ⟨.read fs handle _ _, _⟩ =>
    if file = { fs, handle } then if isOpen then some true else none
    else some isOpen
  | ⟨.close fs handle, _⟩ =>
    if file = { fs, handle } then if isOpen then some false else none
    else some isOpen
  | _ => some isOpen

abbrev fileBacks (file : SourceFile) (isOpen : Bool) (t : Trace) : Option Bool :=
  Monitor.run (fileBack file) isOpen t

/-- The filestore hands the handle out for writing. -/
def HandedForWriting (handle : Handle) (t : Trace) : Prop :=
  ∃ fs path reply, ⟨.openWriteTmp fs path, reply⟩ ∈ t ∧ reply.rc = 0 ∧ reply.handle = handle

section Whole

variable {file : SourceFile} {t : Trace}

/-- A callback for the receiver does not touch a file that is not its own. -/
theorem fileBack_received {received received' : Option Handle} {obs : Obs} (isOpen : Bool) (null : file.handle ≠ 0)
    (other : ¬ HandedForWriting file.handle [obs]) (apart : received ≠ some file.handle)
    (accepted : receivedBack received obs = some received') :
    fileBack file isOpen obs = some isOpen ∧ received' ≠ some file.handle := by
  obtain ⟨op, result⟩ := obs
  cases op with
  | openRead => cases accepted
  | openWriteTmp fs path =>
    obtain rfl := Option.some.inj accepted
    refine ⟨rfl, ?_⟩
    by_cases ok : result.rc = 0
    · rw [if_pos ok]
      intro same
      exact other ⟨fs, path, result, List.mem_cons_self, ok, Option.some.inj same⟩
    · rwa [if_neg ok]
  | write fs handle | read fs handle | close fs handle =>
    rw [receivedBack] at accepted
    split_ifs at accepted with own
    obtain rfl := Option.some.inj accepted
    have differs : file ≠ { fs, handle } := by
      rintro rfl
      exact own.elim null apart
    exact ⟨by simp only [fileBack, differs, if_false], apart⟩
  | sendPdu | nowMs | event | commitTmp | discardTmp =>
    obtain rfl := Option.some.inj accepted
    exact ⟨rfl, apart⟩

/-- A callback for the sender opens or closes it as the monitor of the sender's file says. -/
theorem fileBack_sent {source source' : Option SourceFile} {obs : Obs} (null : file.handle ≠ 0)
    (accepted : sourceBack source obs = some source') :
    fileBack file (decide (source = some file)) obs = some (decide (source' = some file)) := by
  obtain ⟨op, result⟩ := obs
  cases op with
  | openRead fs path =>
    rw [sourceBack] at accepted
    split_ifs at accepted with failed idle
    -- a failed open, or one that answers the null handle, opens no file of either monitor
    · obtain rfl := Option.some.inj accepted
      have differs : ¬ (result.rc = 0 ∧ file = { fs, handle := result.handle }) := by
        rintro ⟨ok, rfl⟩
        exact failed.elim (fun rc => rc ok) null
      rw [fileBack, if_neg differs]
    · obtain rfl := Option.some.inj accepted
      obtain ⟨ok, handle⟩ := not_or.mp failed
      rw [idle, sourceFile, if_neg handle, fileBack]
      by_cases same : file = { fs, handle := result.handle }
      · rw [if_pos ⟨not_not.mp ok, same⟩, ← same]
        simp
      · rw [if_neg fun both => same both.2]
        simp [Ne.symm same]
  | read fs handle =>
    rw [sourceBack] at accepted
    split_ifs at accepted with own
    obtain rfl := Option.some.inj accepted
    by_cases same : file = { fs, handle }
    · subst same
      rw [own, sourceFile, if_neg null, fileBack, if_pos rfl]
      simp
    · rw [fileBack, if_neg same]
  | close fs handle =>
    rw [sourceBack] at accepted
    split_ifs at accepted with own
    obtain rfl := Option.some.inj accepted
    by_cases same : file = { fs, handle }
    · subst same
      rw [own, sourceFile, if_neg null, fileBack, if_pos rfl]
      simp
    -- a close of another file: then this one was not open
    · have shut : source ≠ some file := by
        rw [own, sourceFile]
        split_ifs
        · simp
        · exact fun found => same (Option.some.inj found).symm
      rw [fileBack, if_neg same]
      simp [shut]
  | sendPdu | nowMs | event | openWriteTmp | write | commitTmp | discardTmp =>
    obtain rfl := Option.some.inj accepted
    rfl

/-- All callbacks for the receiver -/
theorem fileBacks_ofReceiver {received received' : Option Handle} (isOpen : Bool) (null : file.handle ≠ 0)
    (other : ¬ HandedForWriting file.handle t) (apart : received ≠ some file.handle)
    (accepted : receivedBacks received t = some received') :
    fileBacks file isOpen t = some isOpen ∧ received' ≠ some file.handle := by
  have keep : ∀ received now obs received₁, obs ∈ t → received ≠ some file.handle ∧ now = isOpen →
      receivedBack received obs = some received₁ →
      ∃ now', fileBack file now obs = some now' ∧ received₁ ≠ some file.handle ∧ now' = isOpen := by
    rintro received now obs received₁ mem ⟨apart, rfl⟩ accepted
    have alone : ¬ HandedForWriting file.handle [obs] := fun ⟨fs, path, reply, found, handed⟩ =>
      other ⟨fs, path, reply, (List.mem_singleton.mp found) ▸ mem, handed⟩
    obtain ⟨untouched, apart'⟩ := fileBack_received now null alone apart accepted
    exact ⟨now, untouched, apart', rfl⟩
  obtain ⟨now, untouched, apart', rfl⟩ := Monitor.related keep ⟨apart, rfl⟩ accepted
  exact ⟨untouched, apart'⟩

/-- All callbacks for the sender -/
theorem fileBacks_ofSender {source source' : Option SourceFile} (null : file.handle ≠ 0)
    (accepted : sourceBacks source t = some source') :
    fileBacks file (decide (source = some file)) t = some (decide (source' = some file)) := by
  have keep : ∀ source now obs source₁, obs ∈ t → now = decide (source = some file) →
      sourceBack source obs = some source₁ →
      ∃ now', fileBack file now obs = some now' ∧ now' = decide (source₁ = some file) := by
    rintro source now obs source₁ - rfl accepted
    exact ⟨_, fileBack_sent null accepted, rfl⟩
  obtain ⟨now, follows, rfl⟩ := Monitor.related keep rfl accepted
  exact follows

/-- What the two monitors say of a file that the receiver does not get. -/
theorem fileBacks_whole {steps : List PublicStep} {source source' : Option SourceFile}
    {received received' : Option Handle} (null : file.handle ≠ 0)
    (other : ¬ HandedForWriting file.handle (steps.flatMap PublicStep.trace)) (apart : received ≠ some file.handle)
    (ofSender : sourceBacks source (steps.flatMap PublicStep.ofSender) = some source')
    (ofReceiver : receivedBacks received (steps.flatMap PublicStep.ofReceiver) = some received') :
    fileBacks file (decide (source = some file)) (steps.flatMap PublicStep.trace) =
      some (decide (source' = some file)) := by
  induction steps generalizing source received with
  | nil =>
    obtain rfl := Option.some.inj ofSender
    rfl
  | cons step steps ih =>
    rw [List.flatMap_cons] at ofSender ofReceiver other ⊢
    obtain ⟨source₁, sent, ofSender⟩ := Option.bind_eq_some_iff.mp ((Monitor.run_append _ _ _).symm.trans ofSender)
    obtain ⟨received₁, heard, ofReceiver⟩ :=
      Option.bind_eq_some_iff.mp ((Monitor.run_append _ _ _).symm.trans ofReceiver)
    have part : ∀ {u : Trace}, (∀ obs ∈ u, obs ∈ step.trace ++ steps.flatMap PublicStep.trace) →
        ¬ HandedForWriting file.handle u := fun within ⟨fs, path, reply, mem, handed⟩ =>
      other ⟨fs, path, reply, within _ mem, handed⟩
    have first : ¬ HandedForWriting file.handle step.ofReceiver :=
      part fun obs mem => List.mem_append_left _ (List.mem_append_left _ mem)
    obtain ⟨kept, apart₁⟩ := fileBacks_ofReceiver (decide (source = some file)) null first apart heard
    rw [fileBacks, Monitor.run_append, PublicStep.trace, Monitor.run_append, ← fileBacks, kept, Option.bind_some,
      ← fileBacks, fileBacks_ofSender null sent, Option.bind_some]
    exact ih (part fun obs mem => List.mem_append_right _ mem) apart₁ ofSender ofReceiver

end Whole

/-! ## Runs -/

section Runs

variable [Kconfig] [ZephyrCrc]

/-- Every source file with a handle that was opened in the history is closed once, at the latest with the
release of the slot, and read only before that. -/
structure SourceFilesClosed (history : List PublicStep) (entity : Entity) : Prop where
  ofSender : ∃ file, sourceBacks none (history.flatMap PublicStep.ofSender) = some file ∧
    (entity.sender.active = false → file = none)
  -- The receiver opens nothing for reading, and keeps to the handle that it opened last for writing.
  ofReceiver : ∃ received, receivedBacks none (history.flatMap PublicStep.ofReceiver) = some received
  whole : ∀ file : SourceFile, file.handle ≠ 0 →
    ¬ HandedForWriting file.handle (history.flatMap PublicStep.trace) →
    ∃ isOpen, fileBacks file false (history.flatMap PublicStep.trace) = some isOpen ∧
      (entity.sender.active = false → isOpen = false)

theorem source_files_closed {config : EntityConfig} {ut : UtOps} {entity₀ entity : Entity}
    {steps : List PublicStep} (init : entityInit config ut = .ok entity₀)
    (run : Run (fun entity step entity' => PublicStep.Runs entity step entity') entity₀ steps entity) :
    SourceFilesClosed steps entity := by
  have fresh : Holds entity₀.sender none ∧ HoldsReceived entity₀.receiver none := by
    rw [entityInit] at init
    split_ifs at init
    cases init
    exact ⟨holds_zero, .inl rfl⟩
  have keep : ∀ file entity (step : PublicStep) entity', Holds entity.sender file → step.Runs entity entity' →
      ∃ file', Monitor.run sourceBack file step.ofSender = some file' ∧ Holds entity'.sender file' := by
    intro file entity step entity' holds runs
    exact runs.onSource holds
  have keepReceived : ∀ received entity (step : PublicStep) entity', HoldsReceived entity.receiver received →
      step.Runs entity entity' → ∃ received', Monitor.run receivedBack received step.ofReceiver = some received' ∧
        HoldsReceived entity'.receiver received' := by
    intro received entity step entity' holds runs
    exact runs.onReceived holds
  obtain ⟨source, ofSender, holds⟩ := Run.monitored keep fresh.1 run
  obtain ⟨received, ofReceiver, -⟩ := Run.monitored keepReceived fresh.2 run
  have closed : entity.sender.active = false → source = none := fun idle => (holds.idle idle).2
  refine ⟨⟨source, ofSender, closed⟩, ⟨received, ofReceiver⟩, fun file null other => ?_⟩
  have whole := fileBacks_whole null other (by simp) ofSender ofReceiver
  refine ⟨_, whole, fun idle => ?_⟩
  simp [closed idle]

end Runs

end ZephyrCcsds.Cfdp

namespace ZephyrCcsds.Cfdp

attribute [local instance] defaultKconfig plainCrc

def sendingPublicStep : PublicStep where
  call := .enter (.sendFile wholeFilestore sendingRequest)
  ofReceiver := []
  ofSender := sendingStep.trace

/-- The public release closes the file of the transaction that waits. -/
def releasingPublicStep : PublicStep where
  call := .releaseSender
  ofReceiver := []
  ofSender := [⟨.close wholeFilestore 5, (0 : Int)⟩]

theorem source_files_closed_released : ∃ entity,
    Run (fun entity step entity' => PublicStep.Runs entity step entity') freshReceiver
      [sendingPublicStep, releasingPublicStep] entity ∧
    SourceFilesClosed [sendingPublicStep, releasingPublicStep] entity := by
  have played : ((sendFile wholeFilestore sendingRequest freshReceiver).play sendingStep.trace).any
      (fun sent => ((releaseSenderTransaction sent.2).play releasingPublicStep.ofSender).isSome) = true := by
    decide +kernel
  obtain ⟨⟨result, entity₁⟩, sent, released⟩ := (Option.any_eq_true _ _).mp played
  obtain ⟨⟨_, entity⟩, released⟩ := Option.isSome_iff_exists.mp released
  have run : Run (fun entity step entity' => PublicStep.Runs entity step entity') freshReceiver
      [sendingPublicStep, releasingPublicStep] entity :=
    .step (.sendFile (Callback.Act.runs_of_play sent)) (.single (.releaseSender (Callback.Act.runs_of_play released)))
  exact ⟨entity, run, source_files_closed entityInit_receiverConfig run⟩

end ZephyrCcsds.Cfdp
