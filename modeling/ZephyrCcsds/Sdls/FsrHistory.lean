import ZephyrCcsds.Latch
import ZephyrCcsds.Sdls.Transactions

/-! # What the Frame Security Report tells

The four condition bits and the two last values of the FSR, over any calls that reach a context.

* `FsrEvent` — what a call is to the FSR; `Fsr.after` is how it moves the report.
* `Step.fsr` — one call.
* `Fsr.Tells` — the report as a function of the history; `FsrRun.tells` is every run.
-/

namespace ZephyrCcsds.Sdls

open Callback

variable [Kconfig]

/-! ## What a call is to the FSR -/

/-- A frame that is accepted or fails, an Alarm Flag Reset that is carried out, or anything else -/
inductive FsrEvent where
  | accepted (spi : Nat) (arsn : UInt32)
  | failed (error : SdlsError) (spi : Nat)
  | reset
  | other
  deriving DecidableEq, Repr

namespace FsrEvent

/-- A frame that fails in one of the given ways -/
def failsWith (classes : List SdlsError) : FsrEvent → Bool
  | failed error _ => decide (error ∈ classes)
  | _ => false

def isReset (event : FsrEvent) : Bool := decide (event = .reset)

/-- What clears the three condition bits -/
def clears : FsrEvent → Bool
  | accepted .. => true
  | reset => true
  | _ => false

/-- The failures that the FSR is about -/
def monitored : List SdlsError := [.authentication, .replay, .unknownSa, .saState, .key]

/-- The failures of the association that a frame names -/
def saFailures : List SdlsError := [.unknownSa, .saState, .key]

/-- The SPI that an event puts in the report -/
def spi? : FsrEvent → Option Nat
  | accepted spi _ => some spi
  | failed error spi => if error ∈ monitored then some spi else none
  | _ => none

/-- The ARSN octet that an event puts in the report -/
def arsn? : FsrEvent → Option UInt8
  | accepted _ arsn => some arsn.toUInt8
  | _ => none

end FsrEvent

def Label.fsrEvent (label : Label) : FsrEvent :=
  match label.call, label.result with
  | .processSecurity _ _ protectedData, .ok _ => .accepted (spiField protectedData) (getU32 protectedData 10)
  | .processSecurity _ _ protectedData, .error error => .failed error (spiField protectedData)
  | call, .ok _ => if call.command.map (·.1) = some .alarmFlagReset then .reset else .other
  | _, .error _ => .other

/-! ## One call -/

/-- What an event makes of the report -/
def Fsr.after (fsr : Fsr) (event : FsrEvent) : Fsr where
  alarm := !event.isReset && (fsr.alarm || event.failsWith FsrEvent.monitored)
  badSequence := !event.clears && (fsr.badSequence || event.failsWith [.replay])
  badMac := !event.clears && (fsr.badMac || event.failsWith [.authentication])
  badSa := !event.clears && (fsr.badSa || event.failsWith FsrEvent.saFailures)
  lastSpi := event.spi?.getD fsr.lastSpi
  lastArsnLsb := event.arsn?.getD fsr.lastArsnLsb

omit [Kconfig] in
@[simp] theorem Fsr.after_other (fsr : Fsr) : fsr.after .other = fsr := by
  simp [Fsr.after, FsrEvent.isReset, FsrEvent.clears, FsrEvent.failsWith, FsrEvent.spi?, FsrEvent.arsn?]

/-- A failure that the FSR is about -/
theorem Ctx.fsrProcessFailure_fsr (ctx : Ctx) {error : SdlsError} (monitored : error ∈ FsrEvent.monitored)
    (spi : Nat) (arsn : UInt32) (eventCode : Option EventCode) :
    (ctx.fsrProcessFailure error spi arsn eventCode).fsr = ctx.fsr.after (.failed error spi) := by
  have classes : error = .authentication ∨ error = .replay ∨ error = .unknownSa ∨ error = .saState ∨ error = .key := by
    simpa [FsrEvent.monitored] using monitored
  rcases classes with rfl | rfl | rfl | rfl | rfl <;>
    simp [Ctx.fsrProcessFailure, isMonitored, isBadSa, Ctx.eventRecord, Fsr.after, FsrEvent.isReset, FsrEvent.clears,
      FsrEvent.failsWith, FsrEvent.spi?, FsrEvent.arsn?, FsrEvent.monitored, FsrEvent.saFailures]

theorem Ctx.fsrProcessSuccess_fsr (ctx : Ctx) (spi : Nat) (arsn : UInt32) :
    (ctx.fsrProcessSuccess spi arsn).fsr = ctx.fsr.after (.accepted spi arsn) := by
  simp [Ctx.fsrProcessSuccess, Fsr.after, FsrEvent.isReset, FsrEvent.clears, FsrEvent.failsWith, FsrEvent.spi?,
    FsrEvent.arsn?]

omit [Kconfig] in
/-- A failure that the FSR is not about -/
theorem Fsr.after_unmonitored (fsr : Fsr) {error : SdlsError} (unmonitored : error ∉ FsrEvent.monitored) (spi : Nat) :
    fsr.after (.failed error spi) = fsr := by
  have classes : error ≠ .authentication ∧ error ≠ .replay ∧ error ≠ .unknownSa ∧ error ≠ .saState ∧ error ≠ .key := by
    simpa [FsrEvent.monitored] using unmonitored
  simp [Fsr.after, FsrEvent.isReset, FsrEvent.clears, FsrEvent.failsWith, FsrEvent.spi?, FsrEvent.arsn?,
    FsrEvent.monitored, FsrEvent.saFailures, classes]

theorem Ctx.alarmFlagReset_fsr (ctx : Ctx) : ctx.alarmFlagReset.fsr = ctx.fsr.after .reset := by
  simp [Ctx.alarmFlagReset, Fsr.after, FsrEvent.isReset, FsrEvent.clears, FsrEvent.spi?, FsrEvent.arsn?]

omit [Kconfig] in
/-- The ARSN of a protected span is where its Security Header has it. -/
theorem ivArsn_of_decoded {protectedData : Bytes} {header : SecurityHeader}
    (decoded : securityHeaderDecode (protectedData.slice 0 securityHeaderLen) = .ok header) :
    ivArsn header.iv = getU32 protectedData 10 := by
  rw [ivArsn, getU32, getU32, securityHeaderDecode_iv decoded, Bytes.slice_drop _ _ _ _ _ (by decide)]

theorem Processed.fsr {role : SaRole} {auth : AuthHeader} {protectedData : Bytes} {s s' : State} {t : List Item}
    {result : Except SdlsError Unit} (processed : Processed role auth protectedData s t result s') :
    s'.ctx.fsr = s.ctx.fsr.after (Label.fsrEvent ⟨.processSecurity role auth protectedData, t, result⟩) := by
  cases processed with
  | malformed => exact (s.ctx.fsr.after_unmonitored (by decide) _).symm
  | refused error => exact Ctx.fsrProcessFailure_fsr _ (List.mem_cons_of_mem _ error) _ _ _
  | @forged header slot key arsn plaintext keyed =>
    show _ = s.ctx.fsr.after (.failed .authentication (spiField protectedData))
    rw [← securityHeaderDecode_spi keyed.decoded]
    exact Ctx.fsrProcessFailure_fsr _ (by decide) _ _ _
  | unanswered _ => exact (s.ctx.fsr.after_unmonitored (by decide) _).symm
  | @accepted header slot key plaintext keyed _ _ =>
    show _ = s.ctx.fsr.after (.accepted (spiField protectedData) (getU32 protectedData 10))
    rw [← securityHeaderDecode_spi keyed.decoded, ← ivArsn_of_decoded keyed.decoded]
    exact Ctx.fsrProcessSuccess_fsr _ _ _

theorem Ctx.OnlyKeys.fsr {ctx ctx' : Ctx} (only : ctx.OnlyKeys ctx') : ctx'.fsr = ctx.fsr := by
  rw [only]

theorem Ctx.recordSelfTest_fsr (ctx : Ctx) (encoded : Bytes) : (ctx.recordSelfTest encoded).fsr = ctx.fsr := by
  unfold Ctx.recordSelfTest
  split <;> rfl

/-- Of the procedures only Alarm Flag Reset is about the FSR. -/
theorem Effect.fsr {encoded : Bytes} {ctx ctx' : Ctx} {procedure : Procedure} {t : List Item}
    (effect : Effect encoded ctx procedure t ctx') :
    ctx'.fsr = ctx.fsr.after (if procedure = .alarmFlagReset then .reset else .other) := by
  cases effect with
  | otar => exact (ctx.swapKeys_onlyKeys _).fsr.trans ctx.fsr.after_other.symm
  | keyActivation => exact (ctx.setKeyStates_onlyKeys _ _).fsr.trans ctx.fsr.after_other.symm
  | keyDeactivation => exact (ctx.setKeyStates_onlyKeys _ _).fsr.trans ctx.fsr.after_other.symm
  | keyVerification =>
    rw [ctx.commitVerification_eq]
    exact ctx.fsr.after_other.symm
  | selfTestAbsent => exact (ctx.recordSelfTest_fsr encoded).trans ctx.fsr.after_other.symm
  | selfTestNotOk => exact (ctx.recordSelfTest_fsr encoded).trans ctx.fsr.after_other.symm
  | alarmFlagReset => exact ctx.alarmFlagReset_fsr
  | reported listed =>
    have other : procedure ≠ .alarmFlagReset := by
      intro same
      rw [same] at listed
      simp at listed
    rw [if_neg other, Fsr.after_other]
  | _ => exact ctx.fsr.after_other.symm

theorem Protects.fsr {ctx ctx' : Ctx} {role : SaRole} {slot : SaSlot} {key : KeySlot} {t : List Item}
    (protects : Protects ctx role slot key t ctx') : ctx'.fsr = ctx.fsr := by
  rw [protects.consumed]
  rfl

/-- One call moves the report by its event. -/
theorem Step.fsr {ctx ctx' : Ctx} {label : Label} (step : Step ctx label ctx') :
    ctx'.fsr = ctx.fsr.after label.fsrEvent := by
  obtain ⟨call, t, result⟩ := label
  obtain ⟨s, s', rfl, rfl, runs⟩ := step
  cases call with
  | applySecurity role slot auth data outOffset =>
    have post := applySecurity_spec role slot auth data outOffset s
    have event : Label.fsrEvent ⟨.applySecurity role slot auth data outOffset, t, result⟩ = .other := by
      cases result <;> rfl
    rw [event, Fsr.after_other]
    cases result with
    | ok _ =>
      obtain ⟨key, protects⟩ := Fallible.ok_of_runs post runs
      exact protects.fsr
    | error e =>
      rcases Fallible.error_of_runs post runs with ⟨_, same⟩ | ⟨key, protects, _⟩
      · rw [same]
      · exact protects.fsr
  | processSecurity role auth protectedData => exact (processSecurity_runs runs).fsr
  | processPdu encoded =>
    have reached := Prog.wp_of_runs (processPdu_spec encoded s) runs
    cases result with
    | ok _ =>
      obtain ⟨pdu, ctx, decoded, effect, committed⟩ := reached
      have event : Label.fsrEvent ⟨.processPdu encoded, t, .ok ()⟩ =
          if pdu.procedure = .alarmFlagReset then .reset else .other := by
        simp [Label.fsrEvent, Call.command, decoded, Except.toOption]
      rw [event, committed, Ctx.endTransaction_eq]
      exact effect.fsr
    -- a failed command is rolled back; its event record is no frame failure
    | error e =>
      obtain ⟨_, rolledBack⟩ := reached
      have event : Label.fsrEvent ⟨.processPdu encoded, t, .error e⟩ = .other := rfl
      rw [event, Fsr.after_other, rolledBack, State.withCtx_ctx, Ctx.endTransaction_eq, Ctx.recordFailure_eq]
  -- called by itself: an error leaves the context as it was, and nothing is recorded
  | recipient pdu encoded =>
    have post : (do
        let _ ← Sdls.recipient pdu encoded
        pure () : Recipient Unit).wp anyPsa (fun t _ s' => Effect encoded s.ctx pdu.procedure t s'.ctx)
        (Failed s) s := by
      simp only [Fallible.wp_bind, Fallible.wp_pure, List.append_nil]
      exact Fallible.wp_mono (recipient_meets pdu encoded s) (fun _ _ _ meets => meets.1) fun _ _ _ failed => failed
    cases result with
    | ok _ =>
      have event : Label.fsrEvent ⟨.recipient pdu encoded, t, .ok ()⟩ =
          if pdu.procedure = .alarmFlagReset then .reset else .other := by
        simp [Label.fsrEvent, Call.command]
      rw [event]
      exact (Fallible.ok_of_runs post runs).fsr
    | error e =>
      have event : Label.fsrEvent ⟨.recipient pdu encoded, t, .error e⟩ = .other := rfl
      rw [event, Fsr.after_other, (Fallible.error_of_runs post runs).1]
  | _ =>
    obtain ⟨_, rfl, rfl⟩ := runs
    exact s.ctx.fsr.after_other.symm

/-! ## The history -/

/-- The report that a history of calls leaves -/
def Fsr.ofHistory (history : List FsrEvent) : Fsr where
  alarm := latched (FsrEvent.failsWith FsrEvent.monitored) FsrEvent.isReset history
  badSequence := latched (FsrEvent.failsWith [.replay]) FsrEvent.clears history
  badMac := latched (FsrEvent.failsWith [.authentication]) FsrEvent.clears history
  badSa := latched (FsrEvent.failsWith FsrEvent.saFailures) FsrEvent.clears history
  lastSpi := lastWritten FsrEvent.spi? 0 history
  lastArsnLsb := lastWritten FsrEvent.arsn? 0 history

omit [Kconfig] in
theorem Fsr.ofHistory_concat (history : List FsrEvent) (event : FsrEvent) :
    Fsr.ofHistory (history ++ [event]) = (Fsr.ofHistory history).after event := by
  simp only [Fsr.ofHistory, Fsr.after, latched_concat, lastWritten_concat]

theorem FsrRun.ofHistory (configuration : Configuration) {labels : List Label} {ctx : Ctx}
    (run : Run Step (init configuration) labels ctx) : ctx.fsr = Fsr.ofHistory (labels.map Label.fsrEvent) := by
  have keep : ∀ past ctx label ctx', ctx.fsr = Fsr.ofHistory (past.map Label.fsrEvent) → Step ctx label ctx' →
      ctx'.fsr = Fsr.ofHistory ((past ++ [label]).map Label.fsrEvent) := by
    intro past ctx label ctx' told step
    rw [List.map_append, step.fsr, told, List.map_singleton, Fsr.ofHistory_concat]
  have start : (init configuration).fsr = Fsr.ofHistory ([].map Label.fsrEvent) :=
    @init_unchanged _ _ Ctx.fsr (fun _ _ => rfl) (fun _ _ => rfl) configuration
  exact @Run.invariant_history _ _ Step _ _ _ (fun past ctx => ctx.fsr = Fsr.ofHistory (past.map Label.fsrEvent))
    keep [] start run

omit [Kconfig] in
/-- A bit that failures of some classes set -/
theorem latched_failsWith (classes : List SdlsError) (reset : FsrEvent → Bool) (history : List FsrEvent) :
    latched (FsrEvent.failsWith classes) reset history = true ↔
      ∃ error spi, .failed error spi ∈ since reset history ∧ error ∈ classes := by
  rw [latched_iff]
  constructor
  · intro found
    obtain ⟨event, member, sets⟩ := found
    cases event with
    | failed error spi => exact ⟨error, spi, member, of_decide_eq_true sets⟩
    | _ => cases sets
  · intro found
    obtain ⟨error, spi, member, listed⟩ := found
    exact ⟨.failed error spi, member, decide_eq_true listed⟩

/-- After any calls the encoded report shows the failures since the last reset and since the last success, the SPI
of the latest frame it is about and the ARSN of the latest success; a call that is neither such a frame nor a
reset leaves it as it is. -/
theorem fsr_shows_history (configuration : Configuration) {labels : List Label} {ctx : Ctx}
    (run : Run Step (init configuration) labels ctx) :
    let history := labels.map Label.fsrEvent
    (∃ alarm badSequence badMac badSa : Bool,
      ctx.fsr.encode =
        UInt8.ofNat (0x40 + alarm.toNat * 8 + badSequence.toNat * 4 + badMac.toNat * 2 + badSa.toNat) ::
          (Bytes.putBe 2 (lastWritten FsrEvent.spi? 0 history) ++ [lastWritten FsrEvent.arsn? 0 history]) ∧
      (alarm = true ↔ ∃ error spi, .failed error spi ∈ since FsrEvent.isReset history ∧
        error ∈ [.authentication, .replay, .unknownSa, .saState, .key]) ∧
      (badSequence = true ↔ ∃ error spi, .failed error spi ∈ since FsrEvent.clears history ∧ error ∈ [.replay]) ∧
      (badMac = true ↔ ∃ error spi, .failed error spi ∈ since FsrEvent.clears history ∧ error ∈ [.authentication]) ∧
      (badSa = true ↔ ∃ error spi, .failed error spi ∈ since FsrEvent.clears history ∧
        error ∈ [.unknownSa, .saState, .key])) ∧
    ∀ (label : Label) (ctx' : Ctx), Step ctx label ctx' →
      label.fsrEvent = .other ∨
        (∃ error spi, label.fsrEvent = .failed error spi ∧
          error ∉ [.authentication, .replay, .unknownSa, .saState, .key]) →
      ctx'.fsr.encode = ctx.fsr.encode := by
  intro history
  have told : ctx.fsr = Fsr.ofHistory history := FsrRun.ofHistory configuration run
  constructor
  · refine ⟨ctx.fsr.alarm, ctx.fsr.badSequence, ctx.fsr.badMac, ctx.fsr.badSa, ?_, ?_, ?_, ?_, ?_⟩
    · rw [told]
      rfl
    · rw [told]
      exact latched_failsWith _ _ _
    · rw [told]
      exact latched_failsWith _ _ _
    · rw [told]
      exact latched_failsWith _ _ _
    · rw [told]
      exact latched_failsWith _ _ _
  · intro label ctx' step silent
    rw [step.fsr]
    rcases silent with other | failure
    · rw [other, Fsr.after_other]
    · obtain ⟨error, spi, event, unmonitored⟩ := failure
      rw [event, Fsr.after_unmonitored _ unmonitored]

end ZephyrCcsds.Sdls

namespace ZephyrCcsds.Sdls

section Sample

attribute [local instance] defaultKconfig

/-- A frame of an SPI that is not configured -/
def unknownFrame : Bytes := [0, 3] ++ List.replicate 28 0

/-- An Alarm Flag Reset -/
def resetCommand : Bytes := [0x37, 0, 0]

/-- A frame fails and another is accepted: the report shows the alarm, and the SPI and the ARSN of the accepted frame.
An Alarm Flag Reset takes the alarm away. -/
theorem fsr_shows_history_reset : ∃ labels ctx label ctx', Run Step (init sampleConfiguration) labels ctx ∧
    Step ctx label ctx' ∧ labels.map Label.fsrEvent = [.failed .unknownSa 3, .accepted 1 5] ∧
    label.fsrEvent = .reset ∧ ctx.fsr.encode = [0x48, 0, 1, 5] ∧ ctx'.fsr.encode = [0x40, 0, 1, 5] := by
  have held : ((playCalls (init sampleConfiguration)
      [(.processSecurity .operationalTcRx noHeader unknownFrame, []), receiveSample]).bind fun played =>
        (playCall played.2 (.processPdu resetCommand, [])).map fun last => (played, last)).any (fun played =>
      decide (played.1.1.map Label.fsrEvent = [.failed .unknownSa 3, .accepted 1 5] ∧
        played.2.1.fsrEvent = .reset)) = true := by
    decide +kernel
  obtain ⟨⟨⟨labels, ctx⟩, label, ctx'⟩, all, checked⟩ := (Option.any_eq_true _ _).mp held
  obtain ⟨played, first, rest⟩ := Option.bind_eq_some_iff.mp all
  obtain ⟨last, second, same⟩ := Option.map_eq_some_iff.mp rest
  cases same
  obtain ⟨history, reset⟩ := of_decide_eq_true checked
  have run := run_of_playCalls first
  have step := step_of_playCall second
  have history' : (labels ++ [label]).map Label.fsrEvent = [.failed .unknownSa 3, .accepted 1 5, .reset] := by
    rw [List.map_append, history, List.map_singleton, reset]
    rfl
  refine ⟨labels, ctx, label, ctx', run, step, history, reset, ?_, ?_⟩
  · obtain ⟨alarm, badSequence, badMac, badSa, encoded, alarmed, replays, macs, associations⟩ :=
      (fsr_shows_history sampleConfiguration run).1
    rw [history] at encoded alarmed replays macs associations
    -- The failure came before the accepted frame and after no reset.
    have set : alarm = true := alarmed.mpr ⟨.unknownSa, 3, by decide, by decide⟩
    have cleared : since FsrEvent.clears [.failed .unknownSa 3, .accepted 1 5] = [] := by decide
    simp only [cleared, List.not_mem_nil, false_and, exists_false, iff_false, Bool.not_eq_true]
      at replays macs associations
    rw [encoded, set, replays, macs, associations]
    decide
  · obtain ⟨alarm, badSequence, badMac, badSa, encoded, alarmed, replays, macs, associations⟩ :=
      (fsr_shows_history sampleConfiguration (run.append (.single step))).1
    rw [history'] at encoded alarmed replays macs associations
    have taken : since FsrEvent.isReset [.failed .unknownSa 3, .accepted 1 5, .reset] = [] := by decide
    have cleared : since FsrEvent.clears [.failed .unknownSa 3, .accepted 1 5, .reset] = [] := by decide
    simp only [taken, cleared, List.not_mem_nil, false_and, exists_false, iff_false, Bool.not_eq_true]
      at alarmed replays macs associations
    rw [encoded, alarmed, replays, macs, associations]
    decide

end Sample

end ZephyrCcsds.Sdls
