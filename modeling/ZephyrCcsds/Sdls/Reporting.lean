import ZephyrCcsds.Sdls.Transactions

/-! # Who changes the FSR reporting

Whether FSRs are reported, and whether the next OCF is one, are flags of the context.  The frame
calls, the packet service and its recipients leave both alone: only `ccsds_sdls_fsr_set_enabled`
and the TM generator write them.

* `Effect.reporting` — a recipient that succeeds.
* `Step.reporting` — any call but those two.
-/

namespace ZephyrCcsds.Sdls

open Callback

variable [Kconfig]

/-- The flags of FSR reporting: whether it is enabled, and the OCF phase -/
def Ctx.reporting (ctx : Ctx) : Bool × Bool := (ctx.fsrEnabled, ctx.fsrNext)

/-- The calls that leave the flags alone -/
def Call.keepsReporting : Call → Bool
  | fsrSetEnabled _ => false
  | fsrAlternate => false
  | _ => true

theorem Ctx.OnlyKeys.reporting {ctx ctx' : Ctx} (only : ctx.OnlyKeys ctx') : ctx'.reporting = ctx.reporting := by
  rw [only]
  rfl

theorem Ctx.fsrProcessFailure_reporting (ctx : Ctx) (error : SdlsError) (spi : Nat) (arsn : UInt32)
    (eventCode : Option EventCode) : (ctx.fsrProcessFailure error spi arsn eventCode).reporting = ctx.reporting := by
  unfold Ctx.fsrProcessFailure
  split <;> rfl

theorem Ctx.recordSelfTest_reporting (ctx : Ctx) (encoded : Bytes) :
    (ctx.recordSelfTest encoded).reporting = ctx.reporting := by
  unfold Ctx.recordSelfTest
  split <;> rfl

theorem Ctx.endTransaction_reporting (ctx : Ctx) : ctx.endTransaction.reporting = ctx.reporting := by
  rw [Ctx.endTransaction_eq]
  rfl

theorem Effect.reporting {encoded : Bytes} {ctx ctx' : Ctx} {procedure : Procedure} {t : List Item}
    (effect : Effect encoded ctx procedure t ctx') : ctx'.reporting = ctx.reporting := by
  cases effect with
  | otar => exact (ctx.swapKeys_onlyKeys _).reporting
  | keyActivation => exact (ctx.setKeyStates_onlyKeys _ _).reporting
  | keyDeactivation => exact (ctx.setKeyStates_onlyKeys _ _).reporting
  | keyVerification =>
    rw [ctx.commitVerification_eq]
    rfl
  | selfTestAbsent => exact ctx.recordSelfTest_reporting encoded
  | selfTestNotOk => exact ctx.recordSelfTest_reporting encoded
  | _ => rfl

/-! ## Frames -/

theorem Processed.reporting {role : SaRole} {auth : AuthHeader} {protectedData : Bytes} {s s' : State}
    {t : List Item} {result : Except SdlsError Unit} (processed : Processed role auth protectedData s t result s') :
    s'.ctx.reporting = s.ctx.reporting := by
  cases processed with
  | malformed => rfl
  | refused _ => exact Ctx.fsrProcessFailure_reporting _ _ _ _ _
  | forged _ => exact Ctx.fsrProcessFailure_reporting _ _ _ _ _
  | unanswered _ => rfl
  | accepted _ _ _ => rfl

/-! ## Calls -/

theorem Protects.reporting {ctx ctx' : Ctx} {role : SaRole} {slot : SaSlot} {key : KeySlot} {t : List Item}
    (protects : Protects ctx role slot key t ctx') : ctx'.reporting = ctx.reporting := by
  rw [protects.consumed]
  rfl

theorem applySecurity_reporting (role : SaRole) (slot : SaSlot) (auth : AuthHeader) (data : DataPointer)
    (outOffset : Nat) (s : State) :
    (applySecurity role slot auth data outOffset).wp anyPsa (fun _ _ s' => s'.ctx.reporting = s.ctx.reporting)
      (fun _ _ s' => s'.ctx.reporting = s.ctx.reporting) s := by
  apply Fallible.wp_mono (applySecurity_spec role slot auth data outOffset s)
  · intro t _ s' reached
    obtain ⟨key, protects⟩ := reached
    exact protects.reporting
  · intro t e s' stopped
    rcases stopped with ⟨-, same⟩ | ⟨key, protects, -⟩
    · rw [same]
    · exact protects.reporting

theorem processPdu_reporting (encoded : Bytes) (s : State) :
    (processPdu encoded).wp anyPsa (fun _ _ s' => s'.ctx.reporting = s.ctx.reporting) s := by
  apply Prog.wp_mono (processPdu_spec encoded s)
  intro t result s' reached
  cases result with
  | ok _ =>
    obtain ⟨pdu, ctx, -, effect, committed⟩ := reached
    rw [committed, Ctx.endTransaction_reporting]
    exact effect.reporting
  | error e =>
    obtain ⟨-, rolledBack⟩ := reached
    rw [rolledBack]
    show (Ctx.endTransaction _).reporting = _
    rw [Ctx.endTransaction_reporting, Ctx.recordFailure_eq]
    rfl

theorem recipient_reporting (pdu : EpPdu) (encoded : Bytes) (s : State) :
    (recipient pdu encoded).wp anyPsa (fun _ _ s' => s'.ctx.reporting = s.ctx.reporting)
      (fun _ _ s' => s'.ctx.reporting = s.ctx.reporting) s := by
  apply Fallible.wp_mono (recipient_meets pdu encoded s)
  · intro t _ s' reached
    exact reached.1.reporting
  · intro t e s' failed
    rw [failed.1]

/-- A call that is not about the FSR leaves its flags alone. -/
theorem Step.reporting {ctx ctx' : Ctx} {label : Label} (step : Step ctx label ctx')
    (other : label.call.keepsReporting = true) : ctx'.reporting = ctx.reporting := by
  obtain ⟨call, t, result⟩ := label
  obtain ⟨s, s', rfl, rfl, runs⟩ := step
  cases call with
  | applySecurity role slot auth data outOffset =>
    have post := applySecurity_reporting role slot auth data outOffset s
    cases result with
    | ok _ => exact Fallible.ok_of_runs post runs
    | error e => exact Fallible.error_of_runs post runs
  | processSecurity role auth protectedData =>
    exact (processSecurity_runs runs).reporting
  | processPdu encoded => exact Prog.wp_of_runs (processPdu_reporting encoded s) runs
  | recipient pdu encoded =>
    have post : (do
        let _ ← Sdls.recipient pdu encoded
        pure () : Recipient Unit).wp anyPsa (fun _ _ s' => s'.ctx.reporting = s.ctx.reporting)
        (fun _ _ s' => s'.ctx.reporting = s.ctx.reporting) s := by
      simp only [Fallible.wp_bind, Fallible.wp_pure]
      exact recipient_reporting pdu encoded s
    cases result with
    | ok _ => exact Fallible.ok_of_runs post runs
    | error e => exact Fallible.error_of_runs post runs
  | fsrSetEnabled enabled => cases other
  | fsrAlternate => cases other
  | _ =>
    obtain ⟨-, -, rfl⟩ := runs
    rfl

end ZephyrCcsds.Sdls
