import ZephyrCcsds.Sdls.FrameOutcome

/-! # The frame condition of frame processing

Everything that `ccsds_sdls_process_security` may change.  A refusal reports and does
nothing else: `RefusedFrame` names the three places it reports to.  An acceptance moves the
replay state of the one association that the frame names, and `AcceptedFrame` says so by
giving the whole state after it.
-/

namespace ZephyrCcsds.Sdls

open Callback

variable [Kconfig]

/-! ## Refusals -/

/-- What an error return leaves: the event log, the alarm, the three condition bits and the last SPI may
have changed, the provenance is clear and the rest of the context and the output buffer are as before. -/
structure RefusedFrame (s s' : State) : Prop where
  ctx : s'.ctx = { s.ctx with
    log := s'.ctx.log
    authenticatedRx := .zero
    fsr := { s'.ctx.fsr with lastArsnLsb := s.ctx.fsr.lastArsnLsb } }
  out : s'.out = s.out
  outLen : s'.outLen = s.outLen

theorem refusedFrame_cleared (s : State) : RefusedFrame s (s.withCtx Ctx.clearAuthenticatedRx) :=
  ⟨rfl, rfl, rfl⟩

theorem RefusedFrame.eventRecord {s s' : State} (refused : RefusedFrame s s') (tag : UInt8)
    (code : EventCode) (spi : Nat) (arsn : UInt32) :
    RefusedFrame s (s'.withCtx (·.eventRecord tag code spi arsn)) := by
  have same := refused.ctx
  refine ⟨?_, refused.out, refused.outLen⟩
  simp only [State.withCtx_ctx, Ctx.eventRecord]
  rw [same]

theorem RefusedFrame.frameFailure {s s' : State} (refused : RefusedFrame s s') (error : SdlsError)
    (spi : Nat) (arsn : UInt32) (eventCode : Option EventCode) :
    RefusedFrame s (s'.withCtx (·.fsrProcessFailure error spi arsn eventCode)) := by
  have same := refused.ctx
  refine ⟨?_, refused.out, refused.outLen⟩
  simp only [State.withCtx_ctx, Ctx.fsrProcessFailure, Ctx.eventRecord]
  by_cases monitored : isMonitored error
  · simp only [if_pos monitored]
    rw [same]
  · simp only [if_neg monitored]
    exact same

/-! ## Acceptances -/

/-- The context after a frame of the association in `slot` -/
def Ctx.afterFrame (ctx : Ctx) (slot : SaSlot) (arsn : UInt32) : Ctx :=
  { ctx with
    sas := Function.update ctx.sas slot
      { ctx.sas slot with rxArsn := arsn, rxArsnInitialized := true }
    authenticatedRx := { arsn := arsn, spi := slot.spi, valid := true, dispatching := false }
    fsr := { ctx.fsr with
      badSequence := false
      badMac := false
      badSa := false
      lastSpi := slot.spi
      lastArsnLsb := arsn.toUInt8 } }

/-- What a return of `0` leaves: the frame names the association in `slot`, and as many octets as the frame
has clear data are written to the start of the output buffer. -/
structure AcceptedFrame (protectedData : Bytes) (s s' : State) (slot : SaSlot) (arsn : UInt32)
    (clear : Bytes) : Prop where
  framed : protectedOverhead ≤ protectedData.length
  named : slot.spi = spiField protectedData
  ctx : s'.ctx = s.ctx.afterFrame slot arsn
  clearLen : clear.length = protectedData.length - protectedOverhead
  out : s'.out = s.out.overwrite 0 clear
  outLen : s'.outLen = s.outLen

theorem Ctx.acceptFrame_eq {ctx : Ctx} {slot : SaSlot} {spi : Nat} (named : slot.spi = spi) (arsn : UInt32) :
    ctx.clearAuthenticatedRx.acceptFrame slot spi arsn = ctx.afterFrame slot arsn := by
  subst named
  rfl

/-- An error return only reports; a return of `0` moves the replay state of the association that the frame
names, the provenance, the condition bits and last values of the report, and the clear data in the output. -/
theorem processSecurity_changes (role : SaRole) (auth : AuthHeader) (protectedData : Bytes) (s : State) :
    (processSecurity role auth protectedData).wp anyPsa
      (fun _ _ s' => ∃ slot arsn clear, AcceptedFrame protectedData s s' slot arsn clear)
      (fun _ _ s' => RefusedFrame s s') s := by
  have cleared := refusedFrame_cleared s
  apply Fallible.wp_mono (processSecurity_outcome role auth protectedData s)
  · intro t _ s' processed
    cases processed with
    | @accepted header slot key plaintext keyed _ length =>
      have named : slot.spi = header.spi := (Ctx.saLookup_some keyed.found).1
      have framed := keyed.framed
      refine ⟨slot, ivArsn header.iv, _, framed, ?_, Ctx.acceptFrame_eq named _, ?_, rfl, rfl⟩
      · rw [named, securityHeaderDecode_spi keyed.decoded]
      · by_cases gcm : s.ctx.saModes slot = .gcm
        · -- The plaintext, whose length has been compared
          rw [if_pos gcm]
          exact length gcm
        · -- The data of the frame itself
          have overhead : protectedOverhead = securityHeaderLen + tagLen := rfl
          rw [if_neg gcm, Bytes.slice, List.length_take, List.length_drop]
          omega
  · intro t e s' processed
    cases processed with
    | malformed => exact cleared.eventRecord _ _ _ _
    | refused _ => exact cleared.frameFailure _ _ _ _
    | forged _ => exact cleared.frameFailure _ _ _ _
    | unanswered _ => exact cleared

end ZephyrCcsds.Sdls
