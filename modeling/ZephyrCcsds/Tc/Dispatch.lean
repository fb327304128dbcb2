import ZephyrCcsds.Tc.Profile

/-! # Dispatch of a CLTU

`ccsds_profile_tc_cltu_dispatch`, in the order of the source: channel decoding into the
frame buffer, admission of the frame, the SDLS block, COP-1 and the segment walk.  Every exit
records its result in the statistics.
-/

namespace ZephyrCcsds.Tc

open Callback

variable [Kconfig]

/-! ## Statistics -/

/-- `struct ccsds_profile_tc_cltu_result`, without the error that nothing reads -/
structure TcCltuResult where
  stage : TcCltuStage
  tcFrameLen : Nat
  packetsDispatched : Nat
  deriving DecidableEq, Repr

/-- `record_tc_result` -/
def TcRxStats.record (stats : TcRxStats) (result : TcCltuResult) (cltuLen : Nat) (ret : Option Failure) :
    TcRxStats :=
  let stats := { stats with
    cltusReceived := stats.cltusReceived + 1
    lastCltuLen := cltuLen
    lastTcFrameLen := result.tcFrameLen }
  let stats :=
    match result.stage with
    | .oversize => { stats with cltusOversize := stats.cltusOversize + 1 }
    | .cltu => { stats with cltuDecodeFailures := stats.cltuDecodeFailures + 1 }
    | .tcFrame | .sdls | .packet => { stats with tcFrameRejects := stats.tcFrameRejects + 1 }
    | .control => { stats with controlFramesSeen := stats.controlFramesSeen + 1 }
    | .router => { stats with dispatchFailures := stats.dispatchFailures + 1 }
    | .dispatched =>
      { stats with packetsDispatched := stats.packetsDispatched + UInt32.ofNat result.packetsDispatched }
  match ret with
  | none => stats
  | some failure => { stats with lastError := some failure }

/-! ## Channel decoding and admission -/

/-- A frame that has been decoded, with the lengths for the statistics. -/
structure Reception where
  cltuLen : Nat
  tcFrameLen : Nat
  frame : TcFrame
  deriving DecidableEq, Repr

/-- A CLTU that is refused before the frame is known. -/
structure Refusal where
  stage : TcCltuStage
  cltuLen : Nat
  tcFrameLen : Nat
  failure : Failure
  deriving DecidableEq, Repr

/-- `ccsds_rnd_apply` to the frame, in builds with `CONFIG_CCSDS_TC_RND` -/
def derandomize (frameBuf : Bytes) (tcFrameLen : Nat) : Bytes :=
  if tcRnd then rndApply (frameBuf.take tcFrameLen) ++ frameBuf.drop tcFrameLen else frameBuf

/-- The dispatch up to the decoded frame, with the frame buffer it leaves -/
def receiveCltu (cltu frameBuf : Bytes) : Bytes × Except Refusal Reception :=
  let refuse stage tcFrameLen code : Except Refusal Reception :=
    .error { stage, cltuLen := cltu.length, tcFrameLen, failure := .errno code }
  if maxCltuLen < cltu.length then (frameBuf, refuse .oversize 0 .emsgsize)
  else
    match cltuDecodeMessage cltu frameBuf with
    | (frameBuf, .error e) => (frameBuf, refuse .cltu 0 e)
    | (frameBuf, .ok tcFrameLen) =>
      let frameBuf := derandomize frameBuf tcFrameLen
      match tcFrameDecode frameBuf tcFrameLen with
      | .error e => (frameBuf, refuse .tcFrame tcFrameLen e)
      | .ok frame => (frameBuf, .ok { cltuLen := cltu.length, tcFrameLen, frame })

theorem derandomize_length (frameBuf : Bytes) (tcFrameLen : Nat) :
    (derandomize frameBuf tcFrameLen).length = frameBuf.length := by
  unfold derandomize
  split
  · rw [rndApply, List.length_append, rndApplyFrom_length, ← List.length_append, List.take_append_drop]
  · rfl

/-- A received frame lies in the frame buffer. -/
theorem receiveCltu_fits {cltu frameBuf frameBuf' : Bytes} {reception : Reception}
    (received : receiveCltu cltu frameBuf = (frameBuf', .ok reception)) :
    reception.frame.data + reception.frame.dataLen ≤ frameBuf'.length := by
  unfold receiveCltu at received
  simp only at received
  split at received
  · cases received
  · split at received
    · cases received
    · rename_i decoded
      obtain ⟨kept, inside⟩ := cltuDecodeMessage_length decoded
      split at received
      · cases received
      · rename_i frame
        cases received
        have fits := tcFrameDecode_fits frame
        rw [derandomize_length, kept]
        exact fits.trans inside

/-- The checks on the virtual channel and the service type.  Type-C frames are Type-BC. -/
def admitFrame (acceptedVcid : Nat) (frame : TcFrame) : Except Errno Unit :=
  if tcVcCount ≤ frame.virtualChannelId then .error .einval
  else if frame.virtualChannelId ≠ acceptedVcid then .error .eacces
  else if frame.controlCommand ∧ ¬ frame.bypass then .error .einval
  else .ok ()

variable [Sdls.Kconfig]

def State.record (s : State) (result : TcCltuResult) (cltuLen : Nat) (ret : Option Failure) : State :=
  { s with stats := s.stats.record result cltuLen ret }

/-- `set_tc_result_error`, `record_tc_result` and the return of the error -/
def refuseWith {α : Type} (refusal : Refusal) : ProfileM α := do
  Fallible.modify fun s =>
    s.record { stage := refusal.stage, tcFrameLen := refusal.tcFrameLen, packetsDispatched := 0 }
      refusal.cltuLen (some refusal.failure)
  Fallible.fail refusal.failure

/-- The refusal of a frame that has been decoded -/
def Reception.refusal (reception : Reception) (stage : TcCltuStage) (failure : Failure) : Refusal where
  stage := stage
  cltuLen := reception.cltuLen
  tcFrameLen := reception.tcFrameLen
  failure := failure

/-! ## Frame security -/

/-- `ccsds_sdls_tc_default_auth_mask` -/
def tcDefaultAuthMask : Bytes := [0x03, 0xff, 0xfc, 0x00, 0x00]

/-- The authentication header of the SDLS block: the primary header and the Segment Header -/
def tcAuthHeader (frameBuf : Bytes) : Sdls.AuthHeader where
  data := List.ofFn fun i : Fin (tcPrimaryHdrLen + tcSegmentHdrLen) => frameBuf.getD i 0
  mask := tcDefaultAuthMask
  mask_le := by
    rw [List.length_ofFn]
    decide

/-- The state of SDLS within that of the profile: its context, and the frame buffer as output buffer. -/
def sdlsPart : Part State Sdls.State where
  view s t := { t with ctx := s.rx.sdls.getD t.ctx, out := s.rx.frameBuf }
  store t s := { s with rx := { s.rx with sdls := some t.ctx, frameBuf := t.out } }
  view_store _ _ := rfl
  store_store _ _ _ := rfl

/-- `ccsds_sdls_process_security` of a span of the frame buffer into its start -/
def frameSecurity (frameBuf : Bytes) (frame : TcFrame) : Sdls.Recipient Unit :=
  Sdls.processSecurity .operationalTcRx (tcAuthHeader frameBuf)
    (frameBuf.slice (frame.data + tcSegmentHdrLen) (frame.dataLen - tcSegmentHdrLen))

/-- The clear data moved behind the Segment Header, at the start of the frame buffer -/
def restoreSegment (frameBuf : Bytes) (segmentHeader : UInt8) (clearSegmentDataLen : Nat) : Bytes :=
  (frameBuf.overwrite tcSegmentHdrLen (frameBuf.slice 0 clearSegmentDataLen)).overwrite 0 [segmentHeader]

/-- The call of the callback for authenticated frames, if it is set -/
def callAuthenticatedRx (reception : Reception) : ProfileM Unit := do
  let s ← Fallible.read
  if s.rx.authenticatedRxFn then
    let code ← Fallible.call TcOp.authenticatedRx
    if code ≠ 0 then
      refuseWith (reception.refusal .sdls (.callback code))

/-- The SDLS block on a protected frame: the frame with its clear data at the start of the buffer -/
def unprotectFrame (reception : Reception) (ctx : Sdls.Ctx) : ProfileM TcFrame := do
  let s ← Fallible.read
  let frame := reception.frame
  let segmentHeader := s.rx.frameBuf.getD frame.data 0
  let ret ← Fallible.attempt ((frameSecurity s.rx.frameBuf frame).embed sdlsPart TcOp.psa
    { ctx, out := s.rx.frameBuf, outLen := 0 })
  match ret with
  | .error e => refuseWith (reception.refusal .sdls (.sdls e))
  | .ok () =>
    callAuthenticatedRx reception
    let clearSegmentDataLen := frame.dataLen - tcSegmentHdrLen - Sdls.protectedOverhead
    Fallible.modify fun s =>
      s.withFrameBuf (restoreSegment s.rx.frameBuf segmentHeader clearSegmentDataLen)
    pure { frame with data := 0, dataLen := frame.dataLen - Sdls.protectedOverhead }

/-- Whether a segment is on the configured clear MAP -/
def TcRx.OnClearMap (rx : TcRx) (segmentHeader : UInt8) : Prop :=
  rx.clearMapConfigured = true ∧ segmentHeader.toNat % 64 = rx.clearMapId

instance (rx : TcRx) (segmentHeader : UInt8) : Decidable (rx.OnClearMap segmentHeader) :=
  inferInstanceAs (Decidable (_ ∧ _))

/-- The SDLS block.  Type-C frames carry neither a Security Header nor a trailer. -/
def secureFrame (reception : Reception) : ProfileM TcFrame := do
  let s ← Fallible.read
  let frame := reception.frame
  match s.rx.sdls with
  | none => pure frame
  | some ctx =>
    if frame.controlCommand then pure frame
    else if frame.dataLen < tcSegmentHdrLen then refuseWith (reception.refusal .packet (.errno .einval))
    else if s.rx.OnClearMap (s.rx.frameBuf.getD frame.data 0) then
      if ¬ s.rx.clearMapEnabled then refuseWith (reception.refusal .sdls (.sdls .saState))
      else pure frame
    else unprotectFrame reception ctx

/-! ## Acceptance and delivery -/

/-- A step of the COP-1 state, which is stored before its error is returned -/
def stepVcState (step : TcVcState → TcVcState × Except Errno Unit) : ProfileM Unit := do
  let s ← Fallible.read
  let stepped := step s.rx.vcState
  Fallible.modify fun s => s.withVcState stepped.1
  match stepped.2 with
  | .error e => Fallible.fail (.errno e)
  | .ok () => pure ()

/-- The FARM-B counter counts every frame that reaches COP-1. -/
def TcVcState.countFrame (vcState : TcVcState) : TcVcState :=
  { vcState with farmBCounter := (vcState.farmBCounter + 1) &&& 0x03 }

/-- `profile->sdls->authenticated_rx_dispatching = true` -/
def startDispatching (ctx : Sdls.Ctx) : Sdls.Ctx :=
  { ctx with authenticatedRx := { ctx.authenticatedRx with dispatching := true } }

/-- A Type-C frame -/
def deliverControl (reception : Reception) (frame : TcFrame) : ProfileM Unit := do
  let s ← Fallible.read
  let ret ← Fallible.attempt (stepVcState (·.handleControlFrame (frame.octets s.rx.frameBuf)))
  match ret with
  | .error e => refuseWith (reception.refusal .control e)
  | .ok () =>
    Fallible.modify fun s =>
      s.record { stage := .control, tcFrameLen := reception.tcFrameLen, packetsDispatched := 0 }
        reception.cltuLen none

/-- The segment walk within its provenance -/
def deliverSegment (reception : Reception) (segment : TcSegment) : ProfileM Unit := do
  Fallible.modify fun s => s.withSdls startDispatching
  let ret ← Fallible.attempt (walkParts segment)
  Fallible.modify fun s => s.withSdls Sdls.Ctx.clearAuthenticatedRx
  match ret with
  | .error e => refuseWith (reception.refusal .router e)
  | .ok packetsDispatched =>
    Fallible.modify fun s =>
      s.record { stage := .dispatched, tcFrameLen := reception.tcFrameLen, packetsDispatched }
        reception.cltuLen none

/-- A Type-D frame: sequence control, then its segment -/
def deliverData (reception : Reception) (frame : TcFrame) : ProfileM Unit := do
  let ret ← Fallible.attempt (stepVcState (·.updateSequenceState frame))
  match ret with
  | .error e =>
    Fallible.modify fun s => s.withSdls Sdls.Ctx.clearAuthenticatedRx
    refuseWith (reception.refusal .tcFrame e)
  | .ok () =>
    let s ← Fallible.read
    match tcSegmentDecode (frame.octets s.rx.frameBuf) with
    | .error e =>
      Fallible.modify fun s => s.withSdls Sdls.Ctx.clearAuthenticatedRx
      refuseWith (reception.refusal .packet (.errno e))
    | .ok segment => deliverSegment reception segment

/-- The dispatch behind the SDLS block -/
def deliverFrame (reception : Reception) (frame : TcFrame) : ProfileM Unit := do
  Fallible.modify fun s => s.withVcState s.rx.vcState.countFrame
  if frame.controlCommand then deliverControl reception frame
  else deliverData reception frame

/-- `ccsds_profile_tc_cltu_dispatch` -/
def tcCltuDispatch (cltu : Bytes) : ProfileM Unit := do
  let s ← Fallible.read
  let received := receiveCltu cltu s.rx.frameBuf
  Fallible.modify fun s => s.withFrameBuf received.1
  match received.2 with
  | .error refusal => refuseWith refusal
  | .ok reception =>
    match admitFrame s.rx.acceptedVcid reception.frame with
    | .error e => refuseWith (reception.refusal .tcFrame (.errno e))
    | .ok () =>
      let frame ← secureFrame reception
      deliverFrame reception frame

end ZephyrCcsds.Tc
