import ZephyrCcsds.Callback.Lockstep
import ZephyrCcsds.Sdls.RoundTrip
import ZephyrCcsds.Tc.Security

/-! # Frame security is transparent

A protected frame that is accepted is delivered as the clear frame would be on a profile
without SDLS.  The SDLS block leaves the clear frame in the frame buffer; behind it the two
dispatches run in lockstep, on states that differ in what only the SDLS block uses.
-/

namespace ZephyrCcsds.Tc

open Callback

variable [Kconfig] [Sdls.Kconfig]

/-! ## What is behind the SDLS block -/

/-- The profile without the SDLS context and the frame buffer -/
def State.visible (s : State) : TcRx := { s.rx with sdls := none, frameBuf := [] }

def Alike (s c : State) : Prop := s.visible = c.visible

namespace Alike

variable {s c : State}

theorem router (alike : Alike s c) : s.rx.router = c.rx.router :=
  (congrArg TcRx.router alike :)

theorem mapApidRoute (alike : Alike s c) : s.rx.mapApidRoute = c.rx.mapApidRoute :=
  (congrArg TcRx.mapApidRoute alike :)

theorem vcState (alike : Alike s c) : s.rx.vcState = c.rx.vcState :=
  (congrArg TcRx.vcState alike :)

theorem reassembly (alike : Alike s c) : s.rx.reassembly = c.rx.reassembly :=
  (congrArg TcRx.reassembly alike :)

theorem withVcState (alike : Alike s c) (vcState : TcVcState) :
    Alike (s.withVcState vcState) (c.withVcState vcState) := by
  show { s.visible with vcState } = { c.visible with vcState }
  rw [show s.visible = c.visible from alike]

theorem withReassembly (alike : Alike s c) (reassembly : TcReassembly) :
    Alike (s.withReassembly reassembly) (c.withReassembly reassembly) := by
  show { s.visible with reassembly } = { c.visible with reassembly }
  rw [show s.visible = c.visible from alike]

end Alike

/-- The program makes the same handler calls on states that are alike. -/
abbrev InStep {α : Type} (p q : ProfileM α) : Prop :=
  p.Lockstep (fun op => op.isHandler = true) Alike q

theorem callHandler_inStep (handler : Handler) (packet : SpacePacket) :
    InStep (callHandler handler packet) (callHandler handler packet) :=
  Fallible.lockstep_bind (Fallible.lockstep_call rfl) fun _ => Fallible.lockstep_failIf

theorem routerDispatch_inStep (packet : SpacePacket) :
    InStep (routerDispatch packet) (routerDispatch packet) := by
  apply Fallible.lockstep_bind Fallible.lockstep_failIf
  intro _
  apply Fallible.lockstep_read
  intro s c alike
  rw [alike.router]
  cases c.rx.router.find packet.apid with
  | none => exact Fallible.lockstep_fail s c alike
  | some entry => exact callHandler_inStep _ _ s c alike

theorem dispatchTcPacket_inStep (mapId : Nat) (packet : SpacePacket) :
    InStep (dispatchTcPacket mapId packet) (dispatchTcPacket mapId packet) := by
  apply Fallible.lockstep_read
  intro s c alike
  rw [alike.mapApidRoute]
  by_cases routed : c.rx.mapApidRoute.active ∧ c.rx.mapApidRoute.mapId = mapId ∧
      c.rx.mapApidRoute.apid = packet.apid
  · simp only [if_pos routed]
    exact callHandler_inStep _ _ s c alike
  · simp only [if_neg routed]
    exact routerDispatch_inStep _ s c alike

theorem dispatchEncodedPacket_inStep (mapId : Nat) (encoded : Bytes) :
    InStep (dispatchEncodedPacket mapId encoded) (dispatchEncodedPacket mapId encoded) := by
  unfold dispatchEncodedPacket
  cases spacePacketDecode encoded with
  | error e => exact Fallible.lockstep_fail
  | ok packet => exact dispatchTcPacket_inStep mapId packet

theorem reassemble_inStep (step : TcReassembly → TcReassembly × Except Errno Unit) :
    InStep (reassemble step) (reassemble step) := by
  apply Fallible.lockstep_read
  intro s c alike
  rw [alike.reassembly]
  refine Fallible.lockstep_bind (Fallible.lockstep_modify fun s c alike => alike.withReassembly _) ?_ s c alike
  intro _
  cases (step c.rx.reassembly).2 with
  | error e => exact Fallible.lockstep_fail
  | ok _ => exact Fallible.lockstep_pure

theorem dispatchTcSegmentPart_inStep (part : TcSegmentPart) :
    InStep (dispatchTcSegmentPart part) (dispatchTcSegmentPart part) := by
  unfold dispatchTcSegmentPart
  by_cases whole : (part.startsPacket && part.endsPacket) = true
  · simp only [if_pos whole]
    apply Fallible.lockstep_read
    intro s c alike
    rw [alike.reassembly]
    refine Fallible.lockstep_bind Fallible.lockstep_failIf (fun _ => ?_) s c alike
    exact Fallible.lockstep_bind (dispatchEncodedPacket_inStep _ _) fun _ => Fallible.lockstep_pure
  · simp only [if_neg whole]
    apply Fallible.lockstep_bind (reassemble_inStep _)
    intro _
    apply Fallible.lockstep_bind (reassemble_inStep _)
    intro _
    by_cases last : part.endsPacket = true
    · simp only [last, not_true_eq_false, if_false]
      apply Fallible.lockstep_read
      intro s c alike
      rw [alike.reassembly]
      refine Fallible.lockstep_bind (Fallible.lockstep_attempt (dispatchEncodedPacket_inStep _ _)) ?_ s c alike
      intro ret
      apply Fallible.lockstep_bind (Fallible.lockstep_modify fun s c alike => alike.withReassembly _)
      intro _
      cases ret with
      | error e => exact Fallible.lockstep_fail
      | ok _ => exact Fallible.lockstep_pure
    · simp only [last]
      exact Fallible.lockstep_pure

theorem walkPackets_inStep (mapId turns : Nat) (data : Bytes) :
    InStep (walkPackets mapId turns data) (walkPackets mapId turns data) := by
  induction turns generalizing data with
  | zero => exact Fallible.lockstep_pure
  | succ turns ih =>
    unfold walkPackets
    by_cases empty : data.length = 0
    · simp only [if_pos empty]
      exact Fallible.lockstep_pure
    · by_cases headless : data.length < spacePacketPrimaryHdrLen
      · simp only [if_neg empty, if_pos headless]
        exact Fallible.lockstep_fail
      · by_cases short : data.length < encodedPacketLen data
        · simp only [if_neg empty, if_neg headless, if_pos short]
          exact Fallible.lockstep_fail
        · simp only [if_neg empty, if_neg headless, if_neg short]
          apply Fallible.lockstep_bind (dispatchTcSegmentPart_inStep _)
          intro first
          exact Fallible.lockstep_bind (ih _) fun rest => Fallible.lockstep_pure

theorem walkParts_inStep (segment : TcSegment) : InStep (walkParts segment) (walkParts segment) := by
  unfold walkParts
  by_cases empty : segment.data.length = 0
  · simp only [if_pos empty]
    exact Fallible.lockstep_fail
  · simp only [if_neg empty]
    cases segment.boundary with
    | continuation => exact dispatchTcSegmentPart_inStep _
    | last => exact dispatchTcSegmentPart_inStep _
    | unsegmented => exact walkPackets_inStep _ _ _
    | first =>
      by_cases headless : segment.data.length < spacePacketPrimaryHdrLen
      · simp only [if_pos headless]
        exact Fallible.lockstep_fail
      · by_cases whole : encodedPacketLen segment.data ≤ segment.data.length
        · simp only [if_neg headless, if_pos whole]
          exact Fallible.lockstep_fail
        · simp only [if_neg headless, if_neg whole]
          exact dispatchTcSegmentPart_inStep _

/-! ## Delivery -/

/-- Two frames of one service whose data is the same -/
structure SameService (frame frame' : TcFrame) : Prop where
  virtualChannelId : frame.virtualChannelId = frame'.virtualChannelId
  bypass : frame.bypass = frame'.bypass
  controlCommand : frame.controlCommand = frame'.controlCommand
  frameSequenceNumber : frame.frameSequenceNumber = frame'.frameSequenceNumber

omit [Kconfig] [Sdls.Kconfig] in
theorem SameService.trans {frame frame' frame'' : TcFrame} (first : SameService frame frame')
    (second : SameService frame' frame'') : SameService frame frame'' :=
  ⟨first.virtualChannelId.trans second.virtualChannelId, first.bypass.trans second.bypass,
    first.controlCommand.trans second.controlCommand,
    first.frameSequenceNumber.trans second.frameSequenceNumber⟩

omit [Sdls.Kconfig] in
theorem SameService.updateSequenceState {frame frame' : TcFrame} (same : SameService frame frame')
    (vcState : TcVcState) : vcState.updateSequenceState frame = vcState.updateSequenceState frame' := by
  simp only [TcVcState.updateSequenceState, same.bypass, same.controlCommand, same.frameSequenceNumber]

theorem refuseWith_inStep {α : Type} {refusal refusal' : Refusal} (same : refusal.failure = refusal'.failure) :
    InStep (refuseWith refusal : ProfileM α) (refuseWith refusal') := by
  refine Fallible.lockstep_bind (Fallible.lockstep_modify fun s c alike => alike) fun _ => ?_
  rw [same]
  exact Fallible.lockstep_fail

theorem deliverSegment_inStep (reception reception' : Reception) (segment : TcSegment) :
    InStep (deliverSegment reception segment) (deliverSegment reception' segment) := by
  refine Fallible.lockstep_bind (Fallible.lockstep_modify fun _ _ alike => alike) fun _ => ?_
  apply Fallible.lockstep_bind (Fallible.lockstep_attempt (walkParts_inStep segment))
  intro ret
  refine Fallible.lockstep_bind (Fallible.lockstep_modify fun s c alike => alike) fun _ => ?_
  cases ret with
  | error e => exact refuseWith_inStep rfl
  | ok _ => exact Fallible.lockstep_modify fun s c alike => alike

/-- The clearing of the provenance before a refusal -/
theorem refuseCleared_inStep (reception reception' : Reception) (stage : TcCltuStage) (failure : Failure) :
    InStep (Fallible.modify (·.withSdls Sdls.Ctx.clearAuthenticatedRx) >>= fun _ =>
        refuseWith (reception.refusal stage failure) : ProfileM Unit)
      (Fallible.modify (·.withSdls Sdls.Ctx.clearAuthenticatedRx) >>= fun _ =>
        refuseWith (reception'.refusal stage failure)) :=
  Fallible.lockstep_bind (Fallible.lockstep_modify fun _ _ alike => alike) fun _ => refuseWith_inStep rfl

theorem stepVcState_run (step : TcVcState → TcVcState × Except Errno Unit) (s : State) :
    (stepVcState step).run s =
      .done ((step s.rx.vcState).2.mapError .errno) (s.withVcState (step s.rx.vcState).1) := by
  unfold stepVcState Fallible.run
  dsimp only [Fallible.read, Fallible.modify, Bind.bind, Fallible.bind, Fallible.ofProg, Prog.read, Prog.modify,
    Fallible.run, Act.bind, pure]
  cases (step s.rx.vcState).2 with
  | error e => rfl
  | ok _ => rfl

theorem deliverData_inStep {reception reception' : Reception} {frame frame' : TcFrame} {s c : State}
    (same : SameService frame frame') (alike : Alike s c)
    (octets : frame.octets s.rx.frameBuf = frame'.octets c.rx.frameBuf) :
    ((deliverData reception frame).run s).Lockstep (fun op => op.isHandler = true) Alike
      ((deliverData reception' frame').run c) := by
  -- Nothing is called up to the segment, so both sides can be evaluated that far.
  rw [deliverData, deliverData, Fallible.run_attempt_bind (stepVcState_run _ _),
    Fallible.run_attempt_bind (stepVcState_run _ _), same.updateSequenceState, alike.vcState]
  obtain ⟨vcState, verdict⟩ := c.rx.vcState.updateSequenceState frame'
  have stepped := alike.withVcState vcState
  cases verdict with
  | error e => exact refuseCleared_inStep reception reception' .tcFrame (.errno e) _ _ stepped
  | ok _ =>
    dsimp only [Except.mapError, Fallible.run, Fallible.read, Bind.bind, Fallible.bind, Fallible.ofProg, Prog.read,
      Act.bind, pure]
    have unmoved : (s.withVcState vcState).rx.frameBuf = s.rx.frameBuf := rfl
    have unmoved' : (c.withVcState vcState).rx.frameBuf = c.rx.frameBuf := rfl
    rw [unmoved, unmoved', octets]
    cases tcSegmentDecode (frame'.octets c.rx.frameBuf) with
    | error e => exact refuseCleared_inStep reception reception' .packet (.errno e) _ _ stepped
    | ok segment => exact deliverSegment_inStep reception reception' segment _ _ stepped

theorem deliverFrame_inStep {reception reception' : Reception} {frame frame' : TcFrame} {s c : State}
    (same : SameService frame frame') (typeD : frame.controlCommand = false) (alike : Alike s c)
    (octets : frame.octets s.rx.frameBuf = frame'.octets c.rx.frameBuf) :
    ((deliverFrame reception frame).run s).Lockstep (fun op => op.isHandler = true) Alike
      ((deliverFrame reception' frame').run c) := by
  have typeD' : frame'.controlCommand = false := same.controlCommand.symm.trans typeD
  simp only [deliverFrame, typeD, typeD', Bool.false_eq_true, if_false]
  have counted := alike.withVcState c.rx.vcState.countFrame
  show ((deliverData reception frame).run (s.withVcState s.rx.vcState.countFrame)).Lockstep _ _
    ((deliverData reception' frame').run (c.withVcState c.rx.vcState.countFrame))
  rw [alike.vcState]
  exact deliverData_inStep same counted octets

/-! ## The two dispatches -/

omit [Kconfig] in
theorem Item.ofPsa_result {ctx : Sdls.Ctx} {op : Sdls.PsaOp} {result result' : Sdls.PsaRes op}
    (same : Item.ofPsa ⟨ctx, op, result⟩ = Item.ofPsa ⟨ctx, op, result'⟩) : result = result' := by
  cases same
  rfl

/-- `ccsds_sdls_process_security` accepts the frame with the protected data `protectedData`, whose clear data
is `clear`. -/
def SecurityYields (ctx : Sdls.Ctx) (frameBuf : Bytes) (frame : TcFrame) (protectedData : Bytes) (t : List Item)
    (clear : Bytes) : Prop :=
  ∃ u v st', t = u.map Item.ofPsa ++ v ∧
    (frameSecurity frameBuf frame).run.Runs Sdls.anyPsa { ctx, out := frameBuf, outLen := 0 } u (.ok ()) st' ∧
    Sdls.ClearData ctx protectedData u clear

omit [Kconfig] in
theorem SecurityReturnsZero.yields {ctx : Sdls.Ctx} {frameBuf : Bytes} {frame : TcFrame} {protectedData : Bytes}
    {t : List Item} {clear : Bytes} (zero : SecurityReturnsZero ctx frameBuf frame t)
    (same : ∀ u, Sdls.ClearData ctx protectedData u clear) :
    SecurityYields ctx frameBuf frame protectedData t clear := by
  obtain ⟨u, v, st', joined, run⟩ := zero
  exact ⟨u, v, st', joined, run, same u⟩

omit [Kconfig] [Sdls.Kconfig] in
theorem restoreSegment_octets {frameBuf clear : Bytes} {header : UInt8} (room : clear.length < frameBuf.length) :
    (restoreSegment (frameBuf.overwrite 0 clear) header clear.length).slice 0 (clear.length + 1) =
      header :: clear := by
  have start : 1 ≤ (frameBuf.overwrite 0 clear).length := by
    rw [Bytes.overwrite_length (by omega)]
    omega
  rw [restoreSegment, Bytes.slice_overwrite (Nat.zero_le _)]
  generalize frameBuf.overwrite 0 clear = buf at start
  cases buf with
  | nil => simp at start
  | cons first rest => simp [Bytes.overwrite, Bytes.slice, tcSegmentHdrLen]

omit [Kconfig] [Sdls.Kconfig] in
theorem octets_cons {frameBuf protectedData : Bytes} {frame : TcFrame} {header : UInt8}
    (carried : frame.octets frameBuf = header :: protectedData) :
    frameBuf.getD frame.data 0 = header ∧
      frameBuf.slice (frame.data + tcSegmentHdrLen) (frame.dataLen - tcSegmentHdrLen) = protectedData := by
  unfold TcFrame.octets Bytes.slice at carried
  cases behind : frameBuf.drop frame.data with
  | nil => simp [behind] at carried
  | cons first rest =>
    cases len : frame.dataLen with
    | zero => simp [len] at carried
    | succ n =>
      rw [behind, len, List.take_succ_cons, List.cons.injEq] at carried
      obtain ⟨rfl, rfl⟩ := carried
      constructor
      · rw [List.getD_eq_getElem?_getD, ← List.head?_drop, behind]
        rfl
      · rw [Bytes.slice, ← List.drop_drop, behind]
        rfl

theorem unprotectFrame_restores {touches : TcOp → State → State → Prop} {reception : Reception} {ctx : Sdls.Ctx}
    {s : State} {header : UInt8} {protectedData : Bytes}
    (carried : reception.frame.octets s.rx.frameBuf = header :: protectedData)
    (inside : reception.frame.data + reception.frame.dataLen ≤ s.rx.frameBuf.length)
    (noCallback : s.rx.authenticatedRxFn = false) :
    (unprotectFrame reception ctx).wp (peers touches)
      (fun t frame s₁ => ∃ u st', t = u.map Item.ofPsa ∧
        (frameSecurity s.rx.frameBuf reception.frame).run.Runs Sdls.anyPsa
          { ctx, out := s.rx.frameBuf, outLen := 0 } u (.ok ()) st' ∧
        SameService frame reception.frame ∧ Alike s₁ s ∧
        ∀ clear, Sdls.ClearData ctx protectedData u clear → frame.octets s₁.rx.frameBuf = header :: clear)
      (fun t _ _ => ∃ u e st', t = u.map Item.ofPsa ∧
        (frameSecurity s.rx.frameBuf reception.frame).run.Runs Sdls.anyPsa
          { ctx, out := s.rx.frameBuf, outLen := 0 } u (.error e) st') s := by
  obtain ⟨first, rest⟩ := octets_cons carried
  simp only [unprotectFrame, Fallible.wp_bind, Fallible.wp_read, Fallible.wp_attempt, wp_embedSdls,
    List.nil_append]
  rw [Fallible.wp_iff_runs]
  constructor
  · intro u _ st' run
    simp only [callAuthenticatedRx, Fallible.wp_bind, Fallible.wp_read, Fallible.wp_modify, Fallible.wp_pure,
      List.append_nil, List.nil_append]
    rw [show (sdlsPart.store st' s).rx.authenticatedRxFn = false from noCallback]
    simp only [Bool.false_eq_true, if_false, Fallible.wp_pure]
    refine ⟨u, st', List.append_nil _, run, ⟨rfl, rfl, rfl, rfl⟩, rfl, fun clear yields => ?_⟩
    obtain ⟨length, output⟩ := Fallible.ok_of_runs (Sdls.processSecurity_output _ _ _ _) run clear
      (by rw [rest]; exact yields)
    rw [rest] at length
    -- The clear data is shorter than the frame, so it leaves room for the Segment Header.
    have whole : reception.frame.dataLen = protectedData.length + 1 := by
      rw [← List.length_cons, ← carried, TcFrame.octets, Bytes.slice_length_of_le inside]
    show (restoreSegment st'.out _ _).slice 0 _ = _
    rw [output, first, whole, ← length,
      show clear.length + Sdls.protectedOverhead + 1 - tcSegmentHdrLen - Sdls.protectedOverhead = clear.length by
        unfold tcSegmentHdrLen; omega,
      show clear.length + Sdls.protectedOverhead + 1 - Sdls.protectedOverhead = clear.length + 1 by omega]
    exact restoreSegment_octets (show clear.length < s.rx.frameBuf.length by omega)
  · intro u e st' run
    simp only [wp_refuseWith, List.append_nil]
    exact ⟨u, e, st', rfl, run⟩

theorem wp_secureFrame_protected {E : Environment TcOp TcRes State Item} {reception : Reception} {ctx : Sdls.Ctx}
    {s : State} {Q : List Item → TcFrame → State → Prop} {F : List Item → Failure → State → Prop}
    (attached : s.rx.sdls = some ctx) (typeD : reception.frame.controlCommand = false)
    (whole : ¬ reception.frame.dataLen < tcSegmentHdrLen)
    (secured : ¬ s.rx.OnClearMap (s.rx.frameBuf.getD reception.frame.data 0)) :
    (secureFrame reception).wp E Q F s ↔ (unprotectFrame reception ctx).wp E Q F s := by
  simp only [secureFrame, Fallible.wp_bind, Fallible.wp_read, List.nil_append, attached, typeD,
    Bool.false_eq_true, if_false, if_neg whole, if_neg secured]

/-- Behind an accepted frame the run is one of the delivery of its clear frame. -/
def DeliversClear (touches : TcOp → State → State → Prop) (ctx : Sdls.Ctx) (frameBuf : Bytes)
    (reception : Reception) (header : UInt8) (protectedData : Bytes) (s : State) (t : List Item)
    (result : Except Failure Unit) (s' : State) : Prop :=
  ∀ clear, SecurityYields ctx frameBuf reception.frame protectedData t clear →
    ∃ (frame : TcFrame) (u : List Sdls.Item) (v : List Item) (s₁ : State),
      t = u.map Item.ofPsa ++ v ∧ SameService frame reception.frame ∧ Alike s₁ s ∧
      frame.octets s₁.rx.frameBuf = header :: clear ∧
      (deliverFrame reception frame).run.Runs (peers touches) s₁ v result s'

theorem tcCltuDispatch_protected {touches : TcOp → State → State → Prop} {s : State} {ctx : Sdls.Ctx}
    {cltu frameBuf : Bytes} {reception : Reception} {header : UInt8} {protectedData : Bytes}
    (attached : s.rx.sdls = some ctx) (noCallback : s.rx.authenticatedRxFn = false)
    (carries : receiveCltu cltu s.rx.frameBuf = (frameBuf, .ok reception))
    (carried : reception.frame.octets frameBuf = header :: protectedData)
    (typeD : reception.frame.controlCommand = false) (secured : ¬ s.rx.OnClearMap header)
    (admitted : admitFrame s.rx.acceptedVcid reception.frame = .ok ()) :
    (tcCltuDispatch cltu).wp (peers touches)
      (fun t a s' => DeliversClear touches ctx frameBuf reception header protectedData s t (.ok a) s')
      (fun t e s' => DeliversClear touches ctx frameBuf reception header protectedData s t (.error e) s') s := by
  have inside := receiveCltu_fits carries
  have whole : ¬ reception.frame.dataLen < tcSegmentHdrLen := by
    have length := congrArg List.length carried
    rw [TcFrame.octets, Bytes.slice_length_of_le inside, List.length_cons] at length
    unfold tcSegmentHdrLen
    omega
  -- The PSA calls of the run are those of the accepted run.
  have same : ∀ {u : List Sdls.Item} {v : List Item} {result : Except Sdls.SdlsError Unit} {st' : Sdls.State}
      {clear : Bytes}, (frameSecurity frameBuf reception.frame).run.Runs Sdls.anyPsa
        { ctx, out := frameBuf, outLen := 0 } u result st' →
      SecurityYields ctx frameBuf reception.frame protectedData (u.map Item.ofPsa ++ v) clear →
        result = .ok () ∧ Sdls.ClearData ctx protectedData u clear := by
    rintro u v result st' clear run ⟨u', v', st'', joined, run', yields⟩
    have visible : ∀ (s : Sdls.State) op (r r' : Sdls.PsaRes op),
        Item.ofPsa ⟨s.ctx, op, r⟩ = Item.ofPsa ⟨s.ctx, op, r'⟩ → r = r' := fun _ _ _ _ => Item.ofPsa_result
    obtain ⟨rfl, verdict, -⟩ := Act.Runs.determined visible run run' joined
    exact ⟨verdict, yields⟩
  simp only [tcCltuDispatch, Fallible.wp_bind, Fallible.wp_read, Fallible.wp_modify, carries,
    List.nil_append, admitted]
  have protectedMap : ¬ (s.withFrameBuf frameBuf).rx.OnClearMap
      ((s.withFrameBuf frameBuf).rx.frameBuf.getD reception.frame.data 0) := by
    rw [show (s.withFrameBuf frameBuf).rx.frameBuf = frameBuf from rfl, (octets_cons carried).1]
    exact secured
  rw [@wp_secureFrame_protected _ _ _ _ ctx (s.withFrameBuf frameBuf) _ _ attached typeD whole protectedMap]
  apply Fallible.wp_mono (@unprotectFrame_restores _ _ touches reception ctx (s.withFrameBuf frameBuf) _ _
    carried inside noCallback)
  · rintro t frame s₁ ⟨u, st', rfl, run, service, alike, octets⟩
    have delivered : ∀ (v : List Item) (result : Except Failure Unit) (s' : State),
        (deliverFrame reception frame).run.Runs (peers touches) s₁ v result s' →
        DeliversClear touches ctx frameBuf reception header protectedData s (u.map Item.ofPsa ++ v) result s' :=
      fun v result s' delivery clear yields =>
        ⟨frame, u, v, s₁, rfl, service, alike, octets clear (same run yields).2, delivery⟩
    rw [Fallible.wp_iff_runs]
    exact ⟨fun v _ s' delivery => delivered v _ s' delivery, fun v _ s' delivery => delivered v _ s' delivery⟩
  · rintro t e s₁ ⟨u, e', st', rfl, run⟩ clear yields
    rw [← List.append_nil (u.map Item.ofPsa)] at yields
    cases (same run yields).1

/-- A clear frame on a profile without SDLS goes straight to its delivery. -/
theorem tcCltuDispatch_clear {E : Environment TcOp TcRes State Item} {s s' : State} {cltu frameBuf : Bytes}
    {reception : Reception} {t : List Item} {result : Except Failure Unit} (detached : s.rx.sdls = none)
    (carries : receiveCltu cltu s.rx.frameBuf = (frameBuf, .ok reception))
    (admitted : admitFrame s.rx.acceptedVcid reception.frame = .ok ())
    (run : (tcCltuDispatch cltu).run.Runs E s t result s') :
    (deliverFrame reception reception.frame).run.Runs E (s.withFrameBuf frameBuf) t result s' := by
  have detached : (s.withFrameBuf frameBuf).rx.sdls = none := detached
  have post : (tcCltuDispatch cltu).wp E
      (fun t a s' => (deliverFrame reception reception.frame).run.Runs E (s.withFrameBuf frameBuf) t (.ok a) s')
      (fun t e s' => (deliverFrame reception reception.frame).run.Runs E (s.withFrameBuf frameBuf) t (.error e) s')
      s := by
    simp only [tcCltuDispatch, secureFrame, Fallible.wp_bind, Fallible.wp_read, Fallible.wp_modify, carries,
      admitted, detached, Fallible.wp_pure, List.nil_append]
    exact Fallible.wp_iff_runs.mpr ⟨fun _ _ _ run => run, fun _ _ _ run => run⟩
  exact Fallible.of_runs post run

theorem tcCltuDispatch_inadmissible {E : Environment TcOp TcRes State Item} {s s' : State} {cltu frameBuf : Bytes}
    {reception : Reception} {e : Errno} {t : List Item} {result : Except Failure Unit}
    (carries : receiveCltu cltu s.rx.frameBuf = (frameBuf, .ok reception))
    (refused : admitFrame s.rx.acceptedVcid reception.frame = .error e)
    (run : (tcCltuDispatch cltu).run.Runs E s t result s') :
    t = [] ∧ result = .error (.errno e) ∧ Alike s' s := by
  have post : (tcCltuDispatch cltu).wp E
      (fun t a s' => t = [] ∧ (.ok a : Except Failure Unit) = .error (.errno e) ∧ Alike s' s)
      (fun t failure s' => t = [] ∧ (.error failure : Except Failure Unit) = .error (.errno e) ∧ Alike s' s) s := by
    simp only [tcCltuDispatch, Fallible.wp_bind, Fallible.wp_read, Fallible.wp_modify, carries,
      refused, wp_refuseWith, List.nil_append]
    exact ⟨trivial, rfl, rfl⟩
  exact @Fallible.of_runs _ _ _ _ _ _ _ _ _ (fun t result s' => t = [] ∧ result = .error (.errno e) ∧ Alike s' s)
    post _ _ _ run

/-! ## Handlers -/

def handlerCalls (t : List Item) : List ((op : TcOp) × TcRes op) :=
  (t.map Item.call).filter fun call => call.1.isHandler

omit [Kconfig] in
theorem handlerCalls_ofPsa (u : List Sdls.Item) (v : List Item) :
    handlerCalls (u.map Item.ofPsa ++ v) = handlerCalls v := by
  unfold handlerCalls
  rw [List.map_append, List.filter_append, List.filter_eq_nil_iff.mpr, List.nil_append]
  intro call listed
  obtain ⟨item, found, rfl⟩ := List.mem_map.mp listed
  have silent := ofPsa_not_handler u item found
  show ¬ item.op.isHandler = true
  rw [silent]
  exact Bool.false_ne_true

/-- The callbacks change the profile by functions of what they see of it. -/
def moves (effect : TcOp → TcRx → TcRx) : TcOp → State → State → Prop :=
  fun op s s' => s'.visible = effect op s.visible

theorem peers_moves (effect : TcOp → TcRx → TcRx) :
    Peers (fun op => op.isHandler = true) (peers (moves effect)) (peers (moves effect)) Alike
      handlerCalls handlerCalls where
  nil := rfl
  nil' := rfl
  append t u := by simp only [handlerCalls, List.map_append, List.filter_append]
  append' t u := by simp only [handlerCalls, List.map_append, List.filter_append]
  shows := by
    rintro s op r t s₁ handler ⟨rfl, -⟩
    simp [handlerCalls, Item.call, handler]
  shows' := by
    rintro s op r t s₁ handler ⟨rfl, -⟩
    simp [handlerCalls, Item.call, handler]
  keeps := by
    rintro s c op r r' t t' s₁ c₁ handler alike ⟨-, moved⟩ ⟨-, moved'⟩
    cases op with
    | psa _ => cases handler
    | authenticatedRx => cases handler
    | handler handler packet =>
      have same : s.visible = c.visible := alike
      exact moved.trans ((congrArg _ same).trans moved'.symm)

def State.withoutSdls (s : State) : State := s.withRx fun rx => { rx with sdls := none }

theorem protected_frame_transparent {effect : TcOp → TcRx → TcRx}
    {answer : List ((op : TcOp) × TcRes op) → (op : TcOp) → TcRes op}
    {s s' c' : State} {ctx : Sdls.Ctx} {protectedCltu clearCltu protectedBuf clearBuf : Bytes}
    {protectedReception clearReception : Reception} {header : UInt8} {protectedData clear : Bytes}
    {t t' : List Item} {result result' : Except Failure Unit}
    (attached : s.rx.sdls = some ctx) (noCallback : s.rx.authenticatedRxFn = false)
    (protectedCarries : receiveCltu protectedCltu s.rx.frameBuf = (protectedBuf, .ok protectedReception))
    (clearCarries : receiveCltu clearCltu s.rx.frameBuf = (clearBuf, .ok clearReception))
    (service : SameService protectedReception.frame clearReception.frame)
    (typeD : protectedReception.frame.controlCommand = false)
    (protectedForm : protectedReception.frame.octets protectedBuf = header :: protectedData)
    (clearForm : clearReception.frame.octets clearBuf = header :: clear)
    (secured : ¬ s.rx.OnClearMap header)
    (protectedRun : (tcCltuDispatch protectedCltu).run.Runs (peers (moves effect)) s t result s')
    (clearRun : (tcCltuDispatch clearCltu).run.Runs (peers (moves effect)) s.withoutSdls t' result' c')
    (accepted : SecurityYields ctx protectedBuf protectedReception.frame protectedData t clear)
    (answered : Answered answer [] (handlerCalls t)) (answered' : Answered answer [] (handlerCalls t')) :
    result = result' ∧ s'.rx.vcState = c'.rx.vcState ∧ s'.rx.reassembly = c'.rx.reassembly ∧
      handlerCalls t = handlerCalls t' := by
  have sameAdmission : admitFrame s.rx.acceptedVcid clearReception.frame =
      admitFrame s.rx.acceptedVcid protectedReception.frame := by
    simp only [admitFrame, service.virtualChannelId, service.bypass, service.controlCommand]
  cases admission : admitFrame s.rx.acceptedVcid protectedReception.frame with
  | error e =>
    have admission' := sameAdmission.trans admission
    obtain ⟨rfl, rfl, alike⟩ := tcCltuDispatch_inadmissible protectedCarries admission protectedRun
    obtain ⟨rfl, rfl, alike'⟩ := @tcCltuDispatch_inadmissible _ _ _ s.withoutSdls _ _ _ _ _ _ _
      clearCarries admission' clearRun
    exact ⟨rfl, alike.vcState.trans alike'.vcState.symm, alike.reassembly.trans alike'.reassembly.symm, rfl⟩
  | ok _ =>
    have delivered := Fallible.of_runs (@tcCltuDispatch_protected _ _ (moves effect) _ _ _ _ _ _ _ attached
      noCallback protectedCarries protectedForm typeD secured admission) protectedRun
    have delivered' := @tcCltuDispatch_clear _ _ _ s.withoutSdls _ _ _ _ _ _ rfl clearCarries
      (sameAdmission.trans admission) clearRun
    obtain ⟨frame, u, v, s₁, rfl, sameFrame, alike, octets, delivered⟩ := delivered clear accepted
    rw [handlerCalls_ofPsa] at answered ⊢
    have start : Alike s₁ (s.withoutSdls.withFrameBuf clearBuf) := alike
    have inStep := @deliverFrame_inStep _ _ protectedReception clearReception _ _ _ _ (sameFrame.trans service)
      (sameFrame.controlCommand.trans typeD) start (octets.trans clearForm.symm)
    obtain ⟨calls, same, related⟩ := inStep.same_runs (peers_moves effect) delivered delivered' answered answered'
    exact ⟨same, related.vcState, related.reassembly, calls⟩

end ZephyrCcsds.Tc

namespace ZephyrCcsds.Tc

open Callback

section Sample

attribute [local instance] defaultKconfig Sdls.defaultKconfig

/-- The packet of the protected sample frame -/
def samplePacket : Bytes := [0x10, 0x05, 0xc0, 0x00, 0x00, 0x00, 0xab]

def sampleSpacePacket : SpacePacket where
  version := 0
  type := 1
  secondaryHeader := false
  apid := 5
  sequenceFlags := 3
  sequenceCount := 0
  payload := [0xab]

/-- The same frame without protection -/
def clearCltu : Bytes :=
  [0xeb, 0x90, 0x20, 0x7b, 0x00, 0x0c, 0x00, 0xc0, 0x10, 0xae, 0x05, 0xc0, 0x00, 0x00, 0x00, 0xab, 0x55, 0x36,
    0xc5, 0xc5, 0xc5, 0xc5, 0xc5, 0xc5, 0xc5, 0x79]

def clearReception : Reception where
  cltuLen := 26
  tcFrameLen := 14
  frame := {
    spacecraftId := 123, virtualChannelId := 0, bypass := true, controlCommand := false
    frameSequenceNumber := 0, data := 5, dataLen := 8 }

def clearFrameBuf : Bytes := (receiveCltu clearCltu (List.replicate maxFrameLen 0)).1

theorem clearCltu_received (sdls : Option Sdls.Ctx) (authenticatedRxFn : Bool) :
    receiveCltu clearCltu (sampleProfile sdls authenticatedRxFn).rx.frameBuf =
      (clearFrameBuf, .ok clearReception) := by
  have decoded : (receiveCltu clearCltu (List.replicate maxFrameLen 0)).2 = .ok clearReception := by
    decide +kernel
  rw [sampleProfile_frameBuf, ← decoded]
  exact Prod.mk.eta.symm

/-- Handlers that return `0` -/
def zeroAnswer : (op : TcOp) → TcRes op
  | .psa (.getKeyAttributes _) => (.failure, Sdls.gcmKey .both)
  | .psa (.aeadEncrypt ..) => (.failure, [])
  | .psa (.aeadDecrypt ..) => (.failure, [])
  | .psa (.importKey ..) => (.failure, 0)
  | .psa (.destroyKey _) => .failure
  | .psa .selfTest => (0, 0)
  | .authenticatedRx => 0
  | .handler .. => 0

theorem protected_frame_transparent_sample : ∃ t t' result result' s' c',
    (tcCltuDispatch protectedCltu).run.Runs (peers (moves fun _ rx => rx))
      (sampleProfile (some sampleSdls) false) t result s' ∧
    (tcCltuDispatch clearCltu).run.Runs (peers (moves fun _ rx => rx))
      (sampleProfile (some sampleSdls) false).withoutSdls t' result' c' ∧
    result = result' ∧ s'.rx.vcState = c'.rx.vcState ∧ s'.rx.reassembly = c'.rx.reassembly ∧
    handlerCalls t = handlerCalls t' ∧ handlerCalls t' = [⟨.handler 1 sampleSpacePacket, (0 : Int)⟩] := by
  have dispatched : (((tcCltuDispatch protectedCltu).run (sampleProfile (some sampleSdls) false)).record
      observeCall [⟨.psa protectedVerification, (.success, [])⟩, ⟨.handler 1 sampleSpacePacket, (0 : Int)⟩]).any
      (fun played => decide (played.2.1 = .ok ())) = true := by
    decide +kernel
  have dispatched' : (((tcCltuDispatch clearCltu).run (sampleProfile (some sampleSdls) false).withoutSdls).record
      observeCall [⟨.handler 1 sampleSpacePacket, (0 : Int)⟩]).isSome = true := by
    decide +kernel
  obtain ⟨⟨t, result, s'⟩, played, accepted⟩ := (Option.any_eq_true _ _).mp dispatched
  obtain rfl : result = .ok () := of_decide_eq_true accepted
  obtain ⟨⟨t', result', c'⟩, played'⟩ := Option.isSome_iff_exists.mp dispatched'
  obtain ⟨run, calls⟩ := @runs_of_script _ _ (moves fun _ rx => rx) _ _ _ _ _ _ _ (fun _ _ => rfl) played
  obtain ⟨run', calls'⟩ := @runs_of_script _ _ (moves fun _ rx => rx) _ _ _ _ _ _ _ (fun _ _ => rfl) played'
  have gate := @tcCltuDispatch_gate _ _ (moves fun _ rx => rx) _ sampleSdls _ _ _ sampleProfile_sdls
    (protectedCltu_received (some sampleSdls) false) rfl (protectedReception_guarded (some sampleSdls) false)
  have zero : SecurityReturnsZero sampleSdls protectedFrameBuf protectedReception.frame t :=
    (Fallible.ok_of_runs gate run).2
  have protectedForm : protectedReception.frame.octets protectedFrameBuf =
      0xc0 :: (protectedFrameBuf.slice 6 37) := by
    decide +kernel
  have yields : SecurityYields sampleSdls protectedFrameBuf protectedReception.frame
      (protectedFrameBuf.slice 6 37) t samplePacket := by
    apply zero.yields
    intro u
    refine ⟨Sdls.receiveSlot, ?_, fun _ => ?_, fun gcm => absurd gcm ?_⟩
    all_goals decide +kernel
  have called : handlerCalls t = [⟨.handler 1 sampleSpacePacket, (0 : Int)⟩] := by
    rw [handlerCalls, calls]
    rfl
  have called' : handlerCalls t' = [⟨.handler 1 sampleSpacePacket, (0 : Int)⟩] := by
    rw [handlerCalls, calls']
    rfl
  have same := @protected_frame_transparent _ _ (fun _ rx => rx) (fun _ => zeroAnswer) _ _ _ _ _ _ _ _ _ _ _ _ _ _ _ _ _
    sampleProfile_sdls sampleProfile_authenticatedRxFn (protectedCltu_received (some sampleSdls) false)
    (clearCltu_received (some sampleSdls) false) ⟨rfl, rfl, rfl, rfl⟩ rfl protectedForm
    (by decide +kernel) sampleProfile_onClearMap run run' yields (by rw [called]; exact ⟨rfl, trivial⟩)
    (by rw [called']; exact ⟨rfl, trivial⟩)
  exact ⟨t, t', _, result', s', c', run, run', same.1, same.2.1, same.2.2.1, same.2.2.2, called'⟩

end Sample

end ZephyrCcsds.Tc
