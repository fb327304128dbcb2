import ZephyrCcsds.Runs
import ZephyrCcsds.Sdls.Transactions
import ZephyrCcsds.Tc.Transparency

/-! # The provenance of dispatched packets

`ccsds_sdls_process_security` marks the SDLS context when it has accepted a frame, and the
profile takes the mark away when the packets of that frame have been dispatched.  A packet
handler, and the recipient service it may call, take the mark as proof that the packet comes
from an authenticated frame.

The mark is confined to its dispatch as long as the callback for authenticated frames
approves: a dispatch that the callback refuses returns with the mark still set.
-/

namespace ZephyrCcsds.Tc

open Callback

variable [Kconfig] [Sdls.Kconfig]

/-! ## The segment walk along a relation -/

section Walk

variable {τ : Type} {E : Environment TcOp TcRes State τ} {R : State → List τ → State → Prop} [Composes R]
  (calls : ∀ handler packet, (Fallible.call (TcOp.handler handler packet) : ProfileM Int).Along E R)
  (stores : ∀ s reassembly, R s [] (s.withReassembly reassembly))

include calls in
theorem callHandler_along (handler : Handler) (packet : SpacePacket) : (callHandler handler packet).Along E R :=
  Fallible.along_bind (calls handler packet) fun _ => Fallible.along_failIf

include calls in
theorem dispatchEncodedPacket_along (mapId : Nat) (encoded : Bytes) :
    (dispatchEncodedPacket mapId encoded).Along E R := by
  unfold dispatchEncodedPacket
  cases spacePacketDecode encoded with
  | error e => exact Fallible.along_fail
  | ok packet =>
    apply Fallible.along_bind Fallible.along_read
    intro s
    apply Fallible.along_ite (callHandler_along calls _ _)
    -- No route for the MAP and the APID: the router decides by the APID.
    apply Fallible.along_bind Fallible.along_failIf
    intro _
    apply Fallible.along_bind Fallible.along_read
    intro s
    cases s.rx.router.find packet.apid with
    | none => exact Fallible.along_fail
    | some entry => exact callHandler_along calls _ _

include stores in
theorem reassemble_along (step : TcReassembly → TcReassembly × Except Errno Unit) :
    (reassemble step).Along E R := by
  apply Fallible.along_bind Fallible.along_read
  intro s
  apply Fallible.along_bind (Fallible.along_modify fun s => stores s _)
  intro _
  cases (step s.rx.reassembly).2 with
  | error e => exact Fallible.along_fail
  | ok _ => exact Fallible.along_pure

include calls stores in
theorem dispatchTcSegmentPart_along (part : TcSegmentPart) : (dispatchTcSegmentPart part).Along E R := by
  apply Fallible.along_ite
  · apply Fallible.along_bind Fallible.along_read
    intro s
    apply Fallible.along_bind Fallible.along_failIf
    intro _
    exact Fallible.along_bind (dispatchEncodedPacket_along calls _ _) fun _ => Fallible.along_pure
  · apply Fallible.along_bind (reassemble_along stores _)
    intro _
    apply Fallible.along_bind (reassemble_along stores _)
    intro _
    apply Fallible.along_ite Fallible.along_pure
    apply Fallible.along_bind Fallible.along_read
    intro s
    apply Fallible.along_bind (Fallible.along_ofProg (dispatchEncodedPacket_along calls _ _))
    intro ret
    apply Fallible.along_bind (Fallible.along_modify fun s => stores s _)
    intro _
    cases ret with
    | error e => exact Fallible.along_fail
    | ok _ => exact Fallible.along_pure

include calls stores in
theorem walkPackets_along (mapId turns : Nat) (data : Bytes) : (walkPackets mapId turns data).Along E R := by
  induction turns generalizing data with
  | zero => exact Fallible.along_pure
  | succ turns ih =>
    apply Fallible.along_ite Fallible.along_pure
    apply Fallible.along_ite Fallible.along_fail
    apply Fallible.along_ite Fallible.along_fail
    apply Fallible.along_bind (dispatchTcSegmentPart_along calls stores _)
    intro first
    exact Fallible.along_bind (ih _) fun rest => Fallible.along_pure

include calls stores in
/-- The walk moves along whatever the handler calls and the stores of the reassembly move along. -/
theorem walkParts_along (segment : TcSegment) : (walkParts segment).Along E R := by
  apply Fallible.along_ite Fallible.along_fail
  cases segment.boundary with
  | continuation => exact dispatchTcSegmentPart_along calls stores _
  | last => exact dispatchTcSegmentPart_along calls stores _
  | unsegmented => exact walkPackets_along calls stores _ _ _
  | first =>
    apply Fallible.along_ite Fallible.along_fail
    apply Fallible.along_ite Fallible.along_fail
    exact dispatchTcSegmentPart_along calls stores _

end Walk

/-! ## The mark -/

/-- `authenticated_rx_valid` of the attached SDLS context -/
def State.authenticated (s : State) : Option Bool := s.rx.sdls.map (·.authenticatedRx.valid)

/-- What a call sees of it -/
def Item.authenticated (item : Item) : Option Bool := item.sdls.map (·.authenticatedRx.valid)

/-- The mark is internal to the module: the callback and the handlers do not write it. -/
def KeepsProvenance (touches : TcOp → State → State → Prop) : Prop :=
  ∀ op s s', touches op s s' → s'.authenticated = s.authenticated

/-- A handler that passes a PDU to `ccsds_sdls_ep_process_pdu` while its frame is dispatched -/
def ServesPdu (s s' : State) : Prop :=
  ∃ (st st' : Sdls.State) (encoded : Bytes) (u : List Sdls.Item) (result : Except Sdls.SdlsError Unit),
    s.rx.sdls = some st.ctx ∧ st.ctx.authenticatedRx.dispatching = true ∧
      (Sdls.processPdu encoded).Runs Sdls.anyPsa st u result st' ∧
      s' = s.withRx fun rx => { rx with sdls := some st'.ctx }

omit [Kconfig] in
theorem effect_authenticatedRx {encoded : Bytes} {ctx ctx' : Sdls.Ctx} {procedure : Sdls.Procedure}
    {u : List Sdls.Item} (effect : Sdls.Effect encoded ctx procedure u ctx') :
    ctx'.authenticatedRx = ctx.authenticatedRx := by
  cases effect with
  | otar => rw [ctx.swapKeys_onlyKeys _]
  | keyActivation => rw [ctx.setKeyStates_onlyKeys _ _]
  | keyDeactivation => rw [ctx.setKeyStates_onlyKeys _ _]
  | keyVerification => rw [ctx.commitVerification_eq]
  | selfTestAbsent =>
    unfold Sdls.Ctx.recordSelfTest
    split <;> rfl
  | selfTestNotOk =>
    unfold Sdls.Ctx.recordSelfTest
    split <;> rfl
  | _ => rfl

/-- The recipient service leaves the mark alone during a dispatch. -/
theorem servesPdu_keeps : KeepsProvenance fun _ s s' => s' = s ∨ ServesPdu s s' := by
  rintro op s s' (rfl | ⟨st, st', encoded, u, result, attached, dispatching, run, rfl⟩)
  · rfl
  · have kept : st'.ctx.authenticatedRx = st.ctx.authenticatedRx := by
      cases result with
      | ok _ =>
        obtain ⟨pdu, ctx, _, effect, committed⟩ := Prog.wp_of_runs (Sdls.processPdu_spec encoded st) run
        have same := effect_authenticatedRx effect
        rw [committed, Sdls.Ctx.endTransaction_eq, ← same, if_pos (same ▸ dispatching)]
      | error e =>
        have rolledBack := ((Sdls.processPdu_all_or_nothing run).1 e rfl).1
        rw [rolledBack.provenance, if_pos dispatching]
    show some st'.ctx.authenticatedRx.valid = s.authenticated
    rw [State.authenticated, attached, kept]
    rfl

/-- Every call of the callback for authenticated frames has returned `0`. -/
def Approves (t : List Item) : Prop := ∀ item ∈ t, ∀ code, item.call = ⟨.authenticatedRx, code⟩ → code = 0

/-- `ccsds_sdls_process_security` has succeeded during the dispatch. -/
def Secured (s : State) (cltu : Bytes) (t : List Item) : Prop :=
  ∃ ctx frameBuf reception, s.rx.sdls = some ctx ∧
    receiveCltu cltu s.rx.frameBuf = (frameBuf, .ok reception) ∧
    SecurityReturnsZero ctx frameBuf reception.frame t

/-- Only handlers are called, and the mark stays as it is. -/
structure Delivers (s : State) (t : List Item) (s' : State) : Prop where
  after : s'.authenticated = s.authenticated
  handlers : ∀ item ∈ t, item.op.isHandler = true
  seen : ∀ item ∈ t, item.authenticated = s.authenticated

instance : Composes (Delivers : State → List Item → State → Prop) where
  refl s := ⟨rfl, by simp, by simp⟩
  trans first second := {
    after := second.after.trans first.after
    handlers := by
      intro item listed
      rcases List.mem_append.mp listed with early | late
      · exact first.handlers item early
      · exact second.handlers item late
    seen := by
      intro item listed
      rcases List.mem_append.mp listed with early | late
      · exact first.seen item early
      · exact (second.seen item late).trans first.after }

variable {touches : TcOp → State → State → Prop}

theorem walkParts_delivers (keeps : KeepsProvenance touches) (segment : TcSegment) :
    (walkParts segment).Along (peers touches) Delivers := by
  apply walkParts_along
  · intro handler packet
    apply Fallible.along_of_wp
    intro s
    rw [Fallible.wp_call]
    rintro result t s' ⟨rfl, touched⟩
    exact ⟨keeps _ _ _ touched, by simp [TcOp.isHandler], by simp [Item.authenticated, State.authenticated]⟩
  · exact fun s reassembly => ⟨rfl, by simp, by simp⟩

/-! ## Delivery -/

/-- Only handlers are called, and the mark is taken away afterwards. -/
structure Closes (mark : Option Bool) (t : List Item) (mark' : Option Bool) : Prop where
  after : mark' = mark.map fun _ => false
  handlers : ∀ item ∈ t, item.op.isHandler = true
  seen : ∀ item ∈ t, item.authenticated = mark

theorem withSdls_authenticated (s : State) (f : Sdls.Ctx → Sdls.Ctx) :
    (s.withSdls f).authenticated = s.rx.sdls.map fun ctx => (f ctx).authenticatedRx.valid := by
  show (s.rx.sdls.map f).map _ = _
  rw [Option.map_map]
  rfl

theorem startDispatching_authenticated (s : State) :
    (s.withSdls startDispatching).authenticated = s.authenticated :=
  withSdls_authenticated s startDispatching

theorem clear_authenticated (s : State) :
    (s.withSdls Sdls.Ctx.clearAuthenticatedRx).authenticated = s.authenticated.map fun _ => false := by
  rw [withSdls_authenticated, State.authenticated, Option.map_map]
  rfl

theorem closes_cleared {s s' : State} {t : List Item} (delivers : Delivers s t s') :
    Closes s.authenticated t (s'.withSdls Sdls.Ctx.clearAuthenticatedRx).authenticated :=
  ⟨by rw [clear_authenticated, delivers.after], delivers.handlers, delivers.seen⟩

theorem deliverSegment_closes (keeps : KeepsProvenance touches) (reception : Reception) (segment : TcSegment)
    (s : State) :
    (deliverSegment reception segment).wp (peers touches) (fun t _ s' => Closes s.authenticated t s'.authenticated)
      (fun t _ s' => Closes s.authenticated t s'.authenticated) s := by
  simp only [deliverSegment, Fallible.wp_bind, Fallible.wp_modify, Fallible.wp_attempt, List.nil_append]
  have closed : ∀ t s', Delivers (s.withSdls startDispatching) t s' →
      Closes s.authenticated t (s'.withSdls Sdls.Ctx.clearAuthenticatedRx).authenticated := by
    intro t s' walked
    rw [← startDispatching_authenticated s]
    exact closes_cleared walked
  apply Fallible.wp_of_along (walkParts_delivers keeps segment)
  · intro t packetsDispatched s' walked
    rw [List.append_nil]
    exact closed t s' walked
  · intro t e s' walked
    simp only [wp_refuseWith, List.append_nil]
    exact closed t s' walked

theorem wp_stepVcState {τ : Type} {E : Environment TcOp TcRes State τ}
    {step : TcVcState → TcVcState × Except Errno Unit} {Q : List τ → Unit → State → Prop}
    {F : List τ → Failure → State → Prop} {s : State} :
    (stepVcState step).wp E Q F s ↔
      ((step s.rx.vcState).2 = .ok () → Q [] () (s.withVcState (step s.rx.vcState).1)) ∧
        ∀ e, (step s.rx.vcState).2 = .error e → F [] (.errno e) (s.withVcState (step s.rx.vcState).1) := by
  simp only [stepVcState, Fallible.wp_bind, Fallible.wp_read, Fallible.wp_modify]
  cases (step s.rx.vcState).2 with
  | error e => simp
  | ok _ => simp

theorem deliverData_closes (keeps : KeepsProvenance touches) (reception : Reception) (frame : TcFrame) (s : State) :
    (deliverData reception frame).wp (peers touches) (fun t _ s' => Closes s.authenticated t s'.authenticated)
      (fun t _ s' => Closes s.authenticated t s'.authenticated) s := by
  have closed : Closes s.authenticated [] (s.withSdls Sdls.Ctx.clearAuthenticatedRx).authenticated :=
    closes_cleared (Composes.refl s)
  simp only [deliverData, Fallible.wp_bind, Fallible.wp_attempt, wp_stepVcState]
  constructor
  · intro _
    simp only [Fallible.wp_read, List.nil_append]
    cases tcSegmentDecode (frame.octets (s.withVcState _).rx.frameBuf) with
    | error e => exact closed
    | ok segment =>
      have delivered := deliverSegment_closes keeps reception segment (s.withVcState
        (s.rx.vcState.updateSequenceState frame).1)
      exact delivered
  · intro e _
    exact closed

/-- A Type-C frame reaches no handler. -/
theorem deliverControl_keeps (reception : Reception) (frame : TcFrame) (s : State) :
    (deliverControl reception frame).wp (peers touches)
      (fun t _ s' => t = [] ∧ s'.authenticated = s.authenticated)
      (fun t _ s' => t = [] ∧ s'.authenticated = s.authenticated) s := by
  simp only [deliverControl, Fallible.wp_bind, Fallible.wp_read, Fallible.wp_attempt, wp_stepVcState, List.nil_append]
  constructor
  · intro _
    simp only [Fallible.wp_modify]
    exact ⟨trivial, rfl⟩
  · intro e _
    simp only [wp_refuseWith]
    exact ⟨trivial, rfl⟩

/-! ## The SDLS block -/

omit [Kconfig] in
theorem approves_of_psa (u : List Sdls.Item) : Approves (u.map Item.ofPsa) := by
  intro item listed code called
  obtain ⟨call, _, rfl⟩ := List.mem_map.mp listed
  cases called

omit [Kconfig] in
theorem Approves.append {t u : List Item} (first : Approves t) (second : Approves u) : Approves (t ++ u) := by
  intro item listed
  rcases List.mem_append.mp listed with early | late
  · exact first item early
  · exact second item late

omit [Kconfig] in
theorem approves_of_handlers {t : List Item} (handlers : ∀ item ∈ t, item.op.isHandler = true) : Approves t := by
  intro item listed code called
  have op : item.op = .authenticatedRx := congrArg Sigma.fst called
  have handler := handlers item listed
  rw [op] at handler
  cases handler

/-- The SDLS block calls no handler.  It leaves the mark set only where the callback refuses. -/
structure Ends (t : List Item) (s' : State) : Prop where
  handlers : ∀ item ∈ t, item.op.isHandler = false
  mark : (Approves t ∧ s'.authenticated = some false) ∨ (¬ Approves t ∧ s'.authenticated = some true)

/-- A frame that `ccsds_sdls_process_security` and the callback have let through -/
structure Vouched (ctx : Sdls.Ctx) (frameBuf : Bytes) (frame : TcFrame) (t : List Item) (s' : State) : Prop where
  zero : SecurityReturnsZero ctx frameBuf frame t
  handlers : ∀ item ∈ t, item.op.isHandler = false
  approved : Approves t
  mark : s'.authenticated = some true

theorem callAuthenticatedRx_spec (keeps : KeepsProvenance touches) (reception : Reception) (s : State) :
    (callAuthenticatedRx reception).wp (peers touches)
      (fun t _ s' => Approves t ∧ (∀ item ∈ t, item.op.isHandler = false) ∧ s'.authenticated = s.authenticated)
      (fun t _ s' => ¬ Approves t ∧ (∀ item ∈ t, item.op.isHandler = false) ∧ s'.authenticated = s.authenticated)
      s := by
  simp only [callAuthenticatedRx, Fallible.wp_bind, Fallible.wp_read, List.nil_append]
  by_cases registered : s.rx.authenticatedRxFn = true
  · simp only [if_pos registered, Fallible.wp_bind, Fallible.wp_call]
    rintro code t s' ⟨rfl, touched⟩
    have kept := keeps _ _ _ touched
    by_cases refused : code ≠ 0
    · simp only [if_pos refused, wp_refuseWith, List.append_nil]
      refine ⟨fun approves => refused ?_, by simp [TcOp.isHandler], kept⟩
      exact approves _ (List.mem_singleton_self _) code rfl
    · simp only [if_neg refused, Fallible.wp_pure, List.append_nil]
      refine ⟨?_, by simp [TcOp.isHandler], kept⟩
      intro item listed code' called
      obtain rfl := List.mem_singleton.mp listed
      cases called
      exact not_not.mp refused
  · simp only [if_neg registered, Fallible.wp_pure]
    exact ⟨by simp [Approves], by simp, trivial⟩

theorem unprotectFrame_spec (keeps : KeepsProvenance touches) {reception : Reception} {ctx : Sdls.Ctx} {s : State} :
    (unprotectFrame reception ctx).wp (peers touches)
      (fun t frame s' => Vouched ctx s.rx.frameBuf reception.frame t s' ∧
        frame.controlCommand = reception.frame.controlCommand)
      (fun t _ s' => Ends t s') s := by
  simp only [unprotectFrame, Fallible.wp_bind, Fallible.wp_read, Fallible.wp_attempt, wp_embedSdls,
    List.nil_append]
  rw [Fallible.wp_iff_runs]
  have outcome := Sdls.processSecurity_spec .operationalTcRx (tcAuthHeader s.rx.frameBuf)
    (s.rx.frameBuf.slice (reception.frame.data + tcSegmentHdrLen) (reception.frame.dataLen - tcSegmentHdrLen))
    { ctx, out := s.rx.frameBuf, outLen := 0 }
  constructor
  · intro u _ st' run
    obtain ⟨header, slot, key, accepts⟩ := Fallible.ok_of_runs outcome run
    have marked : (sdlsPart.store st' s).authenticated = some true := by
      show some st'.ctx.authenticatedRx.valid = some true
      rw [accepts.committed]
      rfl
    have psa := ofPsa_not_handler u
    apply Fallible.wp_mono (callAuthenticatedRx_spec keeps reception _)
    · rintro v _ s₁ ⟨approved, quiet, kept⟩
      simp only [Fallible.wp_modify, Fallible.wp_pure, List.append_nil]
      refine ⟨⟨⟨u, v, st', rfl, run⟩, ?_, (approves_of_psa u).append approved, kept.trans marked⟩, trivial⟩
      exact List.forall_mem_append.mpr ⟨psa, quiet⟩
    · rintro v e s₁ ⟨refused, quiet, kept⟩
      refine ⟨List.forall_mem_append.mpr ⟨psa, quiet⟩, .inr ⟨?_, kept.trans marked⟩⟩
      exact fun approved => refused fun item listed => approved item (List.mem_append_right _ listed)
  · intro u e st' run
    have rejects := Fallible.error_of_runs outcome run
    simp only [wp_refuseWith, List.append_nil]
    refine ⟨ofPsa_not_handler u, .inl ⟨approves_of_psa u, ?_⟩⟩
    show some st'.ctx.authenticatedRx.valid = some false
    rw [rejects.cleared]
    rfl

/-- On an unmarked profile a frame comes out of the SDLS block unmarked, or vouched for. -/
theorem secureFrame_spec (keeps : KeepsProvenance touches) {reception : Reception} {ctx : Sdls.Ctx} {s : State}
    (attached : s.rx.sdls = some ctx) (unmarked : s.authenticated = some false) :
    (secureFrame reception).wp (peers touches)
      (fun t frame s' => (t = [] ∧ s'.authenticated = some false) ∨
        (Vouched ctx s.rx.frameBuf reception.frame t s' ∧ frame.controlCommand = false))
      (fun t _ s' => Ends t s') s := by
  have refused : ∀ result cltuLen ret, Ends [] (s.record result cltuLen ret) :=
    fun _ _ _ => ⟨by simp, .inl ⟨by simp [Approves], unmarked⟩⟩
  simp only [secureFrame, Fallible.wp_bind, Fallible.wp_read, List.nil_append, attached]
  by_cases typeC : reception.frame.controlCommand = true
  · simp only [if_pos typeC, Fallible.wp_pure]
    exact .inl ⟨trivial, unmarked⟩
  · rw [if_neg typeC]
    by_cases headless : reception.frame.dataLen < tcSegmentHdrLen
    · simp only [if_pos headless, wp_refuseWith]
      exact refused _ _ _
    · rw [if_neg headless]
      by_cases clear : s.rx.OnClearMap (s.rx.frameBuf.getD reception.frame.data 0)
      · rw [if_pos clear]
        by_cases disabled : ¬ s.rx.clearMapEnabled = true
        · simp only [if_pos disabled, wp_refuseWith]
          exact refused _ _ _
        · simp only [if_neg disabled, Fallible.wp_pure]
          exact .inl ⟨trivial, unmarked⟩
      · rw [if_neg clear]
        apply Fallible.wp_mono (unprotectFrame_spec keeps)
        · rintro t frame s' ⟨vouched, same⟩
          exact .inr ⟨vouched, same.trans (Bool.not_eq_true _ ▸ typeC)⟩
        · exact fun t e s' ends => ends

/-! ## Dispatches -/

/-- The ways a dispatch on an unmarked profile can go -/
inductive Course (s : State) (cltu : Bytes) (t : List Item) (s' : State) : Prop where
  | closed : Ends t s' → Course s cltu t s'
  | unsecured : (∀ item ∈ t, item.op.isHandler = true) → (∀ item ∈ t, item.authenticated = some false) →
      s'.authenticated = some false → Course s cltu t s'
  | secured : Secured s cltu t → Approves t →
      (∀ item ∈ t, item.op.isHandler = true → item.authenticated = some true) →
      s'.authenticated = some false → Course s cltu t s'

theorem deliverFrame_unsecured (keeps : KeepsProvenance touches) (reception : Reception) (frame : TcFrame)
    (cltu : Bytes) {s₀ s : State} (unmarked : s.authenticated = some false) :
    (deliverFrame reception frame).wp (peers touches) (fun t _ s' => Course s₀ cltu t s')
      (fun t _ s' => Course s₀ cltu t s') s := by
  simp only [deliverFrame, Fallible.wp_bind, Fallible.wp_modify, List.nil_append]
  have closed : ∀ t s', Closes s.authenticated t s'.authenticated → Course s₀ cltu t s' := by
    intro t s' closes
    rw [unmarked] at closes
    exact .unsecured closes.handlers closes.seen closes.after
  by_cases typeC : frame.controlCommand = true
  · rw [if_pos typeC]
    have kept : ∀ t s', t = [] ∧ s'.authenticated = s.authenticated → Course s₀ cltu t s' := by
      rintro t s' ⟨rfl, same⟩
      exact .unsecured (by simp) (by simp) (same.trans unmarked)
    apply Fallible.wp_mono (deliverControl_keeps reception frame _)
    · exact fun t _ s' => kept t s'
    · exact fun t _ s' => kept t s'
  · rw [if_neg typeC]
    apply Fallible.wp_mono (deliverData_closes keeps reception frame _)
    · exact fun t _ s' => closed t s'
    · exact fun t _ s' => closed t s'

theorem Vouched.course {s₀ s s' : State} {cltu frameBuf : Bytes} {reception : Reception} {ctx : Sdls.Ctx}
    {t u : List Item} (attached : s₀.rx.sdls = some ctx)
    (carries : receiveCltu cltu s₀.rx.frameBuf = (frameBuf, .ok reception))
    (vouched : Vouched ctx frameBuf reception.frame t s) (closes : Closes s.authenticated u s'.authenticated) :
    Course s₀ cltu (t ++ u) s' := by
  rw [vouched.mark] at closes
  obtain ⟨v, w, st', rfl, run⟩ := vouched.zero
  have zero : SecurityReturnsZero ctx frameBuf reception.frame (v.map Item.ofPsa ++ w ++ u) :=
    ⟨v, w ++ u, st', List.append_assoc .., run⟩
  refine .secured ⟨ctx, frameBuf, reception, attached, carries, zero⟩
    (vouched.approved.append (approves_of_handlers closes.handlers)) ?_ closes.after
  intro item listed handler
  rcases List.mem_append.mp listed with early | late
  · rw [vouched.handlers item early] at handler
    cases handler
  · exact closes.seen item late

theorem tcCltuDispatch_course (keeps : KeepsProvenance touches) {s : State} (cltu : Bytes)
    (unmarked : s.authenticated = some false) :
    (tcCltuDispatch cltu).wp (peers touches) (fun t _ s' => Course s cltu t s')
      (fun t _ s' => Course s cltu t s') s := by
  obtain ⟨ctx, attached, _⟩ := Option.map_eq_some_iff.mp unmarked
  -- A refusal before the SDLS block changes the frame buffer and the statistics.
  have refused : ∀ s', s'.authenticated = s.authenticated → Course s cltu [] s' :=
    fun s' same => .unsecured (by simp) (by simp) (same.trans unmarked)
  simp only [tcCltuDispatch, Fallible.wp_bind, Fallible.wp_read, Fallible.wp_modify, List.nil_append]
  cases received : receiveCltu cltu s.rx.frameBuf with
  | mk frameBuf outcome =>
    cases outcome with
    | error refusal => exact refused _ rfl
    | ok reception =>
      dsimp only
      cases admitFrame s.rx.acceptedVcid reception.frame with
      | error e => exact refused _ rfl
      | ok _ =>
        simp only [Fallible.wp_bind]
        have block := @secureFrame_spec _ _ touches keeps reception ctx (s.withFrameBuf frameBuf) attached unmarked
        apply Fallible.wp_mono block
        · rintro t frame s₁ (⟨rfl, kept⟩ | ⟨vouched, typeD⟩)
          · exact deliverFrame_unsecured keeps reception frame cltu kept
          · simp only [deliverFrame, Fallible.wp_bind, Fallible.wp_modify, List.nil_append, typeD,
              Bool.false_eq_true, if_false]
            apply Fallible.wp_mono (deliverData_closes keeps reception frame _)
            · exact fun u _ s' closes => vouched.course attached received closes
            · exact fun u _ s' closes => vouched.course attached received closes
        · exact fun t e s' ends => .closed ends

/-! ## Confinement -/

omit [Kconfig] in
theorem SecurityReturnsZero.called {ctx : Sdls.Ctx} {frameBuf : Bytes} {frame : TcFrame} {t : List Item}
    (zero : SecurityReturnsZero ctx frameBuf frame t) : ∃ item ∈ t, item.op.isHandler = false := by
  obtain ⟨u, v, st', rfl, run⟩ := zero
  obtain ⟨header, slot, key, accepts⟩ := Fallible.ok_of_runs (Sdls.processSecurity_spec _ _ _ _) run
  obtain ⟨aad, ciphertext, answer, rfl⟩ := accepts.called
  exact ⟨_, List.mem_append_left _ (List.mem_map_of_mem (List.mem_singleton_self _)), rfl⟩

/-- The context does not vouch for a command: no Key Inventory and no Start of a clear SA is carried out. -/
def Unauthorized (ctx : Sdls.Ctx) : Prop :=
  ∀ encoded (st st' : Sdls.State) u, st.ctx = ctx →
    (Sdls.processPdu encoded).Runs Sdls.anyPsa st u (.ok ()) st' →
    ∃ pdu, Sdls.epPduDecode encoded = .ok pdu ∧ pdu.procedure ≠ .keyInventory ∧
      (pdu.procedure = .startSa → ∀ command (slot : Sdls.SaSlot), Sdls.epStartSaDecode encoded = .ok command →
        slot.spi = command.spi → ctx.saModes slot ≠ .clear)

omit [Kconfig] in
theorem unauthorized_of_unmarked {ctx : Sdls.Ctx} (unmarked : ctx.authenticatedRx.valid = false) :
    Unauthorized ctx := by
  rintro encoded st st' u rfl run
  obtain ⟨pdu, ctx', decoded, effect, _⟩ := Prog.wp_of_runs (Sdls.processPdu_spec encoded st) run
  refine ⟨pdu, decoded, ?_, ?_⟩
  · intro inventory
    rw [inventory] at effect
    cases effect with
    | keyInventory marked =>
      rw [unmarked] at marked
      cases marked
    | reported listed => simp at listed
  · intro start command slot commanded target clear
    rw [start] at effect
    cases effect with
    | @startSa _ command' slot' commanded' target' _ _ allowed =>
      rw [commanded] at commanded'
      cases commanded'
      obtain rfl : slot = slot' := Fin.ext (Nat.succ.inj (target.trans target'.symm))
      rw [Sdls.StartAllowed, if_pos clear, unmarked] at allowed
      cases allowed.1
    | reported listed => simp at listed

/-- What a handler sees of the mark is right, it vouches for no command of an unprotected frame, and the mark
is gone when the dispatch returns. -/
structure Confined (s : State) (cltu : Bytes) (t : List Item) (s' : State) : Prop where
  seen : ∀ item ∈ t, item.op.isHandler = true →
    ∃ ctx, item.sdls = some ctx ∧ (ctx.authenticatedRx.valid = true ↔ Secured s cltu t)
  commands : ¬ Secured s cltu t → ∀ item ∈ t, item.op.isHandler = true →
    ∃ ctx, item.sdls = some ctx ∧ Unauthorized ctx
  cleared : s'.authenticated = some false

theorem Course.confined_iff {s s' : State} {cltu : Bytes} {t : List Item} (course : Course s cltu t s') :
    Confined s cltu t s' ↔ Approves t := by
  have confined : (∀ item ∈ t, item.op.isHandler = true →
      ∃ valid, item.authenticated = some valid ∧ (valid = true ↔ Secured s cltu t)) →
      s'.authenticated = some false → Confined s cltu t s' := by
    intro seen cleared
    refine ⟨?_, ?_, cleared⟩
    · intro item listed handler
      obtain ⟨valid, shown, right⟩ := seen item listed handler
      obtain ⟨ctx, attached, rfl⟩ := Option.map_eq_some_iff.mp shown
      exact ⟨ctx, attached, right⟩
    · intro unsecured item listed handler
      obtain ⟨valid, shown, right⟩ := seen item listed handler
      obtain ⟨ctx, attached, rfl⟩ := Option.map_eq_some_iff.mp shown
      exact ⟨ctx, attached, unauthorized_of_unmarked (Bool.eq_false_iff.mpr fun valid => unsecured (right.mp valid))⟩
  cases course with
  | closed ends =>
    rcases ends.mark with ⟨approved, cleared⟩ | ⟨refused, marked⟩
    · refine ⟨fun _ => approved, fun _ => confined ?_ cleared⟩
      intro item listed handler
      rw [ends.handlers item listed] at handler
      cases handler
    · refine ⟨fun held => ?_, fun approved => absurd approved refused⟩
      have cleared := held.cleared
      rw [marked] at cleared
      cases cleared
  | unsecured handlers seen cleared =>
    refine ⟨fun _ => approves_of_handlers handlers, fun _ => confined ?_ cleared⟩
    intro item listed _
    refine ⟨false, seen item listed, fun marked => ?_, fun secured => ?_⟩
    · cases marked
    · obtain ⟨_, _, _, _, _, zero⟩ := secured
      obtain ⟨item, listed, other⟩ := zero.called
      rw [handlers item listed] at other
      cases other
  | secured secured approved seen cleared =>
    refine ⟨fun _ => approved, fun _ => confined ?_ cleared⟩
    intro item listed handler
    exact ⟨true, seen item listed handler, fun _ => secured, fun _ => rfl⟩

/-- A completed call of `ccsds_profile_tc_cltu_dispatch` -/
structure Dispatch where
  before : State
  cltu : Bytes
  trace : List Item
  result : Except Failure Unit
  after : State

def Dispatch.Step (touches : TcOp → State → State → Prop) (s : State) (dispatch : Dispatch) (s' : State) : Prop :=
  dispatch.before = s ∧ dispatch.after = s' ∧
    (tcCltuDispatch dispatch.cltu).run.Runs (peers touches) s dispatch.trace dispatch.result s'

/-- The property of one dispatch of a run -/
def Dispatch.Confined (dispatch : Dispatch) : Prop :=
  Tc.Confined dispatch.before dispatch.cltu dispatch.trace dispatch.after

theorem Dispatch.Step.confined_iff (keeps : KeepsProvenance touches) {s s' : State} {dispatch : Dispatch}
    (unmarked : s.authenticated = some false) (step : Dispatch.Step touches s dispatch s') :
    dispatch.Confined ↔ Approves dispatch.trace := by
  obtain ⟨rfl, rfl, run⟩ := step
  exact (Fallible.of_runs (G := fun t _ s' => Course dispatch.before dispatch.cltu t s')
    (tcCltuDispatch_course keeps dispatch.cltu unmarked) run).confined_iff

/-- The mark is confined in every dispatch of a run exactly when the callback approves in every one. -/
theorem provenance_confined_iff (keeps : KeepsProvenance touches) {s s' : State} {dispatches : List Dispatch}
    (unmarked : s.authenticated = some false) (run : Run (Dispatch.Step touches) s dispatches s') :
    (∀ dispatch ∈ dispatches, dispatch.Confined) ↔ ∀ dispatch ∈ dispatches, Approves dispatch.trace := by
  induction run with
  | done => simp
  | @step s s₁ s' dispatch dispatches first _ ih =>
    have now := first.confined_iff keeps unmarked
    rw [List.forall_mem_cons, List.forall_mem_cons, now]
    refine and_congr_right fun approved => ih ?_
    -- A confined dispatch leaves the profile unmarked for the next one.
    rw [← first.2.1]
    exact (now.mpr approved).cleared

end ZephyrCcsds.Tc

namespace ZephyrCcsds.Tc

open Callback

section Sample

attribute [local instance] defaultKconfig Sdls.defaultKconfig

/-- A Type-BD frame on the clear MAP, with a packet for APID 5 -/
def clearMapCltu : Bytes :=
  [0xeb, 0x90, 0x20, 0x7b, 0x00, 0x0c, 0x00, 0xc2, 0x10, 0x88, 0x05, 0xc0, 0x00, 0x00, 0x00, 0xab, 0x55, 0x36,
    0xc5, 0xc5, 0xc5, 0xc5, 0xc5, 0xc5, 0xc5, 0x79]

def Dispatch.play (s : State) (cltu : Bytes) (script : List ((op : TcOp) × TcRes op)) : Option Dispatch :=
  (((tcCltuDispatch cltu).run s).record observeCall script).map fun played =>
    { before := s, cltu, trace := played.1, result := played.2.1, after := played.2.2 }

theorem Dispatch.step_of_play {s : State} {cltu : Bytes} {script : List ((op : TcOp) × TcRes op)}
    {dispatch : Dispatch} (played : Dispatch.play s cltu script = some dispatch) :
    Dispatch.Step (fun _ s s' => s' = s) s dispatch dispatch.after ∧ dispatch.trace.map Item.call = script := by
  obtain ⟨⟨t, result, s'⟩, recorded, rfl⟩ := Option.map_eq_some_iff.mp played
  obtain ⟨run, calls⟩ := @runs_of_script _ _ (fun _ s s' => s' = s) _ _ _ _ _ _ _ (fun _ _ => rfl) recorded
  exact ⟨⟨rfl, rfl, run⟩, calls⟩

/-- The callback refuses a protected frame, and an unprotected one follows. -/
theorem refused_then_clear : ∃ first second : Dispatch,
    Run (Dispatch.Step fun _ s s' => s' = s) (sampleProfile (some sampleSdls) true) [first, second] second.after ∧
      second.trace.map Item.call = [⟨.handler 1 sampleSpacePacket, (0 : Int)⟩] ∧
      second.trace.map Item.authenticated = [some true] := by
  have held : ((Dispatch.play (sampleProfile (some sampleSdls) true) protectedCltu
      [⟨.psa protectedVerification, (.success, [])⟩, ⟨.authenticatedRx, (1 : Int)⟩]).bind fun first =>
        (Dispatch.play first.after clearMapCltu [⟨.handler 1 sampleSpacePacket, (0 : Int)⟩]).map fun second =>
          (first, second)).any
      (fun played => decide (played.2.trace.map Item.authenticated = [some true])) = true := by
    decide +kernel
  obtain ⟨⟨first, second⟩, played, marked⟩ := (Option.any_eq_true _ _).mp held
  obtain ⟨first', refused, rest⟩ := Option.bind_eq_some_iff.mp played
  obtain ⟨second', cleared, same⟩ := Option.map_eq_some_iff.mp rest
  cases same
  have step := Dispatch.step_of_play refused
  have step' := Dispatch.step_of_play cleared
  exact ⟨first, second, .step step.1 (.single step'.1), step'.2, of_decide_eq_true marked⟩

theorem sampleProfile_unmarked : (sampleProfile (some sampleSdls) true).authenticated = some false := by
  rw [State.authenticated, sampleProfile_sdls]
  rfl

/-- The packet of the unprotected frame is taken for one of an authenticated frame. -/
theorem refused_frame_vouches_for_next : ¬ ∀ (touches : TcOp → State → State → Prop) (s s' : State)
    (dispatches : List Dispatch), KeepsProvenance touches → s.authenticated = some false →
    Run (Dispatch.Step touches) s dispatches s' → ∀ dispatch ∈ dispatches, dispatch.Confined := by
  intro claim
  obtain ⟨first, second, run, calls, marked⟩ := refused_then_clear
  have confined := claim _ _ _ _ (fun op s s' (same : s' = s) => congrArg State.authenticated same)
    sampleProfile_unmarked run second (by simp)
  obtain ⟨item, trace, handler⟩ : ∃ item, second.trace = [item] ∧
      item.call = ⟨.handler 1 sampleSpacePacket, (0 : Int)⟩ := by
    obtain ⟨item, rest, trace, call, none⟩ := List.map_eq_cons_iff.mp calls
    exact ⟨item, by rw [trace, List.map_eq_nil_iff.mp none], call⟩
  have isHandler : item.op.isHandler = true := by
    rw [show item.op = _ from congrArg Sigma.fst handler]
    rfl
  obtain ⟨ctx, attached, right⟩ := confined.seen item (by simp [trace]) isHandler
  rw [trace, List.map_cons, Item.authenticated, attached] at marked
  -- The handler sees the mark, but its dispatch has made no other call.
  obtain ⟨_, _, _, _, _, zero⟩ := right.mp (by simpa using marked)
  obtain ⟨other, listed, unlike⟩ := zero.called
  rw [trace] at listed
  rw [List.mem_singleton.mp listed, isHandler] at unlike
  cases unlike

theorem provenance_confined_iff_sample : ∃ dispatches s',
    Run (Dispatch.Step fun _ s s' => s' = s) (sampleProfile (some sampleSdls) true) dispatches s' ∧
      ((∀ dispatch ∈ dispatches, dispatch.Confined) ↔ ∀ dispatch ∈ dispatches, Approves dispatch.trace) := by
  obtain ⟨first, second, run, _⟩ := refused_then_clear
  exact ⟨_, _, run, provenance_confined_iff (fun op s s' (same : s' = s) => congrArg State.authenticated same)
    sampleProfile_unmarked run⟩

end Sample

end ZephyrCcsds.Tc
