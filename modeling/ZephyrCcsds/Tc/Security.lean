import ZephyrCcsds.Callback.Script
import ZephyrCcsds.Sdls.Runs
import ZephyrCcsds.Tc.Dispatch

/-! # The security boundary of the receive profile

What a dispatch may do before frame security has accepted the frame: nothing that COP-1,
the reassembly or a packet handler could see.
-/

namespace ZephyrCcsds.Tc

open Callback

variable [Kconfig] [Sdls.Kconfig]

/-- What a trace records of a call: the SDLS context it was made in and its result. -/
structure Item where
  sdls : Option Sdls.Ctx
  op : TcOp
  result : TcRes op

/-- The call without the context -/
def Item.call (item : Item) : (op : TcOp) × TcRes op := ⟨item.op, item.result⟩

def Item.ofPsa (item : Sdls.Item) : Item := ⟨some item.ctx, .psa item.op, item.result⟩

/-- The environment in which PSA answers in any way, and in which the callback and the handlers return
anything and may change the state along `touches` before they do. -/
def peers (touches : TcOp → State → State → Prop) : Environment TcOp TcRes State Item :=
  fun s op r t s' => t = [⟨s.rx.sdls, op, r⟩] ∧
    match op with
    | .psa _ => s' = s
    | .authenticatedRx => touches .authenticatedRx s s'
    | .handler handler packet => touches (.handler handler packet) s s'

theorem peers_psa {touches : TcOp → State → State → Prop} :
    AnswersAtOnce (peers touches) TcOp.psa fun s o r => (⟨s.rx.sdls, .psa o, r⟩ : Item) :=
  fun _ _ _ _ _ => Iff.rfl

variable {touches : TcOp → State → State → Prop}

/-- What the environment shows of a call -/
def observeCall (s : State) (op : TcOp) (result : TcRes op) : Item := ⟨s.rx.sdls, op, result⟩

/-- A dispatch that is played from a script, with peers that may leave the state alone -/
theorem runs_of_script {α : Type} {p : ProfileM α} {script : List ((op : TcOp) × TcRes op)} {s s' : State}
    {t : List Item} {result : Except Failure α} (still : ∀ op s, touches op s s)
    (played : (p.run s).record observeCall script = some (t, result, s')) :
    p.run.Runs (peers touches) s t result s' ∧ t.map Item.call = script := by
  constructor
  · apply Prog.Runs.mono _ (Prog.runs_of_record played)
    rintro s op r t s' ⟨rfl, rfl⟩
    refine ⟨rfl, ?_⟩
    cases op with
    | psa _ => exact rfl
    | authenticatedRx => exact still _ _
    | handler => exact still _ _
  · have calls := Act.map_of_record Item.call id (fun _ _ _ => rfl) played
    rwa [List.map_id] at calls

/-- The specification of a call of SDLS, on the frame buffer of the profile. -/
theorem wp_embedSdls {ε α : Type} {p : Fallible Sdls.PsaOp Sdls.PsaRes Sdls.State ε α}
    {Q : List Item → α → State → Prop} {F : List Item → ε → State → Prop} {st : Sdls.State} {s : State} :
    (p.embed sdlsPart TcOp.psa st : Fallible TcOp TcRes State ε α).wp (peers touches) Q F s ↔
      p.wp Sdls.anyPsa (fun u a st' => Q (u.map Item.ofPsa) a (sdlsPart.store st' s))
        (fun u e st' => F (u.map Item.ofPsa) e (sdlsPart.store st' s)) st :=
  Fallible.wp_embed peers_psa fun _ _ _ => rfl

@[simp] theorem wp_refuseWith {α τ : Type} {refusal : Refusal} {E : Environment TcOp TcRes State τ}
    {Q : List τ → α → State → Prop} {F : List τ → Failure → State → Prop} {s : State} :
    (refuseWith refusal : ProfileM α).wp E Q F s ↔
      F [] refusal.failure (s.record
        { stage := refusal.stage, tcFrameLen := refusal.tcFrameLen, packetsDispatched := 0 }
        refusal.cltuLen (some refusal.failure)) := Iff.rfl

/-! ## The gate -/

/-- The trace begins with the calls of a successful `ccsds_sdls_process_security` of the frame. -/
def SecurityReturnsZero (ctx : Sdls.Ctx) (frameBuf : Bytes) (frame : TcFrame) (t : List Item) : Prop :=
  ∃ u v st', t = u.map Item.ofPsa ++ v ∧
    (frameSecurity frameBuf frame).run.Runs Sdls.anyPsa { ctx, out := frameBuf, outLen := 0 } u (.ok ()) st'

def TcOp.isHandler : TcOp → Bool
  | .psa _ => false
  | .authenticatedRx => false
  | .handler _ _ => true

/-- COP-1 and the reassembly are as before, and no packet handler has been called. -/
structure Untouched (s : State) (t : List Item) (s' : State) : Prop where
  vcState : s'.rx.vcState = s.rx.vcState
  reassembly : s'.rx.reassembly = s.rx.reassembly
  handlers : ∀ item ∈ t, item.op.isHandler = false

omit [Kconfig] in
theorem ofPsa_not_handler (u : List Sdls.Item) : ∀ item ∈ u.map Item.ofPsa, item.op.isHandler = false := by
  intro item listed
  obtain ⟨call, _, rfl⟩ := List.mem_map.mp listed
  rfl

omit [Kconfig] in
/-- The answers on a trace decide what `ccsds_sdls_process_security` returns. -/
theorem SecurityReturnsZero.determined {ctx : Sdls.Ctx} {frameBuf : Bytes} {frame : TcFrame} {t : List Item}
    {u : List Sdls.Item} {v : List ((op : TcOp) × TcRes op)} {result : Except Sdls.SdlsError Unit}
    {st' : Sdls.State}
    (run : (frameSecurity frameBuf frame).run.Runs Sdls.anyPsa { ctx, out := frameBuf, outLen := 0 } u result st')
    (begins : t.map Item.call = u.map (fun item => (Item.ofPsa item).call) ++ v)
    (zero : SecurityReturnsZero ctx frameBuf frame t) : result = .ok () := by
  obtain ⟨u', v', _, rfl, run'⟩ := zero
  rw [List.map_append, List.map_map] at begins
  refine (Act.Runs.determined ?_ run run' begins.symm).2.1
  intro s op r r' same
  cases same
  rfl

omit [Kconfig] in
/-- A script that `ccsds_sdls_process_security` fails on -/
theorem not_zero_of_script {ctx : Sdls.Ctx} {frameBuf : Bytes} {frame : TcFrame} {t : List Item}
    {script : List ((op : Sdls.PsaOp) × Sdls.PsaRes op)} {u : List Sdls.Item} {e : Sdls.SdlsError}
    {result : Except Sdls.SdlsError Unit} {st' : Sdls.State}
    (played : ((frameSecurity frameBuf frame).run { ctx, out := frameBuf, outLen := 0 }).record
      (fun s op r => (⟨s.ctx, op, r⟩ : Sdls.Item)) script = some (u, result, st'))
    (failed : result = .error e)
    (calls : t.map Item.call = script.map fun call => ⟨.psa call.1, call.2⟩) :
    ¬ SecurityReturnsZero ctx frameBuf frame t := by
  intro zero
  have begins : t.map Item.call = u.map (fun item => (Item.ofPsa item).call) ++ [] := by
    rw [List.append_nil, calls]
    exact (Act.map_of_record (fun item => (Item.ofPsa item).call) _ (fun _ _ _ => rfl) played).symm
  rw [zero.determined (Prog.runs_of_record played) begins] at failed
  cases failed

/-- Whatever follows, the trace has begun the same way. -/
theorem SecurityReturnsZero.later {ε α : Type} {ctx : Sdls.Ctx} {frameBuf : Bytes} {frame : TcFrame}
    {t : List Item} (zero : SecurityReturnsZero ctx frameBuf frame t)
    {E : Environment TcOp TcRes State Item} (p : Fallible TcOp TcRes State ε α) (s : State) :
    p.wp E (fun u _ _ => SecurityReturnsZero ctx frameBuf frame (t ++ u))
      (fun u _ _ => SecurityReturnsZero ctx frameBuf frame (t ++ u)) s := by
  obtain ⟨u, v, st', rfl, run⟩ := zero
  have longer : ∀ w, SecurityReturnsZero ctx frameBuf frame (u.map Item.ofPsa ++ v ++ w) :=
    fun w => ⟨u, v ++ w, st', List.append_assoc .., run⟩
  exact Fallible.wp_iff_runs.mpr ⟨fun w _ _ _ => longer w, fun w _ _ _ => longer w⟩

theorem unprotectFrame_gate (reception : Reception) (ctx : Sdls.Ctx) (s : State) :
    (unprotectFrame reception ctx).wp (peers touches)
      (fun t _ _ => SecurityReturnsZero ctx s.rx.frameBuf reception.frame t)
      (fun t _ s' => SecurityReturnsZero ctx s.rx.frameBuf reception.frame t ∨ Untouched s t s') s := by
  simp only [unprotectFrame, Fallible.wp_bind, Fallible.wp_read, Fallible.wp_attempt, wp_embedSdls,
    List.nil_append]
  rw [Fallible.wp_iff_runs]
  constructor
  · intro u _ st' run
    have zero : SecurityReturnsZero ctx s.rx.frameBuf reception.frame (u.map Item.ofPsa) :=
      ⟨u, [], st', (List.append_nil _).symm, run⟩
    apply Fallible.wp_mono (zero.later (callAuthenticatedRx reception) _)
    · intro v _ s₁ zero
      simp only [Fallible.wp_modify, Fallible.wp_pure, List.append_nil]
      exact zero
    · exact fun v e s₁ zero => .inl zero
  · intro u e st' run
    simp only [wp_refuseWith, List.append_nil]
    exact .inr ⟨rfl, rfl, ofPsa_not_handler u⟩

/-- The frame has a segment header, and it names the clear MAP. -/
def SegmentOnClearMap (rx : TcRx) (frameBuf : Bytes) (frame : TcFrame) : Prop :=
  tcSegmentHdrLen ≤ frame.dataLen ∧ rx.OnClearMap (frameBuf.getD frame.data 0)

/-- The frame is on the clear MAP, and that MAP is admitted. -/
def OnEnabledClearMap (rx : TcRx) (frameBuf : Bytes) (frame : TcFrame) : Prop :=
  SegmentOnClearMap rx frameBuf frame ∧ rx.clearMapEnabled = true

/-- The frame is on the clear MAP, and that MAP is not admitted. -/
def OnDisabledClearMap (rx : TcRx) (frameBuf : Bytes) (frame : TcFrame) : Prop :=
  SegmentOnClearMap rx frameBuf frame ∧ rx.clearMapEnabled = false

/-- A protected Type-D frame gets through the SDLS block only if frame security accepts it. -/
theorem secureFrame_gate {reception : Reception} {ctx : Sdls.Ctx} {s : State}
    (attached : s.rx.sdls = some ctx) (typeD : reception.frame.controlCommand = false)
    (guarded : ¬ OnEnabledClearMap s.rx s.rx.frameBuf reception.frame) :
    (secureFrame reception).wp (peers touches)
      (fun t _ _ => ¬ OnDisabledClearMap s.rx s.rx.frameBuf reception.frame ∧
        SecurityReturnsZero ctx s.rx.frameBuf reception.frame t)
      (fun t _ s' => (¬ OnDisabledClearMap s.rx s.rx.frameBuf reception.frame ∧
        SecurityReturnsZero ctx s.rx.frameBuf reception.frame t) ∨ Untouched s t s') s := by
  have unchanged : ∀ result cltuLen ret, Untouched s [] (s.record result cltuLen ret) :=
    fun _ _ _ => ⟨rfl, rfl, by simp⟩
  simp only [secureFrame, Fallible.wp_bind, Fallible.wp_read, List.nil_append, attached, typeD,
    Bool.false_eq_true, if_false]
  by_cases headless : reception.frame.dataLen < tcSegmentHdrLen
  · -- Without a segment header the frame is on no MAP, and it is refused before SDLS sees it.
    simp only [if_pos headless, wp_refuseWith]
    exact .inr (unchanged _ _ _)
  · rw [if_neg headless]
    by_cases clear : s.rx.OnClearMap (s.rx.frameBuf.getD reception.frame.data 0)
    · rw [if_pos clear]
      have disabled : s.rx.clearMapEnabled = false := by
        cases enabled : s.rx.clearMapEnabled with
        | false => rfl
        | true => exact absurd ⟨⟨not_lt.mp headless, clear⟩, enabled⟩ guarded
      simp only [disabled, Bool.false_eq_true, not_false_eq_true, if_true, wp_refuseWith]
      exact .inr (unchanged _ _ _)
    · rw [if_neg clear]
      have enabled : ¬ OnDisabledClearMap s.rx s.rx.frameBuf reception.frame := fun on => clear on.1.2
      apply Fallible.wp_mono (unprotectFrame_gate reception ctx s)
      · exact fun t _ s' zero => ⟨enabled, zero⟩
      · exact fun t e s' refused => refused.imp_left fun zero => ⟨enabled, zero⟩

/-- What is delivered of a protected frame has been accepted; what is refused before that leaves no trace in
COP-1, the reassembly or a handler. -/
theorem tcCltuDispatch_gate {s : State} {ctx : Sdls.Ctx} {cltu frameBuf : Bytes} {reception : Reception}
    (attached : s.rx.sdls = some ctx)
    (carries : receiveCltu cltu s.rx.frameBuf = (frameBuf, .ok reception))
    (typeD : reception.frame.controlCommand = false)
    (guarded : ¬ OnEnabledClearMap s.rx frameBuf reception.frame) :
    (tcCltuDispatch cltu).wp (peers touches)
      (fun t _ _ => ¬ OnDisabledClearMap s.rx frameBuf reception.frame ∧
        SecurityReturnsZero ctx frameBuf reception.frame t)
      (fun t _ s' => (¬ OnDisabledClearMap s.rx frameBuf reception.frame ∧
        SecurityReturnsZero ctx frameBuf reception.frame t) ∨ Untouched s t s') s := by
  simp only [tcCltuDispatch, Fallible.wp_bind, Fallible.wp_read, Fallible.wp_modify, carries,
    List.nil_append]
  cases admitFrame s.rx.acceptedVcid reception.frame with
  | error e =>
    rw [wp_refuseWith]
    exact .inr ⟨rfl, rfl, by simp⟩
  | ok _ =>
    simp only [Fallible.wp_bind]
    -- The decoded frame has replaced the content of the frame buffer.
    have gate := @secureFrame_gate _ _ touches reception ctx (s.withFrameBuf frameBuf) attached typeD guarded
    apply Fallible.wp_mono gate
    · rintro t frame s₁ ⟨enabled, zero⟩
      apply Fallible.wp_mono (zero.later (deliverFrame reception frame) s₁)
      · exact fun u _ _ zero => ⟨enabled, zero⟩
      · exact fun u _ _ zero => .inl ⟨enabled, zero⟩
    · rintro t e s₁ (passed | untouched)
      · exact .inl passed
      · exact .inr ⟨untouched.vcState, untouched.reassembly, untouched.handlers⟩

theorem unauthenticated_frame_refused {s s' : State} {ctx : Sdls.Ctx} {cltu frameBuf : Bytes}
    {reception : Reception} {t : List Item} {result : Except Failure Unit}
    (attached : s.rx.sdls = some ctx)
    (carries : receiveCltu cltu s.rx.frameBuf = (frameBuf, .ok reception))
    (typeD : reception.frame.controlCommand = false)
    (guarded : ¬ OnEnabledClearMap s.rx frameBuf reception.frame)
    (run : (tcCltuDispatch cltu).run.Runs (peers touches) s t result s')
    (refused : OnDisabledClearMap s.rx frameBuf reception.frame ∨
      ¬ SecurityReturnsZero ctx frameBuf reception.frame t) :
    (∃ failure, result = .error failure) ∧ Untouched s t s' := by
  have gate := @tcCltuDispatch_gate _ _ touches s ctx cltu frameBuf reception attached carries typeD guarded
  have closed : ¬ (¬ OnDisabledClearMap s.rx frameBuf reception.frame ∧
      SecurityReturnsZero ctx frameBuf reception.frame t) := by
    rintro ⟨enabled, zero⟩
    exact refused.elim enabled fun refused => refused zero
  cases result with
  | ok _ => exact absurd (Fallible.ok_of_runs gate run) closed
  | error failure => exact ⟨⟨failure, rfl⟩, (Fallible.error_of_runs gate run).resolve_left closed⟩

end ZephyrCcsds.Tc

namespace ZephyrCcsds.Tc

open Callback

section Sample

attribute [local instance] defaultKconfig Sdls.defaultKconfig

/-- A profile whose packets for APID 5 have a handler -/
def sampleProfile (sdls : Option Sdls.Ctx) (authenticatedRxFn : Bool) : State where
  rx := {
    router := { entries := fun i => { apid := 5, handler := 1, active := decide (i.val = 0) } }
    acceptedVcid := 0
    vcState := {
      noRfAvailableFlag := false, noBitLockFlag := false, waitFlag := false, lockoutFlag := false
      retransmitFlag := false, farmBCounter := 0, reportValue := 0 }
    reassembly := .zero
    mapApidRoute := { handler := 0, apid := 0, mapId := 0, active := false }
    frameBuf := List.replicate maxFrameLen 0
    sdls
    clearMapId := 2
    clearMapConfigured := true
    clearMapEnabled := true
    authenticatedRxFn }
  stats := {
    cltusReceived := 0, cltusOversize := 0, cltuDecodeFailures := 0, tcFrameRejects := 0
    controlFramesSeen := 0, packetsDispatched := 0, dispatchFailures := 0, lastError := none
    lastCltuLen := 0, lastTcFrameLen := 0 }

theorem sampleProfile_sdls {sdls : Option Sdls.Ctx} {authenticatedRxFn : Bool} :
    (sampleProfile sdls authenticatedRxFn).rx.sdls = sdls := rfl

theorem sampleProfile_authenticatedRxFn {sdls : Option Sdls.Ctx} {authenticatedRxFn : Bool} :
    (sampleProfile sdls authenticatedRxFn).rx.authenticatedRxFn = authenticatedRxFn := rfl

theorem sampleProfile_clearMapId {sdls : Option Sdls.Ctx} {authenticatedRxFn : Bool} :
    (sampleProfile sdls authenticatedRxFn).rx.clearMapId = 2 := rfl

theorem sampleProfile_frameBuf {sdls : Option Sdls.Ctx} {authenticatedRxFn : Bool} :
    (sampleProfile sdls authenticatedRxFn).rx.frameBuf = List.replicate maxFrameLen 0 := rfl

-- Only the kernel evaluates dispatches on this profile.
attribute [irreducible] sampleProfile

/-- A Type-BD frame on MAP 0 whose packet is protected under SPI 1 -/
def protectedCltu : Bytes :=
  [0xeb, 0x90, 0x20, 0x7b, 0x00, 0x2a, 0x00, 0xc0, 0x00, 0xf2, 0x01, 0x00, 0x00, 0x00, 0x00, 0x00, 0x00, 0x24,
    0x00, 0x00, 0x00, 0x00, 0x00, 0x05, 0x10, 0x22, 0x05, 0xc0, 0x00, 0x00, 0x00, 0xab, 0x00, 0xde, 0x01, 0x02,
    0x03, 0x04, 0x05, 0x06, 0x07, 0x70, 0x08, 0x09, 0x0a, 0x0b, 0x0c, 0x0d, 0x0e, 0x1a, 0x0f, 0x55, 0x55, 0x55,
    0x55, 0x55, 0x55, 0x08, 0xc5, 0xc5, 0xc5, 0xc5, 0xc5, 0xc5, 0xc5, 0x79]

def protectedReception : Reception where
  cltuLen := 66
  tcFrameLen := 49
  frame := {
    spacecraftId := 123, virtualChannelId := 0, bypass := true, controlCommand := false
    frameSequenceNumber := 0, data := 5, dataLen := 38 }

/-- The frame buffer with the frame of that CLTU -/
def protectedFrameBuf : Bytes := (receiveCltu protectedCltu (List.replicate maxFrameLen 0)).1

/-- What PSA is asked to verify of that frame -/
def protectedVerification : Sdls.PsaOp :=
  .aeadDecrypt 14 [0, 0, 0, 0, 0, 0, 0, 0, 0, 0, 0, 5]
    [0x00, 0x7b, 0x00, 0x00, 0x00, 0xc0, 0x00, 0x01, 0x00, 0x00, 0x00, 0x00, 0x00, 0x00, 0x00, 0x00, 0x00, 0x00,
      0x00, 0x00, 0x10, 0x05, 0xc0, 0x00, 0x00, 0x00, 0xab]
    [0, 1, 2, 3, 4, 5, 6, 7, 8, 9, 10, 11, 12, 13, 14, 15]

theorem protectedCltu_received (sdls : Option Sdls.Ctx) (authenticatedRxFn : Bool) :
    receiveCltu protectedCltu (sampleProfile sdls authenticatedRxFn).rx.frameBuf =
      (protectedFrameBuf, .ok protectedReception) := by
  have decoded : (receiveCltu protectedCltu (List.replicate maxFrameLen 0)).2 = .ok protectedReception := by
    decide +kernel
  rw [sampleProfile_frameBuf, ← decoded]
  exact Prod.mk.eta.symm

def sampleSdls : Sdls.Ctx := Sdls.init Sdls.sampleConfiguration

theorem sampleProfile_onClearMap {sdls : Option Sdls.Ctx} {authenticatedRxFn : Bool} :
    ¬ (sampleProfile sdls authenticatedRxFn).rx.OnClearMap 0xc0 := by
  intro on
  have mapId := on.2
  rw [sampleProfile_clearMapId] at mapId
  exact absurd mapId (by decide)

theorem protectedReception_guarded (sdls : Option Sdls.Ctx) (authenticatedRxFn : Bool) :
    ¬ OnEnabledClearMap (sampleProfile sdls authenticatedRxFn).rx protectedFrameBuf protectedReception.frame := by
  intro on
  have header : protectedFrameBuf.getD protectedReception.frame.data 0 = 0xc0 := by decide +kernel
  obtain ⟨⟨-, -, mapId⟩, -⟩ := on
  rw [header, sampleProfile_clearMapId] at mapId
  exact absurd mapId (by decide)

theorem unauthenticated_frame_refused_sample : ∃ t result s',
    (tcCltuDispatch protectedCltu).run.Runs (peers fun _ s s' => s' = s)
      (sampleProfile (some sampleSdls) false) t result s' ∧
    (∃ failure, result = .error failure) ∧ Untouched (sampleProfile (some sampleSdls) false) t s' := by
  have dispatched : (((tcCltuDispatch protectedCltu).run (sampleProfile (some sampleSdls) false)).record
      observeCall [⟨.psa protectedVerification, (.invalidSignature, [])⟩]).isSome = true := by
    decide +kernel
  have refused : (((frameSecurity protectedFrameBuf protectedReception.frame).run
      { ctx := sampleSdls, out := protectedFrameBuf, outLen := 0 }).record
        (fun s op r => (⟨s.ctx, op, r⟩ : Sdls.Item)) [⟨protectedVerification, (.invalidSignature, [])⟩]).any
        (fun played => decide (played.2.1 = .error .authentication)) = true := by
    decide +kernel
  obtain ⟨⟨t, result, s'⟩, played⟩ := Option.isSome_iff_exists.mp dispatched
  obtain ⟨⟨u, verdict, st'⟩, verified, rejected⟩ := (Option.any_eq_true _ _).mp refused
  have rejected := of_decide_eq_true rejected
  obtain ⟨run, calls⟩ := @runs_of_script _ _ (fun _ s s' => s' = s) _ _ _ _ _ _ _ (fun _ _ => rfl) played
  have unverified : ¬ SecurityReturnsZero sampleSdls protectedFrameBuf protectedReception.frame t :=
    not_zero_of_script verified rejected calls
  have guarded := protectedReception_guarded (some sampleSdls) false
  exact ⟨t, result, s', run, unauthenticated_frame_refused sampleProfile_sdls
    (protectedCltu_received (some sampleSdls) false) rfl guarded run (.inr unverified)⟩

end Sample

end ZephyrCcsds.Tc
