import Mathlib.Data.List.FinRange
import ZephyrCcsds.Callback.Embed
import ZephyrCcsds.Fifo
import ZephyrCcsds.Sdls.Security
import ZephyrCcsds.Tc.Frame
import ZephyrCcsds.Tm.Coding

/-! # The TM frame generator

`ccsds_tm_frame.c`: the queues of the virtual channels, the formatter that fills a transfer frame
from a queue, the generator cycle and the admission of packets.  The frame buffer is cleared before
a frame is built and the coded buffer is written as a whole, so neither is part of the state: a
builder returns the frame that the source leaves in `frame_buf`.

The mutexes and the writing end of the pipes belong to the kernel, so a program asks its environment
for them.  `k_pipe_read` with `K_NO_WAIT` does not wait and is a function of the pipe.
-/

namespace ZephyrCcsds.Tm

open Callback Tc

variable [Kconfig] [Sdls.Kconfig]

/-! ## State -/

/-- `struct k_pipe` with its storage -/
abbrev Pipe : Type := Fifo UInt8 tmQueueDepth

/-- `struct ccsds_tm_vc`; no SPI is the value `0`. -/
structure Vc where
  pending : Pipe
  pendingLen : Nat
  packetRem : Nat
  vcfc : UInt8
  routeMask : BitVec tmRouteCount
  sdlsSpi : Option Sdls.SaSlot
  deriving DecidableEq

/-- A route function with its user data -/
abbrev RouteFn : Type := Nat

/-- The static variables of the module.  `clcwProvider` says whether that function pointer is set. -/
structure State where
  vcs : VcId → Vc
  routes : Fin tmRouteCount → Option RouteFn
  clcwProvider : Bool
  mcfc : UInt8
  generatorLastVcid : VcId
  generatorLastCycleActive : Bool
  sdls : Option Sdls.Ctx

/-- The calls out of the module: the kernel, PSA, the CLCW provider and the routes. -/
inductive TmOp where
  | lock (vcid : VcId) (timeout : Timeout)
  | unlock (vcid : VcId)
  | pipeWrite (vcid : VcId) (data : Bytes) (timeout : Timeout)
  | psa (op : Sdls.PsaOp)
  | clcw
  | route (fn : RouteFn) (vcid : VcId) (frame : Bytes)
  deriving DecidableEq

/-- `k_mutex_lock` returns an error or `0`, `k_pipe_write` an error or the number of octets written. -/
@[reducible] def TmRes : TmOp → Type
  | .lock .. => Option Errno
  | .unlock _ => Unit
  | .pipeWrite .. => Except Errno Nat
  | .psa op => Sdls.PsaRes op
  | .clcw => Int × UInt32
  | .route .. => Int

/-- A program of the module that returns `0` or a failure. -/
abbrev TmM (α : Type) : Type := Fallible TmOp TmRes State Failure α

def State.updateVc (s : State) (vcid : VcId) (f : Vc → Vc) : State :=
  { s with vcs := Function.update s.vcs vcid (f (s.vcs vcid)) }

def State.withSdls (s : State) (f : Sdls.Ctx → Sdls.Ctx) : State := { s with sdls := s.sdls.map f }

section Updates

variable (s : State) (vcid : VcId) (f g : Vc → Vc)

@[simp] theorem State.updateVc_same : (s.updateVc vcid f).vcs vcid = f (s.vcs vcid) := Function.update_self ..

theorem State.updateVc_other {other : VcId} (apart : other ≠ vcid) : (s.updateVc vcid f).vcs other = s.vcs other :=
  Function.update_of_ne apart ..

@[simp] theorem State.updateVc_sdls : (s.updateVc vcid f).sdls = s.sdls := rfl

theorem State.updateVc_updateVc : (s.updateVc vcid f).updateVc vcid g = s.updateVc vcid (g ∘ f) := by
  unfold State.updateVc
  simp only [Function.update_idem, Function.update_self, Function.comp_apply]

end Updates

/-! ## Fields of a frame -/

/-- `packet_total_len` -/
def packetTotalLen (packet : Bytes) : Nat := encodedPacketLen packet

/-- `build_primary_header` -/
def buildPrimaryHeader (s : State) (vcid : VcId) (firstHeaderPointer : Nat) : Bytes :=
  Bytes.putBe 2 (spacecraftId % 1024 * 16 + vcid.val * 2 + 1) ++ [s.mcfc, (s.vcs vcid).vcfc] ++
    Bytes.putBe 2 (tmSegmentLengthId * 2048 + firstHeaderPointer % 2048)

/-- `append_fecf` -/
def appendFecf (frame : Bytes) : Bytes :=
  if tmFecf then
    let fecfOffset := tmFrameLen - tmFecfLen
    frame.overwrite fecfOffset (Bytes.putBe 2 (crc16Compute (frame.take fecfOffset)).toNat)
  else
    frame

/-- Whether the next OCF is the FSR -/
def State.fsrDue (s : State) : Option Sdls.Fsr :=
  (s.sdls.filter fun ctx => ctx.fsrEnabled && ctx.fsrNext).map (·.fsr)

/-- `append_ocf` -/
def appendOcf (ocfOffset : Nat) (frame : Bytes) : TmM Bytes := do
  let s ← Fallible.read
  match s.fsrDue with
  | some fsr => pure (frame.overwrite ocfOffset fsr.encode)
  | none =>
    if s.clcwProvider then
      let answer ← Fallible.call TmOp.clcw
      if answer.1 ≠ 0 then pure frame
      else pure (frame.overwrite ocfOffset (Bytes.putBe 4 answer.2.toNat))
    else
      pure frame

/-- `complete_ocf` -/
def State.completeOcf (s : State) : State :=
  s.withSdls fun ctx => if ctx.fsrEnabled then { ctx with fsrNext := !ctx.fsrNext } else ctx

/-- `increment_frame_counters` -/
def State.incrementFrameCounters (s : State) (vcid : VcId) : State :=
  { s.updateVc vcid fun vc => { vc with vcfc := vc.vcfc + 1 } with mcfc := s.mcfc + 1 }

/-! ## Frame security -/

/-- The context and the SA that protect a virtual channel -/
def State.security (s : State) (vcid : VcId) : Option (Sdls.Ctx × Sdls.SaSlot) :=
  match s.sdls, (s.vcs vcid).sdlsSpi with
  | some ctx, some slot => if Kconfig.sdls then some (ctx, slot) else none
  | _, _ => none

/-- `security_enabled` -/
def State.securityEnabled (s : State) (vcid : VcId) : Bool := (s.security vcid).isSome

/-- `security_overhead` -/
def State.securityOverhead (s : State) (vcid : VcId) : Nat :=
  if s.securityEnabled vcid then Sdls.protectedOverhead else 0

/-- `security_header_len` -/
def State.securityHeaderLen (s : State) (vcid : VcId) : Nat :=
  if s.securityEnabled vcid then Sdls.securityHeaderLen else 0

/-- `data_len` of both builders -/
def State.dataLen (s : State) (vcid : VcId) : Nat :=
  tmFrameLen - tmPrimaryHdrLen - s.securityOverhead vcid - tmOcfLen - tmFecfLen

/-- `ocf_offset` of both builders -/
def State.ocfOffset (s : State) (vcid : VcId) : Nat := tmPrimaryHdrLen + s.securityOverhead vcid + s.dataLen vcid

/-- `ccsds_sdls_tm_default_auth_mask` -/
def tmDefaultAuthMask : Bytes := [0x3f, 0xfe, 0x00, 0x00, 0x00, 0x00]

/-- The authentication header of a frame: its primary header -/
def tmAuthHeader (frame : Bytes) : Sdls.AuthHeader where
  data := List.ofFn fun i : Fin tmPrimaryHdrLen => frame.getD i 0
  mask := tmDefaultAuthMask
  mask_le := by
    rw [List.length_ofFn]
    decide

/-- The state of SDLS within that of the module: its context.  The output buffer is the frame. -/
def sdlsPart : Part State Sdls.State where
  view s t := { t with ctx := s.sdls.getD t.ctx }
  store t s := { s with sdls := some t.ctx }
  view_store _ _ := rfl
  store_store _ _ _ := rfl

/-- `ccsds_sdls_apply_security` to a frame, in place -/
def protectFrame (slot : Sdls.SaSlot) (auth : Sdls.AuthHeader) (dataLen : Nat) : Sdls.Recipient Bytes := do
  Sdls.applySecurity .operationalTmTx slot auth (.within (tmPrimaryHdrLen + Sdls.securityHeaderLen) dataLen)
    tmPrimaryHdrLen
  let s ← Fallible.read
  pure s.out

/-- `apply_security`, where the channel is protected -/
def applySecurity (vcid : VcId) (frame : Bytes) : TmM Bytes := do
  let s ← Fallible.read
  match s.security vcid with
  | none => pure frame
  | some (ctx, slot) =>
    let dataLen := tmFrameLen - tmPrimaryHdrLen - Sdls.protectedOverhead - tmOcfLen - tmFecfLen
    let ret ← Fallible.attempt ((protectFrame slot (tmAuthHeader frame) dataLen).embed sdlsPart TmOp.psa
      { ctx, out := frame, outLen := 0 })
    Fallible.ofExcept (ret.mapError .sdls)

/-! ## Filling a frame -/

/-- `k_pipe_read` with `K_NO_WAIT` -/
def kPipeRead (pipe : Pipe) (len : Nat) : Except Errno (Bytes × Pipe) :=
  if pipe.items = [] then .error .eagain else .ok (pipe.get len)

/-- The loop of `read_pending_bytes`; every turn reads something, so `fuel` turns read `fuel` octets. -/
def Vc.readPendingFrom : (fuel missing : Nat) → Bytes → Vc → Vc × Except Errno Bytes
  | 0, _, buf, vc => (vc, .ok buf)
  | fuel + 1, missing, buf, vc =>
    if missing = 0 then (vc, .ok buf)
    else
      match kPipeRead vc.pending missing with
      | .error e => (vc, .error e)
      | .ok read =>
        if read.1.length = 0 then (vc, .error .eio)
        else
          Vc.readPendingFrom fuel (missing - read.1.length) (buf ++ read.1)
            { vc with pending := read.2, pendingLen := vc.pendingLen - read.1.length }

/-- `read_pending_bytes`.  What has been read before an error is lost. -/
def Vc.readPendingBytes (vc : Vc) (len : Nat) : Vc × Except Errno Bytes := vc.readPendingFrom len len []

/-- The local variables of the loop that fills a frame: `data` holds the first `used` octets. -/
structure Fill where
  vc : Vc
  data : Bytes
  firstHeaderPointer : Nat
  deriving DecidableEq

def Fill.used (fill : Fill) : Nat := fill.data.length

/-- The octets of the packet that is open -/
def Fill.continuePacket (fill : Fill) (space : Nat) : Fill × Except Errno Unit :=
  let chunkLen := min fill.vc.packetRem space
  match fill.vc.readPendingBytes chunkLen with
  | (vc, .error e) => ({ fill with vc }, .error e)
  | (vc, .ok octets) =>
    ({ fill with vc := { vc with packetRem := vc.packetRem - chunkLen }, data := fill.data ++ octets }, .ok ())

/-- The header of the next packet, which opens it -/
def Fill.startPacket (fill : Fill) : Fill × Except Errno Unit :=
  if fill.vc.pendingLen < spacePacketPrimaryHdrLen then (fill, .error .eio)
  else
    let firstHeaderPointer :=
      if fill.firstHeaderPointer = tmNoFirstHeaderPointer then fill.used else fill.firstHeaderPointer
    match fill.vc.readPendingBytes spacePacketPrimaryHdrLen with
    | (vc, .error e) => ({ fill with vc, firstHeaderPointer }, .error e)
    | (vc, .ok header) =>
      ({ vc := { vc with packetRem := packetTotalLen header - spacePacketPrimaryHdrLen }
         data := fill.data ++ header
         firstHeaderPointer }, .ok ())

/-- The condition of the loop, and no `break` -/
def Fill.More (fill : Fill) (dataLen : Nat) : Prop :=
  fill.used < dataLen ∧ (0 < fill.vc.packetRem ∨ 0 < fill.vc.pendingLen) ∧
    ¬ (fill.vc.packetRem = 0 ∧ dataLen - fill.used < spacePacketPrimaryHdrLen)

instance (fill : Fill) (dataLen : Nat) : Decidable (fill.More dataLen) := inferInstanceAs (Decidable (_ ∧ _ ∧ _))

/-- One turn of the loop -/
def Fill.turn (fill : Fill) (dataLen : Nat) : Fill × Except Errno Unit :=
  if 0 < fill.vc.packetRem then fill.continuePacket (dataLen - fill.used) else fill.startPacket

/-- The loop of `build_packet_transfer_frame`; every turn fills something. -/
def Fill.loop (dataLen : Nat) : (fuel : Nat) → Fill → Fill × Except Errno Unit
  | 0, fill => (fill, .ok ())
  | fuel + 1, fill =>
    if fill.More dataLen then
      match fill.turn dataLen with
      | (fill, .error e) => (fill, .error e)
      | (fill, .ok ()) => Fill.loop dataLen fuel fill
    else
      (fill, .ok ())

/-- `fill_idle_space_packet` -/
def fillIdleSpacePacket (len : Nat) : Bytes :=
  if len < spacePacketMinLen then List.replicate len 0
  else
    Bytes.putBe 2 tmIdleApid ++ Bytes.putBe 2 (sequenceUnsegmented * 16384) ++
      Bytes.putBe 2 (len - spacePacketPrimaryHdrLen - 1) ++ List.replicate (len - spacePacketPrimaryHdrLen) 0

/-- The data field and the First Header Pointer once the rest has been filled -/
def Fill.finish (fill : Fill) (dataLen : Nat) : Bytes × Nat :=
  if fill.used < dataLen then
    (fill.data ++ fillIdleSpacePacket (dataLen - fill.used),
      if fill.firstHeaderPointer = tmNoFirstHeaderPointer ∧ spacePacketMinLen ≤ dataLen - fill.used then fill.used
      else fill.firstHeaderPointer)
  else
    (fill.data, fill.firstHeaderPointer)

/-- The loop from its start -/
def Vc.fill (vc : Vc) (dataLen : Nat) : Fill × Except Errno Unit :=
  Fill.loop dataLen dataLen { vc, data := [], firstHeaderPointer := tmNoFirstHeaderPointer }

/-! ## The builders -/

/-- `memset(frame_buf, 0, CCSDS_TM_FRAME_LEN)` -/
def clearedFrame : Bytes := List.replicate tmFrameLen 0

/-- The frame before security: data field and primary header -/
def layOut (s : State) (vcid : VcId) (firstHeaderPointer : Nat) (data : Bytes) : Bytes :=
  (clearedFrame.overwrite (tmPrimaryHdrLen + s.securityHeaderLen vcid) data).overwrite 0
    (buildPrimaryHeader s vcid firstHeaderPointer)

/-- The end of both builders: security, OCF, FECF, OCF phase and counters -/
def finishFrame (vcid : VcId) (frame : Bytes) : TmM Bytes := do
  let s ← Fallible.read
  let frame ← applySecurity vcid frame
  let frame ← appendOcf (s.ocfOffset vcid) frame
  Fallible.modify fun s => s.completeOcf.incrementFrameCounters vcid
  pure (appendFecf frame)

/-- `build_idle_transfer_frame` -/
def buildIdleTransferFrame (vcid : VcId) : TmM Bytes := do
  let s ← Fallible.read
  finishFrame vcid (layOut s vcid tmIdleFirstHeaderPointer [])

/-- `k_mutex_lock` with `K_FOREVER`, whose result is not looked at -/
def lockForever (vcid : VcId) : TmM Unit := do
  let _ ← Fallible.call (TmOp.lock vcid .forever)
  pure ()

def unlock (vcid : VcId) : TmM Unit := do
  let _ ← Fallible.call (TmOp.unlock vcid)
  pure ()

/-- What `build_packet_transfer_frame` does while it holds the lock -/
def formatPacketFrame (vcid : VcId) : TmM Bytes := do
  let s ← Fallible.read
  let dataLen := s.dataLen vcid
  let filled := (s.vcs vcid).fill dataLen
  Fallible.modify fun s => s.updateVc vcid fun _ => filled.1.vc
  Fallible.ofExcept (filled.2.mapError .errno)
  let finished := filled.1.finish dataLen
  let s ← Fallible.read
  finishFrame vcid (layOut s vcid finished.2 finished.1)

/-- `build_packet_transfer_frame` -/
def buildPacketTransferFrame (vcid : VcId) : TmM Bytes := do
  lockForever vcid
  let ret ← Fallible.attempt (formatPacketFrame vcid)
  unlock vcid
  Fallible.ofExcept ret

/-! ## The generator -/

/-- The bits of a route mask, in ascending order -/
def selectedBits (routeMask : BitVec tmRouteCount) : List (Fin tmRouteCount) :=
  (List.finRange tmRouteCount).filter fun bit => routeMask.getLsb bit

/-- The loop of `route_frame` -/
def routeFrameTo (vcid : VcId) (frame : Bytes) : List (Fin tmRouteCount) → TmM Unit
  | [] => pure ()
  | bit :: bits => do
    let s ← Fallible.read
    match s.routes bit with
    | none => routeFrameTo vcid frame bits
    | some fn =>
      let _ ← Fallible.call (TmOp.route fn vcid frame)
      routeFrameTo vcid frame bits

/-- `route_frame` -/
def routeFrame (vcid : VcId) (frame : Bytes) : TmM Unit := do
  let s ← Fallible.read
  routeFrameTo vcid frame (selectedBits (s.vcs vcid).routeMask)

/-- `vc_has_pending_bytes` -/
def vcHasPendingBytes (vcid : VcId) : TmM Bool := do
  lockForever vcid
  let s ← Fallible.read
  let hasPending := decide (0 < (s.vcs vcid).pendingLen ∨ 0 < (s.vcs vcid).packetRem)
  unlock vcid
  pure hasPending

/-- The loop of `generator_select_active_vc` -/
def selectActiveVc : List VcId → TmM (Option VcId)
  | [] => pure none
  | vcid :: vcids => do
    let hasPending ← vcHasPendingBytes vcid
    if hasPending then pure (some vcid) else selectActiveVc vcids

/-- `generator_select_active_vc` -/
def generatorSelectActiveVc : TmM (Option VcId) := selectActiveVc (List.finRange tmVcCount)

/-- What a cycle returns, with the frame that it emits -/
structure Cycle where
  active : Bool
  vcid : VcId
  frame : Option Bytes
  deriving DecidableEq

/-- Code and route the frame of a builder that succeeded -/
def emitFrame (vcid : VcId) (active : Bool) (ret : Except Failure Bytes) : TmM Cycle :=
  match ret with
  | .error _ => pure { active, vcid, frame := none }
  | .ok frame => do
    routeFrame vcid (codeTransferFrame frame)
    pure { active, vcid, frame := some frame }

/-- `generator_cycle` -/
def generatorCycle : TmM Cycle := do
  let selected ← generatorSelectActiveVc
  match selected with
  | none =>
    Fallible.modify fun s =>
      { s with generatorLastCycleActive := false, generatorLastVcid := tmIdleVcId }
    let ret ← Fallible.attempt (buildIdleTransferFrame tmIdleVcId)
    emitFrame tmIdleVcId false ret
  | some vcid =>
    Fallible.modify fun s => { s with generatorLastCycleActive := true, generatorLastVcid := vcid }
    let ret ← Fallible.attempt (buildPacketTransferFrame vcid)
    emitFrame vcid true ret

/-! ## Admission -/

/-- The loop of `ccsds_tm_frame_add`; every turn writes something. -/
def writePacket (vcid : VcId) (timeout : Timeout) : (fuel : Nat) → Bytes → TmM Unit
  | 0, _ => pure ()
  | fuel + 1, packet => do
    if packet = [] then pure ()
    else
      let ret ← Fallible.call (TmOp.pipeWrite vcid packet timeout)
      let written ← Fallible.ofExcept (ret.mapError .errno)
      Fallible.failIf (written = 0) (.errno .eio)
      Fallible.modify fun s => s.updateVc vcid fun vc => { vc with pendingLen := vc.pendingLen + written }
      writePacket vcid timeout fuel (packet.drop written)

/-- The checks of `ccsds_tm_frame_add`, with the channel that it goes on with -/
def checkPacket (vcid : Nat) (packet : Bytes) : Except Errno VcId :=
  if packet.length < spacePacketMinLen then .error .einval
  else if packetTotalLen packet ≠ packet.length then .error .einval
  else if tmMaxSpacePacketLen < packet.length then .error .emsgsize
  else if tmQueueDepth < packet.length then .error .emsgsize
  else if bound : vcid < tmVcCount then .ok ⟨vcid, bound⟩
  else .error .einval

/-- `ccsds_tm_frame_add` -/
def frameAdd (vcid : Nat) (packet : Bytes) (timeout : Timeout) : TmM Unit := do
  let vcid ← Fallible.ofExcept ((checkPacket vcid packet).mapError .errno)
  let locked ← Fallible.call (TmOp.lock vcid timeout)
  match locked with
  | some e => Fallible.fail (.errno e)
  | none =>
    let ret ← Fallible.attempt (writePacket vcid timeout packet.length packet)
    unlock vcid
    Fallible.ofExcept ret

/-! ## Configuration -/

def Vc.init : Vc where
  pending := .empty
  pendingLen := 0
  packetRem := 0
  vcfc := 0
  routeMask := 0
  sdlsSpi := none

/-- `ccsds_tm_frame_init`; the SPI of a channel keeps its value, which is `0` at first. -/
def init (sdlsSpi : VcId → Option Sdls.SaSlot) : State where
  vcs vcid := { Vc.init with sdlsSpi := sdlsSpi vcid }
  routes _ := none
  clcwProvider := false
  mcfc := 0
  generatorLastVcid := tmIdleVcId
  generatorLastCycleActive := false
  sdls := none

/-- `ccsds_tm_frame_set_sdls` -/
def State.setSdls (s : State) (ctx : Sdls.Ctx) (slot : Sdls.SaSlot) : State :=
  { s with sdls := some ctx, vcs := fun vcid => { s.vcs vcid with sdlsSpi := some slot } }

/-- `ccsds_tm_frame_set_vc_sdls` -/
def State.setVcSdls (s : State) (vcid : VcId) (spi : Option Sdls.SaSlot) : State :=
  s.updateVc vcid fun vc => { vc with sdlsSpi := spi }

/-- `ccsds_tm_frame_set_clcw_provider` -/
def State.setClcwProvider (s : State) (provided : Bool) : State := { s with clcwProvider := provided }

/-- `CCSDS_TM_SUPPORTED_ROUTE_MASK` -/
def tmSupportedRouteMask : BitVec tmRouteCount := 0x7001f#32

/-- `route_bit_is_valid` -/
def routeBitIsValid (routeBit : BitVec tmRouteCount) : Bool :=
  routeBit != 0#32 && routeBit &&& (routeBit - 1#32) == 0#32 && routeBit &&& tmSupportedRouteMask != 0#32

/-- `route_mask_is_valid` -/
def routeMaskIsValid (routeMask : BitVec tmRouteCount) : Bool := routeMask &&& ~~~tmSupportedRouteMask == 0#32

/-- `route_bit_index` of a valid bit -/
def routeBitIndex (routeBit : BitVec tmRouteCount) : Option (Fin tmRouteCount) :=
  (List.finRange tmRouteCount).find? fun bit => routeBit >>> bit.val == 1#32

/-- `ccsds_tm_frame_register_route` -/
def State.registerRoute (s : State) (routeBit : BitVec tmRouteCount) (fn : RouteFn) : Except Errno State :=
  if routeBitIsValid routeBit then
    match routeBitIndex routeBit with
    | some bit => .ok { s with routes := Function.update s.routes bit (some fn) }
    | none => .error .einval
  else
    .error .einval

/-- `ccsds_tm_frame_set_vc_route` -/
def State.setVcRoute (s : State) (vcid : Nat) (routeMask : BitVec tmRouteCount) : Except Errno State :=
  if bound : vcid < tmVcCount then
    if routeMaskIsValid routeMask then .ok (s.updateVc ⟨vcid, bound⟩ fun vc => { vc with routeMask })
    else .error .einval
  else
    .error .einval

end ZephyrCcsds.Tm
