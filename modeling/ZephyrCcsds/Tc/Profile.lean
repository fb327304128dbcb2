import Mathlib.Data.List.FinRange
import ZephyrCcsds.Callback.Embed
import ZephyrCcsds.Sdls.Security
import ZephyrCcsds.Tc.Coding
import ZephyrCcsds.Tc.Frame

/-! # The telecommand receive profile

`ccsds_profile.c` with the router of `ccsds_router.c` and the segment walk of
`ccsds_tc_segment.c`: from a complete CLTU through channel decoding, frame security and
COP-1 acceptance to the packet handlers.  The profile owns one frame buffer, into which
`ccsds_sdls_process_security` decrypts; that call runs on the buffer and the SDLS context as
a part of the profile's state.
-/

namespace ZephyrCcsds.Tc

open Callback

variable [Kconfig]

/-! ## State -/

/-- `struct ccsds_profile_tc_vc_state` -/
structure TcVcState where
  noRfAvailableFlag : Bool
  noBitLockFlag : Bool
  waitFlag : Bool
  lockoutFlag : Bool
  retransmitFlag : Bool
  farmBCounter : UInt8
  reportValue : UInt8
  deriving DecidableEq, Repr

/-- `struct ccsds_profile_tc_reassembly`; what it holds fits into its buffer. -/
structure TcReassembly where
  active : Bool
  mapId : Nat
  len : Nat
  expectedLen : Nat
  buffer : Bytes
  len_le : len ≤ tcMaxSpacePacketLen
  buffer_length : buffer.length = tcMaxSpacePacketLen
  deriving DecidableEq

/-- A handler function with its user data -/
abbrev Handler : Type := Nat

/-- `struct ccsds_profile_map_apid_route` -/
structure MapApidRoute where
  handler : Handler
  apid : Nat
  mapId : Nat
  active : Bool
  deriving DecidableEq, Repr

/-- `struct ccsds_router_entry` -/
structure RouterEntry where
  apid : Nat
  handler : Handler
  active : Bool
  deriving DecidableEq, Repr

/-- `struct ccsds_router` -/
structure Router where
  entries : Fin routerMaxApids → RouterEntry

/-- `enum ccsds_profile_tc_cltu_stage`, without the value that no dispatch records -/
inductive TcCltuStage where
  | oversize
  | cltu
  | tcFrame
  | sdls
  | control
  | packet
  | router
  | dispatched
  deriving DecidableEq, Repr

/-- `struct ccsds_profile_tc_rx_stats`; no error is the value `0`. -/
structure TcRxStats where
  cltusReceived : UInt32
  cltusOversize : UInt32
  cltuDecodeFailures : UInt32
  tcFrameRejects : UInt32
  controlFramesSeen : UInt32
  packetsDispatched : UInt32
  dispatchFailures : UInt32
  lastError : Option Failure
  lastCltuLen : Nat
  lastTcFrameLen : Nat
  deriving DecidableEq, Repr

variable [Sdls.Kconfig]

/-- `struct ccsds_profile_tc_rx`, with the router and the SDLS context it points to.  `authenticatedRxFn`
says whether that function pointer is set; the workspace of SDLS is scratch memory. -/
structure TcRx where
  router : Router
  acceptedVcid : Nat
  vcState : TcVcState
  reassembly : TcReassembly
  mapApidRoute : MapApidRoute
  frameBuf : Bytes
  sdls : Option Sdls.Ctx
  clearMapId : Nat
  clearMapConfigured : Bool
  clearMapEnabled : Bool
  authenticatedRxFn : Bool

/-- A profile and the statistics of the module. -/
structure State where
  rx : TcRx
  stats : TcRxStats

/-- The calls out of the module: PSA, the callback for authenticated frames and packet handlers. -/
inductive TcOp where
  | psa (op : Sdls.PsaOp)
  | authenticatedRx
  | handler (handler : Handler) (packet : SpacePacket)
  deriving DecidableEq, Repr

@[reducible] def TcRes : TcOp → Type
  | .psa op => Sdls.PsaRes op
  | .authenticatedRx => Int
  | .handler .. => Int

/-- A program of the profile that returns `0` or a failure. -/
abbrev ProfileM (α : Type) : Type := Fallible TcOp TcRes State Failure α

/-! ## Updates -/

def State.withRx (s : State) (f : TcRx → TcRx) : State := { s with rx := f s.rx }

def State.withFrameBuf (s : State) (frameBuf : Bytes) : State := s.withRx fun rx => { rx with frameBuf }

def State.withVcState (s : State) (vcState : TcVcState) : State := s.withRx fun rx => { rx with vcState }

def State.withReassembly (s : State) (reassembly : TcReassembly) : State :=
  s.withRx fun rx => { rx with reassembly }

/-- A change of the SDLS context, if one is attached -/
def State.withSdls (s : State) (f : Sdls.Ctx → Sdls.Ctx) : State :=
  s.withRx fun rx => { rx with sdls := rx.sdls.map f }

/-! ## Reassembly -/

/-- `memset(reassembly, 0, sizeof(*reassembly))` -/
def TcReassembly.zero : TcReassembly where
  active := false
  mapId := 0
  len := 0
  expectedLen := 0
  buffer := List.replicate tcMaxSpacePacketLen 0
  len_le := Nat.zero_le _
  buffer_length := List.length_replicate

/-- The choice of the packet that a part belongs to -/
def TcReassembly.start (reassembly : TcReassembly) (part : TcSegmentPart) : TcReassembly × Except Errno Unit :=
  if part.startsPacket then
    if reassembly.active then (.zero, .error .ebusy)
    else if part.packetLen = 0 ∨ tcMaxSpacePacketLen < part.packetLen then (reassembly, .error .emsgsize)
    else
      ({ reassembly with
          active := true, mapId := part.mapId, len := 0, expectedLen := part.packetLen
          len_le := Nat.zero_le _ }, .ok ())
  else if ¬ reassembly.active ∨ reassembly.mapId ≠ part.mapId then (.zero, .error .einval)
  else (reassembly, .ok ())

omit [Sdls.Kconfig] in
theorem overwrite_buffer_length (reassembly : TcReassembly) {data : Bytes}
    (fits : data.length ≤ tcMaxSpacePacketLen - reassembly.len) :
    (reassembly.buffer.overwrite reassembly.len data).length = tcMaxSpacePacketLen := by
  have bound := reassembly.len_le
  have length := reassembly.buffer_length
  rw [Bytes.overwrite_length (by omega), length]

/-- The copy of a part into the buffer, and the checks up to the decoding of the packet -/
def TcReassembly.append (reassembly : TcReassembly) (part : TcSegmentPart) : TcReassembly × Except Errno Unit :=
  if fits : part.data.length ≤ tcMaxSpacePacketLen - reassembly.len then
    let len := reassembly.len + part.data.length
    if tcMaxSpacePacketLen < reassembly.expectedLen ∨ reassembly.expectedLen < len then
      (.zero, .error .emsgsize)
    else if part.endsPacket ∧ len ≠ reassembly.expectedLen then (.zero, .error .emsgsize)
    else
      ({ reassembly with
          buffer := reassembly.buffer.overwrite reassembly.len part.data, len
          len_le := by
            have bound := reassembly.len_le
            omega
          buffer_length := overwrite_buffer_length reassembly fits }, .ok ())
  else
    (.zero, .error .emsgsize)

/-! ## Packets -/

/-- A call of a packet handler -/
def callHandler (handler : Handler) (packet : SpacePacket) : ProfileM Unit := do
  let code ← Fallible.call (TcOp.handler handler packet)
  Fallible.failIf (code ≠ 0) (.callback code)

/-- The entry that the loop of `ccsds_router_dispatch` stops at -/
def Router.find (router : Router) (apid : Nat) : Option RouterEntry :=
  ((List.finRange routerMaxApids).map router.entries).find? fun entry => entry.active && entry.apid == apid

/-- `ccsds_router_dispatch` -/
def routerDispatch (packet : SpacePacket) : ProfileM Unit := do
  Fallible.failIf (apidMax < packet.apid) (.errno .einval)
  let s ← Fallible.read
  match s.rx.router.find packet.apid with
  | some entry => callHandler entry.handler packet
  | none => Fallible.fail (.errno .enoent)

/-- `dispatch_tc_packet` -/
def dispatchTcPacket (mapId : Nat) (packet : SpacePacket) : ProfileM Unit := do
  let s ← Fallible.read
  let route := s.rx.mapApidRoute
  if route.active ∧ route.mapId = mapId ∧ route.apid = packet.apid then
    callHandler route.handler packet
  else
    routerDispatch packet

/-- The decoding of a packet and its dispatch -/
def dispatchEncodedPacket (mapId : Nat) (encoded : Bytes) : ProfileM Unit :=
  match spacePacketDecode encoded with
  | .error e => Fallible.fail (.errno e)
  | .ok packet => dispatchTcPacket mapId packet

/-- A step of the reassembly, which is stored before its error is returned -/
def reassemble (step : TcReassembly → TcReassembly × Except Errno Unit) : ProfileM Unit := do
  let s ← Fallible.read
  let stepped := step s.rx.reassembly
  Fallible.modify fun s => s.withReassembly stepped.1
  match stepped.2 with
  | .error e => Fallible.fail (.errno e)
  | .ok () => pure ()

/-- `dispatch_tc_segment_part`, with the number of packets it has dispatched -/
def dispatchTcSegmentPart (part : TcSegmentPart) : ProfileM Nat := do
  if part.startsPacket && part.endsPacket then
    let s ← Fallible.read
    Fallible.failIf (s.rx.reassembly.active = true) (.errno .ebusy)
    dispatchEncodedPacket part.mapId part.data
    pure 1
  else
    reassemble (·.start part)
    reassemble (·.append part)
    if ¬ part.endsPacket then
      pure 0
    else
      let s ← Fallible.read
      let reassembly := s.rx.reassembly
      let ret ← Fallible.attempt
        (dispatchEncodedPacket reassembly.mapId (reassembly.buffer.take reassembly.len))
      Fallible.modify fun s => s.withReassembly .zero
      match ret with
      | .error e => Fallible.fail e
      | .ok () => pure 1

/-- The loop of `ccsds_tc_segment_walk_parts` over complete packets.  Every packet has octets, so there
are no more turns than octets. -/
def walkPackets (mapId : Nat) : (turns : Nat) → Bytes → ProfileM Nat
  | 0, _ => pure 0
  | turns + 1, data =>
    if data.length = 0 then pure 0
    else if data.length < spacePacketPrimaryHdrLen then Fallible.fail (.errno .einval)
    else
      let packetLen := encodedPacketLen data
      if data.length < packetLen then Fallible.fail (.errno .einval)
      else do
        let first ← dispatchTcSegmentPart {
          mapId, segmentBoundary := .unsegmented, startsPacket := true, endsPacket := true
          data := data.take packetLen, packetLen }
        let rest ← walkPackets mapId turns (data.drop packetLen)
        pure (first + rest)

/-- `ccsds_tc_segment_walk_parts` with `dispatch_tc_segment_part` -/
def walkParts (segment : TcSegment) : ProfileM Nat :=
  if segment.data.length = 0 then Fallible.fail (.errno .einval)
  else
    match segment.boundary with
    | .continuation | .last =>
      dispatchTcSegmentPart {
        mapId := segment.mapId, segmentBoundary := segment.boundary, startsPacket := false
        endsPacket := segment.boundary.endsPacket, data := segment.data, packetLen := 0 }
    | .first =>
      if segment.data.length < spacePacketPrimaryHdrLen then Fallible.fail (.errno .einval)
      else if encodedPacketLen segment.data ≤ segment.data.length then Fallible.fail (.errno .einval)
      else
        dispatchTcSegmentPart {
          mapId := segment.mapId, segmentBoundary := segment.boundary, startsPacket := true
          endsPacket := false, data := segment.data, packetLen := encodedPacketLen segment.data }
    | .unsegmented => walkPackets segment.mapId segment.data.length segment.data

/-! ## COP-1 -/

/-- `CCSDS_TC_COP1_HALF_WINDOW` -/
def tcCop1HalfWindow : UInt8 := UInt8.ofNat (cop1WindowSize / 2)

/-- `handle_tc_control_frame`: Unlock and Set V(R) -/
def TcVcState.handleControlFrame (vcState : TcVcState) (data : Bytes) : TcVcState × Except Errno Unit :=
  if data.length = 0 then (vcState, .error .einval)
  else if data.getD 0 0 = 0x00 then
    ({ vcState with lockoutFlag := false, retransmitFlag := false }, .ok ())
  else if vcState.lockoutFlag then (vcState, .error .eacces)
  else if 3 ≤ data.length ∧ data.getD 0 0 = 0x82 ∧ data.getD 1 0 = 0x00 then
    ({ vcState with reportValue := data.getD 2 0, retransmitFlag := false }, .ok ())
  else (vcState, .error .enotsup)

/-- `update_tc_sequence_state` -/
def TcVcState.updateSequenceState (vcState : TcVcState) (frame : TcFrame) : TcVcState × Except Errno Unit :=
  let expected := vcState.reportValue
  let received := frame.frameSequenceNumber
  if vcState.lockoutFlag then (vcState, .error .eacces)
  else if frame.bypass ∨ frame.controlCommand then (vcState, .ok ())
  else if received = expected then
    ({ vcState with reportValue := expected + 1, retransmitFlag := false }, .ok ())
  else if expected - received < tcCop1HalfWindow then (vcState, .error .eagain)
  else if received - expected < tcCop1HalfWindow then
    ({ vcState with retransmitFlag := true }, .error .eagain)
  else ({ vcState with lockoutFlag := true }, .error .eagain)

end ZephyrCcsds.Tc
