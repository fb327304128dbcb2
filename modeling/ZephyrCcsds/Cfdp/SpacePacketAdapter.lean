import ZephyrCcsds.Callback.Serve
import ZephyrCcsds.Cfdp.EntityOutcome
import ZephyrCcsds.Tc.Router
import ZephyrCcsds.Tc.SpacePackets

/-! # CFDP over Space Packets

`ccsds_cfdp_space_packet.c` and `ccsds_cfdp_service.c`: an entity whose PDUs travel in Space Packets.

* `Adapter` — the adapter, with `spacePacketSendPdu` for the `send_pdu` of the entity.
* `rxHandler` — the handler that `registerRx` gives to the router.
* `ServiceCall` — the entry points of the service, as programs over entity and adapter.
* `Adapter.Numbers` — the packets that leave a service carry the PDUs and are numbered in turn.
-/

namespace ZephyrCcsds.Cfdp

open Callback

variable [Kconfig]

/-! ## The adapter -/

/-- `enum ccsds_packet_type` -/
inductive PacketType where
  | tm
  | tc
  deriving DecidableEq, Repr

def PacketType.toNat : PacketType → Nat
  | .tm => 0
  | .tc => 1

/-- `CCSDS_SEQUENCE_UNSEGMENTED` -/
def sequenceUnsegmented : Nat := 3

/-- `struct ccsds_cfdp_space_packet_adapter`.  Of the pointers only it is kept whether they are set; `packet_buf` is
rewritten by every send. -/
structure Adapter where
  remoteEntityId : Nat
  localApid : Nat
  remoteApid : Nat
  packetType : PacketType
  sequenceCount : Nat
  nowMs : Bool
  receiveEntity : Bool
  receiveFilestore : Option FilestoreOps
  deriving DecidableEq, Repr

structure AdapterConfig where
  remoteEntityId : UInt64
  localApid : UInt16
  remoteApid : UInt16
  packetType : PacketType
  initialSequenceCount : UInt16
  sendPacket : Bool
  nowMs : Bool
  deriving DecidableEq, Repr

/-- `ccsds_cfdp_space_packet_adapter_init` -/
def adapterInit (config : AdapterConfig) : Except Status Adapter :=
  if Tc.apidMax < config.localApid.toNat ∨ Tc.apidMax < config.remoteApid.toNat ∨
      0x3fff < config.initialSequenceCount.toNat ∨ config.sendPacket = false then .error .invalidArgument
  else .ok
    { remoteEntityId := config.remoteEntityId.toNat
      localApid := config.localApid.toNat
      remoteApid := config.remoteApid.toNat
      packetType := config.packetType
      sequenceCount := config.initialSequenceCount.toNat
      nowMs := config.nowMs
      receiveEntity := false
      receiveFilestore := none }

/-- `ccsds_cfdp_space_packet_adapter_ut_ops` -/
def Adapter.utOps (adapter : Adapter) : UtOps where
  sendPdu := true
  nowMs := adapter.nowMs

/-- The callbacks of a service: `send_packet`, what the entity calls itself, `now_ms` as the adapter passes it on, and
the handlers of other applications that the router calls -/
inductive ServiceOp where
  | sendPacket (packet : Bytes)
  | entity (op : Op)
  | handle (handler : Tc.Handler) (packet : Tc.SpacePacket)
  deriving DecidableEq, Repr

abbrev ServiceRes : ServiceOp → Type
  | .sendPacket _ => Int
  | .entity op => Res op
  | .handle _ _ => Int

abbrev AdapterM (α : Type) : Type := Prog ServiceOp ServiceRes Adapter α

abbrev callOut (op : ServiceOp) : AdapterM (ServiceRes op) := Prog.call op

abbrev ServiceM (α : Type) : Type := Prog ServiceOp ServiceRes (Entity × Adapter) α

/-- The error numbers, below zero -/
def errnoCode : Tc.Errno → Int
  | .enoent => -2
  | .eio => -5
  | .eagain => -11
  | .eacces => -13
  | .ebusy => -16
  | .einval => -22
  | .enospc => -28
  | .emsgsize => -122
  | .enotsup => -134

def Adapter.packet (adapter : Adapter) (pdu : Bytes) : Tc.SpacePacket where
  version := 0
  type := adapter.packetType.toNat
  secondaryHeader := false
  apid := adapter.remoteApid
  sequenceFlags := sequenceUnsegmented
  sequenceCount := adapter.sequenceCount
  payload := pdu

/-- The next packet has the next sequence count. -/
def Adapter.advance (adapter : Adapter) : Adapter :=
  { adapter with sequenceCount := (adapter.sequenceCount + 1) % 2 ^ 14 }

/-- `cfdp_space_packet_send_pdu` -/
def spacePacketSendPdu (dest : Nat) (pdu : Bytes) : AdapterM Int := do
  let adapter ← Prog.read
  if pdu.length = 0 ∨ maxPduSize < pdu.length ∨ dest ≠ adapter.remoteEntityId then pure (errnoCode .einval)
  else
    match Tc.spacePacketEncode (adapter.packet pdu) (Tc.spacePacketPrimaryHdrLen + maxPduSize) with
    | .error e => pure (errnoCode e)
    | .ok packet =>
      Prog.modify Adapter.advance
      callOut (.sendPacket packet)

/-- `cfdp_space_packet_now_ms` -/
def spacePacketNowMs : AdapterM UInt64 := do
  let adapter ← Prog.read
  if adapter.nowMs then callOut (.entity .nowMs) else pure 0

/-- The adapter serves `send_pdu` and `now_ms`; every other callback goes where the user of the service has it. -/
def adapterServes : (op : Op) → AdapterM (Res op)
  | .sendPdu dest pdu => spacePacketSendPdu dest pdu
  | .nowMs => spacePacketNowMs
  | .event role type id status => callOut (.entity (.event role type id status))
  | .openRead fs path => callOut (.entity (.openRead fs path))
  | .openWriteTmp fs path => callOut (.entity (.openWriteTmp fs path))
  | .read fs handle offset len => callOut (.entity (.read fs handle offset len))
  | .write fs handle offset data => callOut (.entity (.write fs handle offset data))
  | .close fs handle => callOut (.entity (.close fs handle))
  | .commitTmp fs path => callOut (.entity (.commitTmp fs path))
  | .discardTmp fs path => callOut (.entity (.discardTmp fs path))

/-! ## Receiving -/

/-- What the handler checks of a packet before it looks at the PDU -/
def carriesPdu (packet : Tc.SpacePacket) : Bool :=
  packet.version == 0 && !packet.secondaryHeader && packet.sequenceFlags == sequenceUnsegmented &&
    packet.payload.length != 0 && decide (packet.payload.length ≤ maxPduSize)

/-- `cfdp_space_packet_rx_handler` -/
def rxHandler [ZephyrCrc] (packet : Tc.SpacePacket) : ServiceM Int := do
  let s ← Prog.read
  if s.2.receiveEntity && carriesPdu packet then
    match decodeHeader packet.payload with
    | .error _ => pure (errnoCode .einval)
    | .ok _ =>
      let status ← (receivePdu s.2.receiveFilestore packet.payload).serve adapterServes
      pure (if status = .ok then 0 else errnoCode .einval)
  else pure (errnoCode .einval)

section Routing

variable [Tc.Kconfig]

/-- `ccsds_cfdp_space_packet_adapter_register_rx`, where `handler` stands for `cfdp_space_packet_rx_handler` with this
adapter -/
def registerRx (adapter : Adapter) (router : Tc.Router) (handler : Tc.Handler) (filestore : Option FilestoreOps) :
    Adapter × Tc.Router × Except Tc.Errno Unit :=
  ({ adapter with receiveEntity := true, receiveFilestore := filestore }, router.registerApid adapter.localApid handler)

/-- `ccsds_router_dispatch_bytes` on the router of a service -/
def routerDispatchBytes [ZephyrCrc] (router : Tc.Router) (own : Tc.Handler) (octets : Bytes) : ServiceM Int :=
  match Tc.spacePacketDecode octets with
  | .error e => pure (errnoCode e)
  | .ok packet =>
    match router.select packet.apid with
    | .error e => pure (errnoCode e)
    | .ok handler => if handler = own then rxHandler packet else Prog.call (ServiceOp.handle handler packet)

end Routing

/-! ## The service -/

structure ServiceConfig where
  localEntityId : UInt64
  remoteEntityId : UInt64
  entityIdLen : Nat
  transactionSequenceNumberLen : Nat
  initialTransactionSequenceNumber : UInt64
  localApid : UInt16
  remoteApid : UInt16
  packetType : PacketType
  initialPacketSequenceCount : UInt16
  sendPacket : Bool
  nowMs : Bool
  receiveFilestore : Option FilestoreOps
  eventCb : Bool
  deriving DecidableEq, Repr

/-- `struct ccsds_cfdp_service` -/
structure CfdpService where
  entity : Entity
  adapter : Adapter
  receiveFilestore : Option FilestoreOps
  deriving DecidableEq, Repr

/-- `ccsds_cfdp_service_init` -/
def serviceInit (config : ServiceConfig) : Except Status CfdpService :=
  if config.localEntityId = 0 ∨ config.remoteEntityId = 0 ∨ config.entityIdLen = 0 ∨
      config.transactionSequenceNumberLen = 0 ∨ 0x07ff < config.localApid.toNat ∨ 0x07ff < config.remoteApid.toNat ∨
      config.sendPacket = false ∨ config.receiveFilestore = none then .error .invalidArgument
  else do
    let adapter ← adapterInit
      { remoteEntityId := config.remoteEntityId
        localApid := config.localApid
        remoteApid := config.remoteApid
        packetType := config.packetType
        initialSequenceCount := config.initialPacketSequenceCount
        sendPacket := config.sendPacket
        nowMs := config.nowMs }
    let entity ← entityInit
      { localEntityId := config.localEntityId
        remoteEntityId := config.remoteEntityId
        entityIdLen := config.entityIdLen
        transactionSequenceNumberLen := config.transactionSequenceNumberLen
        initialTransactionSequenceNumber := config.initialTransactionSequenceNumber
        eventCb := config.eventCb }
      adapter.utOps
    .ok { entity, adapter, receiveFilestore := config.receiveFilestore }

/-- `ccsds_cfdp_service_register_rx` -/
def CfdpService.registerRx [Tc.Kconfig] (service : CfdpService) (router : Tc.Router) (handler : Tc.Handler) :
    CfdpService × Tc.Router × Except Tc.Errno Unit :=
  let registered := Cfdp.registerRx service.adapter router handler service.receiveFilestore
  ({ service with adapter := registered.1 }, registered.2)

/-- The calls of a service once it is set up -/
inductive ServiceCall where
  | sendFile (fs : FilestoreOps) (request : PutRequest)
  | dispatch (octets : Bytes)
  | poll (now : UInt64)
  deriving DecidableEq, Repr

/-- What a call returns: a status, an error number or nothing -/
inductive Returned where
  | status (status : Status)
  | code (rc : Int)
  | none
  deriving DecidableEq, Repr

/-- `ccsds_cfdp_service_send_file`, `ccsds_router_dispatch_bytes` and `ccsds_cfdp_service_poll` -/
def ServiceCall.body [ZephyrCrc] [Tc.Kconfig] (router : Tc.Router) (own : Tc.Handler) : ServiceCall → ServiceM Returned
  | .sendFile fs request => do
    let (status, _) ← (Cfdp.sendFile fs request).serve adapterServes
    pure (.status status)
  | .dispatch octets => do
    let rc ← routerDispatchBytes router own octets
    pure (.code rc)
  | .poll now => do
    (Cfdp.poll now).serve adapterServes
    pure .none

/-! ## What the adapter does at a callback -/

abbrev ServiceObs : Type := (op : ServiceOp) × ServiceRes op

abbrev ServiceTrace : Type := List ServiceObs

/-- The environment in which no callback re-enters the service -/
abbrev onceServed {S : Type} : Environment ServiceOp ServiceRes S ServiceObs := quiet fun _ op result => ⟨op, result⟩

/-- The callbacks that the adapter passes on -/
def Op.passes : Op → Bool
  | .sendPdu .. => false
  | _ => true

/-- The PDUs that the adapter takes -/
def Adapter.takes (adapter : Adapter) (dest : Nat) (pdu : Bytes) : Bool :=
  pdu.length != 0 && decide (pdu.length ≤ maxPduSize) && dest == adapter.remoteEntityId

/-- The APIDs and the count that `adapterInit` has checked -/
structure Adapter.Sound (adapter : Adapter) : Prop where
  remoteApid : adapter.remoteApid ≤ Tc.apidMax
  sequenceCount : adapter.sequenceCount < 2 ^ 14

omit [Kconfig] in
theorem adapterInit_ok {config : AdapterConfig} {adapter : Adapter} (init : adapterInit config = .ok adapter) :
    adapter.Sound ∧ adapter =
      { remoteEntityId := config.remoteEntityId.toNat
        localApid := config.localApid.toNat
        remoteApid := config.remoteApid.toNat
        packetType := config.packetType
        sequenceCount := config.initialSequenceCount.toNat
        nowMs := config.nowMs
        receiveEntity := false
        receiveFilestore := none } := by
  rw [adapterInit] at init
  split_ifs at init with refused
  cases init
  simp only [not_or, Nat.not_lt] at refused
  exact ⟨⟨refused.2.1, Nat.lt_succ_of_le refused.2.2.1⟩, rfl⟩

/-- The adapter at a callback of the entity -/
inductive AdapterStep (adapter : Adapter) : Obs → ServiceTrace → Adapter → Prop where
  | refused {dest : Nat} {pdu : Bytes} {rc : Int} : adapter.takes dest pdu = false → rc ≠ 0 →
      AdapterStep adapter ⟨.sendPdu dest pdu, rc⟩ [] adapter
  | sent {dest : Nat} {pdu : Bytes} {rc : Int} : adapter.takes dest pdu = true →
      AdapterStep adapter ⟨.sendPdu dest pdu, rc⟩ [⟨.sendPacket (adapter.packet pdu).encoded, rc⟩] adapter.advance
  | unclocked {now : UInt64} : AdapterStep adapter ⟨.nowMs, now⟩ [] adapter
  | passed {obs : Obs} : obs.1.passes = true → AdapterStep adapter obs [⟨.entity obs.1, obs.2⟩] adapter

section Steps

variable {adapter adapter' : Adapter} {pdu : Bytes} {u : ServiceTrace}

omit [Kconfig] in
theorem Adapter.Sound.advance (sound : adapter.Sound) : adapter.advance.Sound where
  remoteApid := sound.remoteApid
  sequenceCount := Nat.mod_lt _ (by decide)

omit [Kconfig] in
theorem Adapter.packet_inRange (adapter : Adapter) (pdu : Bytes) : (adapter.packet pdu).InRange where
  version := Nat.zero_le 7
  type := by
    show adapter.packetType.toNat ≤ 1
    cases adapter.packetType <;> decide
  sequenceFlags := Nat.le_refl 3

/-- A PDU that the adapter takes has room in its packet. -/
theorem Adapter.Sound.encodes (sound : adapter.Sound) {dest : Nat} (takes : adapter.takes dest pdu = true) :
    Tc.spacePacketEncode (adapter.packet pdu) (Tc.spacePacketPrimaryHdrLen + maxPduSize) =
      .ok (adapter.packet pdu).encoded := by
  simp only [Adapter.takes, Bool.and_eq_true, bne_iff_ne, decide_eq_true_eq] at takes
  have limit := Kconfig.maxPduSize_range
  refine Tc.spacePacketEncode_ok_iff.mpr ⟨⟨sound.remoteApid, sound.sequenceCount, ?_, ?_⟩, ?_, rfl⟩
  · show 1 ≤ pdu.length
    omega
  · show pdu.length ≤ 65536
    omega
  · show Tc.spacePacketPrimaryHdrLen + pdu.length ≤ _
    omega

theorem spacePacketSendPdu_outcome (sound : adapter.Sound) (dest : Nat) (pdu : Bytes) :
    (spacePacketSendPdu dest pdu).wp onceServed
      (fun u rc adapter' => AdapterStep adapter ⟨.sendPdu dest pdu, rc⟩ u adapter') adapter := by
  simp only [spacePacketSendPdu, Prog.wp_bind, Prog.wp_read, Prog.wp_ite, Prog.wp_pure, List.nil_append]
  constructor
  · intro refused
    refine .refused ?_ (by decide)
    simp only [Adapter.takes, Bool.and_eq_false_iff, bne_eq_false_iff_eq, decide_eq_false_iff_not, beq_eq_false_iff_ne]
    omega
  · intro taken
    have takes : adapter.takes dest pdu = true := by
      simp only [Adapter.takes, Bool.and_eq_true, bne_iff_ne, decide_eq_true_eq, beq_iff_eq]
      omega
    rw [sound.encodes takes]
    simp only [Prog.wp_bind, Prog.wp_modify, Prog.wp_call_quiet, List.nil_append]
    exact fun rc => .sent takes

theorem spacePacketNowMs_outcome (adapter : Adapter) :
    spacePacketNowMs.wp onceServed (fun u now adapter' => AdapterStep adapter ⟨.nowMs, now⟩ u adapter') adapter := by
  simp only [spacePacketNowMs, Prog.wp_bind, Prog.wp_read, Prog.wp_ite, Prog.wp_pure, Prog.wp_call_quiet, List.nil_append]
  exact ⟨fun _ _ => .passed rfl, fun _ => .unclocked⟩

theorem adapterServes_outcome (sound : adapter.Sound) (op : Op) :
    (adapterServes op).wp onceServed (fun u r adapter' => AdapterStep adapter ⟨op, r⟩ u adapter') adapter := by
  cases op with
  | sendPdu dest pdu => exact spacePacketSendPdu_outcome sound dest pdu
  | nowMs => exact spacePacketNowMs_outcome adapter
  | event | openRead | openWriteTmp | read | write | close | commitTmp | discardTmp =>
    simp only [adapterServes, Prog.wp_call_quiet]
    exact fun r => .passed rfl

theorem AdapterStep.sound {obs : Obs} (step : AdapterStep adapter obs u adapter') (sound : adapter.Sound) :
    adapter'.Sound := by
  cases step with
  | sent => exact sound.advance
  | refused | unclocked | passed => exact sound

end Steps

/-! ## What leaves a service -/

/-- The packets handed to `send_packet` -/
def sentPackets (u : ServiceTrace) : List Bytes :=
  u.filterMap fun
    | ⟨.sendPacket packet, _⟩ => some packet
    | _ => none

/-- The callbacks of the entity that the adapter passed on -/
def entityCallbacks (u : ServiceTrace) : Trace :=
  u.filterMap fun
    | ⟨.entity op, result⟩ => some ⟨op, result⟩
    | _ => none

/-- The PDUs of a trace that the adapter takes -/
def Adapter.taken (adapter : Adapter) (t : Trace) : List Bytes :=
  t.filterMap fun
    | ⟨.sendPdu dest pdu, _⟩ => if adapter.takes dest pdu then some pdu else none
    | _ => none

/-- PDUs in packets that are numbered in turn -/
def Adapter.number (adapter : Adapter) : List Bytes → List Bytes
  | [] => []
  | pdu :: pdus => (adapter.packet pdu).encoded :: adapter.advance.number pdus

/-- A trace of the entity, and what is left of it without the sends and some readings of the clock -/
inductive Hides : Trace → Trace → Prop where
  | nil : Hides [] []
  | send {dest : Nat} {pdu : Bytes} {rc : Int} {v w : Trace} : Hides v w → Hides (⟨.sendPdu dest pdu, rc⟩ :: v) w
  | clock {now : UInt64} {v w : Trace} : Hides v w → Hides (⟨.nowMs, now⟩ :: v) w
  | kept {obs : Obs} {v w : Trace} : Hides v w → Hides (obs :: v) (obs :: w)

section Served

variable {adapter adapter' : Adapter} {v : Trace} {u : ServiceTrace}

abbrev ServedBy (adapter : Adapter) (v : Trace) (u : ServiceTrace) (adapter' : Adapter) : Prop :=
  Served adapterServes (fun op r => (⟨op, r⟩ : Obs)) (fun op r => (⟨op, r⟩ : ServiceObs)) adapter v u adapter'

/-- What the adapter has done at the callbacks of a trace -/
structure Passed (adapter : Adapter) (v : Trace) (u : ServiceTrace) (adapter' : Adapter) : Prop where
  packets : sentPackets u = adapter.number (adapter.taken v)
  callbacks : Hides v (entityCallbacks u)
  adapter : adapter' = Adapter.advance^[(adapter.taken v).length] adapter

omit [Kconfig] in
theorem sentPackets_append (u u' : ServiceTrace) :
    sentPackets (u ++ u') = sentPackets u ++ sentPackets u' := List.filterMap_append

omit [Kconfig] in
@[simp] theorem Adapter.advance_remote (adapter : Adapter) : adapter.advance.remoteEntityId = adapter.remoteEntityId := rfl

theorem Adapter.taken_advance (adapter : Adapter) (t : Trace) : adapter.advance.taken t = adapter.taken t := rfl

/-- A callback whose PDU, if any, the adapter does not take -/
theorem Adapter.taken_cons_none {obs : Obs} {t : Trace}
    (untaken : ∀ dest pdu rc, obs = ⟨.sendPdu dest pdu, rc⟩ → adapter.takes dest pdu = false) :
    adapter.taken (obs :: t) = adapter.taken t := by
  rw [Adapter.taken, List.filterMap_cons_none]
  · rfl
  · obtain ⟨op, r⟩ := obs
    cases op with
    | sendPdu dest pdu => simp [untaken dest pdu r rfl]
    | _ => rfl

theorem Adapter.taken_cons_some {dest : Nat} {pdu : Bytes} {rc : Int} {t : Trace} (takes : adapter.takes dest pdu = true) :
    adapter.taken (⟨.sendPdu dest pdu, rc⟩ :: t) = pdu :: adapter.taken t := by
  rw [Adapter.taken, List.filterMap_cons_some]
  · rfl
  · simp [takes]

theorem AdapterStep.before {adapter₁ : Adapter} {obs : Obs} {u₁ : ServiceTrace} (step : AdapterStep adapter obs u₁ adapter₁)
    (rest : Passed adapter₁ v u adapter') : Passed adapter (obs :: v) (u₁ ++ u) adapter' := by
  have untaken : ∀ obs : Obs,
      (∀ dest pdu rc, obs = ⟨.sendPdu dest pdu, rc⟩ → adapter.takes dest pdu = false) → adapter₁ = adapter →
      sentPackets u = adapter.number (adapter.taken (obs :: v)) ∧
        adapter' = Adapter.advance^[(adapter.taken (obs :: v)).length] adapter := by
    rintro obs none rfl
    rw [Adapter.taken_cons_none none]
    exact ⟨rest.packets, rest.adapter⟩
  cases step with
  | @refused dest pdu rc refuses =>
    obtain ⟨packets, adapter⟩ := untaken ⟨.sendPdu dest pdu, rc⟩ (fun _ _ _ same => by cases same; exact refuses) rfl
    exact ⟨packets, .send rest.callbacks, adapter⟩
  | @sent dest pdu rc takes =>
    constructor
    · rw [Adapter.taken_cons_some takes, sentPackets_append, rest.packets]
      rfl
    · exact .send rest.callbacks
    · rw [Adapter.taken_cons_some takes, List.length_cons, Function.iterate_succ_apply, ← Adapter.taken_advance]
      exact rest.adapter
  | @unclocked now =>
    obtain ⟨packets, adapter⟩ := untaken ⟨.nowMs, now⟩ (fun _ _ _ same => by cases same) rfl
    exact ⟨packets, .clock rest.callbacks, adapter⟩
  | passed passes =>
    obtain ⟨packets, adapter⟩ := untaken obs (fun _ _ _ same => by subst same; cases passes) rfl
    exact ⟨packets, .kept rest.callbacks, adapter⟩

theorem ServedBy.passed (served : ServedBy adapter v u adapter') (sound : adapter.Sound) :
    Passed adapter v u adapter' := by
  induction served with
  | nil => exact ⟨rfl, .nil, rfl⟩
  | @cons op r adapter adapter₁ adapter' u₁ u₂ v first rest ih =>
    have step := Prog.wp_of_runs (adapterServes_outcome sound op) first
    exact step.before (ih (step.sound sound))

omit [Kconfig] in
theorem Adapter.advance_iterate (adapter : Adapter) (small : adapter.sequenceCount < 2 ^ 14) (n : Nat) :
    Adapter.advance^[n] adapter = { adapter with sequenceCount := (adapter.sequenceCount + n) % 2 ^ 14 } := by
  induction n with
  | zero =>
    rw [Nat.add_zero, Nat.mod_eq_of_lt small]
    rfl
  | succ n ih =>
    rw [Function.iterate_succ_apply', ih, Adapter.advance]
    simp only [Adapter.mk.injEq, true_and, and_true]
    omega

omit [Kconfig] in
theorem Adapter.Sound.iterate (sound : adapter.Sound) (n : Nat) : (Adapter.advance^[n] adapter).Sound := by
  rw [adapter.advance_iterate sound.sequenceCount]
  exact ⟨sound.remoteApid, Nat.mod_lt _ (by decide)⟩

theorem Adapter.Sound.taken_iterate (sound : adapter.Sound) (n : Nat) (t : Trace) :
    (Adapter.advance^[n] adapter).taken t = adapter.taken t := by
  rw [adapter.advance_iterate sound.sequenceCount]
  rfl

omit [Kconfig] in
theorem Adapter.number_append (adapter : Adapter) (pdus pdus' : List Bytes) :
    adapter.number (pdus ++ pdus') = adapter.number pdus ++ (Adapter.advance^[pdus.length] adapter).number pdus' := by
  induction pdus generalizing adapter with
  | nil => rfl
  | cons pdu pdus ih => simp only [List.cons_append, Adapter.number, ih, List.length_cons, Function.iterate_succ_apply]

/-- A PDU in its packet, with the count that is its turn -/
def Adapter.numbered (adapter : Adapter) (k : Nat) (pdu : Bytes) : Tc.SpacePacket :=
  { adapter.packet pdu with sequenceCount := (adapter.sequenceCount + k) % 2 ^ 14 }

theorem Adapter.mem_taken {adapter : Adapter} {t : Trace} {pdu : Bytes} (mem : pdu ∈ adapter.taken t) :
    ∃ dest, adapter.takes dest pdu = true := by
  simp only [Adapter.taken, List.mem_filterMap] at mem
  obtain ⟨⟨op, r⟩, -, taken⟩ := mem
  cases op with
  | sendPdu dest pdu' =>
    simp only [Option.ite_none_right_eq_some, Option.some.injEq] at taken
    exact ⟨dest, taken.2 ▸ taken.1⟩
  | _ => cases taken

/-- What leaves the adapter decodes to the PDUs in their order. -/
theorem Adapter.Sound.decodes (sound : adapter.Sound) {pdus : List Bytes}
    (taken : ∀ pdu ∈ pdus, ∃ dest, adapter.takes dest pdu = true) :
    (adapter.number pdus).map Tc.spacePacketDecode = pdus.mapIdx fun k pdu => .ok (adapter.numbered k pdu) := by
  induction pdus generalizing adapter with
  | nil => rfl
  | cons pdu pdus ih =>
    obtain ⟨dest, takes⟩ := taken pdu List.mem_cons_self
    have decoded := Tc.spacePacketDecode_encoded (adapter.packet_inRange pdu) (sound.encodes takes) []
    rw [List.append_nil] at decoded
    have small := sound.sequenceCount
    have next : ∀ (k : Nat) (pdu : Bytes), adapter.advance.numbered k pdu = adapter.numbered (k + 1) pdu := by
      intro k pdu
      simp only [Adapter.numbered, Adapter.packet, Adapter.advance, Tc.SpacePacket.mk.injEq, true_and, and_true]
      omega
    rw [Adapter.number, List.map_cons, List.mapIdx_cons, decoded,
      ih sound.advance fun pdu mem => taken pdu (List.mem_cons_of_mem _ mem)]
    simp only [next]
    congr 2
    simp only [Adapter.numbered, Nat.add_zero, Nat.mod_eq_of_lt small]
    rfl

end Served

/-! ## One call of the service -/

/-- The PDU that `ccsds_router_dispatch_bytes` hands to the entity -/
def handed [Tc.Kconfig] (router : Tc.Router) (own : Tc.Handler) (adapter : Adapter) (octets : Bytes) : Option Bytes :=
  match Tc.spacePacketDecode octets with
  | .error _ => none
  | .ok packet =>
    if router.select packet.apid = .ok own ∧ adapter.receiveEntity = true ∧ carriesPdu packet = true ∧
        (decodeHeader packet.payload).isOk then some packet.payload
    else none

/-- The call of the entity that a call of the service comes to -/
def ServiceCall.entityCall [Tc.Kconfig] (router : Tc.Router) (own : Tc.Handler) (adapter : Adapter) :
    ServiceCall → Option Call
  | .sendFile fs request => some (.sendFile fs request)
  | .dispatch octets => (handed router own adapter octets).map (.receivePdu adapter.receiveFilestore)
  | .poll now => some (.poll now)

/-- A completed call of the service with the callbacks it made -/
structure ServiceStep where
  call : ServiceCall
  trace : ServiceTrace

theorem serve_outcome {α : Type} {p : EntityM α} {s : Entity × Adapter} {Q : ServiceTrace → α → Entity × Adapter → Prop}
    (meets : ∀ v a entity u adapter, p.Runs once s.1 v a entity → ServedBy s.2 v u adapter → Q u a (entity, adapter)) :
    (p.serve adapterServes).wp onceServed Q s :=
  Prog.wp_serve meets

section Turns

variable [ZephyrCrc] [Tc.Kconfig] {router : Tc.Router} {own : Tc.Handler}

/-- A call during which no callback re-enters the service -/
def ServiceTurn (router : Tc.Router) (own : Tc.Handler) (s : Entity × Adapter) (step : ServiceStep)
    (s' : Entity × Adapter) : Prop :=
  ∃ returned, (step.call.body router own).Runs onceServed s step.trace returned s'

/-- What a call of the service comes to: a call of the entity whose callbacks the adapter serves, or nothing -/
def Comes (s : Entity × Adapter) (called : Option Call) (u : ServiceTrace) (s' : Entity × Adapter) : Prop :=
  match called with
  | some call => ∃ t, QuietStep s.1 ⟨call, t⟩ s'.1 ∧ ServedBy s.2 t u s'.2
  | none => s' = s ∧ sentPackets u = [] ∧ entityCallbacks u = []

theorem serviceTurn_comes {s s' : Entity × Adapter} {step : ServiceStep} (turn : ServiceTurn router own s step s') :
    Comes s (step.call.entityCall router own s.2) step.trace s' := by
  obtain ⟨call, u⟩ := step
  obtain ⟨returned, runs⟩ := turn
  refine @Prog.wp_of_runs _ _ _ _ _ _ _ (fun u _ s' => Comes s (call.entityCall router own s.2) u s') _ ?_ _ _ _ runs
  cases call with
  | sendFile fs request =>
    simp only [ServiceCall.body, Prog.wp_bind, Prog.wp_pure, List.append_nil]
    refine serve_outcome fun v a entity u adapter run served => ?_
    exact ⟨v, ⟨_, Prog.runs_map run Prod.fst⟩, served⟩
  | poll now =>
    simp only [ServiceCall.body, Prog.wp_bind, Prog.wp_pure, List.append_nil]
    refine serve_outcome fun v a entity u adapter run served => ?_
    exact ⟨v, ⟨_, Prog.runs_map run fun _ => Status.ok⟩, served⟩
  | dispatch octets =>
    have refused : ∀ rc : Int, (pure rc : ServiceM Int).wp onceServed
        (fun u _ s' => Comes s none u s') s := fun rc => ⟨rfl, rfl, rfl⟩
    simp only [ServiceCall.body, Prog.wp_bind, Prog.wp_pure, List.append_nil, ServiceCall.entityCall, handed,
      routerDispatchBytes]
    cases decoded : Tc.spacePacketDecode octets with
    | error e => exact refused _
    | ok packet =>
      dsimp only
      cases selected : router.select packet.apid with
      | error e =>
        rw [if_neg (by simp)]
        exact refused _
      | ok handler =>
        dsimp only
        -- Another handler gets the packet, or this service does and looks at its type and header.
        by_cases mine : handler = own
        · subst mine
          rw [if_pos rfl]
          simp only [rxHandler, Prog.wp_bind, Prog.wp_read, Prog.wp_ite, Prog.wp_pure, List.nil_append]
          constructor
          · intro accepts
            rw [Bool.and_eq_true] at accepts
            cases header : decodeHeader packet.payload with
            | error status =>
              rw [if_neg (by simp [Except.isOk, Except.toBool])]
              exact refused _
            | ok result =>
              rw [if_pos ⟨trivial, accepts.1, accepts.2, rfl⟩]
              simp only [Prog.wp_bind, Prog.wp_pure, List.append_nil]
              exact serve_outcome fun v a entity u adapter run served => ⟨v, ⟨_, run⟩, served⟩
          · intro refuses
            rw [Bool.and_eq_true] at refuses
            rw [if_neg fun yes => refuses ⟨yes.2.1, yes.2.2.1⟩]
            exact ⟨rfl, rfl, rfl⟩
        · rw [if_neg mine, if_neg (by simp [mine])]
          simp only [Prog.wp_call_quiet]
          exact fun rc => ⟨rfl, rfl, rfl⟩

omit [ZephyrCrc] in
theorem entityCall_advance (call : ServiceCall) {adapter : Adapter} (sound : adapter.Sound) (n : Nat) :
    call.entityCall router own (Adapter.advance^[n] adapter) = call.entityCall router own adapter := by
  rw [adapter.advance_iterate sound.sequenceCount]
  cases call <;> rfl

/-- A run of the service is a run of the entity, and what leaves the service are the PDUs that the adapter takes. -/
theorem serviceRun_refines {s s' : Entity × Adapter} {steps : List ServiceStep} (sound : s.2.Sound)
    (run : Run (ServiceTurn router own) s steps s') :
    ∃ calls : List Step, Run QuietStep s.1 calls s'.1 ∧
      calls.map Step.call = steps.filterMap (fun step => step.call.entityCall router own s.2) ∧
      steps.flatMap (fun step => sentPackets step.trace) = s.2.number (calls.flatMap fun step => s.2.taken step.trace) ∧
      s'.2 = Adapter.advance^[(calls.flatMap fun step => s.2.taken step.trace).length] s.2 := by
  induction run with
  | done => exact ⟨[], .done, rfl, rfl, rfl⟩
  | @step s s₁ s' step steps turn _ ih =>
    have comes := serviceTurn_comes turn
    cases called : step.call.entityCall router own s.2 with
    | none =>
      -- A step that does not reach the entity leaves both it and the adapter as they are.
      rw [called] at comes
      obtain ⟨rfl, unsent, -⟩ := comes
      obtain ⟨calls, run, same, packets, adapter⟩ := ih sound
      refine ⟨calls, run, ?_, ?_, adapter⟩
      · simp only [List.filterMap_cons, called, same]
      · rw [List.flatMap_cons, unsent, List.nil_append, packets]
    | some call =>
      rw [called] at comes
      obtain ⟨t, quiet, served⟩ := comes
      have passed := ServedBy.passed served sound
      obtain ⟨calls, run, same, packets, adapter⟩ := ih (passed.adapter ▸ sound.iterate _)
      simp only [passed.adapter, entityCall_advance _ sound, sound.taken_iterate] at same packets adapter
      refine ⟨⟨call, t⟩ :: calls, .step quiet run, ?_, ?_, ?_⟩
      · simp only [List.filterMap_cons, called, List.map_cons, same]
      · rw [List.flatMap_cons, List.flatMap_cons, passed.packets, packets, Adapter.number_append]
      · rw [adapter, List.flatMap_cons, List.length_append, Nat.add_comm, Function.iterate_add_apply]

/-! ## Runs from the start -/

/-- A service that has been initialised and registered with its router under `own` -/
structure CfdpService.SetUp (service : CfdpService) (config : ServiceConfig) (router : Tc.Router) (own : Tc.Handler) :
    Prop where
  fresh : ∃ fresh router₀, serviceInit config = .ok fresh ∧ fresh.registerRx router₀ own = (service, router, .ok ())

omit [ZephyrCrc] in
theorem CfdpService.SetUp.parts {service : CfdpService} {config : ServiceConfig} (setUp : service.SetUp config router own) :
    (∃ config' ut, entityInit config' ut = .ok service.entity) ∧ service.adapter.Sound ∧
      service.adapter =
        { remoteEntityId := config.remoteEntityId.toNat
          localApid := config.localApid.toNat
          remoteApid := config.remoteApid.toNat
          packetType := config.packetType
          sequenceCount := config.initialPacketSequenceCount.toNat
          nowMs := config.nowMs
          receiveEntity := true
          receiveFilestore := config.receiveFilestore } := by
  obtain ⟨fresh, router₀, init, registered⟩ := setUp.fresh
  have same : fresh.entity = service.entity ∧
      service.adapter = { fresh.adapter with receiveEntity := true, receiveFilestore := fresh.receiveFilestore } := by
    have first : (fresh.registerRx router₀ own).1 = service := congrArg Prod.fst registered
    rw [← first]
    exact ⟨rfl, rfl⟩
  rw [serviceInit] at init
  split_ifs at init with refused
  simp only [bind, Except.bind] at init
  split at init
  · cases init
  · next adapter initialised =>
    split at init
    · cases init
    · next entity started =>
      cases init
      obtain ⟨sound, rfl⟩ := adapterInit_ok initialised
      rw [same.2]
      exact ⟨⟨_, _, started.trans (congrArg _ same.1)⟩, ⟨sound.remoteApid, sound.sequenceCount⟩, rfl⟩

/-- In every run of a service without re-entry, the entity takes the calls and exactly the PDUs that the router hands
on, and exactly its PDUs for the remote entity leave in packets, in their order and numbered modulo 2^14. -/
theorem service_packets {service : CfdpService} {config : ServiceConfig} {s' : Entity × Adapter} {steps : List ServiceStep}
    (setUp : service.SetUp config router own)
    (run : Run (ServiceTurn router own) (service.entity, service.adapter) steps s') :
    ∃ calls : List Step, Run QuietStep service.entity calls s'.1 ∧
      calls.map Step.call = steps.filterMap (fun step => step.call.entityCall router own service.adapter) ∧
      (steps.flatMap fun step => sentPackets step.trace).map Tc.spacePacketDecode =
        (calls.flatMap fun step => service.adapter.taken step.trace).mapIdx fun k pdu => .ok
          { version := 0
            type := config.packetType.toNat
            secondaryHeader := false
            apid := config.remoteApid.toNat
            sequenceFlags := sequenceUnsegmented
            sequenceCount := (config.initialPacketSequenceCount.toNat + k) % 2 ^ 14
            payload := pdu } := by
  obtain ⟨-, sound, same⟩ := setUp.parts
  obtain ⟨calls, run, called, packets, -⟩ := serviceRun_refines sound run
  refine ⟨calls, run, called, ?_⟩
  rw [packets, sound.decodes]
  · simp only [same]
    rfl
  · intro pdu mem
    obtain ⟨step, -, mem⟩ := List.mem_flatMap.mp mem
    exact Adapter.mem_taken mem

end Turns

end ZephyrCcsds.Cfdp

/-! ## A service to play -/

namespace ZephyrCcsds.Cfdp

open Callback

section Sample

attribute [local instance] defaultKconfig plainCrc Tc.defaultKconfig

/-- The service of entity 2, whose next packet has the highest sequence count -/
def leftConfig : ServiceConfig where
  localEntityId := 2
  remoteEntityId := 1
  entityIdLen := 1
  transactionSequenceNumberLen := 1
  initialTransactionSequenceNumber := 0
  localApid := 10
  remoteApid := 11
  packetType := .tc
  initialPacketSequenceCount := 16383
  sendPacket := true
  nowMs := false
  receiveFilestore := some wholeFilestore
  eventCb := true

def leftAdapter : Adapter where
  remoteEntityId := 1
  localApid := 10
  remoteApid := 11
  packetType := .tc
  sequenceCount := 16383
  nowMs := false
  receiveEntity := false
  receiveFilestore := none

def leftFresh : CfdpService where
  entity := freshReceiver
  adapter := leftAdapter
  receiveFilestore := some wholeFilestore

def leftService : CfdpService := (leftFresh.registerRx Tc.Router.init 0).1

def leftRouter : Tc.Router := (leftFresh.registerRx Tc.Router.init 0).2.1

theorem leftService_setUp : leftService.SetUp leftConfig leftRouter 0 where
  fresh := ⟨leftFresh, Tc.Router.init, by decide +kernel, rfl⟩

/-- The file of `sendingStep` goes out in three packets. -/
def sendingServiceStep : ServiceStep where
  call := .sendFile wholeFilestore
    { sourcePath := some [98]
      destinationPath := some [99]
      checksumType := .modular
      closureRequested := false
      acknowledgedMode := true }
  trace :=
    [⟨.entity (.openRead wholeFilestore [98]), { rc := 0, handle := 5, size := 1 }⟩,
      ⟨.sendPacket [16, 11, 255, 255, 0, 16, 32, 0, 10, 0, 2, 0, 1, 7, 0, 0, 0, 0, 1, 1, 98, 1, 99], (0 : Int)⟩,
      ⟨.entity (.read wholeFilestore 5 0 1), { rc := 0, nread := 1, data := [104] }⟩,
      ⟨.sendPacket [16, 11, 192, 0, 0, 11, 48, 0, 5, 0, 2, 0, 1, 0, 0, 0, 0, 104], (0 : Int)⟩,
      ⟨.sendPacket [16, 11, 192, 1, 0, 16, 32, 0, 10, 0, 2, 0, 1, 4, 0, 104, 0, 0, 0, 0, 0, 0, 1], (0 : Int)⟩]

/-- The sequence count goes round between the first packet and the second. -/
theorem service_packets_sent : ∃ s' calls,
    Run (ServiceTurn leftRouter 0) (leftService.entity, leftService.adapter) [sendingServiceStep] s' ∧
    Run QuietStep leftService.entity calls s'.1 ∧ calls.map Step.call = [sendingStep.call] ∧
    (sentPackets sendingServiceStep.trace).map Tc.spacePacketDecode =
      (calls.flatMap fun step => leftService.adapter.taken step.trace).mapIdx fun k pdu => .ok
        { version := 0
          type := 1
          secondaryHeader := false
          apid := 11
          sequenceFlags := 3
          sequenceCount := (16383 + k) % 2 ^ 14
          payload := pdu } := by
  have played : (((sendingServiceStep.call.body leftRouter 0) (leftService.entity, leftService.adapter)).play
      sendingServiceStep.trace).isSome = true := by
    decide +kernel
  obtain ⟨⟨returned, s'⟩, played⟩ := Option.isSome_iff_exists.mp played
  have run : Run (ServiceTurn leftRouter 0) (leftService.entity, leftService.adapter) [sendingServiceStep] s' :=
    .single ⟨returned, Act.runs_of_play played⟩
  obtain ⟨calls, entityRun, called, packets⟩ := service_packets leftService_setUp run
  refine ⟨s', calls, run, entityRun, called, ?_⟩
  rw [List.flatMap_singleton] at packets
  exact packets

end Sample

end ZephyrCcsds.Cfdp
