import Mathlib.Logic.Function.Basic
import ZephyrCcsds.Sdls.Psa
import ZephyrCcsds.Sdls.Types

/-! # The SDLS context

The state of `ccsds_sdls.c` and `ccsds_sdls_ep.c`: the association and key tables, the
sender IV, the Frame Security Report, the event ring and the provenance of the frame in
dispatch.  `State` adds the buffer the caller passes for output, which a call may write.
-/

namespace ZephyrCcsds.Sdls

open Callback

variable [Kconfig]

/-! ## State -/

structure Sa where
  rxArsn : UInt32
  rxWindow : UInt32
  keySlot : Nat
  state : SaState
  lastProcedure : UInt8
  rxArsnInitialized : Bool
  configured : Bool
  deriving DecidableEq, Repr

structure Key where
  psaKeyId : PsaKeyId
  txArsn : UInt32
  state : KeyState
  deriving DecidableEq, Repr

structure Fsr where
  lastSpi : Nat
  lastArsnLsb : UInt8
  alarm : Bool
  badSequence : Bool
  badMac : Bool
  badSa : Bool
  deriving DecidableEq, Repr

structure Event where
  pduOrEventTag : UInt8
  eventCode : Nat
  spi : Nat
  arsn : UInt32
  deriving DecidableEq, Repr

/-- The event ring: the `event_*` fields of the context. -/
structure EventLog where
  events : Fin eventLogCapacity → Event
  readIndex : Fin eventLogCapacity
  writeIndex : Fin eventLogCapacity
  count : Nat
  overwrites : Nat

/-- The `authenticated_rx_*` fields of the context. -/
structure AuthenticatedRx where
  arsn : UInt32
  spi : Nat
  valid : Bool
  dispatching : Bool
  deriving DecidableEq, Repr

/-- `struct ccsds_sdls_ctx`; `selfTest` says whether that function pointer is set. -/
structure Ctx where
  sas : SaSlot → Sa
  keys : KeySlot → Key
  saRoles : SaSlot → SaRole
  saModes : SaSlot → SecurityMode
  txIv : UInt64
  fsr : Fsr
  log : EventLog
  selfTest : Bool
  authenticatedRx : AuthenticatedRx
  fsrEnabled : Bool
  fsrNext : Bool

/-- What a call reads and writes: the context, and the caller's output buffer and length. -/
structure State where
  ctx : Ctx
  out : Bytes
  outLen : Nat

/-- A program over the SDLS state that calls PSA. -/
abbrev SdlsM (α : Type) : Type := Prog PsaOp PsaRes State α

/-- One that returns `0` or an error code. -/
abbrev Recipient (α : Type) : Type := Fallible PsaOp PsaRes State SdlsError α

/-- What a trace records of a PSA call: the context it was made in and its answer. -/
structure Item where
  ctx : Ctx
  op : PsaOp
  result : PsaRes op

/-- The environment in which PSA answers every call in any way. -/
abbrev anyPsa : Environment PsaOp PsaRes State Item := quiet fun s op r => ⟨s.ctx, op, r⟩

/-! ## PSA calls -/

section Psa

def psaGetKeyAttributes (key : PsaKeyId) : Recipient (PsaStatus × PsaKeyAttributes) :=
  Fallible.call (PsaOp.getKeyAttributes key)

def psaAeadEncrypt (key : PsaKeyId) (nonce additionalData plaintext : Bytes) :
    Recipient (PsaStatus × Bytes) :=
  Fallible.call (PsaOp.aeadEncrypt key nonce additionalData plaintext)

def psaAeadDecrypt (key : PsaKeyId) (nonce additionalData ciphertext : Bytes) :
    Recipient (PsaStatus × Bytes) :=
  Fallible.call (PsaOp.aeadDecrypt key nonce additionalData ciphertext)

def psaImportKey (attributes : PsaKeyAttributes) (data : Bytes) : Recipient (PsaStatus × PsaKeyId) :=
  Fallible.call (PsaOp.importKey attributes data)

def psaDestroyKey (key : PsaKeyId) : Recipient PsaStatus := Fallible.call (PsaOp.destroyKey key)

/-- `ctx->self_test(ctx->self_test_user_data, &result)` -/
def selfTestCallback : Recipient (Int × UInt8) := Fallible.call PsaOp.selfTest

variable {F : List Item → SdlsError → State → Prop} {s : State}

@[simp] theorem wp_psaGetKeyAttributes {key : PsaKeyId}
    {Q : List Item → PsaStatus × PsaKeyAttributes → State → Prop} :
    (psaGetKeyAttributes key).wp anyPsa Q F s ↔
      ∀ r, Q [⟨s.ctx, .getKeyAttributes key, r⟩] r s :=
  Fallible.wp_call_quiet

@[simp] theorem wp_psaAeadEncrypt {key : PsaKeyId} {nonce additionalData plaintext : Bytes}
    {Q : List Item → PsaStatus × Bytes → State → Prop} :
    (psaAeadEncrypt key nonce additionalData plaintext).wp anyPsa Q F s ↔
      ∀ r, Q [⟨s.ctx, .aeadEncrypt key nonce additionalData plaintext, r⟩] r s :=
  Fallible.wp_call_quiet

@[simp] theorem wp_psaAeadDecrypt {key : PsaKeyId} {nonce additionalData ciphertext : Bytes}
    {Q : List Item → PsaStatus × Bytes → State → Prop} :
    (psaAeadDecrypt key nonce additionalData ciphertext).wp anyPsa Q F s ↔
      ∀ r, Q [⟨s.ctx, .aeadDecrypt key nonce additionalData ciphertext, r⟩] r s :=
  Fallible.wp_call_quiet

@[simp] theorem wp_psaImportKey {attributes : PsaKeyAttributes} {data : Bytes}
    {Q : List Item → PsaStatus × PsaKeyId → State → Prop} :
    (psaImportKey attributes data).wp anyPsa Q F s ↔
      ∀ r, Q [⟨s.ctx, .importKey attributes data, r⟩] r s :=
  Fallible.wp_call_quiet

@[simp] theorem wp_psaDestroyKey {key : PsaKeyId} {Q : List Item → PsaStatus → State → Prop} :
    (psaDestroyKey key).wp anyPsa Q F s ↔ ∀ r, Q [⟨s.ctx, .destroyKey key, r⟩] r s :=
  Fallible.wp_call_quiet

@[simp] theorem wp_selfTestCallback {Q : List Item → Int × UInt8 → State → Prop} :
    selfTestCallback.wp anyPsa Q F s ↔ ∀ r, Q [⟨s.ctx, .selfTest, r⟩] r s :=
  Fallible.wp_call_quiet

end Psa

/-! ## Updates -/

def Ctx.updateSa (ctx : Ctx) (slot : SaSlot) (f : Sa → Sa) : Ctx :=
  { ctx with sas := Function.update ctx.sas slot (f (ctx.sas slot)) }

def Ctx.updateKey (ctx : Ctx) (slot : KeySlot) (f : Key → Key) : Ctx :=
  { ctx with keys := Function.update ctx.keys slot (f (ctx.keys slot)) }

def State.withCtx (s : State) (f : Ctx → Ctx) : State := { s with ctx := f s.ctx }

/-- `memcpy(out + offset, bytes, len)` -/
def State.write (s : State) (offset : Nat) (bytes : Bytes) : State :=
  { s with out := s.out.overwrite offset bytes }

def State.withOutLen (s : State) (outLen : Nat) : State := { s with outLen }

section Updates

variable (s : State) (ctx : Ctx) (f : Ctx → Ctx) (offset len : Nat) (bytes : Bytes)

@[simp] theorem State.withCtx_ctx : (s.withCtx f).ctx = f s.ctx := rfl
@[simp] theorem State.withCtx_out : (s.withCtx f).out = s.out := rfl
@[simp] theorem State.withCtx_outLen : (s.withCtx f).outLen = s.outLen := rfl
@[simp] theorem State.write_ctx : (s.write offset bytes).ctx = s.ctx := rfl
@[simp] theorem State.write_out : (s.write offset bytes).out = s.out.overwrite offset bytes := rfl
@[simp] theorem State.write_outLen : (s.write offset bytes).outLen = s.outLen := rfl
@[simp] theorem State.withOutLen_ctx : (s.withOutLen len).ctx = s.ctx := rfl
@[simp] theorem State.withOutLen_out : (s.withOutLen len).out = s.out := rfl

variable (slot : SaSlot) (g : Sa → Sa)

@[simp] theorem Ctx.updateSa_same : (ctx.updateSa slot g).sas slot = g (ctx.sas slot) :=
  Function.update_self ..

theorem Ctx.updateSa_other {i : SaSlot} (other : i ≠ slot) : (ctx.updateSa slot g).sas i = ctx.sas i :=
  Function.update_of_ne other ..

@[simp] theorem Ctx.updateSa_keys : (ctx.updateSa slot g).keys = ctx.keys := rfl
@[simp] theorem Ctx.updateSa_saRoles : (ctx.updateSa slot g).saRoles = ctx.saRoles := rfl
@[simp] theorem Ctx.updateSa_saModes : (ctx.updateSa slot g).saModes = ctx.saModes := rfl
@[simp] theorem Ctx.updateSa_txIv : (ctx.updateSa slot g).txIv = ctx.txIv := rfl

variable (key : KeySlot) (h : Key → Key)

@[simp] theorem Ctx.updateKey_same : (ctx.updateKey key h).keys key = h (ctx.keys key) :=
  Function.update_self ..

theorem Ctx.updateKey_other {i : KeySlot} (other : i ≠ key) :
    (ctx.updateKey key h).keys i = ctx.keys i :=
  Function.update_of_ne other ..

@[simp] theorem Ctx.updateKey_sas : (ctx.updateKey key h).sas = ctx.sas := rfl
@[simp] theorem Ctx.updateKey_saRoles : (ctx.updateKey key h).saRoles = ctx.saRoles := rfl
@[simp] theorem Ctx.updateKey_saModes : (ctx.updateKey key h).saModes = ctx.saModes := rfl
@[simp] theorem Ctx.updateKey_txIv : (ctx.updateKey key h).txIv = ctx.txIv := rfl

end Updates

/-! ## Initialization -/

def Sa.zero : Sa where
  rxArsn := 0
  rxWindow := 0
  keySlot := 0
  state := .stopped
  lastProcedure := 0
  rxArsnInitialized := false
  configured := false

def Key.zero : Key where
  psaKeyId := psaKeyIdNull
  txArsn := 0
  state := .preActive

def Event.zero : Event where
  pduOrEventTag := 0
  eventCode := 0
  spi := 0
  arsn := 0

def logIndex (i : Nat) : Fin eventLogCapacity :=
  ⟨i % eventLogCapacity, Nat.mod_lt _ Kconfig.eventLogCapacity_range.1⟩

def EventLog.zero : EventLog where
  events _ := .zero
  readIndex := logIndex 0
  writeIndex := logIndex 0
  count := 0
  overwrites := 0

def AuthenticatedRx.zero : AuthenticatedRx where
  arsn := 0
  spi := 0
  valid := false
  dispatching := false

/-- `CCSDS_SDLS_IV_SEED` -/
def ivSeed : UInt64 := ivSeedHigh.toUInt64 <<< 32 ||| ivSeedLow.toUInt64

/-- `CCSDS_SDLS_IV_STRIDE` -/
def ivStride : UInt64 := 0x9e3779b97f4a7c15

def Ctx.zero : Ctx where
  sas _ := .zero
  keys _ := .zero
  saRoles _ := .epCommandRx
  saModes _ := .gmac
  txIv := ivSeed
  fsr := { lastSpi := 0, lastArsnLsb := 0, alarm := false, badSequence := false, badMac := false,
           badSa := false }
  log := .zero
  selfTest := false
  authenticatedRx := .zero
  fsrEnabled := false
  fsrNext := false

/-- `struct ccsds_sdls_sa_init` with the contract that `ccsds_sdls_init` asserts of it. -/
structure SaInit where
  slot : SaSlot
  key : Option KeySlot
  rxArsn : UInt32
  role : SaRole
  mode : SecurityMode
  state : SaState
  rxArsnInitialized : Bool
  rx_of_initialized : rxArsnInitialized = true → role.isRx = true
  uninitialized_zero : rxArsnInitialized = false → rxArsn = 0
  clear_keyless : mode = .clear → key = none
  clear_operational : mode = .clear → role = .operationalTcRx ∨ role = .operationalTmTx
  clear_uninitialized : mode = .clear → rxArsnInitialized = false
  traffic_key : ∀ slot ∈ key, 0 < slot.val

/-- `struct ccsds_sdls_key_init` -/
structure KeyInit where
  psaKeyId : PsaKeyId
  keyId : KeySlot
  state : KeyState
  present : psaKeyId ≠ psaKeyIdNull

/-- The arguments of `ccsds_sdls_init`: no SPI and no key ID is configured twice. -/
structure Configuration where
  sas : List SaInit
  keys : List KeyInit
  sas_distinct : (sas.map (·.slot)).Nodup
  keys_distinct : (keys.map (·.keyId)).Nodup

def Ctx.configureKey (ctx : Ctx) (key : KeyInit) : Ctx :=
  ctx.updateKey key.keyId fun k => { k with psaKeyId := key.psaKeyId, state := key.state }

def Ctx.configureSa (ctx : Ctx) (sa : SaInit) : Ctx :=
  { ctx with
    saRoles := Function.update ctx.saRoles sa.slot sa.role
    saModes := Function.update ctx.saModes sa.slot sa.mode
    sas := Function.update ctx.sas sa.slot
      { ctx.sas sa.slot with
        keySlot := match sa.key with
          | some key => key.val
          | none => keySlotNone
        state := sa.state
        rxArsn := sa.rxArsn
        rxWindow := arsnWindow
        rxArsnInitialized := sa.rxArsnInitialized
        configured := true } }

/-- `ccsds_sdls_init` -/
def init (configuration : Configuration) : Ctx :=
  configuration.sas.foldl Ctx.configureSa (configuration.keys.foldl Ctx.configureKey .zero)

/-! ## Lookups -/

/-- `ccsds_sdls_sa_lookup` -/
def Ctx.saLookup (ctx : Ctx) (spi : Nat) : Option SaSlot :=
  if bound : spi ≠ 0 ∧ spi ≤ maxSa then
    let slot : SaSlot := ⟨spi - 1, by omega⟩
    if (ctx.sas slot).configured then some slot else none
  else
    none

/-- `ccsds_sdls_key_lookup` -/
def Ctx.keyLookup (ctx : Ctx) (keyId : Nat) : Option KeySlot :=
  if bound : keyId < maxKeys then
    if (ctx.keys ⟨keyId, bound⟩).psaKeyId = psaKeyIdNull then none else some ⟨keyId, bound⟩
  else
    none

/-! ## Wire fields -/

/-- `struct ccsds_sdls_security_header` -/
structure SecurityHeader where
  spi : Nat
  iv : Bytes
  deriving DecidableEq, Repr

/-- `ccsds_sdls_security_header_encode` -/
def securityHeaderEncode (header : SecurityHeader) : Bytes := Bytes.putBe 2 header.spi ++ header.iv

/-- `ccsds_sdls_security_header_decode` -/
def securityHeaderDecode (encoded : Bytes) : Except SdlsError SecurityHeader :=
  if encoded.length ≠ securityHeaderLen then .error .format
  else
    let spi := Bytes.getBe (encoded.slice 0 2)
    if spi = 0 ∨ spi = uint16Max then .error .format
    else .ok { spi, iv := encoded.slice 2 ivLen }

/-- `ccsds_sdls_construct_iv` -/
def constructIv (senderIv : UInt64) (arsn : UInt32) : Bytes :=
  Bytes.putBe 8 senderIv.toNat ++ Bytes.putBe 4 arsn.toNat

def getU32 (bytes : Bytes) (offset : Nat) : UInt32 := UInt32.ofNat (Bytes.getBe (bytes.slice offset 4))

/-- `ccsds_sdls_iv_arsn` -/
def ivArsn (iv : Bytes) : UInt32 := getU32 iv 8

/-! ## Event ring and Frame Security Report -/

/-- `ccsds_sdls_event_record` on the ring -/
def EventLog.record (log : EventLog) (event : Event) : EventLog :=
  let events := Function.update log.events log.writeIndex event
  let writeIndex := logIndex (log.writeIndex.val + 1)
  if log.count < eventLogCapacity then
    { log with events, writeIndex, count := log.count + 1 }
  else
    { log with
      events
      writeIndex
      readIndex := logIndex (log.readIndex.val + 1)
      overwrites := if log.overwrites ≠ 255 then log.overwrites + 1 else log.overwrites }

def Ctx.eventRecord (ctx : Ctx) (tag : UInt8) (code : EventCode) (spi : Nat) (arsn : UInt32) : Ctx :=
  { ctx with
    log := ctx.log.record { pduOrEventTag := tag, eventCode := code.code, spi := spi, arsn := arsn } }

/-- `frame_event_code` -/
def frameEventCode : SdlsError → EventCode
  | .format => .format
  | .authentication => .authentication
  | .replay => .staleArsn
  | .unknownSa => .unknownSa
  | .saState => .saState
  | .key => .keyId
  | .keyState => .keyState
  | .psa => .psa
  | .unsupported => .format
  | .capacity => .format

def isMonitored : SdlsError → Bool
  | .authentication | .replay | .unknownSa | .saState | .key | .keyState => true
  | .format | .psa | .unsupported | .capacity => false

def isBadSa : SdlsError → Bool
  | .unknownSa | .saState | .key | .keyState => true
  | .format | .authentication | .replay | .psa | .unsupported | .capacity => false

/-- `fsr_process_failure`; an event code of `0` is `none`. -/
def Ctx.fsrProcessFailure (ctx : Ctx) (error : SdlsError) (spi : Nat) (arsn : UInt32)
    (eventCode : Option EventCode) : Ctx :=
  if isMonitored error then
    let ctx := ctx.eventRecord eventTagUnauthenticatedFrame (eventCode.getD (frameEventCode error)) spi arsn
    { ctx with
      fsr := { ctx.fsr with
        alarm := true
        lastSpi := spi
        badSequence := ctx.fsr.badSequence || error = .replay
        badMac := ctx.fsr.badMac || error = .authentication
        badSa := ctx.fsr.badSa || isBadSa error } }
  else
    ctx

/-- `fsr_process_success` -/
def Ctx.fsrProcessSuccess (ctx : Ctx) (spi : Nat) (arsn : UInt32) : Ctx :=
  { ctx with
    fsr := { ctx.fsr with
      badSequence := false
      badMac := false
      badSa := false
      lastSpi := spi
      lastArsnLsb := arsn.toUInt8 } }

/-- `ccsds_sdls_fsr_encode`, with `CCSDS_SDLS_FSR_VERSION` in the upper half of the first octet -/
def Fsr.encode (fsr : Fsr) : Bytes :=
  UInt8.ofNat (4 * 16 + fsr.alarm.toNat * 8 + fsr.badSequence.toNat * 4 + fsr.badMac.toNat * 2 + fsr.badSa.toNat) ::
    (Bytes.putBe 2 fsr.lastSpi ++ [fsr.lastArsnLsb])

/-- The assignments to the `authenticated_rx_*` fields that end a dispatch. -/
def Ctx.clearAuthenticatedRx (ctx : Ctx) : Ctx := { ctx with authenticatedRx := .zero }

end ZephyrCcsds.Sdls
