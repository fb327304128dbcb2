import ZephyrCcsds.Sdls.Context

/-! # Frame protection

`ccsds_sdls_apply_security` and `ccsds_sdls_process_security`.  The workspace of the source
is scratch memory that is wiped before the return, so it is no part of the state.  The
output buffer is: the clear data that is to be protected may lie in it, and the writes to it
stand in the order of the source.
-/

namespace ZephyrCcsds.Sdls

open Callback

variable [Kconfig]

/-- `struct ccsds_sdls_auth_header`, with the contract on its lengths. -/
structure AuthHeader where
  data : Bytes
  mask : Bytes
  mask_le : mask.length ≤ data.length

/-- The octets of the header that a mask lets through, the mask padded with ones. -/
def AuthHeader.masked (auth : AuthHeader) : Bytes :=
  List.zipWith (· &&& ·) auth.data auth.mask ++ auth.data.drop auth.mask.length

/-- A pointer to clear data: to memory apart from the output buffer, or into it. -/
inductive DataPointer where
  | apart (bytes : Bytes)
  | within (offset len : Nat)

/-- The data that a pointer stands for while the output buffer holds `out`. -/
def DataPointer.read (out : Bytes) : DataPointer → Bytes
  | apart bytes => bytes
  | within offset len => out.slice offset len

/-- `operational_key` -/
def Ctx.operationalKey (ctx : Ctx) (slot : SaSlot) (expectedRole : SaRole) (transmitting : Bool) :
    Except SdlsError KeySlot :=
  let sa := ctx.sas slot
  let expectedTx := expectedRole.isTx
  let actualTx := (ctx.saRoles slot).isTx
  if actualTx ≠ expectedTx ∨ expectedTx ≠ transmitting ∨ sa.state ≠ .operational then
    .error .saState
  else if bound : sa.keySlot ≠ 0 ∧ sa.keySlot < maxKeys then
    let key : KeySlot := ⟨sa.keySlot, bound.2⟩
    if (ctx.keys key).state ≠ .active ∨ (ctx.keys key).psaKeyId = psaKeyIdNull then .error .key
    else .ok key
  else
    .error .key

/-- `build_auth_data` -/
def buildAuthData (auth : AuthHeader) (spi : Nat) (frameData : Bytes) : Bytes :=
  auth.masked ++ Bytes.putBe 2 spi ++ List.replicate ivLen 0 ++ frameData

/-- The IV of the next protected transmission with a key. -/
def Ctx.nextIv (ctx : Ctx) (key : KeySlot) : Bytes := constructIv ctx.txIv (ctx.keys key).txArsn

/-- `key->tx_arsn++` and `ctx->tx_iv += CCSDS_SDLS_IV_STRIDE` -/
def Ctx.consumeIv (ctx : Ctx) (key : KeySlot) : Ctx :=
  { ctx.updateKey key fun k => { k with txArsn := k.txArsn + 1 } with txIv := ctx.txIv + ivStride }

/-- `ccsds_sdls_apply_security` into the output buffer from `outOffset` on -/
def applySecurity (expectedRole : SaRole) (slot : SaSlot) (auth : AuthHeader) (data : DataPointer)
    (outOffset : Nat) : Recipient Unit := do
  let s ← Fallible.read
  let key ← Fallible.ofExcept (s.ctx.operationalKey slot expectedRole true)
  let gcm := decide (s.ctx.saModes slot = .gcm)
  let header : SecurityHeader := { spi := slot.spi, iv := s.ctx.nextIv key }
  Fallible.modify fun s => s.withCtx (·.consumeIv key)
  let clear := data.read s.out
  let aad := buildAuthData auth slot.spi (if gcm then [] else clear)
  let answer ←
    psaAeadEncrypt (s.ctx.keys key).psaKeyId header.iv aad (if gcm then clear else [])
  Fallible.failIf (answer.1 ≠ .success ∨
    answer.2.length ≠ if gcm then clear.length + tagLen else tagLen) .psa
  Fallible.modify fun s => s.write outOffset (securityHeaderEncode header)
  if gcm then
    Fallible.modify fun s => s.write (outOffset + securityHeaderLen) (answer.2.take clear.length)
    Fallible.modify fun s =>
      s.write (outOffset + securityHeaderLen + clear.length) (answer.2.drop clear.length)
  else
    -- `memmove` reads the data as the Security Header has left it.
    Fallible.modify fun s => s.write (outOffset + securityHeaderLen) (data.read s.out)
    Fallible.modify fun s => s.write (outOffset + securityHeaderLen + clear.length) answer.2

/-- The replay rule of `ccsds_sdls_process_security`, with the event of a refusal -/
def Sa.replayCheck (sa : Sa) (arsn : UInt32) : Except EventCode Unit :=
  if sa.rxArsnInitialized then
    if arsn ≤ sa.rxArsn then .error .staleArsn
    else if arsn - sa.rxArsn > sa.rxWindow then .error .arsnGap
    else .ok ()
  else
    .ok ()

/-- `return fsr_process_failure(...)` -/
def frameFailure (error : SdlsError) (spi : Nat) (arsn : UInt32) (eventCode : Option EventCode) :
    Recipient Unit := do
  Fallible.modify fun s => s.withCtx (·.fsrProcessFailure error spi arsn eventCode)
  Fallible.fail error

/-- The event record and the return of a malformed protected span -/
def formatFailure : Recipient Unit := do
  Fallible.modify fun s => s.withCtx (·.eventRecord eventTagUnauthenticatedFrame .format 0 0)
  Fallible.fail .format

/-- The replay state, the provenance and the FSR after a successful frame -/
def Ctx.acceptFrame (ctx : Ctx) (slot : SaSlot) (spi : Nat) (arsn : UInt32) : Ctx :=
  ({ ctx.updateSa slot fun sa => { sa with rxArsn := arsn, rxArsnInitialized := true } with
      authenticatedRx := { ctx.authenticatedRx with spi, arsn, valid := true } }).fsrProcessSuccess spi arsn

/-- `ccsds_sdls_process_security` from the choice of the key on -/
def decryptFrame (auth : AuthHeader) (protectedData : Bytes) (header : SecurityHeader) (slot : SaSlot)
    (key : KeySlot) : Recipient Unit := do
  let s ← Fallible.read
  let gcm := decide (s.ctx.saModes slot = .gcm)
  let arsn := ivArsn header.iv
  let dataLen := protectedData.length - protectedOverhead
  let frameData := protectedData.slice securityHeaderLen dataLen
  let tag := protectedData.slice (securityHeaderLen + dataLen) tagLen
  match (s.ctx.sas slot).replayCheck arsn with
  | .error eventCode => frameFailure .replay header.spi arsn (some eventCode)
  | .ok () =>
    let aad := buildAuthData auth header.spi (if gcm then [] else frameData)
    let answer ← psaAeadDecrypt (s.ctx.keys key).psaKeyId header.iv aad
      (if gcm then frameData ++ tag else tag)
    match answer.1 with
    | .invalidSignature => frameFailure .authentication header.spi arsn none
    | .failure => Fallible.fail .psa
    | .success =>
      Fallible.failIf (answer.2.length ≠ if gcm then dataLen else 0) .psa
      Fallible.modify fun s => s.write 0 (if gcm then answer.2 else frameData)
      Fallible.modify fun s => s.withCtx (·.acceptFrame slot header.spi arsn)

/-- `ccsds_sdls_process_security` into the start of the output buffer.  The protected span may lie in that
buffer: its last read is the one of the copy that writes the output. -/
def processSecurity (expectedRole : SaRole) (auth : AuthHeader) (protectedData : Bytes) :
    Recipient Unit := do
  Fallible.modify fun s => s.withCtx Ctx.clearAuthenticatedRx
  if protectedData.length < protectedOverhead then
    formatFailure
  else
    match securityHeaderDecode (protectedData.slice 0 securityHeaderLen) with
    | .error _ => formatFailure
    | .ok header =>
      let s ← Fallible.read
      match s.ctx.saLookup header.spi with
      | none => frameFailure .unknownSa header.spi (ivArsn header.iv) none
      | some slot =>
        match s.ctx.operationalKey slot expectedRole false with
        | .error e => frameFailure e header.spi (ivArsn header.iv) none
        | .ok key => decryptFrame auth protectedData header slot key

end ZephyrCcsds.Sdls
