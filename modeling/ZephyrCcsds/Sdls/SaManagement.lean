import ZephyrCcsds.Sdls.KeyManagement

/-! # Security Association recipients

Start, Stop, Expire and Rekey SA, Set ARSN, Set ARSN Window, Read ARSN and SA Status.
-/

namespace ZephyrCcsds.Sdls

open Callback

variable [Kconfig]

/-- The value of `last_procedure` for an SA management procedure: its command tag -/
def Procedure.lastProcedure (procedure : Procedure) : UInt8 :=
  UInt8.ofNat (16 * ServiceGroup.saManagement.code + procedure.code)

/-- `managed_sa` -/
def Ctx.managedSa (ctx : Ctx) (spi : Nat) : Except SdlsError SaSlot :=
  if spi = 0 ∨ spi = uint16Max then .error .unknownSa
  else
    match ctx.saLookup spi with
    | none => .error .unknownSa
    | some slot => .ok slot

/-- No other SA uses the key with another direction or mode. -/
def Ctx.keyCompatible (ctx : Ctx) (slot : SaSlot) (keyId : Nat) : Prop :=
  ∀ i : SaSlot, i ≠ slot → (ctx.sas i).configured = true → (ctx.sas i).keySlot = keyId →
    (ctx.saRoles i).isTx = (ctx.saRoles slot).isTx ∧ ctx.saModes i = ctx.saModes slot

instance (ctx : Ctx) (slot : SaSlot) (keyId : Nat) : Decidable (ctx.keyCompatible slot keyId) :=
  inferInstanceAs (Decidable (∀ _, _))

/-- The usage that the direction of an SA needs of its key -/
def SaRole.keyUsage (role : SaRole) : PsaKeyUsage := if role.isTx then .encryptOnly else .decryptOnly

/-- `validate_sa_key` -/
def validateSaKey (slot : SaSlot) (keyId : Nat) (sessionOnly : Bool) : Recipient Unit := do
  let s ← Fallible.read
  if keyId = 0 ∨ keyId ≥ maxKeys ∨ (sessionOnly = true ∧ keyId < sessionKeyBase) then
    Fallible.fail .key
  else
    match s.ctx.keyLookup keyId with
    | none => Fallible.fail .key
    | some key =>
      Fallible.failIf ((s.ctx.keys key).state ≠ .active) .keyState
      validateKey (s.ctx.keys key).psaKeyId (s.ctx.saRoles slot).keyUsage
      Fallible.failIf (¬s.ctx.keyCompatible slot keyId) .key

def Sa.moveTo (sa : Sa) (state : SaState) (procedure : Procedure) : Sa :=
  { sa with state, lastProcedure := procedure.lastProcedure }

/-- `ccsds_sdls_ep_process_start_sa` -/
def processStartSa (encoded : Bytes) : Recipient Unit := do
  let command ← Fallible.ofExcept (epStartSaDecode encoded)
  let s ← Fallible.read
  let slot ← Fallible.ofExcept (s.ctx.managedSa command.spi)
  Fallible.failIf ((s.ctx.sas slot).state ≠ .stopped) .saState
  if s.ctx.saModes slot = .clear then
    Fallible.failIf (s.ctx.authenticatedRx.valid = false ∨ s.ctx.authenticatedRx.spi = command.spi)
      .authentication
  else
    validateSaKey slot (s.ctx.sas slot).keySlot false
  Fallible.modify fun s => s.withCtx (·.updateSa slot (·.moveTo .operational .startSa))

/-- `process_sa_transition` -/
def processSaTransition (procedure : Procedure) (source target : SaState) (encoded : Bytes) :
    Recipient Unit := do
  let spi ← Fallible.ofExcept (epSaCommandDecode procedure encoded)
  let s ← Fallible.read
  let slot ← Fallible.ofExcept (s.ctx.managedSa spi)
  Fallible.failIf ((s.ctx.sas slot).state ≠ source) .saState
  Fallible.modify fun s => s.withCtx (·.updateSa slot (·.moveTo target procedure))

/-- `ccsds_sdls_ep_process_stop_sa` -/
def processStopSa (encoded : Bytes) : Recipient Unit :=
  processSaTransition .stopSa .operational .stopped encoded

/-- `ccsds_sdls_ep_process_expire_sa` -/
def processExpireSa (encoded : Bytes) : Recipient Unit :=
  processSaTransition .expireSa .stopped .expired encoded

/-- The fields that `ccsds_sdls_ep_process_rekey_sa` assigns -/
def Sa.rekey (sa : Sa) (keyId : Nat) (rxArsn : Option UInt32) : Sa :=
  let sa := { sa with keySlot := keyId }
  let sa := match rxArsn with
    | some rxArsn => { sa with rxArsn, rxArsnInitialized := true }
    | none => sa
  sa.moveTo .stopped .rekeySa

/-- `ccsds_sdls_ep_process_rekey_sa` -/
def processRekeySa (encoded : Bytes) : Recipient Unit := do
  let command ← Fallible.ofExcept (epRekeySaDecode encoded)
  let s ← Fallible.read
  let slot ← Fallible.ofExcept (s.ctx.managedSa command.spi)
  Fallible.failIf ((s.ctx.sas slot).state ≠ .expired) .saState
  Fallible.failIf (s.ctx.saModes slot = .clear) .saState
  Fallible.failIf ((s.ctx.saRoles slot).isRx ≠ command.rxArsn.isSome) .format
  validateSaKey slot command.keyId true
  -- Only a receive SA has an ARSN in its command, so the assignment under `rx` is `Sa.rekey`'s.
  Fallible.modify fun s => s.withCtx (·.updateSa slot (·.rekey command.keyId command.rxArsn))

/-- `mutable_rx_sa` -/
def Ctx.mutableRxSa (ctx : Ctx) (spi : Nat) : Except SdlsError SaSlot :=
  match ctx.managedSa spi with
  | .error e => .error e
  | .ok slot =>
    if (ctx.saRoles slot).isRx = false then .error .saState
    else if ctx.saModes slot = .clear then .error .saState
    else if (ctx.sas slot).state = .expired then .error .saState
    else .ok slot

/-- `ccsds_sdls_ep_process_set_arsn` -/
def processSetArsn (encoded : Bytes) : Recipient Unit := do
  let command ← Fallible.ofExcept (epSetArsnDecode encoded)
  let s ← Fallible.read
  let slot ← Fallible.ofExcept (s.ctx.mutableRxSa command.spi)
  Fallible.failIf ((s.ctx.sas slot).rxArsnInitialized = true ∧ command.value < (s.ctx.sas slot).rxArsn)
    .replay
  Fallible.modify fun s => s.withCtx (·.updateSa slot fun sa =>
    { sa with
      rxArsn := command.value
      rxArsnInitialized := true
      lastProcedure := Procedure.setArsn.lastProcedure })

/-- `ccsds_sdls_ep_process_set_arsn_window` -/
def processSetArsnWindow (encoded : Bytes) : Recipient Unit := do
  let command ← Fallible.ofExcept (epSetArsnWindowDecode encoded)
  Fallible.failIf (command.value = 0 ∨ command.value > arsnWindow) .capacity
  let s ← Fallible.read
  let slot ← Fallible.ofExcept (s.ctx.mutableRxSa command.spi)
  Fallible.modify fun s => s.withCtx (·.updateSa slot fun sa =>
    { sa with rxWindow := command.value, lastProcedure := Procedure.setArsnWindow.lastProcedure })

/-- `ccsds_sdls_ep_process_read_arsn` -/
def processReadArsn (encoded : Bytes) : Recipient Nat := do
  let spi ← Fallible.ofExcept (epSaCommandDecode .readArsn encoded)
  let s ← Fallible.read
  let slot ← Fallible.ofExcept (s.ctx.mutableRxSa spi)
  let reply := epReadArsnReplyEncode spi (s.ctx.sas slot).rxArsn
  Fallible.modify fun s => s.write 0 reply
  pure reply.length

/-- `ccsds_sdls_ep_process_sa_status` -/
def processSaStatus (encoded : Bytes) : Recipient Nat := do
  let spi ← Fallible.ofExcept (epSaCommandDecode .saStatus encoded)
  let s ← Fallible.read
  let slot ← Fallible.ofExcept (s.ctx.managedSa spi)
  let reply := epSaStatusReplyEncode spi (s.ctx.sas slot).lastProcedure
  Fallible.modify fun s => s.write 0 reply
  pure reply.length

end ZephyrCcsds.Sdls
