import ZephyrCcsds.Sdls.EpPdu

/-! # Key management recipients

OTAR, Key Activation and Deactivation, Key Inventory and Key Verification.  A recipient
returns the length of its reply, `0` where it has none.
-/

namespace ZephyrCcsds.Sdls

open Callback

variable [Kconfig]

/-- The attributes that `validate_key` demands -/
def PsaKeyAttributes.fits (attributes : PsaKeyAttributes) (required : PsaKeyUsage) : Bool :=
  attributes.type = .aes && attributes.bits = aesKeyBits && attributes.algorithm = .gcm &&
    attributes.usage.includes required

/-- `validate_key` -/
def validateKey (keyId : PsaKeyId) (requiredUsage : PsaKeyUsage) : Recipient Unit := do
  let answer ← psaGetKeyAttributes keyId
  Fallible.failIf (answer.1 ≠ .success) .psa
  Fallible.failIf (answer.2.fits requiredUsage = false) .key

/-! ## OTAR -/

/-- The destinations of the decrypted key blocks, checked before the first import -/
def otarDestinations (ctx : Ctx) : List Bytes → List Nat → Except SdlsError (List KeySlot)
  | [], _ => .ok []
  | block :: blocks, seen =>
    let keyId := getU16 block 0
    if bound : sessionKeyBase ≤ keyId ∧ keyId < maxKeys then
      let slot : KeySlot := ⟨keyId, bound.2⟩
      if keyId ∈ seen then .error .format
      else if (ctx.keys slot).psaKeyId ≠ psaKeyIdNull ∧ (ctx.keys slot).state = .active then
        .error .keyState
      else
        match otarDestinations ctx blocks (keyId :: seen) with
        | .error e => .error e
        | .ok destinations => .ok (slot :: destinations)
    else
      .error .key

/-- The attributes of an imported session key; the lifetime stays at its initial value. -/
def otarKeyAttributes : PsaKeyAttributes where
  type := .aes
  bits := aesKeyBits
  algorithm := .gcm
  usage := .both
  lifetime := .volatile

/-- The import loop: the status it ends with and the key identifiers in `imported[]` -/
def importKeys : List Bytes → List PsaKeyId → Recipient (PsaStatus × List PsaKeyId)
  | [], imported => pure (.success, imported)
  | block :: blocks, imported => do
    let answer ← psaImportKey otarKeyAttributes (block.slice 2 epKeyLen)
    if answer.1 ≠ .success then
      pure (answer.1, imported)
    else
      importKeys blocks (imported ++ [answer.2])

/-- The loop that moves the imported keys into their slots, with the keys in `replaced[]` -/
def Ctx.swapKeys (ctx : Ctx) : List (KeySlot × PsaKeyId) → Ctx × List PsaKeyId
  | [] => (ctx, [])
  | (slot, imported) :: rest =>
    let swapped := (ctx.updateKey slot fun _ =>
      { psaKeyId := imported, state := .preActive, txArsn := 0 }).swapKeys rest
    (swapped.1, (ctx.keys slot).psaKeyId :: swapped.2)

/-- `destroy_replaced_volatile_key` -/
def destroyReplacedVolatileKey (keyId : PsaKeyId) : Recipient Unit := do
  let answer ← psaGetKeyAttributes keyId
  if answer.1 = .success ∧ answer.2.lifetime = .volatile then
    let _ ← psaDestroyKey keyId
    pure ()
  else
    pure ()

def destroyReplaced : List PsaKeyId → Recipient Unit
  | [] => pure ()
  | keyId :: replaced => do
    if keyId ≠ psaKeyIdNull then destroyReplacedVolatileKey keyId else pure ()
    destroyReplaced replaced

/-- The loop at label `out`, which destroys what is left in `imported[]` -/
def destroyImported : List PsaKeyId → Recipient Unit
  | [] => pure ()
  | keyId :: imported => do
    if keyId ≠ psaKeyIdNull then
      let _ ← psaDestroyKey keyId
      destroyImported imported
    else
      destroyImported imported

/-- The slot of an OTAR master key that may be used -/
def Ctx.otarMaster (ctx : Ctx) (keyId : Nat) : Option KeySlot :=
  if keyId ≥ sessionKeyBase then none
  else
    match ctx.keyLookup keyId with
    | none => none
    | some slot => if (ctx.keys slot).state = .active then some slot else none

/-- The part of `ccsds_sdls_ep_process_otar` that decrypts and checks the key blocks -/
def otarKeyBlocks (encoded : Bytes) : Recipient (List (KeySlot × Bytes)) := do
  let otar ← Fallible.ofExcept (epOtarDecode encoded)
  let s ← Fallible.read
  match s.ctx.otarMaster otar.masterKeyId with
  | none => Fallible.fail .key
  | some master =>
    validateKey (s.ctx.keys master).psaKeyId .decryptOnly
    let plaintextLen := otar.keyCount * epOtarBlockLen
    let answer ← psaAeadDecrypt (s.ctx.keys master).psaKeyId (encoded.slice (epHeaderLen + 2) ivLen)
      (encoded.slice 0 (epHeaderLen + 2)) (encoded.slice (epHeaderLen + 2 + ivLen) (plaintextLen + tagLen))
    Fallible.failIf (answer.1 = .invalidSignature) .authentication
    Fallible.failIf (answer.1 ≠ .success) .psa
    Fallible.failIf (answer.2.length ≠ plaintextLen) .psa
    let blocks := (List.range otar.keyCount).map fun i => answer.2.slice (i * epOtarBlockLen) epOtarBlockLen
    let destinations ← Fallible.ofExcept (otarDestinations s.ctx blocks [])
    pure (destinations.zip blocks)

/-- `ccsds_sdls_ep_process_otar` -/
def processOtar (encoded : Bytes) : Recipient Unit := do
  let blocks ← otarKeyBlocks encoded
  let imports ← importKeys (blocks.map (·.2)) []
  if imports.1 ≠ .success then
    destroyImported imports.2
    Fallible.fail .psa
  else
    let s ← Fallible.read
    let swapped := s.ctx.swapKeys ((blocks.map (·.1)).zip imports.2)
    -- The identifiers move out of `imported[]`, so label `out` finds nothing to destroy.
    Fallible.modify fun s => s.withCtx fun _ => swapped.1
    destroyReplaced swapped.2

/-! ## Lifecycle -/

/-- The range, duplicate and presence checks on a session key that a command names -/
def Ctx.sessionRecipient (ctx : Ctx) (keyId : Nat) (seen : List Nat) : Option KeySlot :=
  if keyId < sessionKeyBase ∨ keyId ≥ maxKeys ∨ keyId ∈ seen then none else ctx.keyLookup keyId

/-- The validation loop of a command on session keys -/
def checkRecipients (permitted : KeyState → Bool) (usage : PsaKeyUsage) :
    List Nat → List Nat → Recipient (List KeySlot)
  | [], _ => pure []
  | keyId :: keyIds, seen => do
    let s ← Fallible.read
    match s.ctx.sessionRecipient keyId seen with
    | none => Fallible.fail .key
    | some slot =>
      Fallible.failIf (permitted (s.ctx.keys slot).state = false) .keyState
      validateKey (s.ctx.keys slot).psaKeyId usage
      let slots ← checkRecipients permitted usage keyIds (keyId :: seen)
      pure (slot :: slots)

def Ctx.setKeyStates (ctx : Ctx) (slots : List KeySlot) (state : KeyState) : Ctx :=
  slots.foldl (fun ctx slot => ctx.updateKey slot fun key => { key with state }) ctx

/-- The states in which `process_lifecycle` takes a key -/
def lifecyclePermits (procedure : Procedure) (state : KeyState) : Bool :=
  if procedure = .keyDeactivation then state = .active || state = .preActive else state = .preActive

/-- `process_lifecycle` -/
def processLifecycle (procedure : Procedure) (encoded : Bytes) : Recipient Unit := do
  let keyIds ← Fallible.ofExcept (epKeyCommandDecode procedure encoded)
  let slots ← checkRecipients (lifecyclePermits procedure) .both keyIds []
  let state : KeyState := if procedure = .keyActivation then .active else .deactivated
  Fallible.modify fun s => s.withCtx (·.setKeyStates slots state)

/-- `ccsds_sdls_ep_process_key_activation` -/
def processKeyActivation (encoded : Bytes) : Recipient Unit := processLifecycle .keyActivation encoded

/-- `ccsds_sdls_ep_process_key_deactivation` -/
def processKeyDeactivation (encoded : Bytes) : Recipient Unit := processLifecycle .keyDeactivation encoded

/-! ## Inventory -/

/-- The scan of `ccsds_sdls_ep_process_key_inventory`; `entries` are those already found. -/
def inventoryScan : List KeySlot → List EpKeyInventoryEntry → Recipient (List EpKeyInventoryEntry)
  | [], entries => pure entries
  | slot :: slots, entries => do
    let s ← Fallible.read
    let key := s.ctx.keys slot
    if key.psaKeyId = psaKeyIdNull then
      inventoryScan slots entries
    else
      validateKey key.psaKeyId .both
      Fallible.failIf (entries.length = epMaxRecipients) .capacity
      inventoryScan slots (entries ++ [{ keyId := slot.val, state := key.state }])

/-- The slots of a range of key IDs, ascending -/
def keyRange (first last : Nat) : List KeySlot :=
  (List.finRange maxKeys).filter fun slot => first ≤ slot.val ∧ slot.val ≤ last

/-- `ccsds_sdls_ep_process_key_inventory` -/
def processKeyInventory (encoded : Bytes) : Recipient Nat := do
  let s ← Fallible.read
  Fallible.failIf (s.ctx.authenticatedRx.valid = false) .authentication
  let command ← Fallible.ofExcept (epKeyInventoryCommandDecode encoded)
  Fallible.failIf (command.lastKeyId ≥ maxKeys) .key
  let entries ← inventoryScan (keyRange command.firstKeyId command.lastKeyId) []
  let reply ← Fallible.ofExcept (epKeyInventoryReplyEncode entries epKeyInventoryReplyPduMax)
  Fallible.failIf (s.out.length < reply.length) .capacity
  Fallible.modify fun s => s.write 0 reply
  pure reply.length

/-! ## Verification -/

/-- The encryption loop: the reply entries and the sender IV after the last of them -/
def encryptChallenges : List (KeySlot × Bytes) → UInt64 → Recipient (List EpVerifyReplyEntry × UInt64)
  | [], nextIv => pure ([], nextIv)
  | (slot, challenge) :: rest, nextIv => do
    let s ← Fallible.read
    let iv := constructIv nextIv (s.ctx.keys slot).txArsn
    let answer ← psaAeadEncrypt (s.ctx.keys slot).psaKeyId iv [] challenge
    Fallible.failIf (answer.1 ≠ .success ∨ answer.2.length ≠ epChallengeLen + tagLen) .psa
    let encrypted ← encryptChallenges rest (nextIv + ivStride)
    pure ({ keyId := slot.val, iv, encryptedChallenge := answer.2.take epChallengeLen,
            tag := answer.2.drop epChallengeLen } :: encrypted.1, encrypted.2)

/-- The counters after a verification: one ARSN for each key, and the sender IV -/
def Ctx.commitVerification (ctx : Ctx) (slots : List KeySlot) (nextIv : UInt64) : Ctx :=
  { slots.foldl (fun ctx slot => ctx.updateKey slot fun key => { key with txArsn := key.txArsn + 1 }) ctx
    with txIv := nextIv }

/-- `ccsds_sdls_ep_process_key_verification` -/
def processKeyVerification (encoded : Bytes) : Recipient Unit := do
  let entries ← Fallible.ofExcept (epVerifyCommandDecode encoded)
  let slots ← checkRecipients (fun state => state ≠ .deactivated) .encryptOnly (entries.map (·.keyId)) []
  let s ← Fallible.read
  let response ← encryptChallenges (slots.zip (entries.map (·.challenge))) s.ctx.txIv
  Fallible.modify fun s => s.write 0 (epVerifyReplyEncode response.1)
  Fallible.modify fun s => s.withCtx (·.commitVerification slots response.2)

end ZephyrCcsds.Sdls
