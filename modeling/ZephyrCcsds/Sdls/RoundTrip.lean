import ZephyrCcsds.Sdls.Runs

/-! # Protected frames are accepted

What `ccsds_sdls_apply_security` puts out under an AEAD scheme, that
`ccsds_sdls_process_security` accepts it and gives the data back, and that the inputs of the
AEAD call determine every field of a protected span.
-/

namespace ZephyrCcsds.Sdls

open Callback

/-! ## AEAD schemes -/

/-- An AEAD scheme over keys `K`: decryption inverts encryption under the same key, nonce and
additional data. -/
structure Aead (K : Type) where
  encrypt : K → Bytes → Bytes → Bytes → Bytes
  decrypt : K → Bytes → Bytes → Bytes → Option Bytes
  encrypt_length : ∀ key nonce aad plaintext,
    (encrypt key nonce aad plaintext).length = plaintext.length + tagLen
  decrypt_encrypt : ∀ key nonce aad plaintext,
    decrypt key nonce aad (encrypt key nonce aad plaintext) = some plaintext

/-- The answers of a PSA that implements a scheme for the keys it stores: an encryption may fail, and a
decryption that the scheme defines succeeds. -/
def Aead.Answers {K : Type} (scheme : Aead K) (stored : PsaKeyId → K) : (op : PsaOp) → PsaRes op → Prop
  | .aeadEncrypt key nonce aad plaintext, answer =>
    answer.1 = .success → answer.2 = scheme.encrypt (stored key) nonce aad plaintext
  | .aeadDecrypt key nonce aad ciphertext, answer =>
    ∀ plaintext, scheme.decrypt (stored key) nonce aad ciphertext = some plaintext →
      answer = (.success, plaintext)
  | .getKeyAttributes _, _ => True
  | .importKey _ _, _ => True
  | .destroyKey _, _ => True
  | .selfTest, _ => True

variable [Kconfig] {K : Type}

/-- The environment of such a PSA. -/
abbrev Aead.psa (scheme : Aead K) (stored : PsaKeyId → K) : Environment PsaOp PsaRes State Item :=
  answering (scheme.Answers stored) fun s op answer => ⟨s.ctx, op, answer⟩

section Rules

variable {scheme : Aead K} {stored : PsaKeyId → K} {F : List Item → SdlsError → State → Prop} {s : State}

@[simp] theorem wp_psaAeadEncrypt_scheme {key : PsaKeyId} {nonce aad plaintext : Bytes}
    {Q : List Item → PsaStatus × Bytes → State → Prop} :
    (psaAeadEncrypt key nonce aad plaintext).wp (scheme.psa stored) Q F s ↔
      ∀ answer : PsaStatus × Bytes,
        (answer.1 = .success → answer.2 = scheme.encrypt (stored key) nonce aad plaintext) →
          Q [⟨s.ctx, .aeadEncrypt key nonce aad plaintext, answer⟩] answer s :=
  Fallible.wp_call_answering

@[simp] theorem wp_psaAeadDecrypt_scheme {key : PsaKeyId} {nonce aad ciphertext : Bytes}
    {Q : List Item → PsaStatus × Bytes → State → Prop} :
    (psaAeadDecrypt key nonce aad ciphertext).wp (scheme.psa stored) Q F s ↔
      ∀ answer : PsaStatus × Bytes,
        (∀ plaintext, scheme.decrypt (stored key) nonce aad ciphertext = some plaintext →
          answer = (.success, plaintext)) →
          Q [⟨s.ctx, .aeadDecrypt key nonce aad ciphertext, answer⟩] answer s :=
  Fallible.wp_call_answering

/-- Such a PSA answers every call. -/
theorem Aead.psa_answers (scheme : Aead K) (stored : PsaKeyId → K) (s : State) (op : PsaOp) :
    ∃ answer t s', scheme.psa stored s op answer t s' := by
  cases op with
  | getKeyAttributes key =>
    exact ⟨(.failure, ⟨.other, 0, .other, .both, .volatile⟩), _, _, trivial, rfl, rfl⟩
  | aeadEncrypt key nonce aad plaintext =>
    exact ⟨(.success, scheme.encrypt (stored key) nonce aad plaintext), _, _, fun _ => rfl, rfl, rfl⟩
  | aeadDecrypt key nonce aad ciphertext =>
    cases decrypted : scheme.decrypt (stored key) nonce aad ciphertext with
    | none => exact ⟨(.invalidSignature, []), _, _, fun _ found => by simp [decrypted] at found, rfl, rfl⟩
    | some plaintext =>
      refine ⟨(.success, plaintext), _, _, fun plaintext' found => ?_, rfl, rfl⟩
      rw [decrypted] at found
      cases found
      rfl
  | importKey attributes data => exact ⟨(.failure, psaKeyIdNull), _, _, trivial, rfl, rfl⟩
  | destroyKey key => exact ⟨.success, _, _, trivial, rfl, rfl⟩
  | selfTest => exact ⟨(0, 0), _, _, trivial, rfl, rfl⟩

end Rules

/-! ## Protection -/

/-- The protected data and the Security Trailer of a frame -/
def protectedParts (scheme : Aead K) (key : K) (gcm : Bool) (auth : AuthHeader) (header : SecurityHeader)
    (clear : Bytes) : Bytes × Bytes :=
  if gcm then
    let encrypted := scheme.encrypt key header.iv (buildAuthData auth header.spi []) clear
    (encrypted.take clear.length, encrypted.drop clear.length)
  else
    (clear, scheme.encrypt key header.iv (buildAuthData auth header.spi clear) [])

/-- What `ccsds_sdls_apply_security` puts out under a scheme -/
def protectedSpan (scheme : Aead K) (key : K) (gcm : Bool) (auth : AuthHeader) (header : SecurityHeader)
    (clear : Bytes) : Bytes :=
  let parts := protectedParts scheme key gcm auth header clear
  securityHeaderEncode header ++ (parts.1 ++ parts.2)

/-- The contract of a transmission: the protected span fits into the output from `outOffset` on, and
clear data in the output buffer stands behind the place of the Security Header, where the TM encoder
has put it. -/
inductive DataPointer.Fits (out : Bytes) (outOffset : Nat) : DataPointer → Prop
  | apart {bytes : Bytes} : outOffset + (bytes.length + protectedOverhead) ≤ out.length →
      Fits out outOffset (.apart bytes)
  | within {offset len : Nat} : outOffset + (len + protectedOverhead) ≤ out.length →
      outOffset + securityHeaderLen ≤ offset → offset + len ≤ out.length →
      Fits out outOffset (.within offset len)

section Lengths

variable {scheme : Aead K} {key : K} {gcm : Bool} {auth : AuthHeader} {header : SecurityHeader}
  {clear : Bytes}

omit [Kconfig] in
theorem protectedParts_data_length :
    (protectedParts scheme key gcm auth header clear).1.length = clear.length := by
  cases gcm with
  | true => simp [protectedParts, scheme.encrypt_length]
  | false => rfl

omit [Kconfig] in
theorem protectedParts_tag_length :
    (protectedParts scheme key gcm auth header clear).2.length = tagLen := by
  cases gcm with
  | true => simp [protectedParts, scheme.encrypt_length]
  | false => simp [protectedParts, scheme.encrypt_length]

omit [Kconfig] in
theorem securityHeaderEncode_length (framed : header.iv.length = ivLen) :
    (securityHeaderEncode header).length = securityHeaderLen := by
  simp [securityHeaderEncode, framed, ivLen, securityHeaderLen]

omit [Kconfig] in
theorem protectedSpan_length (framed : header.iv.length = ivLen) :
    (protectedSpan scheme key gcm auth header clear).length = clear.length + protectedOverhead := by
  simp only [protectedSpan, List.length_append, securityHeaderEncode_length framed,
    protectedParts_data_length, protectedParts_tag_length, protectedOverhead]
  omega

omit [Kconfig] in
theorem constructIv_length (senderIv : UInt64) (arsn : UInt32) : (constructIv senderIv arsn).length = ivLen := by
  simp [constructIv, ivLen]

end Lengths

omit [Kconfig] in
theorem DataPointer.Fits.room {out : Bytes} {outOffset : Nat} {data : DataPointer}
    (fits : data.Fits out outOffset) :
    outOffset + ((data.read out).length + protectedOverhead) ≤ out.length := by
  cases fits with
  | apart room => exact room
  | within room _ inside =>
    rw [DataPointer.read, Bytes.slice_length_of_le inside]
    exact room

omit [Kconfig] in
/-- The Security Header does not reach the clear data. -/
theorem DataPointer.Fits.read_behind {out : Bytes} {outOffset : Nat} {data : DataPointer}
    (fits : data.Fits out outOffset) {header : Bytes} (framed : header.length = securityHeaderLen) :
    data.read (out.overwrite outOffset header) = data.read out := by
  cases fits with
  | apart _ => rfl
  | within room behind _ =>
    apply Bytes.slice_overwrite_behind
    · omega
    · rw [framed]
      exact behind

theorem applySecurity_protects (scheme : Aead K) (stored : PsaKeyId → K) {role : SaRole} {slot : SaSlot}
    {key : KeySlot} (auth : AuthHeader) {data : DataPointer} {outOffset : Nat} {s : State}
    (operational : s.ctx.operationalKey slot role true = .ok key) (fits : data.Fits s.out outOffset) :
    (applySecurity role slot auth data outOffset).wp (scheme.psa stored)
      (fun _ _ s' => s'.out = s.out.overwrite outOffset
        (protectedSpan scheme (stored (s.ctx.keys key).psaKeyId) (decide (s.ctx.saModes slot = .gcm)) auth
          { spi := slot.spi, iv := s.ctx.nextIv key } (data.read s.out)))
      (fun _ _ _ => True) s := by
  have room := fits.room
  unfold protectedOverhead at room
  have framed : (securityHeaderEncode { spi := slot.spi, iv := s.ctx.nextIv key }).length =
      securityHeaderLen := securityHeaderEncode_length (constructIv_length _ _)
  simp only [applySecurity, operational, Fallible.wp_bind, Fallible.wp_read, Fallible.wp_ofExcept,
    Fallible.wp_modify, wp_psaAeadEncrypt_scheme, Fallible.wp_failIf,
    Except.ok.injEq, forall_eq', implies_true, and_true, true_and]
  intro answer implemented
  rw [not_or, not_not]
  rintro ⟨succeeded, -⟩
  have encrypted := implemented succeeded
  cases gcm : decide (s.ctx.saModes slot = .gcm) with
  | true =>
    simp only [gcm, if_true] at encrypted ⊢
    simp only [Fallible.wp_bind, Fallible.wp_modify, State.write_out, State.withCtx_out]
    have taken : (answer.2.take (data.read s.out).length).length = (data.read s.out).length := by
      simp [encrypted, scheme.encrypt_length]
    nth_rewrite 2 [← taken]
    rw [← framed, Bytes.overwrite_three (by omega), encrypted]
    rfl
  | false =>
    simp only [gcm, Bool.false_eq_true, if_false] at encrypted ⊢
    simp only [Fallible.wp_bind, Fallible.wp_modify, State.write_out, State.withCtx_out]
    rw [fits.read_behind framed, ← framed, Bytes.overwrite_three (by omega), encrypted]
    rfl

/-! ## Acceptance -/

/-- The IV field of a protected span -/
def ivField (protectedData : Bytes) : Bytes := protectedData.slice 2 ivLen

/-- The protected data in a protected span -/
def dataField (protectedData : Bytes) : Bytes :=
  protectedData.slice securityHeaderLen (protectedData.length - protectedOverhead)

/-- The tag in the Security Trailer of a protected span -/
def tagField (protectedData : Bytes) : Bytes :=
  protectedData.slice (securityHeaderLen + (protectedData.length - protectedOverhead)) tagLen

section Fields

variable {scheme : Aead K} {key : K} {gcm : Bool} {auth : AuthHeader} {header : SecurityHeader}
  {clear : Bytes}

omit [Kconfig] in
theorem dataField_protectedSpan (framed : header.iv.length = ivLen) :
    dataField (protectedSpan scheme key gcm auth header clear) =
      (protectedParts scheme key gcm auth header clear).1 := by
  have front := securityHeaderEncode_length framed
  rw [dataField, protectedSpan_length framed, Nat.add_sub_cancel, protectedSpan,
    Bytes.slice_append_right _ (by omega), front, Nat.sub_self,
    ← @protectedParts_data_length _ scheme key gcm auth header, Bytes.slice_append_left]

omit [Kconfig] in
theorem tagField_protectedSpan (framed : header.iv.length = ivLen) :
    tagField (protectedSpan scheme key gcm auth header clear) =
      (protectedParts scheme key gcm auth header clear).2 := by
  have front := securityHeaderEncode_length framed
  have middle : (protectedParts scheme key gcm auth header clear).1.length = clear.length :=
    protectedParts_data_length
  have all : ∀ bytes : Bytes, bytes.length = tagLen → bytes.slice 0 tagLen = bytes := fun bytes whole =>
    List.take_of_length_le (le_of_eq whole)
  rw [tagField, protectedSpan_length framed, Nat.add_sub_cancel, protectedSpan,
    Bytes.slice_append_right _ (by omega), front, Nat.add_sub_cancel_left,
    Bytes.slice_append_right _ (by omega), middle, Nat.sub_self, all _ protectedParts_tag_length]

omit [Kconfig] in
theorem securityHeaderDecode_encode (framed : header.iv.length = ivLen) (low : header.spi ≠ 0)
    (high : header.spi < uint16Max) : securityHeaderDecode (securityHeaderEncode header) = .ok header := by
  have spi : (securityHeaderEncode header).slice 0 2 = Bytes.putBe 2 header.spi :=
    Bytes.slice_append_left (Bytes.putBe 2 header.spi) header.iv
  have iv : (securityHeaderEncode header).slice 2 ivLen = header.iv := by
    rw [securityHeaderEncode, Bytes.slice_append_right _ (by simp), Bytes.putBe_length, Nat.sub_self, ← framed]
    exact List.take_length
  have value : Bytes.getBe (Bytes.putBe 2 header.spi) = header.spi :=
    Bytes.getBe_putBe_of_lt (by unfold uint16Max at high; omega)
  have valid : ¬ (header.spi = 0 ∨ header.spi = uint16Max) := not_or.mpr ⟨low, Nat.ne_of_lt high⟩
  rw [securityHeaderDecode, if_neg (not_not.mpr (securityHeaderEncode_length framed)), spi, iv, value,
    if_neg valid]

omit [Kconfig] in
theorem header_protectedSpan (framed : header.iv.length = ivLen) :
    (protectedSpan scheme key gcm auth header clear).slice 0 securityHeaderLen = securityHeaderEncode header := by
  rw [← securityHeaderEncode_length framed, protectedSpan, Bytes.slice_append_left]

end Fields

omit [Kconfig] in
theorem ivArsn_constructIv (senderIv : UInt64) (arsn : UInt32) : ivArsn (constructIv senderIv arsn) = arsn := by
  rw [ivArsn, getU32, constructIv, Bytes.slice_append_right _ (by simp), Bytes.putBe_length]
  have all : (Bytes.putBe 4 arsn.toNat).slice (8 - 8) 4 = Bytes.putBe 4 arsn.toNat :=
    List.take_of_length_le (by simp)
  rw [all, Bytes.getBe_putBe_of_lt arsn.toNat_lt, UInt32.ofNat_toNat]

/-- An SA that a call may use: configured, Operational, of the direction of the call, and with an Active
key that PSA holds. -/
structure Ctx.Ready (ctx : Ctx) (slot : SaSlot) (transmitting : Bool) (key : KeySlot) : Prop where
  configured : (ctx.sas slot).configured = true
  state : (ctx.sas slot).state = .operational
  direction : (ctx.saRoles slot).isTx = transmitting
  keySlot : (ctx.sas slot).keySlot = key.val
  traffic : key.val ≠ 0
  active : (ctx.keys key).state = .active
  present : (ctx.keys key).psaKeyId ≠ psaKeyIdNull

theorem Ctx.Ready.operationalKey {ctx : Ctx} {slot : SaSlot} {transmitting : Bool} {key : KeySlot}
    (ready : ctx.Ready slot transmitting key) {role : SaRole} (direction : role.isTx = transmitting) :
    ctx.operationalKey slot role transmitting = .ok key := by
  have usable : ¬ ((ctx.saRoles slot).isTx ≠ role.isTx ∨ role.isTx ≠ transmitting ∨
      (ctx.sas slot).state ≠ .operational) := by
    simp [ready.direction, direction, ready.state]
  have bound : (ctx.sas slot).keySlot ≠ 0 ∧ (ctx.sas slot).keySlot < maxKeys := by
    rw [ready.keySlot]
    exact ⟨ready.traffic, key.isLt⟩
  have same : (⟨(ctx.sas slot).keySlot, bound.2⟩ : KeySlot) = key := Fin.ext ready.keySlot
  have held : ¬ ((ctx.keys key).state ≠ .active ∨ (ctx.keys key).psaKeyId = psaKeyIdNull) := by
    simp [ready.active, ready.present]
  unfold Ctx.operationalKey
  simp only [if_neg usable, dif_pos bound, same, if_neg held]

/-- The decryption of a protected span gives the clear data in both modes. -/
theorem decryptFrame_accepts (scheme : Aead K) (stored : PsaKeyId → K) {slot : SaSlot} {key : KeySlot}
    {auth auth' : AuthHeader} {header : SecurityHeader} (clear : Bytes) {t : State}
    (masked : auth'.masked = auth.masked) (framed : header.iv.length = ivLen)
    (fresh : (t.ctx.sas slot).replayCheck (ivArsn header.iv) = .ok ()) :
    (decryptFrame auth' (protectedSpan scheme (stored (t.ctx.keys key).psaKeyId)
        (decide (t.ctx.saModes slot = .gcm)) auth header clear) header slot key).wp (scheme.psa stored)
      (fun _ _ t' => t'.out = t.out.overwrite 0 clear) (fun _ _ _ => False) t := by
  obtain ⟨gcm, mode⟩ : ∃ gcm, decide (t.ctx.saModes slot = .gcm) = gcm := ⟨_, rfl⟩
  rw [mode]
  have dataPart := @dataField_protectedSpan _ scheme (stored (t.ctx.keys key).psaKeyId) gcm auth header clear framed
  have tagPart := @tagField_protectedSpan _ scheme (stored (t.ctx.keys key).psaKeyId) gcm auth header clear framed
  rw [dataField, protectedSpan_length framed, Nat.add_sub_cancel] at dataPart
  rw [tagField, protectedSpan_length framed, Nat.add_sub_cancel] at tagPart
  have sameAad : ∀ frameData, buildAuthData auth' header.spi frameData =
      buildAuthData auth header.spi frameData := by
    intro frameData
    simp only [buildAuthData, masked]
  simp only [decryptFrame, Fallible.wp_bind, Fallible.wp_read, fresh, wp_psaAeadDecrypt_scheme, mode,
    protectedSpan_length framed, Nat.add_sub_cancel, dataPart, tagPart, sameAad]
  intro answer implemented
  cases gcm with
  | true =>
    simp only [ protectedParts, if_true, List.take_append_drop] at implemented ⊢
    obtain rfl := implemented clear (scheme.decrypt_encrypt _ _ _ _)
    simp [of_decide_eq_true mode, protectedSpan_length framed]
  | false =>
    simp only [protectedParts, Bool.false_eq_true, if_false] at implemented ⊢
    obtain rfl := implemented [] (scheme.decrypt_encrypt _ _ _ _)
    simp [of_decide_eq_false mode]

theorem processSecurity_accepts (scheme : Aead K) (stored : PsaKeyId → K) {role : SaRole} {slot : SaSlot}
    {key : KeySlot} {auth auth' : AuthHeader} {header : SecurityHeader} (clear : Bytes) {t : State}
    (ready : t.ctx.Ready slot false key) (direction : role.isTx = false)
    (masked : auth'.masked = auth.masked) (named : header.spi = slot.spi)
    (framed : header.iv.length = ivLen)
    (fresh : (t.ctx.sas slot).replayCheck (ivArsn header.iv) = .ok ()) :
    (processSecurity role auth' (protectedSpan scheme (stored (t.ctx.keys key).psaKeyId)
        (decide (t.ctx.saModes slot = .gcm)) auth header clear)).wp (scheme.psa stored)
      (fun _ _ t' => t'.out = t.out.overwrite 0 clear) (fun _ _ _ => False) t := by
  have long : ¬ (protectedSpan scheme (stored (t.ctx.keys key).psaKeyId)
      (decide (t.ctx.saModes slot = .gcm)) auth header clear).length < protectedOverhead := by
    rw [protectedSpan_length framed]
    omega
  have decoded : securityHeaderDecode (securityHeaderEncode header) = .ok header := by
    apply securityHeaderDecode_encode framed
    · rw [named]
      exact Nat.succ_ne_zero _
    · rw [named]
      have := slot.isLt
      have := Kconfig.maxSa_range
      unfold SaSlot.spi uint16Max
      omega
  have found : (t.withCtx Ctx.clearAuthenticatedRx).ctx.saLookup header.spi = some slot := by
    rw [named]
    exact @Ctx.saLookup_spi _ t.ctx.clearAuthenticatedRx slot ready.configured
  have operational : (t.withCtx Ctx.clearAuthenticatedRx).ctx.operationalKey slot role false = .ok key :=
    ready.operationalKey direction
  simp only [processSecurity, Fallible.wp_bind, Fallible.wp_modify, if_neg long,
    header_protectedSpan framed, decoded, Fallible.wp_read, found, operational]
  -- Clearing the provenance leaves the tables alone.
  exact @decryptFrame_accepts _ _ scheme stored slot key auth auth' header clear
    (t.withCtx Ctx.clearAuthenticatedRx) masked framed fresh

/-! ## The inputs of the AEAD call -/

/-- The call without the context -/
def Item.call (item : Item) : (op : PsaOp) × PsaRes op := ⟨item.op, item.result⟩

/-- A decryption made for a protected span -/
structure Decrypts (auth : AuthHeader) (protectedData nonce aad ciphertext : Bytes) : Prop where
  framed : protectedOverhead ≤ protectedData.length
  nonce : nonce = ivField protectedData
  inputs : ∃ gcm : Bool,
    aad = buildAuthData auth (spiField protectedData) (if gcm then [] else dataField protectedData) ∧
    ciphertext = if gcm then dataField protectedData ++ tagField protectedData else tagField protectedData

/-- Every decryption of a call is one for its protected span. -/
def DecryptsOnly (auth : AuthHeader) (protectedData : Bytes) (t : List Item) : Prop :=
  ∀ item ∈ t, ∀ key nonce aad ciphertext, item.op = .aeadDecrypt key nonce aad ciphertext →
    Decrypts auth protectedData nonce aad ciphertext

/-- The call of a keyed frame is for its span. -/
theorem Keyed.decryptsOnly {role : SaRole} {auth : AuthHeader} {protectedData : Bytes} {ctx : Ctx}
    {header : SecurityHeader} {slot : SaSlot} {key : KeySlot} (keyed : Keyed ctx role protectedData header slot key)
    (answer : PsaStatus × Bytes) :
    DecryptsOnly auth protectedData [ctx.decryption auth protectedData header slot key answer] := by
  intro item listed keyId nonce aad ciphertext called
  obtain rfl := List.mem_singleton.mp listed
  cases called
  refine ⟨keyed.framed, securityHeaderDecode_iv keyed.decoded, _, ?_, rfl⟩
  rw [securityHeaderDecode_spi keyed.decoded]
  rfl

theorem processSecurity_decrypts (role : SaRole) (auth : AuthHeader) (protectedData : Bytes) (s : State) :
    (processSecurity role auth protectedData).wp anyPsa
      (fun t _ _ => DecryptsOnly auth protectedData t)
      (fun t _ _ => DecryptsOnly auth protectedData t) s := by
  have silent : DecryptsOnly auth protectedData [] := by simp [DecryptsOnly]
  apply Fallible.wp_mono (processSecurity_outcome role auth protectedData s)
  · intro t _ s' processed
    cases processed with
    | accepted keyed _ _ => exact keyed.decryptsOnly _
  · intro t e s' processed
    cases processed with
    | malformed => exact silent
    | refused _ => exact silent
    | forged keyed => exact keyed.decryptsOnly _
    | unanswered keyed => exact keyed.decryptsOnly _

/-- The clear data of a protected span: in GMAC its own data, in GCM what PSA has decrypted it to. -/
def ClearData (ctx : Ctx) (protectedData : Bytes) (t : List Item) (clear : Bytes) : Prop :=
  ∃ slot, ctx.saLookup (spiField protectedData) = some slot ∧
    (ctx.saModes slot ≠ .gcm → dataField protectedData = clear) ∧
    (ctx.saModes slot = .gcm → ∃ item ∈ t, ∃ key nonce aad ciphertext,
      item.call = ⟨.aeadDecrypt key nonce aad ciphertext, (.success, clear)⟩)

/-- An accepted span leaves its clear data at the start of the output buffer. -/
theorem processSecurity_output (role : SaRole) (auth : AuthHeader) (protectedData : Bytes) (s : State) :
    (processSecurity role auth protectedData).wp anyPsa
      (fun t _ s' => ∀ clear, ClearData s.ctx protectedData t clear →
        clear.length + protectedOverhead = protectedData.length ∧ s'.out = s.out.overwrite 0 clear)
      (fun _ _ _ => True) s := by
  apply Fallible.wp_mono (processSecurity_outcome role auth protectedData s)
  · intro t _ s' processed
    cases processed with
    | @accepted header slot key plaintext keyed _ length =>
      intro clear clearData
      obtain ⟨slot', found', gmac, gcm⟩ := clearData
      rw [← securityHeaderDecode_spi keyed.decoded, keyed.found] at found'
      obtain rfl := Option.some.inj found'
      have framed := keyed.framed
      have span : (dataField protectedData).length + protectedOverhead = protectedData.length := by
        rw [dataField, Bytes.slice_length_of_le]
        · omega
        · unfold protectedOverhead at framed ⊢
          omega
      by_cases mode : s.ctx.saModes slot = .gcm
      · obtain ⟨item, listed, _, _, _, _, call⟩ := gcm mode
        obtain rfl := List.mem_singleton.mp listed
        cases call
        have whole := length mode
        rw [if_pos mode]
        exact ⟨by omega, rfl⟩
      · rw [← gmac mode, if_neg mode]
        exact ⟨span, rfl⟩
  · intro t e s' _
    trivial

/-- Two protected spans, with their frame headers, that agree on everything that is authenticated. -/
structure SameSpan (auth₁ auth₂ : AuthHeader) (protected₁ protected₂ : Bytes) : Prop where
  spi : spiField protected₁ = spiField protected₂
  iv : ivField protected₁ = ivField protected₂
  header : auth₁.masked = auth₂.masked
  data : dataField protected₁ = dataField protected₂
  tag : tagField protected₁ = tagField protected₂

omit [Kconfig] in
theorem AuthHeader.masked_length (auth : AuthHeader) : auth.masked.length = auth.data.length := by
  have := auth.mask_le
  simp only [AuthHeader.masked, List.length_append, List.length_zipWith, List.length_drop]
  omega

omit [Kconfig] in
/-- The fields in front of the frame data have fixed places once the header length is known. -/
theorem buildAuthData_injective {auth₁ auth₂ : AuthHeader} {spi₁ spi₂ : Nat} {data₁ data₂ : Bytes}
    (lengths : auth₁.data.length = auth₂.data.length) (bound₁ : spi₁ < 256 ^ 2) (bound₂ : spi₂ < 256 ^ 2)
    (same : buildAuthData auth₁ spi₁ data₁ = buildAuthData auth₂ spi₂ data₂) :
    auth₁.masked = auth₂.masked ∧ spi₁ = spi₂ ∧ data₁ = data₂ := by
  simp only [buildAuthData, List.append_assoc] at same
  obtain ⟨headers, rest⟩ := List.append_inj same (by simp [AuthHeader.masked_length, lengths])
  obtain ⟨spis, rest⟩ := List.append_inj rest (by simp)
  refine ⟨headers, ?_, (List.append_inj rest rfl).2⟩
  rw [← Bytes.getBe_putBe_of_lt bound₁, ← Bytes.getBe_putBe_of_lt bound₂, spis]

omit [Kconfig] in
theorem spiField_lt (protectedData : Bytes) : spiField protectedData < 256 ^ 2 := by
  apply Nat.lt_of_lt_of_le (Bytes.getBe_lt _)
  apply Nat.pow_le_pow_right (by decide)
  simp [Bytes.slice_length]

omit [Kconfig] in
theorem tagField_length {protectedData : Bytes} (framed : protectedOverhead ≤ protectedData.length) :
    (tagField protectedData).length = tagLen := by
  unfold protectedOverhead at framed
  rw [tagField, Bytes.slice_length, protectedOverhead]
  omega

omit [Kconfig] in
theorem Decrypts.sameSpan {auth₁ auth₂ : AuthHeader} {protected₁ protected₂ nonce aad ciphertext : Bytes}
    (lengths : auth₁.data.length = auth₂.data.length)
    (first : Decrypts auth₁ protected₁ nonce aad ciphertext)
    (second : Decrypts auth₂ protected₂ nonce aad ciphertext) :
    SameSpan auth₁ auth₂ protected₁ protected₂ := by
  obtain ⟨gcm₁, aad₁, ciphertext₁⟩ := first.inputs
  obtain ⟨gcm₂, aad₂, ciphertext₂⟩ := second.inputs
  have iv := first.nonce.symm.trans second.nonce
  have tagLength₁ := tagField_length first.framed
  have tagLength₂ := tagField_length second.framed
  obtain ⟨header, spi, behind⟩ := buildAuthData_injective lengths (spiField_lt _) (spiField_lt _)
    (aad₁.symm.trans aad₂)
  have inputs := ciphertext₁.symm.trans ciphertext₂
  -- The tag ends the ciphertext, so a mode that puts data there shows in the length.
  cases gcm₁ with
  | true =>
    cases gcm₂ with
    | true =>
      simp only [if_true] at inputs
      obtain ⟨data, tag⟩ := List.append_inj' inputs (tagLength₁.trans tagLength₂.symm)
      exact ⟨spi, iv, header, data, tag⟩
    | false =>
      simp only [if_true, Bool.false_eq_true, if_false] at inputs behind
      have counted := congrArg List.length inputs
      rw [List.length_append, tagLength₁, tagLength₂] at counted
      have empty : dataField protected₁ = [] := List.eq_nil_of_length_eq_zero (by omega)
      rw [empty, List.nil_append] at inputs
      exact ⟨spi, iv, header, empty.trans behind, inputs⟩
  | false =>
    cases gcm₂ with
    | true =>
      simp only [if_true, Bool.false_eq_true, if_false] at inputs behind
      have counted := congrArg List.length inputs
      rw [List.length_append, tagLength₁, tagLength₂] at counted
      have empty : dataField protected₂ = [] := List.eq_nil_of_length_eq_zero (by omega)
      rw [empty, List.nil_append] at inputs
      exact ⟨spi, iv, header, behind.trans empty.symm, inputs⟩
    | false =>
      simp only [Bool.false_eq_true, if_false] at inputs behind
      exact ⟨spi, iv, header, behind, inputs⟩

/-! ## The two directions together -/

/-- A transmit SA and a receive SA that protect the same channel: the same SPI, key and mode. -/
structure Channel (transmitKeys receiveKeys : PsaKeyId → K) (slot : SaSlot) (sender receiver : Ctx)
    (transmitKey receiveKey : KeySlot) : Prop where
  transmit : sender.Ready slot true transmitKey
  receive : receiver.Ready slot false receiveKey
  sameKey : transmitKeys (sender.keys transmitKey).psaKeyId = receiveKeys (receiver.keys receiveKey).psaKeyId
  sameMode : sender.saModes slot = receiver.saModes slot

theorem frame_protection (scheme : Aead K) (transmitKeys receiveKeys : PsaKeyId → K) :
    (∀ (transmitRole receiveRole : SaRole) (slot : SaSlot) (transmitKey receiveKey : KeySlot)
      (auth auth' : AuthHeader) (data : DataPointer) (outOffset : Nat) (s s' r : State) (t : List Item),
      transmitRole.isTx = true → receiveRole.isTx = false →
      Channel transmitKeys receiveKeys slot s.ctx r.ctx transmitKey receiveKey →
      data.Fits s.out outOffset →
      (applySecurity transmitRole slot auth data outOffset).run.Runs (scheme.psa transmitKeys) s t (.ok ()) s' →
      auth'.data.length = auth.data.length → auth'.masked = auth.masked →
      (r.ctx.sas slot).replayCheck (s.ctx.keys transmitKey).txArsn = .ok () →
      let clear := data.read s.out
      let received := processSecurity receiveRole auth'
        (s'.out.slice outOffset (clear.length + protectedOverhead))
      (∃ u result r', received.run.Runs (scheme.psa receiveKeys) r u result r') ∧
        ∀ u result r', received.run.Runs (scheme.psa receiveKeys) r u result r' →
          result = .ok () ∧ r'.out = r.out.overwrite 0 clear) ∧
    ∀ (role₁ role₂ : SaRole) (auth₁ auth₂ : AuthHeader) (protected₁ protected₂ : Bytes)
      (s₁ s₂ s₁' s₂' : State) (t₁ t₂ : List Item) (result₁ result₂ : Except SdlsError Unit)
      (ctx₁ ctx₂ : Ctx) (key₁ key₂ : PsaKeyId) (nonce aad ciphertext : Bytes)
      (answer₁ answer₂ : PsaStatus × Bytes),
      auth₁.data.length = auth₂.data.length →
      (processSecurity role₁ auth₁ protected₁).run.Runs anyPsa s₁ t₁ result₁ s₁' →
      (processSecurity role₂ auth₂ protected₂).run.Runs anyPsa s₂ t₂ result₂ s₂' →
      ⟨ctx₁, .aeadDecrypt key₁ nonce aad ciphertext, answer₁⟩ ∈ t₁ →
      ⟨ctx₂, .aeadDecrypt key₂ nonce aad ciphertext, answer₂⟩ ∈ t₂ →
      SameSpan auth₁ auth₂ protected₁ protected₂ := by
  constructor
  · intro transmitRole receiveRole slot transmitKey receiveKey auth auth' data outOffset s s' r t
      transmitting receiving channel fits applied _ masked fresh clear received
    have framed := constructIv_length s.ctx.txIv (s.ctx.keys transmitKey).txArsn
    -- The output buffer holds the protected span from `outOffset` on.
    have put := Fallible.ok_of_runs (applySecurity_protects scheme transmitKeys auth
      (channel.transmit.operationalKey transmitting) fits) applied
    have taken : s'.out.slice outOffset (clear.length + protectedOverhead) =
        protectedSpan scheme (transmitKeys (s.ctx.keys transmitKey).psaKeyId)
          (decide (s.ctx.saModes slot = .gcm)) auth { spi := slot.spi, iv := s.ctx.nextIv transmitKey } clear := by
      rw [put, ← @protectedSpan_length _ scheme (transmitKeys (s.ctx.keys transmitKey).psaKeyId)
        (decide (s.ctx.saModes slot = .gcm)) auth { spi := slot.spi, iv := s.ctx.nextIv transmitKey } clear framed]
      apply Bytes.slice_overwrite
      have := fits.room
      omega
    refine ⟨Act.exists_runs (scheme.psa_answers receiveKeys) _, fun u result r' run => ?_⟩
    have admits : (r.ctx.sas slot).replayCheck (ivArsn (s.ctx.nextIv transmitKey)) = .ok () := by
      rwa [Ctx.nextIv, ivArsn_constructIv]
    have accepts := @processSecurity_accepts _ _ scheme receiveKeys receiveRole slot receiveKey auth auth'
      { spi := slot.spi, iv := s.ctx.nextIv transmitKey } clear r channel.receive receiving masked rfl framed
      admits
    rw [← channel.sameKey, ← channel.sameMode, ← taken] at accepts
    cases result with
    | ok _ => exact ⟨rfl, Fallible.ok_of_runs accepts run⟩
    | error e => exact (Fallible.error_of_runs accepts run).elim
  · intro role₁ role₂ auth₁ auth₂ protected₁ protected₂ s₁ s₂ s₁' s₂' t₁ t₂ result₁ result₂ ctx₁ ctx₂ key₁
      key₂ nonce aad ciphertext answer₁ answer₂ lengths run₁ run₂ called₁ called₂
    have only : ∀ {role auth protectedData s s' t result},
        (processSecurity role auth protectedData).run.Runs anyPsa s t result s' →
          DecryptsOnly auth protectedData t := by
      intro role auth protectedData s s' t result run
      have only := processSecurity_decrypts role auth protectedData s
      cases result with
      | ok _ => exact Fallible.ok_of_runs only run
      | error e => exact Fallible.error_of_runs only run
    exact Decrypts.sameSpan lengths (only run₁ _ called₁ _ _ _ _ rfl) (only run₂ _ called₂ _ _ _ _ rfl)

end ZephyrCcsds.Sdls

namespace ZephyrCcsds.Sdls

open Callback

section Sample

attribute [local instance] defaultKconfig

/-- The key stream and the tag of AES-256-GCM for the frame below, under the key 00 01 … 1f and the
nonce of zeros. -/
def sampleKeystream : Bytes := [0x0e, 0xbc, 0xb5, 0xde]

def sampleTag : Bytes :=
  [0x05, 0xbc, 0xde, 0xee, 0x2e, 0x96, 0x03, 0x4b, 0x6d, 0xbd, 0xd4, 0x1b, 0x68, 0x6a, 0x6d, 0xa9]

def sampleMask (bytes : Bytes) : Bytes := bytes.mapIdx fun i byte => byte ^^^ sampleKeystream.getD i 0

theorem sampleMask_sampleMask (bytes : Bytes) : sampleMask (sampleMask bytes) = bytes := by
  simp only [sampleMask, List.mapIdx_mapIdx, Function.comp_def, UInt8.xor_assoc, UInt8.xor_self,
    UInt8.xor_zero]
  exact List.mapIdx_eq_iff.mpr fun i => by simp

/-- A scheme that does what AES-256-GCM does for the frame below. -/
def sampleScheme : Aead Bytes where
  encrypt _ _ _ plaintext := sampleMask plaintext ++ sampleTag
  decrypt _ _ _ ciphertext :=
    if ciphertext.drop (ciphertext.length - tagLen) = sampleTag then
      some (sampleMask (ciphertext.take (ciphertext.length - tagLen)))
    else
      none
  encrypt_length _ _ _ plaintext := by simp [sampleMask, sampleTag, tagLen]
  decrypt_encrypt _ _ _ plaintext := by
    have behind : (sampleMask plaintext ++ sampleTag).length - tagLen = (sampleMask plaintext).length := by
      simp [sampleTag, tagLen]
    rw [behind, List.drop_left, List.take_left, if_pos rfl, sampleMask_sampleMask]

def sampleKeys (_ : PsaKeyId) : Bytes := List.ofFn fun i : Fin epKeyLen => UInt8.ofNat i.val

def sampleHeader : AuthHeader where
  data := [0x20, 0x01, 0x00, 0x1f, 0x05, 0x00]
  mask := [0x03, 0xff, 0xfc, 0x00, 0x00]
  mask_le := by decide

/-- The same header with other bits where the mask has none. -/
def otherHeader : AuthHeader where
  data := [0xe0, 0x01, 0x03, 0x5a, 0xff, 0x00]
  mask := [0x03, 0xff, 0xfc, 0x00, 0x00]
  mask_le := by decide

/-- A frame buffer as the TM encoder has it, with four octets of clear data. -/
def clearFrame : State where
  ctx := init sampleConfiguration
  out := sampleHeader.data ++ List.replicate securityHeaderLen 0 ++ [0xc0, 0x01, 0x02, 0x03] ++
    List.replicate tagLen 0
  outLen := 0

/-- The receiver before the frame, with room for the clear data. -/
def receiverSample : State where
  ctx := init receiverConfiguration
  out := List.replicate 4 0
  outLen := 0

def sampleSpan : Bytes := [0, 2] ++ List.replicate ivLen 0 ++ [0xce, 0xbd, 0xb7, 0xdd] ++ sampleTag

def sampleAad : Bytes := [0, 1, 0, 0, 0, 0] ++ [0, 2] ++ List.replicate ivLen 0

theorem clearFrame_protected : ∃ t s',
    (applySecurity .operationalTmTx transmitSlot sampleHeader (.within 20 4) 6).run.Runs
      (sampleScheme.psa sampleKeys) clearFrame t (.ok ()) s' ∧ s'.out.slice 6 34 = sampleSpan := by
  have held : ((((applySecurity .operationalTmTx transmitSlot sampleHeader (.within 20 4) 6).run clearFrame).record
      (fun s op answer => (⟨s.ctx, op, answer⟩ : Item))
      [⟨.aeadEncrypt 15 (List.replicate ivLen 0) sampleAad [0xc0, 0x01, 0x02, 0x03],
        (.success, sampleSpan.drop securityHeaderLen)⟩]).any fun played =>
          decide (played.2.1 = .ok () ∧ played.2.2.out.slice 6 34 = sampleSpan)) = true := by
    decide +kernel
  obtain ⟨⟨t, result, s'⟩, played, checked⟩ := (Option.any_eq_true _ _).mp held
  obtain ⟨rfl, span⟩ := of_decide_eq_true checked
  refine ⟨t, s', Act.runs_of_record_allowed played ?_, span⟩
  rw [List.forall_mem_singleton]
  intro _
  decide

/-- Under both headers PSA is asked to decrypt the same. -/
theorem sampleSpan_decrypted : ∀ auth ∈ [sampleHeader, otherHeader],
    ∃ t result s', (processSecurity .operationalTcRx auth sampleSpan).run.Runs anyPsa receiverSample t result s' ∧
      ∃ ctx answer, (⟨ctx, .aeadDecrypt 15 (List.replicate ivLen 0) sampleAad
        (sampleSpan.drop securityHeaderLen), answer⟩ : Item) ∈ t := by
  have held : ∀ auth ∈ [sampleHeader, otherHeader],
      ((((processSecurity .operationalTcRx auth sampleSpan).run receiverSample).record
        (fun s op answer => (⟨s.ctx, op, answer⟩ : Item))
        [⟨.aeadDecrypt 15 (List.replicate ivLen 0) sampleAad (sampleSpan.drop securityHeaderLen),
          (.success, [0xc0, 0x01, 0x02, 0x03])⟩]).any fun played => played.1.any fun item =>
            decide (item.op = .aeadDecrypt 15 (List.replicate ivLen 0) sampleAad
              (sampleSpan.drop securityHeaderLen))) = true := by
    decide +kernel
  intro auth listed
  obtain ⟨⟨t, result, s'⟩, played, called⟩ := (Option.any_eq_true _ _).mp (held auth listed)
  obtain ⟨⟨ctx, op, answer⟩, found, named⟩ := List.any_eq_true.mp called
  obtain rfl := of_decide_eq_true named
  exact ⟨t, result, s', Act.runs_of_record played, ctx, answer, found⟩

theorem frame_protection_sample : ∃ t s',
    (applySecurity .operationalTmTx transmitSlot sampleHeader (.within 20 4) 6).run.Runs
      (sampleScheme.psa sampleKeys) clearFrame t (.ok ()) s' ∧
    ((∃ u result r', (processSecurity .operationalTcRx otherHeader (s'.out.slice 6 34)).run.Runs
      (sampleScheme.psa sampleKeys) receiverSample u result r') ∧
    ∀ u result r', (processSecurity .operationalTcRx otherHeader (s'.out.slice 6 34)).run.Runs
      (sampleScheme.psa sampleKeys) receiverSample u result r' →
        result = .ok () ∧ r'.out = [0xc0, 0x01, 0x02, 0x03]) ∧
    SameSpan sampleHeader otherHeader sampleSpan sampleSpan := by
  obtain ⟨t, s', applied, span⟩ := clearFrame_protected
  refine ⟨t, s', applied, ?_, ?_⟩
  · have channel : Channel sampleKeys sampleKeys transmitSlot clearFrame.ctx receiverSample.ctx
        (5 : Fin 8) (5 : Fin 8) := ⟨⟨rfl, rfl, rfl, rfl, by decide, rfl, by decide⟩,
          ⟨rfl, rfl, rfl, rfl, by decide, rfl, by decide⟩, rfl, rfl⟩
    exact (frame_protection sampleScheme sampleKeys sampleKeys).1 .operationalTmTx .operationalTcRx
      transmitSlot (5 : Fin 8) (5 : Fin 8) sampleHeader otherHeader (.within 20 4) 6 clearFrame s'
      receiverSample t rfl rfl channel (.within (by decide) (by decide) (by decide)) applied rfl (by decide) rfl
  · obtain ⟨t₁, result₁, s₁', run₁, ctx₁, answer₁, called₁⟩ := sampleSpan_decrypted sampleHeader (by simp)
    obtain ⟨t₂, result₂, s₂', run₂, ctx₂, answer₂, called₂⟩ := sampleSpan_decrypted otherHeader (by simp)
    exact (frame_protection sampleScheme sampleKeys sampleKeys).2 .operationalTcRx .operationalTcRx
      sampleHeader otherHeader sampleSpan sampleSpan receiverSample receiverSample s₁' s₂' t₁ t₂ result₁ result₂
      ctx₁ ctx₂ 15 15 _ _ _ answer₁ answer₂ rfl run₁ run₂ called₁ called₂

end Sample

end ZephyrCcsds.Sdls
