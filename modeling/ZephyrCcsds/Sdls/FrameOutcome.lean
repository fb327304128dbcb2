import ZephyrCcsds.Sdls.Service
import ZephyrCcsds.Sdls.Security

/-! # What frame protection does

The outcomes of `ccsds_sdls_apply_security` and `ccsds_sdls_process_security` on the
context.  `Ctx.SameTables` is the frame of everything that only reports: it leaves the two
tables and the sender IV alone.
-/

namespace ZephyrCcsds.Sdls

open Callback

variable [Kconfig]

/-! ## The tables -/

/-- The part of the context that decides about frames and nonces is the same. -/
structure Ctx.SameTables (ctx ctx' : Ctx) : Prop where
  sas : ctx'.sas = ctx.sas
  keys : ctx'.keys = ctx.keys
  saRoles : ctx'.saRoles = ctx.saRoles
  saModes : ctx'.saModes = ctx.saModes
  txIv : ctx'.txIv = ctx.txIv

theorem Ctx.SameTables.refl (ctx : Ctx) : ctx.SameTables ctx := ⟨rfl, rfl, rfl, rfl, rfl⟩

theorem Ctx.SameTables.trans {ctx ctx' ctx'' : Ctx} (first : ctx.SameTables ctx')
    (second : ctx'.SameTables ctx'') : ctx.SameTables ctx'' :=
  ⟨second.sas.trans first.sas, second.keys.trans first.keys, second.saRoles.trans first.saRoles,
    second.saModes.trans first.saModes, second.txIv.trans first.txIv⟩

section Reports

variable (ctx : Ctx)

theorem Ctx.eventRecord_sameTables (tag : UInt8) (code : EventCode) (spi : Nat) (arsn : UInt32) :
    ctx.SameTables (ctx.eventRecord tag code spi arsn) := ⟨rfl, rfl, rfl, rfl, rfl⟩

theorem Ctx.clearAuthenticatedRx_sameTables : ctx.SameTables ctx.clearAuthenticatedRx :=
  ⟨rfl, rfl, rfl, rfl, rfl⟩

theorem Ctx.fsrProcessFailure_sameTables (error : SdlsError) (spi : Nat) (arsn : UInt32)
    (eventCode : Option EventCode) : ctx.SameTables (ctx.fsrProcessFailure error spi arsn eventCode) := by
  unfold Ctx.fsrProcessFailure
  split
  · exact ⟨rfl, rfl, rfl, rfl, rfl⟩
  · exact .refl ctx

theorem Ctx.endTransaction_sameTables : ctx.SameTables ctx.endTransaction := by
  unfold Ctx.endTransaction
  split
  · exact .refl ctx
  · exact ⟨rfl, rfl, rfl, rfl, rfl⟩

theorem Ctx.recordFailure_sameTables (carrier : AuthenticatedRx) (encoded : Bytes) (pdu : Option EpPdu)
    (error : SdlsError) : ctx.SameTables (ctx.recordFailure carrier encoded pdu error) := by
  unfold Ctx.recordFailure
  split
  · exact .refl ctx
  · exact ⟨rfl, rfl, rfl, rfl, rfl⟩

theorem Ctx.recordSelfTest_sameTables (encoded : Bytes) : ctx.SameTables (ctx.recordSelfTest encoded) := by
  unfold Ctx.recordSelfTest
  split
  · exact ⟨rfl, rfl, rfl, rfl, rfl⟩
  · exact ⟨rfl, rfl, rfl, rfl, rfl⟩

end Reports

theorem Ctx.fsrProcessFailure_authenticatedRx (ctx : Ctx) (error : SdlsError) (spi : Nat) (arsn : UInt32)
    (eventCode : Option EventCode) :
    (ctx.fsrProcessFailure error spi arsn eventCode).authenticatedRx = ctx.authenticatedRx := by
  unfold Ctx.fsrProcessFailure
  split <;> rfl

/-! ## Keys of frames -/

/-- The key of an AEAD call -/
def PsaOp.aeadKey : PsaOp → Option PsaKeyId
  | aeadEncrypt key .. => some key
  | aeadDecrypt key .. => some key
  | _ => none

/-- The key that a call uses is in the slot of the SA with an SPI, and that slot is Active at the time. -/
def Item.UsesActiveKey (spi : Nat) (item : Item) : Prop :=
  ∀ keyId ∈ item.op.aeadKey, ∃ (slot : SaSlot) (key : KeySlot), slot.spi = spi ∧
    (item.ctx.sas slot).keySlot = key.val ∧ (item.ctx.keys key).psaKeyId = keyId ∧
    (item.ctx.keys key).state = .active

/-- What `operational_key` has checked -/
structure Operational (ctx : Ctx) (slot : SaSlot) (role : SaRole) (transmitting : Bool) (key : KeySlot) :
    Prop where
  state : (ctx.sas slot).state = .operational
  direction : (ctx.saRoles slot).isTx = transmitting
  keySlot : (ctx.sas slot).keySlot = key.val
  active : (ctx.keys key).state = .active
  present : (ctx.keys key).psaKeyId ≠ psaKeyIdNull

theorem Ctx.operationalKey_ok {ctx : Ctx} {slot : SaSlot} {role : SaRole} {transmitting : Bool}
    {key : KeySlot} (found : ctx.operationalKey slot role transmitting = .ok key) :
    Operational ctx slot role transmitting key := by
  unfold Ctx.operationalKey at found
  simp only at found
  split_ifs at found with unusable bound inactive
  cases found
  simp only [not_or, not_not] at unusable inactive
  exact ⟨unusable.2.2, unusable.1.trans unusable.2.1, rfl, inactive.1, inactive.2⟩

theorem Ctx.saLookup_some {ctx : Ctx} {spi : Nat} {slot : SaSlot} (found : ctx.saLookup spi = some slot) :
    slot.spi = spi ∧ (ctx.sas slot).configured = true := by
  unfold Ctx.saLookup at found
  by_cases bound : spi ≠ 0 ∧ spi ≤ maxSa
  · simp only [dif_pos bound] at found
    split_ifs at found with configured
    cases found
    refine ⟨?_, configured⟩
    show spi - 1 + 1 = spi
    omega
  · simp only [dif_neg bound] at found
    cases found

theorem Ctx.saLookup_spi {ctx : Ctx} {slot : SaSlot} (configured : (ctx.sas slot).configured = true) :
    ctx.saLookup slot.spi = some slot := by
  have bound : slot.spi ≠ 0 ∧ slot.spi ≤ maxSa := ⟨Nat.succ_ne_zero _, slot.isLt⟩
  have same : (⟨slot.spi - 1, by have := slot.isLt; unfold SaSlot.spi; omega⟩ : SaSlot) = slot :=
    Fin.ext (Nat.add_sub_cancel _ _)
  unfold Ctx.saLookup
  simp only [dif_pos bound, same, if_pos configured]

/-! ## Protection -/

theorem Ctx.consumeIv_same (ctx : Ctx) (key : KeySlot) :
    (ctx.consumeIv key).keys key = { ctx.keys key with txArsn := (ctx.keys key).txArsn + 1 } :=
  Function.update_self ..

theorem Ctx.consumeIv_other (ctx : Ctx) {key i : KeySlot} (other : i ≠ key) :
    (ctx.consumeIv key).keys i = ctx.keys i :=
  Function.update_of_ne other ..

/-- A transmission that has reached PSA: an encryption with an Active key under the next IV -/
structure Protects (ctx : Ctx) (role : SaRole) (slot : SaSlot) (key : KeySlot) (t : List Item)
    (ctx' : Ctx) : Prop where
  operational : ctx.operationalKey slot role true = .ok key
  consumed : ctx' = ctx.consumeIv key
  called : ∃ aad plaintext answer,
    t = [⟨ctx', .aeadEncrypt (ctx.keys key).psaKeyId (ctx.nextIv key) aad plaintext, answer⟩]

theorem applySecurity_spec (role : SaRole) (slot : SaSlot) (auth : AuthHeader) (data : DataPointer)
    (outOffset : Nat) (s : State) :
    (applySecurity role slot auth data outOffset).wp anyPsa
      (fun t _ s' => ∃ key, Protects s.ctx role slot key t s'.ctx)
      (fun t _ s' => (t = [] ∧ s' = s) ∨
        ∃ key, Protects s.ctx role slot key t s'.ctx ∧ s'.out = s.out) s := by
  simp only [applySecurity, Fallible.wp_bind, Fallible.wp_read, Fallible.wp_ofExcept, Fallible.wp_modify,
    wp_psaAeadEncrypt, Fallible.wp_failIf, List.nil_append, List.append_nil]
  refine ⟨fun key operational answer => ?_, fun e _ => .inl ⟨trivial, trivial⟩⟩
  have reached : Protects s.ctx role slot key [⟨s.ctx.consumeIv key, .aeadEncrypt _ _ _ _, answer⟩]
      (s.ctx.consumeIv key) := ⟨operational, rfl, _, _, _, rfl⟩
  refine ⟨fun _ => .inr ⟨key, reached, rfl⟩, fun _ => ?_⟩
  -- The two modes differ in the writes to the output only.
  rw [Fallible.wp_ite]
  constructor
  · intro _
    simp only [Fallible.wp_bind, Fallible.wp_modify, List.append_nil]
    exact ⟨key, reached⟩
  · intro _
    simp only [Fallible.wp_bind, Fallible.wp_modify, List.append_nil]
    exact ⟨key, reached⟩

theorem Protects.usesActiveKey {ctx ctx' : Ctx} {role : SaRole} {slot : SaSlot} {key : KeySlot}
    {t : List Item} (protects : Protects ctx role slot key t ctx') :
    ∀ item ∈ t, item.UsesActiveKey slot.spi := by
  obtain ⟨aad, plaintext, answer, rfl⟩ := protects.called
  intro item found keyId used
  obtain rfl := List.mem_singleton.mp found
  cases used
  obtain rfl := protects.consumed
  -- Consuming an IV advances the counter of the slot and leaves its key and state.
  have operational := Ctx.operationalKey_ok protects.operational
  refine ⟨slot, key, rfl, operational.keySlot, ?_, ?_⟩
  · rw [Ctx.consumeIv_same]
  · rw [Ctx.consumeIv_same]
    exact operational.active

/-! ## Acceptance -/

/-- The part of an acceptance that the next frames see -/
def Ctx.acceptArsn (ctx : Ctx) (slot : SaSlot) (arsn : UInt32) : Ctx :=
  ctx.updateSa slot fun sa => { sa with rxArsn := arsn, rxArsnInitialized := true }

theorem Ctx.acceptFrame_sameTables (ctx : Ctx) (slot : SaSlot) (spi : Nat) (arsn : UInt32) :
    (ctx.acceptArsn slot arsn).SameTables (ctx.clearAuthenticatedRx.acceptFrame slot spi arsn) :=
  ⟨rfl, rfl, rfl, rfl, rfl⟩

/-- A protected span that names a key: everything checked before the replay rule -/
structure Keyed (ctx : Ctx) (role : SaRole) (protectedData : Bytes) (header : SecurityHeader)
    (slot : SaSlot) (key : KeySlot) : Prop where
  framed : protectedOverhead ≤ protectedData.length
  decoded : securityHeaderDecode (protectedData.slice 0 securityHeaderLen) = .ok header
  found : ctx.saLookup header.spi = some slot
  operational : ctx.operationalKey slot role false = .ok key

/-- The SPI field of a protected span -/
def spiField (protectedData : Bytes) : Nat := Bytes.getBe (protectedData.slice 0 2)

omit [Kconfig] in
theorem securityHeaderDecode_spi {protectedData : Bytes} {header : SecurityHeader}
    (decoded : securityHeaderDecode (protectedData.slice 0 securityHeaderLen) = .ok header) :
    header.spi = spiField protectedData := by
  unfold securityHeaderDecode at decoded
  simp only at decoded
  split_ifs at decoded
  cases decoded
  simp [spiField, Bytes.slice, securityHeaderLen, List.take_take]

omit [Kconfig] in
theorem securityHeaderDecode_iv {protectedData : Bytes} {header : SecurityHeader}
    (decoded : securityHeaderDecode (protectedData.slice 0 securityHeaderLen) = .ok header) :
    header.iv = protectedData.slice 2 ivLen := by
  unfold securityHeaderDecode at decoded
  simp only at decoded
  split_ifs at decoded
  cases decoded
  simp [Bytes.slice, securityHeaderLen, ivLen, List.drop_take, List.take_take]

theorem Keyed.usesActiveKey {ctx : Ctx} {role : SaRole} {protectedData : Bytes} {header : SecurityHeader}
    {slot : SaSlot} {key : KeySlot} (keyed : Keyed ctx role protectedData header slot key)
    (aad ciphertext : Bytes) (answer : PsaStatus × Bytes) :
    Item.UsesActiveKey (spiField protectedData) ⟨ctx.clearAuthenticatedRx,
      .aeadDecrypt (ctx.keys key).psaKeyId header.iv aad ciphertext, answer⟩ := by
  intro keyId used
  cases used
  have operational := Ctx.operationalKey_ok keyed.operational
  refine ⟨slot, key, ?_, operational.keySlot, rfl, operational.active⟩
  rw [(Ctx.saLookup_some keyed.found).1, securityHeaderDecode_spi keyed.decoded]

/-- A frame that `ccsds_sdls_process_security` accepts -/
structure Accepts (ctx : Ctx) (role : SaRole) (protectedData : Bytes) (header : SecurityHeader)
    (slot : SaSlot) (key : KeySlot) (t : List Item) (ctx' : Ctx) : Prop
    extends Keyed ctx role protectedData header slot key where
  fresh : (ctx.sas slot).replayCheck (ivArsn header.iv) = .ok ()
  called : ∃ aad ciphertext answer, t = [⟨ctx.clearAuthenticatedRx,
    .aeadDecrypt (ctx.keys key).psaKeyId header.iv aad ciphertext, answer⟩]
  committed : ctx' = ctx.clearAuthenticatedRx.acceptFrame slot header.spi (ivArsn header.iv)

/-- A frame that it refuses -/
structure Rejects (protectedData : Bytes) (s : State) (t : List Item) (s' : State) : Prop where
  tables : s.ctx.SameTables s'.ctx
  cleared : s'.ctx.authenticatedRx = .zero
  out : s'.out = s.out
  outLen : s'.outLen = s.outLen
  keyed : ∀ item ∈ t, item.UsesActiveKey (spiField protectedData)

theorem rejects_cleared (protectedData : Bytes) (s : State) :
    Rejects protectedData s [] (s.withCtx Ctx.clearAuthenticatedRx) :=
  ⟨s.ctx.clearAuthenticatedRx_sameTables, rfl, rfl, rfl, by simp⟩

theorem Rejects.report {protectedData : Bytes} {s s' : State} {t : List Item}
    (rejects : Rejects protectedData s t s') (f : Ctx → Ctx) (tables : s'.ctx.SameTables (f s'.ctx))
    (provenance : (f s'.ctx).authenticatedRx = s'.ctx.authenticatedRx) :
    Rejects protectedData s t (s'.withCtx f) :=
  ⟨rejects.tables.trans tables, provenance.trans rejects.cleared, rejects.out, rejects.outLen,
    rejects.keyed⟩

theorem Rejects.frameFailure {protectedData : Bytes} {s s' : State} {t : List Item}
    (rejects : Rejects protectedData s t s') (error : SdlsError) (spi : Nat) (arsn : UInt32)
    (eventCode : Option EventCode) : Rejects protectedData s t (s'.withCtx (·.fsrProcessFailure error spi arsn eventCode)) :=
  rejects.report _ (s'.ctx.fsrProcessFailure_sameTables error spi arsn eventCode)
    (s'.ctx.fsrProcessFailure_authenticatedRx error spi arsn eventCode)

/-! ## Every outcome -/

/-- The PSA call for a protected span, with its answer -/
def Ctx.decryption (ctx : Ctx) (auth : AuthHeader) (protectedData : Bytes) (header : SecurityHeader) (slot : SaSlot)
    (key : KeySlot) (answer : PsaStatus × Bytes) : Item :=
  let dataLen := protectedData.length - protectedOverhead
  let frameData := protectedData.slice securityHeaderLen dataLen
  let tag := protectedData.slice (securityHeaderLen + dataLen) tagLen
  let gcm := decide (ctx.saModes slot = .gcm)
  { ctx := ctx.clearAuthenticatedRx
    op := .aeadDecrypt (ctx.keys key).psaKeyId header.iv (buildAuthData auth header.spi (if gcm then [] else frameData))
      (if gcm then frameData ++ tag else tag)
    result := answer }

/-- Every way in which `ccsds_sdls_process_security` ends, with all that it leaves -/
inductive Processed (role : SaRole) (auth : AuthHeader) (protectedData : Bytes) (s : State) :
    List Item → Except SdlsError Unit → State → Prop where
  | malformed : Processed role auth protectedData s [] (.error .format)
      (s.withCtx fun ctx => ctx.clearAuthenticatedRx.eventRecord eventTagUnauthenticatedFrame .format 0 0)
  | refused {error : SdlsError} {arsn : UInt32} {eventCode : Option EventCode} :
      error ∈ [.replay, .unknownSa, .saState, .key] →
      Processed role auth protectedData s [] (.error error) (s.withCtx fun ctx =>
        ctx.clearAuthenticatedRx.fsrProcessFailure error (spiField protectedData) arsn eventCode)
  | forged {header : SecurityHeader} {slot : SaSlot} {key : KeySlot} {arsn : UInt32} {plaintext : Bytes} :
      Keyed s.ctx role protectedData header slot key →
      Processed role auth protectedData s
        [s.ctx.decryption auth protectedData header slot key (.invalidSignature, plaintext)] (.error .authentication)
        (s.withCtx fun ctx => ctx.clearAuthenticatedRx.fsrProcessFailure .authentication header.spi arsn none)
  | unanswered {header : SecurityHeader} {slot : SaSlot} {key : KeySlot} {answer : PsaStatus × Bytes} :
      Keyed s.ctx role protectedData header slot key →
      Processed role auth protectedData s [s.ctx.decryption auth protectedData header slot key answer] (.error .psa)
        (s.withCtx Ctx.clearAuthenticatedRx)
  | accepted {header : SecurityHeader} {slot : SaSlot} {key : KeySlot} {plaintext : Bytes} :
      Keyed s.ctx role protectedData header slot key →
      (s.ctx.sas slot).replayCheck (ivArsn header.iv) = .ok () →
      (s.ctx.saModes slot = .gcm → plaintext.length = protectedData.length - protectedOverhead) →
      Processed role auth protectedData s
        [s.ctx.decryption auth protectedData header slot key (.success, plaintext)] (.ok ())
        ((s.write 0 (if s.ctx.saModes slot = .gcm then plaintext
          else protectedData.slice securityHeaderLen (protectedData.length - protectedOverhead))).withCtx fun ctx =>
            ctx.clearAuthenticatedRx.acceptFrame slot header.spi (ivArsn header.iv))

theorem Ctx.operationalKey_error {ctx : Ctx} {slot : SaSlot} {role : SaRole} {transmitting : Bool} {error : SdlsError}
    (refused : ctx.operationalKey slot role transmitting = .error error) : error = .saState ∨ error = .key := by
  unfold Ctx.operationalKey at refused
  simp only at refused
  split_ifs at refused
  · cases refused
    exact .inl rfl
  · cases refused
    exact .inr rfl
  · cases refused
    exact .inr rfl

theorem decryptFrame_outcome (auth : AuthHeader) {protectedData : Bytes} {header : SecurityHeader}
    {slot : SaSlot} {key : KeySlot} {role : SaRole} {s : State}
    (keyed : Keyed s.ctx role protectedData header slot key) :
    (decryptFrame auth protectedData header slot key).wp anyPsa
      (fun t r s' => Processed role auth protectedData s t (.ok r) s')
      (fun t e s' => Processed role auth protectedData s t (.error e) s') (s.withCtx Ctx.clearAuthenticatedRx) := by
  have named := securityHeaderDecode_spi keyed.decoded
  simp only [decryptFrame, frameFailure, Fallible.wp_bind, Fallible.wp_read, List.nil_append]
  cases fresh : ((s.withCtx Ctx.clearAuthenticatedRx).ctx.sas slot).replayCheck (ivArsn header.iv) with
  | error eventCode =>
    simp only [Fallible.wp_bind, Fallible.wp_modify, Fallible.wp_fail, named]
    exact .refused (by simp)
  | ok _ =>
    simp only [Fallible.wp_bind, wp_psaAeadDecrypt]
    intro answer
    obtain ⟨status, plaintext⟩ := answer
    cases status with
    | invalidSignature =>
      simp only [Fallible.wp_bind, Fallible.wp_modify, Fallible.wp_fail]
      exact .forged keyed
    | failure => exact .unanswered keyed
    | success =>
      simp only [Fallible.wp_bind, Fallible.wp_failIf, Fallible.wp_modify]
      refine ⟨fun _ => .unanswered keyed, fun answered => ?_⟩
      have length : s.ctx.saModes slot = .gcm → plaintext.length = protectedData.length - protectedOverhead := by
        intro gcm
        have whole : ¬ plaintext.length ≠ if decide (s.ctx.saModes slot = .gcm) = true
          then protectedData.length - protectedOverhead else 0 := answered
        rw [gcm] at whole
        exact not_not.mp whole
      have accepted := @Processed.accepted _ role auth protectedData s header slot key plaintext keyed fresh length
      by_cases gcm : s.ctx.saModes slot = .gcm
      · simp only [State.withCtx_ctx, Ctx.clearAuthenticatedRx, gcm, decide_true, if_true]
        simp only [gcm, if_true] at accepted
        exact accepted
      · simp only [State.withCtx_ctx, Ctx.clearAuthenticatedRx, gcm, decide_false, Bool.false_eq_true, if_false]
        simp only [gcm, if_false] at accepted
        exact accepted

/-- What `ccsds_sdls_process_security` does, whatever PSA answers -/
theorem processSecurity_outcome (role : SaRole) (auth : AuthHeader) (protectedData : Bytes) (s : State) :
    (processSecurity role auth protectedData).wp anyPsa
      (fun t r s' => Processed role auth protectedData s t (.ok r) s')
      (fun t e s' => Processed role auth protectedData s t (.error e) s') s := by
  simp only [processSecurity, frameFailure, formatFailure, Fallible.wp_bind, Fallible.wp_modify, Fallible.wp_ite,
    Fallible.wp_fail, List.nil_append]
  refine ⟨fun _ => .malformed, fun framed => ?_⟩
  cases decoded : securityHeaderDecode (protectedData.slice 0 securityHeaderLen) with
  | error e => exact .malformed
  | ok header =>
    simp only [Fallible.wp_bind, Fallible.wp_read, List.nil_append]
    have named := securityHeaderDecode_spi decoded
    cases found : (s.withCtx Ctx.clearAuthenticatedRx).ctx.saLookup header.spi with
    | none =>
      simp only [Fallible.wp_bind, Fallible.wp_modify, Fallible.wp_fail, named]
      exact .refused (by simp)
    | some slot =>
      dsimp only
      cases operational : (s.withCtx Ctx.clearAuthenticatedRx).ctx.operationalKey slot role false with
      | error e =>
        simp only [Fallible.wp_bind, Fallible.wp_modify, Fallible.wp_fail, named]
        apply Processed.refused
        rcases Ctx.operationalKey_error operational with rfl | rfl
        · simp
        · simp
      | ok key => exact decryptFrame_outcome auth ⟨not_lt.mp framed, decoded, found, operational⟩

theorem processSecurity_runs {role : SaRole} {auth : AuthHeader} {protectedData : Bytes} {s s' : State}
    {t : List Item} {result : Except SdlsError Unit}
    (runs : (processSecurity role auth protectedData).run.Runs anyPsa s t result s') :
    Processed role auth protectedData s t result s' := by
  cases result with
  | ok r => exact Fallible.ok_of_runs (processSecurity_outcome role auth protectedData s) runs
  | error e => exact Fallible.error_of_runs (processSecurity_outcome role auth protectedData s) runs

theorem processSecurity_spec (role : SaRole) (auth : AuthHeader) (protectedData : Bytes) (s : State) :
    (processSecurity role auth protectedData).wp anyPsa
      (fun t _ s' => ∃ header slot key, Accepts s.ctx role protectedData header slot key t s'.ctx)
      (fun t _ s' => Rejects protectedData s t s') s := by
  have cleared := rejects_cleared protectedData s
  have called : ∀ {header slot key} answer, Keyed s.ctx role protectedData header slot key →
      Rejects protectedData s [s.ctx.decryption auth protectedData header slot key answer]
        (s.withCtx Ctx.clearAuthenticatedRx) := by
    intro header slot key answer keyed
    refine ⟨s.ctx.clearAuthenticatedRx_sameTables, rfl, rfl, rfl, fun item found => ?_⟩
    obtain rfl := List.mem_singleton.mp found
    exact keyed.usesActiveKey _ _ answer
  apply Fallible.wp_mono (processSecurity_outcome role auth protectedData s)
  · intro t _ s' processed
    cases processed with
    | accepted keyed fresh => exact ⟨_, _, _, keyed, fresh, ⟨_, _, _, rfl⟩, rfl⟩
  · intro t e s' processed
    cases processed with
    | malformed =>
      exact cleared.report (·.eventRecord eventTagUnauthenticatedFrame .format 0 0)
        (Ctx.eventRecord_sameTables _ _ _ _ _) rfl
    | refused _ => exact cleared.frameFailure _ _ _ _
    | forged keyed => exact (called _ keyed).frameFailure _ _ _ _
    | unanswered keyed => exact called _ keyed

theorem Accepts.usesActiveKey {ctx ctx' : Ctx} {role : SaRole} {protectedData : Bytes}
    {header : SecurityHeader} {slot : SaSlot} {key : KeySlot} {t : List Item}
    (accepts : Accepts ctx role protectedData header slot key t ctx') :
    ∀ item ∈ t, item.UsesActiveKey (spiField protectedData) := by
  obtain ⟨aad, ciphertext, answer, rfl⟩ := accepts.called
  intro item found
  obtain rfl := List.mem_singleton.mp found
  exact accepts.toKeyed.usesActiveKey aad ciphertext answer

end ZephyrCcsds.Sdls
