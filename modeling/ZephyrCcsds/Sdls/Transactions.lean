import ZephyrCcsds.Sdls.Lifecycle

/-! # The packet service as a transaction

A PDU is carried out or it leaves the context, the reply and the key store as they were:
what remains of a failure is one event record and, outside a dispatch, the invalidated
provenance.
-/

namespace ZephyrCcsds.Sdls

open Callback

variable [Kconfig]

/-! ## Failures -/

/-- The context after a PDU that failed -/
structure RolledBack (encoded : Bytes) (error : SdlsError) (ctx ctx' : Ctx) : Prop where
  keys : ctx'.keys = ctx.keys
  sas : ctx'.sas = ctx.sas
  saRoles : ctx'.saRoles = ctx.saRoles
  saModes : ctx'.saModes = ctx.saModes
  txIv : ctx'.txIv = ctx.txIv
  fsr : ctx'.fsr = ctx.fsr
  selfTest : ctx'.selfTest = ctx.selfTest
  fsrEnabled : ctx'.fsrEnabled = ctx.fsrEnabled
  fsrNext : ctx'.fsrNext = ctx.fsrNext
  unrecorded : (∃ pdu, epPduDecode encoded = .ok pdu) ∧ error = .capacity → ctx'.log = ctx.log
  recorded : ¬((∃ pdu, epPduDecode encoded = .ok pdu) ∧ error = .capacity) →
    ∃ event, ctx'.log = ctx.log.record event
  provenance : ctx'.authenticatedRx =
    if ctx.authenticatedRx.dispatching then ctx.authenticatedRx
    else { ctx.authenticatedRx with spi := 0, arsn := 0, valid := false }

omit [Kconfig] in
theorem toOption_isSome {ε α : Type} {r : Except ε α} : r.toOption.isSome = true ↔ ∃ a, r = .ok a := by
  cases r with
  | error e => simp [Except.toOption]
  | ok a => simp [Except.toOption]

/-- The two parts of the epilogue touch the ring and the provenance. -/
theorem Ctx.recordFailure_eq (ctx : Ctx) (carrier : AuthenticatedRx) (encoded : Bytes) (pdu : Option EpPdu)
    (error : SdlsError) :
    ctx.recordFailure carrier encoded pdu error =
      { ctx with log := (ctx.recordFailure carrier encoded pdu error).log } := by
  unfold Ctx.recordFailure
  split <;> rfl

theorem Ctx.endTransaction_eq (ctx : Ctx) :
    ctx.endTransaction = { ctx with
      authenticatedRx := if ctx.authenticatedRx.dispatching then ctx.authenticatedRx
        else { ctx.authenticatedRx with spi := 0, arsn := 0, valid := false } } := by
  unfold Ctx.endTransaction
  split <;> rfl

theorem recordFailure_rolledBack (ctx : Ctx) (encoded : Bytes) (error : SdlsError) :
    RolledBack encoded error ctx
      (ctx.recordFailure ctx.authenticatedRx encoded (epPduDecode encoded).toOption error).endTransaction := by
  rw [Ctx.endTransaction_eq, Ctx.recordFailure_eq]
  refine ⟨rfl, rfl, rfl, rfl, rfl, rfl, rfl, rfl, rfl, ?_, ?_, rfl⟩
  · rintro ⟨wellFormed, capacity⟩
    show (ctx.recordFailure _ _ _ _).log = ctx.log
    rw [Ctx.recordFailure, if_pos ⟨toOption_isSome.mpr wellFormed, capacity⟩]
  · intro recorded
    show ∃ event, (ctx.recordFailure _ _ _ _).log = _
    rw [Ctx.recordFailure, if_neg fun ⟨wellFormed, capacity⟩ =>
      recorded ⟨toOption_isSome.mp wellFormed, capacity⟩]
    exact ⟨_, rfl⟩

/-! ## Successes -/

/-- The Self Test of a call has not been OK: there is no callback, or it failed or said so. -/
def SelfTestNotOk (ctx : Ctx) (t : List Item) : Prop :=
  ctx.selfTest = false ∨
    ∃ result : PsaRes .selfTest, t = [⟨ctx, .selfTest, result⟩] ∧ (result.1 ≠ 0 ∨ result.2 = selfTestNotOk)

/-- The ring after a PDU that was carried out -/
inductive LogAfter (ctx : Ctx) (t : List Item) : Procedure → EventLog → Prop where
  | kept {procedure : Procedure} : LogAfter ctx t procedure ctx.log
  | erased : LogAfter ctx t .eraseLog .zero
  | selfTest {event : Event} : SelfTestNotOk ctx t → LogAfter ctx t .selfTest (ctx.log.record event)

theorem Ctx.recordSelfTest_log (ctx : Ctx) (encoded : Bytes) :
    ∃ event, (ctx.recordSelfTest encoded).log = ctx.log.record event := by
  unfold Ctx.recordSelfTest
  split
  · exact ⟨_, rfl⟩
  · exact ⟨_, rfl⟩

theorem Effect.log {encoded : Bytes} {ctx ctx' : Ctx} {procedure : Procedure} {t : List Item}
    (effect : Effect encoded ctx procedure t ctx') : LogAfter ctx t procedure ctx'.log := by
  cases effect with
  | otar => exact (ctx.swapKeys_onlyKeys _).log ▸ .kept
  | keyActivation => exact (ctx.setKeyStates_onlyKeys _ _).log ▸ .kept
  | keyDeactivation => exact (ctx.setKeyStates_onlyKeys _ _).log ▸ .kept
  | keyVerification =>
    rw [ctx.commitVerification_eq]
    exact .kept
  | eraseLog => exact .erased
  | selfTestAbsent absent =>
    obtain ⟨event, recorded⟩ := ctx.recordSelfTest_log encoded
    exact recorded ▸ .selfTest (.inl absent)
  | @selfTestNotOk result notOk =>
    obtain ⟨event, recorded⟩ := ctx.recordSelfTest_log encoded
    exact recorded ▸ .selfTest (.inr ⟨result, rfl, notOk⟩)
  | _ => exact .kept

/-! ## The transaction -/

theorem processPdu_all_or_nothing {encoded : Bytes} {s s' : State} {t : List Item}
    {result : Except SdlsError Unit} (runs : (processPdu encoded).Runs anyPsa s t result s') :
    (∀ error, result = .error error →
      RolledBack encoded error s.ctx s'.ctx ∧ s'.out = s.out ∧ s'.outLen = s.outLen ∧ ImportsDestroyed t) ∧
    (result = .ok () → ∃ pdu, epPduDecode encoded = .ok pdu ∧ LogAfter s.ctx t pdu.procedure s'.ctx.log) := by
  have reached := Prog.wp_of_runs (processPdu_spec encoded s) runs
  constructor
  · rintro error rfl
    obtain ⟨destroyed, rfl⟩ := reached
    exact ⟨recordFailure_rolledBack s.ctx encoded error, rfl, rfl, destroyed⟩
  · rintro rfl
    obtain ⟨pdu, ctx, decoded, effect, committed⟩ := reached
    refine ⟨pdu, decoded, ?_⟩
    rw [committed, Ctx.endTransaction_eq]
    exact effect.log

end ZephyrCcsds.Sdls

namespace ZephyrCcsds.Sdls

open Callback

section Sample

attribute [local instance] defaultKconfig

/-- The second import fails, and so does the destruction of the first key. -/
def otarAnswers : List ((op : PsaOp) × PsaRes op) :=
  otarDecryption ++ [⟨.importKey otarKeyAttributes (List.replicate epKeyLen 0), (.success, 20)⟩,
    ⟨.importKey otarKeyAttributes (List.replicate epKeyLen 0), (.failure, 0)⟩,
    ⟨.destroyKey 20, .failure⟩]

/-- The identifier of a key that PSA has destroyed -/
def Item.removed : Item → Option PsaKeyId
  | ⟨_, .destroyKey keyId, .success⟩ => some keyId
  | _ => none

def sampleState : State := { ctx := init sampleConfiguration, out := [], outLen := 0 }

theorem otarSample_runs : ∃ t s', (processPdu otarSample).Runs anyPsa sampleState t (.error .psa) s' ∧
    20 ∈ t.filterMap Item.imported ∧ 20 ∉ t.filterMap Item.removed := by
  have held : (((processPdu otarSample) sampleState).record (fun s op r => (⟨s.ctx, op, r⟩ : Item))
      otarAnswers).any (fun played => decide (played.2.1 = .error .psa ∧
        20 ∈ played.1.filterMap Item.imported ∧ 20 ∉ played.1.filterMap Item.removed)) = true := by
    decide +kernel
  obtain ⟨⟨t, result, s'⟩, played, checked⟩ := (Option.any_eq_true _ _).mp held
  obtain ⟨failed, imported, kept⟩ := of_decide_eq_true checked
  cases failed
  exact ⟨t, s', Act.runs_of_record played, imported, kept⟩

theorem processPdu_all_or_nothing_otar : ∃ t s',
    (processPdu otarSample).Runs anyPsa sampleState t (.error .psa) s' ∧
      RolledBack otarSample .psa sampleState.ctx s'.ctx ∧ ImportsDestroyed t := by
  obtain ⟨t, s', runs, _⟩ := otarSample_runs
  obtain ⟨rolledBack, _, _, destroyed⟩ := (processPdu_all_or_nothing runs).1 .psa rfl
  exact ⟨t, s', runs, rolledBack, destroyed⟩

/-- PSA need not destroy a key that it is told to destroy. -/
theorem imported_key_survives : ¬∀ (encoded : Bytes) (s s' : State) (t : List Item) (error : SdlsError),
    (processPdu encoded).Runs anyPsa s t (.error error) s' →
      ∀ keyId ∈ t.filterMap Item.imported, keyId ∈ t.filterMap Item.removed := by
  intro claimed
  obtain ⟨t, s', runs, imported, kept⟩ := otarSample_runs
  exact kept (claimed _ _ _ _ _ runs 20 imported)

end Sample

end ZephyrCcsds.Sdls
