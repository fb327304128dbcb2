import ZephyrCcsds.Sdls.FrameOutcome
import ZephyrCcsds.Sdls.KeyOutcome

/-! # What an Extended Procedure does

The outcome of the association and monitoring recipients, and `Effect`: everything a
recipient that returns `0` can have done to the context, procedure by procedure.
`recipient_meets` and `processPdu_spec` are what the rest of the development cites.
-/

namespace ZephyrCcsds.Sdls

open Callback

variable [Kconfig]

/-! ## Associations -/

theorem Ctx.managedSa_ok {ctx : Ctx} {spi : Nat} {slot : SaSlot} (managed : ctx.managedSa spi = .ok slot) :
    slot.spi = spi ∧ (ctx.sas slot).configured = true := by
  unfold Ctx.managedSa at managed
  split_ifs at managed
  split at managed
  · cases managed
  · next found =>
    cases managed
    exact Ctx.saLookup_some found

/-- A receive SA that is not expired and not clear -/
structure MutableRx (ctx : Ctx) (slot : SaSlot) : Prop where
  configured : (ctx.sas slot).configured = true
  receives : (ctx.saRoles slot).isRx = true
  secured : ctx.saModes slot ≠ .clear
  live : (ctx.sas slot).state ≠ .expired

theorem Ctx.mutableRxSa_ok {ctx : Ctx} {spi : Nat} {slot : SaSlot}
    (mutableRx : ctx.mutableRxSa spi = .ok slot) : slot.spi = spi ∧ MutableRx ctx slot := by
  unfold Ctx.mutableRxSa at mutableRx
  cases managed : ctx.managedSa spi with
  | error e =>
    rw [managed] at mutableRx
    cases mutableRx
  | ok found =>
    simp only [managed] at mutableRx
    split_ifs at mutableRx with transmits isClear expired
    cases mutableRx
    obtain ⟨same, configured⟩ := Ctx.managedSa_ok managed
    exact ⟨same, configured, by simpa using transmits, isClear, expired⟩

/-- The key that an SA may take or keep, with the answer of PSA about it -/
structure UsableKey (ctx : Ctx) (slot : SaSlot) (keyId : Nat) (sessionOnly : Bool) (t : List Item) :
    Prop where
  traffic : keyId ≠ 0
  session : sessionOnly = true → sessionKeyBase ≤ keyId
  active : ∃ key : KeySlot, key.val = keyId ∧ (ctx.keys key).state = .active ∧
    (ctx.keys key).psaKeyId ≠ psaKeyIdNull ∧
    Validated ctx (ctx.keys key).psaKeyId (ctx.saRoles slot).keyUsage t
  compatible : ctx.keyCompatible slot keyId

theorem validateSaKey_spec (slot : SaSlot) (keyId : Nat) (sessionOnly : Bool) (s : State) :
    (validateSaKey slot keyId sessionOnly).wp anyPsa
      (fun t _ s' => s' = s ∧ UsableKey s.ctx slot keyId sessionOnly t) (Failed s) s := by
  simp only [validateSaKey, Fallible.wp_bind, Fallible.wp_read, Fallible.wp_ite, Fallible.wp_fail,
    List.nil_append]
  refine ⟨fun _ => (reads_nil s).failed, fun inRange => ?_⟩
  cases found : s.ctx.keyLookup keyId with
  | none => exact @Reads.failed _ _ _ _ .key (reads_nil s)
  | some key =>
    obtain ⟨same, present⟩ := Ctx.keyLookup_some found
    simp only [Fallible.wp_bind, Fallible.wp_failIf, List.nil_append]
    refine ⟨fun _ => (reads_nil s).failed, fun active => ?_⟩
    apply Fallible.wp_mono (validateKey_spec _ _ s)
    · rintro t _ s' ⟨rfl, validated⟩
      rw [List.append_nil]
      refine ⟨fun _ => validated.reads.failed, fun compatible => ⟨rfl, ?_, ?_, ?_, ?_⟩⟩
      · exact fun zero => inRange (.inl zero)
      · intro only
        by_contra master
        exact inRange (.inr (.inr ⟨only, by omega⟩))
      · exact ⟨key, same, by simpa using active, present, validated⟩
      · simpa using compatible
    · exact fun t e s' read => read.failed

/-- What Start SA demands of an SA besides being stopped -/
def StartAllowed (ctx : Ctx) (slot : SaSlot) (t : List Item) : Prop :=
  if ctx.saModes slot = .clear then
    ctx.authenticatedRx.valid = true ∧ ctx.authenticatedRx.spi ≠ slot.spi
  else
    UsableKey ctx slot (ctx.sas slot).keySlot false t

/-- What a recipient that returns `0` has done to the context, with the PSA calls that show it -/
inductive Effect (encoded : Bytes) (ctx : Ctx) : Procedure → List Item → Ctx → Prop where
  | otar {t : List Item} {pairs : List (KeySlot × PsaKeyId)} : Replaceable ctx (pairs.map (·.1)) →
      Effect encoded ctx .otar t (ctx.swapKeys pairs).1
  | keyActivation {t : List Item} {slots : List KeySlot} :
      Recipients ctx (lifecyclePermits .keyActivation) slots →
      Effect encoded ctx .keyActivation t (ctx.setKeyStates slots .active)
  | keyDeactivation {t : List Item} {slots : List KeySlot} :
      Recipients ctx (lifecyclePermits .keyDeactivation) slots →
      Effect encoded ctx .keyDeactivation t (ctx.setKeyStates slots .deactivated)
  | keyVerification {t : List Item} {slots : List KeySlot} :
      Recipients ctx (fun state => state ≠ .deactivated) slots →
      t.filterMap Item.encrypted = ctx.verificationIvs slots ctx.txIv →
      Effect encoded ctx .keyVerification t
        (ctx.commitVerification slots (advanceIv slots.length ctx.txIv))
  | keyInventory {t : List Item} : ctx.authenticatedRx.valid = true →
      Effect encoded ctx .keyInventory t ctx
  | startSa {t : List Item} {command : EpStartSa} {slot : SaSlot} :
      epStartSaDecode encoded = .ok command → slot.spi = command.spi →
      (ctx.sas slot).configured = true → (ctx.sas slot).state = .stopped → StartAllowed ctx slot t →
      Effect encoded ctx .startSa t (ctx.updateSa slot (·.moveTo .operational .startSa))
  | stopSa {t : List Item} {slot : SaSlot} : epSaCommandDecode .stopSa encoded = .ok slot.spi →
      (ctx.sas slot).configured = true → (ctx.sas slot).state = .operational →
      Effect encoded ctx .stopSa t (ctx.updateSa slot (·.moveTo .stopped .stopSa))
  | expireSa {t : List Item} {slot : SaSlot} : epSaCommandDecode .expireSa encoded = .ok slot.spi →
      (ctx.sas slot).configured = true → (ctx.sas slot).state = .stopped →
      Effect encoded ctx .expireSa t (ctx.updateSa slot (·.moveTo .expired .expireSa))
  | rekeySa {t : List Item} {command : EpRekeySa} {slot : SaSlot} :
      epRekeySaDecode encoded = .ok command → slot.spi = command.spi →
      (ctx.sas slot).configured = true → (ctx.sas slot).state = .expired →
      ctx.saModes slot ≠ .clear → (ctx.saRoles slot).isRx = command.rxArsn.isSome →
      UsableKey ctx slot command.keyId true t →
      Effect encoded ctx .rekeySa t (ctx.updateSa slot (·.rekey command.keyId command.rxArsn))
  | setArsn {t : List Item} {command : EpSetU32} {slot : SaSlot} :
      epSetArsnDecode encoded = .ok command → slot.spi = command.spi → MutableRx ctx slot →
      ((ctx.sas slot).rxArsnInitialized = true → (ctx.sas slot).rxArsn ≤ command.value) →
      Effect encoded ctx .setArsn t (ctx.updateSa slot fun sa =>
        { sa with
          rxArsn := command.value
          rxArsnInitialized := true
          lastProcedure := Procedure.setArsn.lastProcedure })
  | setArsnWindow {t : List Item} {command : EpSetU32} {slot : SaSlot} :
      epSetArsnWindowDecode encoded = .ok command → slot.spi = command.spi → MutableRx ctx slot →
      command.value ≠ 0 → command.value ≤ arsnWindow →
      Effect encoded ctx .setArsnWindow t (ctx.updateSa slot fun sa =>
        { sa with rxWindow := command.value, lastProcedure := Procedure.setArsnWindow.lastProcedure })
  | reported {t : List Item} {procedure : Procedure} :
      procedure ∈ [.readArsn, .saStatus, .ping, .logStatus, .dumpLog] → Effect encoded ctx procedure t ctx
  | eraseLog {t : List Item} : Effect encoded ctx .eraseLog t ctx.eraseLog
  | selfTestOk {result : PsaRes .selfTest} : result = (0, selfTestOk) →
      Effect encoded ctx .selfTest [⟨ctx, .selfTest, result⟩] ctx
  | selfTestAbsent : ctx.selfTest = false → Effect encoded ctx .selfTest [] (ctx.recordSelfTest encoded)
  | selfTestNotOk {result : PsaRes .selfTest} : result.1 ≠ 0 ∨ result.2 = selfTestNotOk →
      Effect encoded ctx .selfTest [⟨ctx, .selfTest, result⟩] (ctx.recordSelfTest encoded)
  | alarmFlagReset {t : List Item} : Effect encoded ctx .alarmFlagReset t ctx.alarmFlagReset

/-- The outcome of a recipient: an effect on the context, or nothing but an error -/
abbrev Recipient.Meets {α : Type} (p : Recipient α) (encoded : Bytes) (procedure : Procedure)
    (s : State) : Prop :=
  p.wp anyPsa (fun t _ s' => Effect encoded s.ctx procedure t s'.ctx ∧ s'.outLen = s.outLen) (Failed s) s

theorem processStartSa_meets (encoded : Bytes) (s : State) :
    (processStartSa encoded).Meets encoded .startSa s := by
  simp only [Recipient.Meets, processStartSa, Fallible.wp_bind, Fallible.wp_ofExcept, Fallible.wp_read,
    Fallible.wp_failIf, Fallible.wp_ite, Fallible.wp_modify, List.nil_append, List.append_nil]
  refine ⟨fun command decoded => ⟨fun slot managed => ?_, fun e _ => (reads_nil s).failed⟩,
    fun e _ => (reads_nil s).failed⟩
  obtain ⟨same, configured⟩ := Ctx.managedSa_ok managed
  refine ⟨fun _ => (reads_nil s).failed, fun stopped => ⟨fun isClear => ?_, fun secured => ?_⟩⟩
  · refine ⟨fun _ => (reads_nil s).failed, fun admitted => ⟨?_, rfl⟩⟩
    refine .startSa decoded same configured (by simpa using stopped) ?_
    rw [StartAllowed, if_pos isClear, same]
    simpa using admitted
  · apply Fallible.wp_mono (validateSaKey_spec slot _ false s)
    · rintro t _ s' ⟨rfl, usable⟩
      refine ⟨.startSa decoded same configured (by simpa using stopped) ?_, rfl⟩
      rwa [StartAllowed, if_neg secured]
    · exact fun t e s' failed => failed

theorem processSaTransition_spec (procedure : Procedure) (source target : SaState) (encoded : Bytes)
    (s : State) :
    (processSaTransition procedure source target encoded).wp anyPsa
      (fun _ _ s' => ∃ slot : SaSlot, epSaCommandDecode procedure encoded = .ok slot.spi ∧
        (s.ctx.sas slot).configured = true ∧ (s.ctx.sas slot).state = source ∧
        s' = s.withCtx (·.updateSa slot (·.moveTo target procedure)))
      (Failed s) s := by
  simp only [processSaTransition, Fallible.wp_bind, Fallible.wp_ofExcept, Fallible.wp_read,
    Fallible.wp_failIf, Fallible.wp_modify, List.nil_append]
  refine ⟨fun spi decoded => ⟨fun slot managed => ?_, fun e _ => (reads_nil s).failed⟩,
    fun e _ => (reads_nil s).failed⟩
  obtain ⟨rfl, configured⟩ := Ctx.managedSa_ok managed
  exact ⟨fun _ => (reads_nil s).failed, fun state => ⟨slot, decoded, configured, by simpa using state, rfl⟩⟩

theorem processStopSa_meets (encoded : Bytes) (s : State) :
    (processStopSa encoded).Meets encoded .stopSa s := by
  apply Fallible.wp_mono (processSaTransition_spec .stopSa .operational .stopped encoded s)
  · rintro t _ s' ⟨slot, decoded, configured, state, rfl⟩
    exact ⟨.stopSa decoded configured state, rfl⟩
  · exact fun t e s' failed => failed

theorem processExpireSa_meets (encoded : Bytes) (s : State) :
    (processExpireSa encoded).Meets encoded .expireSa s := by
  apply Fallible.wp_mono (processSaTransition_spec .expireSa .stopped .expired encoded s)
  · rintro t _ s' ⟨slot, decoded, configured, state, rfl⟩
    exact ⟨.expireSa decoded configured state, rfl⟩
  · exact fun t e s' failed => failed

theorem processRekeySa_meets (encoded : Bytes) (s : State) :
    (processRekeySa encoded).Meets encoded .rekeySa s := by
  simp only [Recipient.Meets, processRekeySa, Fallible.wp_bind, Fallible.wp_ofExcept, Fallible.wp_read,
    Fallible.wp_failIf, Fallible.wp_modify, List.nil_append, List.append_nil]
  refine ⟨fun command decoded => ⟨fun slot managed => ?_, fun e _ => (reads_nil s).failed⟩,
    fun e _ => (reads_nil s).failed⟩
  obtain ⟨same, configured⟩ := Ctx.managedSa_ok managed
  refine ⟨fun _ => (reads_nil s).failed, fun expired => ⟨fun _ => (reads_nil s).failed, fun secured =>
    ⟨fun _ => (reads_nil s).failed, fun shape => ?_⟩⟩⟩
  apply Fallible.wp_mono (validateSaKey_spec slot command.keyId true s)
  · rintro t _ s' ⟨rfl, usable⟩
    exact ⟨.rekeySa decoded same configured (by simpa using expired) secured (by simpa using shape) usable, rfl⟩
  · exact fun t e s' failed => failed

theorem processSetArsn_meets (encoded : Bytes) (s : State) :
    (processSetArsn encoded).Meets encoded .setArsn s := by
  simp only [Recipient.Meets, processSetArsn, Fallible.wp_bind, Fallible.wp_ofExcept, Fallible.wp_read,
    Fallible.wp_failIf, Fallible.wp_modify, List.nil_append]
  refine ⟨fun command decoded => ⟨fun slot managed => ?_, fun e _ => (reads_nil s).failed⟩,
    fun e _ => (reads_nil s).failed⟩
  obtain ⟨same, mutableRx⟩ := Ctx.mutableRxSa_ok managed
  refine ⟨fun _ => (reads_nil s).failed, fun forward => ⟨.setArsn decoded same mutableRx ?_, rfl⟩⟩
  intro initialized
  by_contra lower
  exact forward ⟨initialized, UInt32.not_le.mp lower⟩

theorem processSetArsnWindow_meets (encoded : Bytes) (s : State) :
    (processSetArsnWindow encoded).Meets encoded .setArsnWindow s := by
  simp only [Recipient.Meets, processSetArsnWindow, Fallible.wp_bind, Fallible.wp_ofExcept,
    Fallible.wp_read, Fallible.wp_failIf, Fallible.wp_modify, List.nil_append]
  refine ⟨fun command decoded => ⟨fun _ => (reads_nil s).failed, fun inRange => ⟨fun slot managed => ?_,
    fun e _ => (reads_nil s).failed⟩⟩, fun e _ => (reads_nil s).failed⟩
  obtain ⟨same, mutableRx⟩ := Ctx.mutableRxSa_ok managed
  refine ⟨.setArsnWindow decoded same mutableRx (fun zero => inRange (.inl zero)) ?_, rfl⟩
  by_contra beyond
  exact inRange (.inr (UInt32.not_le.mp beyond))

theorem processReadArsn_meets (encoded : Bytes) (s : State) :
    (processReadArsn encoded).Meets encoded .readArsn s := by
  simp only [Recipient.Meets, processReadArsn, Fallible.wp_bind, Fallible.wp_ofExcept, Fallible.wp_read,
    Fallible.wp_modify, Fallible.wp_pure, List.nil_append]
  exact ⟨fun spi _ => ⟨fun slot _ => ⟨.reported (by simp), rfl⟩, fun e _ => (reads_nil s).failed⟩,
    fun e _ => (reads_nil s).failed⟩

theorem processSaStatus_meets (encoded : Bytes) (s : State) :
    (processSaStatus encoded).Meets encoded .saStatus s := by
  simp only [Recipient.Meets, processSaStatus, Fallible.wp_bind, Fallible.wp_ofExcept, Fallible.wp_read,
    Fallible.wp_modify, Fallible.wp_pure, List.nil_append]
  exact ⟨fun spi _ => ⟨fun slot _ => ⟨.reported (by simp), rfl⟩, fun e _ => (reads_nil s).failed⟩,
    fun e _ => (reads_nil s).failed⟩

/-! ## Keys -/

theorem Recipient.Meets.silently {p : Recipient Unit} {encoded : Bytes} {procedure : Procedure} {s : State}
    (meets : p.Meets encoded procedure s) : (silently p).Meets encoded procedure s := by
  simp only [Recipient.Meets, Sdls.silently, Fallible.wp_bind, Fallible.wp_pure, List.append_nil]
  exact meets

theorem processOtar_meets (encoded : Bytes) (s : State) : (processOtar encoded).Meets encoded .otar s := by
  apply Fallible.wp_mono (processOtar_spec encoded s)
  · rintro t _ s' ⟨pairs, replaceable, rfl⟩
    exact ⟨.otar replaceable, rfl⟩
  · exact fun t e s' failed => failed

theorem processKeyActivation_meets (encoded : Bytes) (s : State) :
    (processKeyActivation encoded).Meets encoded .keyActivation s := by
  apply Fallible.wp_mono (processLifecycle_spec .keyActivation encoded s)
  · rintro t _ s' ⟨slots, recipients, rfl⟩
    exact ⟨.keyActivation recipients, rfl⟩
  · exact fun t e s' failed => failed

theorem processKeyDeactivation_meets (encoded : Bytes) (s : State) :
    (processKeyDeactivation encoded).Meets encoded .keyDeactivation s := by
  apply Fallible.wp_mono (processLifecycle_spec .keyDeactivation encoded s)
  · rintro t _ s' ⟨slots, recipients, rfl⟩
    exact ⟨.keyDeactivation recipients, rfl⟩
  · exact fun t e s' failed => failed

theorem processKeyVerification_meets (encoded : Bytes) (s : State) :
    (processKeyVerification encoded).Meets encoded .keyVerification s := by
  apply Fallible.wp_mono (processKeyVerification_spec encoded s)
  · rintro t _ s' ⟨slots, recipients, used, committed, kept⟩
    rw [committed]
    exact ⟨.keyVerification recipients used, kept⟩
  · exact fun t e s' failed => failed

theorem processKeyInventory_meets (encoded : Bytes) (s : State) :
    (processKeyInventory encoded).Meets encoded .keyInventory s := by
  apply Fallible.wp_mono (processKeyInventory_spec encoded s)
  · rintro t _ s' ⟨valid, ⟨reply, rfl⟩, _⟩
    exact ⟨.keyInventory valid, rfl⟩
  · exact fun t e s' failed => failed

/-! ## Monitoring -/

theorem writeReply_meets {encoded reply : Bytes} {procedure : Procedure} {s : State}
    (effect : Effect encoded s.ctx procedure [] s.ctx) :
    (writeReply reply).Meets encoded procedure s := by
  simp only [Recipient.Meets, writeReply, Fallible.wp_bind, Fallible.wp_modify, Fallible.wp_pure]
  exact ⟨effect, rfl⟩

/-- The self test reads, and finds the result that the event depends on. -/
theorem selfTestResult_spec (encoded : Bytes) (s : State) :
    selfTestResult.wp anyPsa
      (fun t result s' => s' = s ∧ (∀ item ∈ t, item.op.KeepsKeys) ∧
        Effect encoded s.ctx .selfTest t
          (if result = selfTestNotOk then s.ctx.recordSelfTest encoded else s.ctx))
      (Failed s) s := by
  simp only [selfTestResult, Fallible.wp_bind, Fallible.wp_read, Fallible.wp_ite, Fallible.wp_pure,
    wp_selfTestCallback, Fallible.wp_failIf, List.nil_append, List.append_nil, if_true]
  refine ⟨fun present answer => ⟨fun failed => ?_, fun answered => ⟨fun _ => ?_, fun known => ?_⟩⟩,
    fun absent => ?_⟩
  · exact ⟨trivial, (@reads_single _ s ⟨s.ctx, .selfTest, answer⟩ trivial).2, .selfTestNotOk (.inl failed)⟩
  · exact (@reads_single _ s ⟨s.ctx, .selfTest, answer⟩ trivial).failed
  · refine ⟨trivial, (@reads_single _ s ⟨s.ctx, .selfTest, answer⟩ trivial).2, ?_⟩
    by_cases notOk : answer.2 = selfTestNotOk
    · rw [if_pos notOk]
      exact .selfTestNotOk (.inr notOk)
    · rw [if_neg notOk]
      apply Effect.selfTestOk
      by_contra other
      apply known
      refine ⟨fun ok => other ?_, notOk⟩
      exact Prod.ext (not_not.mp answered) ok
  · exact ⟨trivial, (reads_nil s).2, .selfTestAbsent (by simpa using absent)⟩

theorem processSelfTest_meets (encoded : Bytes) (s : State) :
    (processSelfTest encoded).Meets encoded .selfTest s := by
  simp only [Recipient.Meets, processSelfTest, writeReply, Fallible.wp_bind, Fallible.wp_read,
    Fallible.wp_failIf, List.nil_append]
  refine ⟨fun _ => (reads_nil s).failed, fun _ => ?_⟩
  apply Fallible.wp_mono (selfTestResult_spec encoded s)
  · rintro t result s' ⟨rfl, _, effect⟩
    simp only [Fallible.wp_bind, Fallible.wp_modify, Fallible.wp_pure, Fallible.wp_ite, List.append_nil]
    refine ⟨fun notOk => ⟨?_, rfl⟩, fun ok => ⟨?_, rfl⟩⟩
    · rw [if_pos notOk] at effect
      exact effect
    · rw [if_neg ok] at effect
      exact effect
  · exact fun t e s' failed => failed

theorem processAlarmFlagReset_meets (encoded : Bytes) (s : State) :
    (processAlarmFlagReset encoded).Meets encoded .alarmFlagReset s := by
  simp only [Recipient.Meets, processAlarmFlagReset, Fallible.wp_bind, Fallible.wp_ofExcept,
    Fallible.wp_modify, List.append_nil]
  exact ⟨fun _ _ => ⟨.alarmFlagReset, rfl⟩, fun e _ => (reads_nil s).failed⟩

theorem processMonitoring_meets (pdu : EpPdu) (encoded : Bytes) (s : State) :
    (processMonitoring pdu encoded).Meets encoded pdu.procedure s := by
  simp only [Recipient.Meets, processMonitoring, Fallible.wp_bind, Fallible.wp_failIf,
    Fallible.wp_ofExcept, Fallible.wp_read, List.nil_append]
  refine ⟨fun _ => (reads_nil s).failed, fun _ => ⟨fun _ _ => ?_, fun e _ => (reads_nil s).failed⟩⟩
  cases named : pdu.procedure with
  | ping =>
    simp only [Fallible.wp_bind, Fallible.wp_failIf, List.nil_append]
    exact ⟨fun _ => (reads_nil s).failed, fun _ => writeReply_meets (.reported (by simp))⟩
  | logStatus =>
    simp only [Fallible.wp_bind, Fallible.wp_failIf, List.nil_append]
    exact ⟨fun _ => (reads_nil s).failed, fun _ => writeReply_meets (.reported (by simp))⟩
  | dumpLog =>
    simp only [Fallible.wp_bind, Fallible.wp_ofExcept, List.nil_append]
    exact ⟨fun _ _ => writeReply_meets (.reported (by simp)), fun e _ => (reads_nil s).failed⟩
  | eraseLog =>
    simp only [writeReply, Fallible.wp_bind, Fallible.wp_failIf, Fallible.wp_modify, Fallible.wp_pure,
      List.nil_append]
    exact ⟨fun _ => (reads_nil s).failed, fun _ => ⟨.eraseLog, rfl⟩⟩
  | selfTest => exact processSelfTest_meets encoded s
  | alarmFlagReset => exact (processAlarmFlagReset_meets encoded s).silently
  | _ => exact @Reads.failed _ _ _ _ .unsupported (reads_nil s)

/-! ## The packet service -/

theorem recipient_meets (pdu : EpPdu) (encoded : Bytes) (s : State) :
    (recipient pdu encoded).Meets encoded pdu.procedure s := by
  unfold recipient
  split
  case h_1 named => exact named ▸ (processOtar_meets encoded s).silently
  case h_2 named => exact named ▸ (processKeyActivation_meets encoded s).silently
  case h_3 named => exact named ▸ (processKeyDeactivation_meets encoded s).silently
  case h_4 named =>
    simp only [Recipient.Meets, Fallible.wp_bind, Fallible.wp_pure, List.append_nil]
    exact named ▸ processKeyVerification_meets encoded s
  case h_5 named => exact named ▸ processKeyInventory_meets encoded s
  case h_6 named => exact named ▸ (processStartSa_meets encoded s).silently
  case h_7 named => exact named ▸ (processStopSa_meets encoded s).silently
  case h_8 named => exact named ▸ (processRekeySa_meets encoded s).silently
  case h_9 named => exact named ▸ (processExpireSa_meets encoded s).silently
  case h_10 named => exact named ▸ (processSetArsn_meets encoded s).silently
  case h_11 named => exact named ▸ (processSetArsnWindow_meets encoded s).silently
  case h_12 named => exact named ▸ processReadArsn_meets encoded s
  case h_13 named => exact named ▸ processSaStatus_meets encoded s
  all_goals exact processMonitoring_meets pdu encoded s

/-- The two outcomes of `ccsds_sdls_ep_process_pdu` -/
theorem processPdu_spec (encoded : Bytes) (s : State) :
    (processPdu encoded).wp anyPsa
      (Fallible.either
        (fun t _ s' => ∃ pdu ctx, epPduDecode encoded = .ok pdu ∧
          Effect encoded s.ctx pdu.procedure t ctx ∧ s'.ctx = ctx.endTransaction)
        (fun t e s' => ImportsDestroyed t ∧ s' = s.withCtx fun ctx =>
          (ctx.recordFailure ctx.authenticatedRx encoded (epPduDecode encoded).toOption e).endTransaction))
      s := by
  have meets : (runPdu encoded).2.wp anyPsa
      (fun t _ s' => ∃ pdu, epPduDecode encoded = .ok pdu ∧ Effect encoded s.ctx pdu.procedure t s'.ctx)
      (Failed s) s := by
    unfold runPdu
    cases epPduDecode encoded with
    | error e => exact @Reads.failed _ _ _ _ e (reads_nil s)
    | ok pdu =>
      apply Fallible.wp_mono (recipient_meets pdu encoded s)
      · exact fun t _ s' reached => ⟨pdu, rfl, reached.1⟩
      · exact fun t e s' failed => failed
  have named : (runPdu encoded).1 = (epPduDecode encoded).toOption := by
    unfold runPdu
    cases epPduDecode encoded <;> rfl
  simp only [processPdu, Prog.wp_bind, Prog.wp_read, List.nil_append, named]
  apply Prog.wp_mono meets
  intro t r s' reached
  cases r with
  | ok len =>
    obtain ⟨pdu, decoded, effect⟩ := reached
    simp only [Prog.wp_bind, Prog.wp_modify, Prog.wp_pure, List.append_nil, Fallible.either_ok]
    exact ⟨pdu, s'.ctx, decoded, effect, rfl⟩
  | error e =>
    obtain ⟨rfl, destroyed⟩ := reached
    simp only [Prog.wp_bind, Prog.wp_modify, Prog.wp_pure, List.append_nil, Fallible.either_error]
    exact ⟨destroyed, rfl⟩

end ZephyrCcsds.Sdls
