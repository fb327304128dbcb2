import ZephyrCcsds.Sdls.Nonces
import ZephyrCcsds.Sdls.Replay
import ZephyrCcsds.Sdls.RoundTrip

/-! # The transmit counters

The ARSN of the next transmission with a key counts what has been encrypted with the key.  Only an OTAR that replaces
the key takes it back, and only a Rekey of an SA gives the SA another counter, so the ARSNs that an SA sends increase
between such commands (`transmit_watermark`), as long as no counter is used up: after 2³² transmissions it starts
again.
-/

namespace ZephyrCcsds.Sdls

open Callback

variable [Kconfig]

/-! ## Observations -/

/-- The call has rekeyed the SA. -/
def Label.Rekeys (label : Label) (slot : SaSlot) : Prop :=
  ∃ encoded command, label.call.command = some (.rekeySa, encoded) ∧ label.result = .ok () ∧
    epRekeySaDecode encoded = .ok command ∧ command.spi = slot.spi

/-- The call has used the last ARSN of a key. -/
def Label.Exhausts (label : Label) : Prop := ∃ used ∈ label.consumed, (ivArsn used.2).toNat + 1 = 2 ^ 32

/-- The call may have given the SA a counter that stands lower. -/
def Label.Renews (label : Label) (slot : SaSlot) : Prop :=
  label.Rekeys slot ∨ label.CarriesOut .otar ∨ label.Exhausts

/-- The ARSN of a frame that a call has protected for an SA -/
def Label.sentArsn (label : Label) (slot : SaSlot) : Option UInt32 :=
  match label.call, label.result with
  | .applySecurity _ sending _ _ _, .ok _ =>
    if sending = slot then label.consumed.head?.map fun used => ivArsn used.2 else none
  | _, _ => none

/-! ## One counter -/

/-- What a step may do to the counter of a key -/
inductive CounterMove (label : Label) (before after : UInt32) : Prop where
  | kept : after = before → CounterMove label before after
  | used {used : PsaKeyId × Bytes} : used ∈ label.consumed → ivArsn used.2 = before → after = before + 1 →
      CounterMove label before after
  | replaced : label.CarriesOut .otar → CounterMove label before after

/-- A verification advances the counters of its keys by one each. -/
theorem Ctx.commitVerification_counter (ctx : Ctx) {slots : List KeySlot} (distinct : slots.Nodup) (nextIv : UInt64)
    (i : KeySlot) :
    i ∈ slots ∧ ((ctx.commitVerification slots nextIv).keys i).txArsn = (ctx.keys i).txArsn + 1 ∨
      ((ctx.commitVerification slots nextIv).keys i).txArsn = (ctx.keys i).txArsn := by
  unfold Ctx.commitVerification
  induction slots generalizing ctx with
  | nil => exact .inr rfl
  | cons slot slots ih =>
    obtain ⟨absent, distinct⟩ := List.nodup_cons.mp distinct
    have later := ih (ctx.updateKey slot fun key => { key with txArsn := key.txArsn + 1 }) distinct
    by_cases here : i = slot
    · subst here
      rw [Ctx.updateKey_same] at later
      cases later with
      | inl again => exact absurd again.1 absent
      | inr once => exact .inl ⟨List.mem_cons_self, once⟩
    · rw [Ctx.updateKey_other _ _ _ here] at later
      cases later with
      | inl once => exact .inl ⟨List.mem_cons_of_mem _ once.1, once.2⟩
      | inr kept => exact .inr kept

theorem Ctx.mem_verificationIvs (ctx : Ctx) {slots : List KeySlot} {slot : KeySlot} (listed : slot ∈ slots) (iv : UInt64) :
    ∃ used ∈ ctx.verificationIvs slots iv, ivArsn used.2 = (ctx.keys slot).txArsn := by
  induction slots generalizing iv with
  | nil => simp at listed
  | cons first slots ih =>
    rcases List.mem_cons.mp listed with rfl | later
    · exact ⟨_, List.mem_cons_self, ivArsn_constructIv _ _⟩
    · obtain ⟨used, mem, arsn⟩ := ih later (iv + ivStride)
      exact ⟨used, List.mem_cons_of_mem _ mem, arsn⟩

theorem Effect.counter {encoded : Bytes} {ctx ctx' : Ctx} {procedure : Procedure} {t : List Item}
    (effect : Effect encoded ctx procedure t ctx') {call : Call}
    (named : call.command = some (procedure, encoded)) (slot : KeySlot) :
    CounterMove ⟨call, t, .ok ()⟩ (ctx.keys slot).txArsn (ctx'.keys slot).txArsn := by
  cases effect with
  | @otar _ pairs =>
    by_cases swapped : slot ∈ pairs.map (·.1)
    · exact .replaced ⟨encoded, named, rfl⟩
    · exact .kept (by rw [Ctx.swapKeys_other swapped])
  | @keyActivation _ slots | @keyDeactivation _ slots =>
    by_cases chosen : slot ∈ slots
    · exact .kept (by rw [Ctx.setKeyStates_chosen _ chosen])
    · exact .kept (by rw [Ctx.setKeyStates_other _ chosen])
  | @keyVerification _ slots recipients used =>
    have consumed : (⟨call, t, .ok ()⟩ : Label).consumed = ctx.verificationIvs slots ctx.txIv := by
      simp [Label.consumed, Label.released, Call.procedure, named, Call.not_protection named, used]
    cases ctx.commitVerification_counter recipients.nodup (advanceIv slots.length ctx.txIv) slot with
    | inl advanced =>
      obtain ⟨pair, mem, arsn⟩ := ctx.mem_verificationIvs advanced.1 ctx.txIv
      exact .used (by rw [consumed]; exact mem) arsn advanced.2
    | inr kept => exact .kept kept
  | selfTestAbsent => exact .kept (by rw [(ctx.recordSelfTest_sameTables encoded).keys])
  | selfTestNotOk => exact .kept (by rw [(ctx.recordSelfTest_sameTables encoded).keys])
  | _ => exact .kept rfl

theorem Moves.counter {ctx ctx' : Ctx} {label : Label} (moves : Moves ctx label ctx') (slot : KeySlot) :
    CounterMove label (ctx.keys slot).txArsn (ctx'.keys slot).txArsn := by
  cases moves with
  | @protects _ _ _ _ _ key _ _ _ protects =>
    obtain ⟨aad, plaintext, answer, rfl⟩ := protects.called
    obtain rfl := protects.consumed
    by_cases here : slot = key
    · subst here
      refine .used (List.mem_singleton_self _) (ivArsn_constructIv _ _) ?_
      rw [Ctx.consumeIv_same]
    · exact .kept (by rw [Ctx.consumeIv_other _ here])
  | accepts accepts =>
    obtain rfl := accepts.committed
    exact .kept rfl
  | effect named effect tables => exact tables.keys ▸ effect.counter named slot
  | refuses tables => exact .kept (by rw [tables.keys])
  | assigns _ tables => exact .kept (by rw [tables.keys])

/-! ## The counter of an association -/

theorem Effect.keySlot {encoded : Bytes} {ctx ctx' : Ctx} {procedure : Procedure} {t : List Item}
    (effect : Effect encoded ctx procedure t ctx') {call : Call}
    (named : call.command = some (procedure, encoded)) (slot : SaSlot) :
    (ctx'.sas slot).keySlot = (ctx.sas slot).keySlot ∨ (⟨call, t, .ok ()⟩ : Label).Rekeys slot := by
  -- A command on one SA leaves the others, and only Rekey writes the key.
  have elsewhere : ∀ (target : SaSlot) (f : Sa → Sa),
      (slot = target → (f (ctx.sas target)).keySlot = (ctx.sas target).keySlot) →
        ((ctx.updateSa target f).sas slot).keySlot = (ctx.sas slot).keySlot := by
    intro target f same
    by_cases here : slot = target
    · subst here
      rw [Ctx.updateSa_same, same rfl]
    · rw [Ctx.updateSa_other _ _ _ here]
  cases effect with
  | otar => exact .inl (by rw [(ctx.swapKeys_onlyKeys _).associations.sas])
  | keyActivation => exact .inl (by rw [(ctx.setKeyStates_onlyKeys _ _).associations.sas])
  | keyDeactivation => exact .inl (by rw [(ctx.setKeyStates_onlyKeys _ _).associations.sas])
  | keyVerification => exact .inl (by rw [Ctx.commitVerification, (ctx.updateKeys_onlyKeys _ _).associations.sas])
  | @rekeySa _ command target decoded same =>
    by_cases here : slot = target
    · exact .inr ⟨encoded, command, named, rfl, decoded, by rw [here, same]⟩
    · exact .inl (elsewhere target _ fun there => absurd there here)
  | startSa | stopSa | expireSa | setArsn | setArsnWindow => exact .inl (elsewhere _ _ fun _ => rfl)
  | selfTestAbsent => exact .inl (by rw [(ctx.recordSelfTest_sameTables encoded).sas])
  | selfTestNotOk => exact .inl (by rw [(ctx.recordSelfTest_sameTables encoded).sas])
  | _ => exact .inl rfl

theorem Moves.keySlot {ctx ctx' : Ctx} {label : Label} (moves : Moves ctx label ctx') (slot : SaSlot) :
    (ctx'.sas slot).keySlot = (ctx.sas slot).keySlot ∨ label.Rekeys slot := by
  cases moves with
  | protects protects =>
    obtain rfl := protects.consumed
    exact .inl rfl
  | @accepts _ _ _ header target _ _ _ accepts =>
    obtain rfl := accepts.committed
    rw [(ctx.acceptFrame_sameTables target header.spi (ivArsn header.iv)).sas, Ctx.acceptArsn]
    by_cases here : slot = target
    · subst here
      rw [Ctx.updateSa_same]
      exact .inl rfl
    · rw [Ctx.updateSa_other _ _ _ here]
      exact .inl rfl
  | effect named effect tables => exact tables.sas ▸ effect.keySlot named slot
  | refuses tables => exact .inl (by rw [tables.sas])
  | assigns _ tables => exact .inl (by rw [tables.sas])

/-- The ARSN of the next frame of an SA, zero while it has no key -/
def Ctx.nextArsn (ctx : Ctx) (slot : SaSlot) : Nat :=
  if bound : (ctx.sas slot).keySlot < maxKeys then (ctx.keys ⟨(ctx.sas slot).keySlot, bound⟩).txArsn.toNat else 0

theorem Ctx.nextArsn_key {ctx : Ctx} {slot : SaSlot} {key : KeySlot} (holds : (ctx.sas slot).keySlot = key.val) :
    ctx.nextArsn slot = (ctx.keys key).txArsn.toNat := by
  have bound : (ctx.sas slot).keySlot < maxKeys := holds ▸ key.isLt
  have same : (⟨(ctx.sas slot).keySlot, bound⟩ : KeySlot) = key := Fin.ext holds
  rw [Ctx.nextArsn, dif_pos bound, same]

/-- Without a renewal a counter only rises, and by at most one. -/
theorem CounterMove.rises {label : Label} {before after : UInt32} {slot : SaSlot} (move : CounterMove label before after)
    (steady : ¬label.Renews slot) : before.toNat ≤ after.toNat := by
  cases move with
  | kept same => rw [same]
  | used mem arsn advanced =>
    have room : before.toNat + 1 ≠ 2 ^ 32 := by
      intro last
      exact steady (.inr (.inr ⟨_, mem, by rw [arsn]; exact last⟩))
    have small := before.toNat_lt
    rw [advanced, UInt32.toNat_add]
    simp only [UInt32.toNat_one]
    omega
  | replaced otar => exact absurd (.inr (.inl otar)) steady

theorem Step.nextArsn_le {ctx ctx' : Ctx} {label : Label} {slot : SaSlot} (step : Step ctx label ctx')
    (steady : ¬label.Renews slot) : ctx.nextArsn slot ≤ ctx'.nextArsn slot := by
  rcases step.moves.keySlot slot with same | rekeyed
  · unfold Ctx.nextArsn
    simp only [same]
    by_cases bound : (ctx.sas slot).keySlot < maxKeys
    · simp only [dif_pos bound]
      exact (step.moves.counter _).rises steady
    · simp only [dif_neg bound, le_refl]
  · exact absurd (.inl rekeyed) steady

/-- A frame takes the next ARSN of its SA. -/
theorem Step.sentArsn {ctx ctx' : Ctx} {label : Label} {slot : SaSlot} {arsn : UInt32} (step : Step ctx label ctx')
    (steady : ¬label.Renews slot) (sent : label.sentArsn slot = some arsn) :
    ctx.nextArsn slot = arsn.toNat ∧ ctx'.nextArsn slot = arsn.toNat + 1 := by
  cases step.moves with
  | @protects role sending auth data outOffset key t result _ protects =>
    have holds := (Ctx.operationalKey_ok protects.operational).keySlot
    obtain ⟨aad, plaintext, answer, rfl⟩ := protects.called
    obtain rfl := protects.consumed
    cases result with
    | error e => simp [Label.sentArsn] at sent
    | ok _ =>
      by_cases here : sending = slot
      · subst here
        have same : ivArsn (ctx.nextIv key) = arsn := by
          simpa [Label.sentArsn, Label.consumed, Call.isProtection, Item.encrypted] using sent
        have counter : (ctx.keys key).txArsn = arsn := by
          rw [← same, Ctx.nextIv, ivArsn_constructIv]
        have after : ((ctx.consumeIv key).sas sending).keySlot = key.val := holds
        refine ⟨by rw [Ctx.nextArsn_key holds, counter], ?_⟩
        rw [Ctx.nextArsn_key after, Ctx.consumeIv_same, counter, UInt32.toNat_add]
        have room : arsn.toNat + 1 ≠ 2 ^ 32 := by
          intro last
          refine steady (.inr (.inr ⟨_, List.mem_singleton_self _, ?_⟩))
          show (ivArsn (ctx.nextIv key)).toNat + 1 = 2 ^ 32
          rw [same, last]
        have small := arsn.toNat_lt
        simp only [UInt32.toNat_one]
        omega
      · simp [Label.sentArsn, here] at sent
  | accepts _ => simp [Label.sentArsn] at sent
  | @effect call procedure encoded t _ _ named effect tables =>
    cases call with
    | applySecurity => cases named
    | _ => simp [Label.sentArsn] at sent
  | refuses => 
    rename_i call t error _ _
    cases call <;> simp [Label.sentArsn] at sent
  | @assigns call f assigned tables =>
    cases call with
    | applySecurity => cases assigned
    | _ => simp [Label.sentArsn] at sent

theorem transmit_watermark (slot : SaSlot) :
    Watermark (fun ctx label ctx' => Step ctx label ctx' ∧ ¬label.Renews slot) (fun ctx => Watermark.below (ctx.nextArsn slot))
      (fun label => (label.sentArsn slot).map UInt32.toNat) fun _ _ => False := by
  apply Watermark.of_counter
  · intro ctx label ctx' step
    exact step.1.nextArsn_le step.2
  · intro ctx label ctx' a step sent
    obtain ⟨arsn, taken, rfl⟩ := Option.map_eq_some_iff.mp sent
    obtain ⟨before, after⟩ := step.1.sentArsn step.2 taken
    omega

end ZephyrCcsds.Sdls
