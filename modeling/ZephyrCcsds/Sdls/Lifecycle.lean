import ZephyrCcsds.Sdls.Runs

/-! # The lifecycles of keys and associations

What a step does to one key slot and to one Security Association, whichever call it is, and
that frames are protected and processed with Active keys only.
-/

namespace ZephyrCcsds.Sdls

open Callback

variable [Kconfig]

/-! ## Updates of the key table -/

/-- The associations are the same. -/
structure Ctx.SameAssociations (ctx ctx' : Ctx) : Prop where
  sas : ctx'.sas = ctx.sas
  saRoles : ctx'.saRoles = ctx.saRoles
  saModes : ctx'.saModes = ctx.saModes

theorem Ctx.SameTables.associations {ctx ctx' : Ctx} (same : ctx.SameTables ctx') :
    ctx.SameAssociations ctx' := ⟨same.sas, same.saRoles, same.saModes⟩

/-- Nothing but the key table is different. -/
def Ctx.OnlyKeys (ctx ctx' : Ctx) : Prop := ctx' = { ctx with keys := ctx'.keys }

theorem Ctx.OnlyKeys.trans {ctx ctx' ctx'' : Ctx} (first : ctx.OnlyKeys ctx') (second : ctx'.OnlyKeys ctx'') :
    ctx.OnlyKeys ctx'' := by
  unfold Ctx.OnlyKeys at *
  rw [second, first]

theorem Ctx.OnlyKeys.associations {ctx ctx' : Ctx} (only : ctx.OnlyKeys ctx') : ctx.SameAssociations ctx' := by
  rw [only]
  exact ⟨rfl, rfl, rfl⟩

theorem Ctx.OnlyKeys.txIv {ctx ctx' : Ctx} (only : ctx.OnlyKeys ctx') : ctx'.txIv = ctx.txIv := by
  rw [only]

theorem Ctx.OnlyKeys.log {ctx ctx' : Ctx} (only : ctx.OnlyKeys ctx') : ctx'.log = ctx.log := by
  rw [only]

theorem Ctx.updateKey_onlyKeys (ctx : Ctx) (slot : KeySlot) (f : Key → Key) :
    ctx.OnlyKeys (ctx.updateKey slot f) := rfl

theorem Ctx.updateKeys_onlyKeys (ctx : Ctx) (slots : List KeySlot) (f : Key → Key) :
    ctx.OnlyKeys (slots.foldl (fun ctx slot => ctx.updateKey slot f) ctx) := by
  induction slots generalizing ctx with
  | nil => rfl
  | cons slot slots ih => exact (ctx.updateKey_onlyKeys slot f).trans (ih (ctx.updateKey slot f))

theorem Ctx.setKeyStates_onlyKeys (ctx : Ctx) (slots : List KeySlot) (state : KeyState) :
    ctx.OnlyKeys (ctx.setKeyStates slots state) := ctx.updateKeys_onlyKeys slots _

theorem Ctx.swapKeys_onlyKeys (ctx : Ctx) (pairs : List (KeySlot × PsaKeyId)) :
    ctx.OnlyKeys (ctx.swapKeys pairs).1 := by
  induction pairs generalizing ctx with
  | nil => rfl
  | cons pair pairs ih => exact (ctx.updateKey_onlyKeys pair.1 _).trans (ih (ctx.updateKey pair.1 _))

/-- A verification moves the counters and the sender IV. -/
theorem Ctx.commitVerification_eq (ctx : Ctx) (slots : List KeySlot) (nextIv : UInt64) :
    ctx.commitVerification slots nextIv =
      { ctx with keys := (ctx.commitVerification slots nextIv).keys, txIv := nextIv } := by
  unfold Ctx.commitVerification
  rw [ctx.updateKeys_onlyKeys slots _]

/-- Advancing the counters of a list of slots changes counters only. -/
theorem Ctx.advanceArsns_keys (ctx : Ctx) (slots : List KeySlot) (i : KeySlot) :
    ∃ txArsn, (slots.foldl (fun ctx slot => ctx.updateKey slot fun key =>
      { key with txArsn := key.txArsn + 1 }) ctx).keys i = { ctx.keys i with txArsn } := by
  induction slots generalizing ctx with
  | nil => exact ⟨_, rfl⟩
  | cons slot slots ih =>
    obtain ⟨txArsn, same⟩ := ih (ctx.updateKey slot fun key => { key with txArsn := key.txArsn + 1 })
    refine ⟨txArsn, ?_⟩
    rw [List.foldl_cons, same]
    by_cases here : i = slot
    · rw [here, Ctx.updateKey_same]
    · rw [Ctx.updateKey_other _ _ _ here]

theorem Ctx.swapKeys_other {ctx : Ctx} {pairs : List (KeySlot × PsaKeyId)} {i : KeySlot}
    (other : i ∉ pairs.map (·.1)) : (ctx.swapKeys pairs).1.keys i = ctx.keys i := by
  induction pairs generalizing ctx with
  | nil => rfl
  | cons pair pairs ih =>
    simp only [List.map_cons, List.mem_cons, not_or] at other
    show ((ctx.updateKey pair.1 _).swapKeys pairs).1.keys i = _
    rw [ih other.2, Ctx.updateKey_other _ _ _ other.1]

/-- The slots of a swap hold fresh keys afterwards. -/
theorem Ctx.swapKeys_swapped {ctx : Ctx} {pairs : List (KeySlot × PsaKeyId)} {i : KeySlot}
    (swapped : i ∈ pairs.map (·.1)) :
    ∃ psaKeyId, (ctx.swapKeys pairs).1.keys i = { psaKeyId, state := .preActive, txArsn := 0 } := by
  induction pairs generalizing ctx with
  | nil => cases swapped
  | cons pair pairs ih =>
    by_cases later : i ∈ pairs.map (·.1)
    · exact ih later
    · have here : i = pair.1 := by simpa [later] using swapped
      refine ⟨pair.2, ?_⟩
      show ((ctx.updateKey pair.1 _).swapKeys pairs).1.keys i = _
      rw [Ctx.swapKeys_other later, here, Ctx.updateKey_same]

theorem Ctx.setKeyStates_other {ctx : Ctx} {slots : List KeySlot} (state : KeyState) {i : KeySlot}
    (other : i ∉ slots) : (ctx.setKeyStates slots state).keys i = ctx.keys i := by
  unfold Ctx.setKeyStates
  induction slots generalizing ctx with
  | nil => rfl
  | cons slot slots ih =>
    rw [List.mem_cons, not_or] at other
    rw [List.foldl_cons, ih other.2, Ctx.updateKey_other _ _ _ other.1]

theorem Ctx.setKeyStates_chosen {ctx : Ctx} {slots : List KeySlot} (state : KeyState) {i : KeySlot}
    (chosen : i ∈ slots) : (ctx.setKeyStates slots state).keys i = { ctx.keys i with state } := by
  induction slots generalizing ctx with
  | nil => simp at chosen
  | cons slot slots ih =>
    show ((ctx.updateKey slot _).setKeyStates slots state).keys i = _
    by_cases again : i ∈ slots
    · -- A slot that is listed again is written twice, with the same state.
      rw [ih again]
      by_cases here : i = slot
      · simp [here]
      · rw [Ctx.updateKey_other _ _ _ here]
    · have here : i = slot := by simpa [again] using chosen
      rw [Ctx.setKeyStates_other state again, here, Ctx.updateKey_same]

/-! ## Keys -/

/-- The call has carried out a procedure. -/
def Label.CarriesOut (label : Label) (procedure : Procedure) : Prop :=
  ∃ encoded, label.call.command = some (procedure, encoded) ∧ label.result = .ok ()

/-- What a step may do to a key slot -/
inductive KeyMove (label : Label) (before after : Key) : Prop where
  | kept : after.psaKeyId = before.psaKeyId → after.state = before.state → KeyMove label before after
  | replaced : label.CarriesOut .otar → before.psaKeyId = psaKeyIdNull ∨ before.state ≠ .active →
      after.state = .preActive → after.txArsn = 0 → KeyMove label before after
  | activated : label.CarriesOut .keyActivation → after.psaKeyId = before.psaKeyId →
      before.state = .preActive → after.state = .active → KeyMove label before after
  | deactivated : label.CarriesOut .keyDeactivation → after.psaKeyId = before.psaKeyId →
      before.state = .active ∨ before.state = .preActive → after.state = .deactivated →
      KeyMove label before after

/-- A step on a key slot: a move, which is none where the slot holds a master key -/
structure KeyLifecycle (label : Label) (slot : KeySlot) (before after : Key) : Prop where
  move : KeyMove label before after
  master : slot.val < sessionKeyBase → after.psaKeyId = before.psaKeyId ∧ after.state = before.state

theorem KeyLifecycle.kept {label : Label} {slot : KeySlot} {before after : Key}
    (psaKeyId : after.psaKeyId = before.psaKeyId) (state : after.state = before.state) :
    KeyLifecycle label slot before after :=
  ⟨.kept psaKeyId state, fun _ => ⟨psaKeyId, state⟩⟩

theorem Effect.keys {encoded : Bytes} {ctx ctx' : Ctx} {procedure : Procedure} {t : List Item}
    (effect : Effect encoded ctx procedure t ctx') {call : Call}
    (named : call.command = some (procedure, encoded)) (slot : KeySlot) :
    KeyLifecycle ⟨call, t, .ok ()⟩ slot (ctx.keys slot) (ctx'.keys slot) := by
  cases effect with
  | @otar _ pairs replaceable =>
    by_cases swapped : slot ∈ pairs.map (·.1)
    · obtain ⟨psaKeyId, fresh⟩ := @Ctx.swapKeys_swapped _ ctx _ _ swapped
      rw [fresh]
      refine ⟨.replaced ⟨encoded, named, rfl⟩ (replaceable.idle slot swapped) rfl rfl, fun master => ?_⟩
      exact absurd (replaceable.session slot swapped) (not_le.mpr master)
    · rw [Ctx.swapKeys_other swapped]
      exact .kept rfl rfl
  | @keyActivation _ slots recipients =>
    by_cases chosen : slot ∈ slots
    · rw [Ctx.setKeyStates_chosen _ chosen]
      have permits := recipients.permits slot chosen
      refine ⟨.activated ⟨encoded, named, rfl⟩ rfl ?_ rfl, fun master => ?_⟩
      · simpa [lifecyclePermits] using permits
      · exact absurd (recipients.session slot chosen) (not_le.mpr master)
    · rw [Ctx.setKeyStates_other _ chosen]
      exact .kept rfl rfl
  | @keyDeactivation _ slots recipients =>
    by_cases chosen : slot ∈ slots
    · rw [Ctx.setKeyStates_chosen _ chosen]
      have permits := recipients.permits slot chosen
      refine ⟨.deactivated ⟨encoded, named, rfl⟩ rfl ?_ rfl, fun master => ?_⟩
      · simpa [lifecyclePermits] using permits
      · exact absurd (recipients.session slot chosen) (not_le.mpr master)
    · rw [Ctx.setKeyStates_other _ chosen]
      exact .kept rfl rfl
  | @keyVerification _ slots =>
    obtain ⟨txArsn, same⟩ := ctx.advanceArsns_keys slots slot
    have same : (ctx.commitVerification slots (advanceIv slots.length ctx.txIv)).keys slot =
        { ctx.keys slot with txArsn } := same
    rw [same]
    exact .kept rfl rfl
  | selfTestAbsent => exact (ctx.recordSelfTest_sameTables encoded).keys ▸ .kept rfl rfl
  | selfTestNotOk => exact (ctx.recordSelfTest_sameTables encoded).keys ▸ .kept rfl rfl
  | _ => exact .kept rfl rfl

theorem Moves.keys {ctx ctx' : Ctx} {label : Label} (moves : Moves ctx label ctx') (slot : KeySlot) :
    KeyLifecycle label slot (ctx.keys slot) (ctx'.keys slot) := by
  cases moves with
  | @protects _ _ _ _ _ key _ _ _ protects =>
    obtain rfl := protects.consumed
    by_cases here : slot = key
    · rw [here, Ctx.consumeIv_same]
      exact .kept rfl rfl
    · rw [Ctx.consumeIv_other _ here]
      exact .kept rfl rfl
  | accepts accepts =>
    obtain rfl := accepts.committed
    exact .kept rfl rfl
  | effect named effect tables => exact tables.keys ▸ effect.keys named slot
  | refuses tables => exact tables.keys ▸ .kept rfl rfl
  | assigns _ tables => exact tables.keys ▸ .kept rfl rfl

/-! ## Associations -/

/-- PSA has reported the key of a slot as AES-256 for GCM, with the usage that an SA's direction needs. -/
def ReportedUsable (ctx : Ctx) (slot : SaSlot) (key : KeySlot) (t : List Item) : Prop :=
  ∃ attributes : PsaKeyAttributes,
    ⟨ctx, .getKeyAttributes (ctx.keys key).psaKeyId, (.success, attributes)⟩ ∈ t ∧
      attributes.type = .aes ∧ attributes.bits = 256 ∧ attributes.algorithm = .gcm ∧
      (if (ctx.saRoles slot).isTx then attributes.usage.encrypt else attributes.usage.decrypt) = true

theorem Validated.reportedUsable {ctx : Ctx} {slot : SaSlot} {key : KeySlot} {t : List Item}
    (validated : Validated ctx (ctx.keys key).psaKeyId (ctx.saRoles slot).keyUsage t) :
    ReportedUsable ctx slot key t := by
  obtain ⟨attributes, fits, rfl⟩ := validated
  simp only [PsaKeyAttributes.fits, Bool.and_eq_true, decide_eq_true_eq] at fits
  obtain ⟨⟨⟨type, bits⟩, algorithm⟩, includes⟩ := fits
  refine ⟨attributes, List.mem_singleton_self _, type, bits, algorithm, ?_⟩
  unfold SaRole.keyUsage at includes
  split_ifs at includes ⊢
  · simpa [PsaKeyUsage.includes, PsaKeyUsage.encryptOnly] using includes
  · simpa [PsaKeyUsage.includes, PsaKeyUsage.decryptOnly] using includes

/-- The condition on which an SA becomes Operational -/
def StartReady (ctx : Ctx) (slot : SaSlot) (t : List Item) : Prop :=
  if ctx.saModes slot = .clear then
    ctx.authenticatedRx.valid = true ∧ ctx.authenticatedRx.spi ≠ slot.spi
  else
    ∃ key : KeySlot, key.val = (ctx.sas slot).keySlot ∧ (ctx.keys key).state = .active ∧
      (ctx.keys key).psaKeyId ≠ psaKeyIdNull ∧ ReportedUsable ctx slot key t

theorem StartAllowed.ready {ctx : Ctx} {slot : SaSlot} {t : List Item} (allowed : StartAllowed ctx slot t) :
    StartReady ctx slot t := by
  unfold StartAllowed at allowed
  unfold StartReady
  split_ifs at allowed ⊢
  · exact allowed
  · obtain ⟨key, same, active, present, validated⟩ := allowed.active
    exact ⟨key, same, active, present, validated.reportedUsable⟩

/-- What a step may do to an SA -/
inductive SaMove (label : Label) (ctx : Ctx) (slot : SaSlot) (after : Sa) : Prop where
  | kept : after.state = (ctx.sas slot).state → after.keySlot = (ctx.sas slot).keySlot →
      SaMove label ctx slot after
  | started : label.CarriesOut .startSa → (ctx.sas slot).state = .stopped → after.state = .operational →
      after.keySlot = (ctx.sas slot).keySlot → StartReady ctx slot label.trace →
      SaMove label ctx slot after
  | stopped : label.CarriesOut .stopSa → (ctx.sas slot).state = .operational → after.state = .stopped →
      after.keySlot = (ctx.sas slot).keySlot → SaMove label ctx slot after
  | expired : label.CarriesOut .expireSa → (ctx.sas slot).state = .stopped → after.state = .expired →
      after.keySlot = (ctx.sas slot).keySlot → SaMove label ctx slot after
  | rekeyed (key : KeySlot) : label.CarriesOut .rekeySa → (ctx.sas slot).state = .expired →
      after.state = .stopped → after.keySlot = key.val → sessionKeyBase ≤ key.val →
      (ctx.keys key).state = .active → (ctx.keys key).psaKeyId ≠ psaKeyIdNull →
      SaMove label ctx slot after

/-- A step on an SA -/
structure SaLifecycle (label : Label) (slot : SaSlot) (ctx ctx' : Ctx) : Prop where
  move : SaMove label ctx slot (ctx'.sas slot)
  configured : (ctx'.sas slot).configured = (ctx.sas slot).configured
  role : ctx'.saRoles slot = ctx.saRoles slot
  mode : ctx'.saModes slot = ctx.saModes slot

theorem Ctx.SameAssociations.lifecycle {ctx ctx' : Ctx} (same : ctx.SameAssociations ctx') (label : Label)
    (slot : SaSlot) : SaLifecycle label slot ctx ctx' :=
  ⟨.kept (by rw [same.sas]) (by rw [same.sas]), by rw [same.sas], by rw [same.saRoles], by rw [same.saModes]⟩

/-- A command on one SA leaves the others. -/
theorem SaLifecycle.of_updateSa {label : Label} {slot target : SaSlot} {ctx : Ctx} {f : Sa → Sa}
    (configured : (f (ctx.sas target)).configured = (ctx.sas target).configured)
    (move : SaMove label ctx target (f (ctx.sas target))) :
    SaLifecycle label slot ctx (ctx.updateSa target f) := by
  by_cases here : slot = target
  · subst here
    refine ⟨?_, ?_, rfl, rfl⟩
    · rw [Ctx.updateSa_same]
      exact move
    · rw [Ctx.updateSa_same]
      exact configured
  · refine ⟨?_, ?_, rfl, rfl⟩
    · rw [Ctx.updateSa_other _ _ _ here]
      exact .kept rfl rfl
    · rw [Ctx.updateSa_other _ _ _ here]

theorem Effect.associations {encoded : Bytes} {ctx ctx' : Ctx} {procedure : Procedure} {t : List Item}
    (effect : Effect encoded ctx procedure t ctx') {call : Call}
    (named : call.command = some (procedure, encoded)) (slot : SaSlot) :
    SaLifecycle ⟨call, t, .ok ()⟩ slot ctx ctx' := by
  cases effect with
  | otar => exact (ctx.swapKeys_onlyKeys _).associations.lifecycle _ _
  | keyActivation => exact (ctx.setKeyStates_onlyKeys _ _).associations.lifecycle _ _
  | keyDeactivation => exact (ctx.setKeyStates_onlyKeys _ _).associations.lifecycle _ _
  | @keyVerification _ slots =>
    rw [ctx.commitVerification_eq]
    exact ⟨.kept rfl rfl, rfl, rfl, rfl⟩
  | startSa decoded spi configured stopped allowed =>
    exact .of_updateSa rfl (.started ⟨encoded, named, rfl⟩ stopped rfl rfl allowed.ready)
  | stopSa decoded configured operational =>
    exact .of_updateSa rfl (.stopped ⟨encoded, named, rfl⟩ operational rfl rfl)
  | expireSa decoded configured stopped =>
    exact .of_updateSa rfl (.expired ⟨encoded, named, rfl⟩ stopped rfl rfl)
  | @rekeySa _ command target decoded spi configured expired secured shape usable =>
    obtain ⟨key, same, active, present, _⟩ := usable.active
    have rekeyed : ((ctx.sas target).rekey command.keyId command.rxArsn).configured =
          (ctx.sas target).configured ∧
        ((ctx.sas target).rekey command.keyId command.rxArsn).keySlot = command.keyId := by
      cases command.rxArsn <;> exact ⟨rfl, rfl⟩
    refine .of_updateSa rekeyed.1 (.rekeyed key ⟨encoded, named, rfl⟩ expired rfl ?_ ?_ active present)
    · rw [rekeyed.2, same]
    · rw [same]
      exact usable.session rfl
  | setArsn => exact .of_updateSa rfl (.kept rfl rfl)
  | setArsnWindow => exact .of_updateSa rfl (.kept rfl rfl)
  | selfTestAbsent => exact (ctx.recordSelfTest_sameTables encoded).associations.lifecycle _ _
  | selfTestNotOk => exact (ctx.recordSelfTest_sameTables encoded).associations.lifecycle _ _
  | _ => exact ⟨.kept rfl rfl, rfl, rfl, rfl⟩

theorem SaLifecycle.sameTables {label : Label} {slot : SaSlot} {ctx ctx₁ ctx' : Ctx}
    (lifecycle : SaLifecycle label slot ctx ctx₁) (tables : ctx₁.SameTables ctx') :
    SaLifecycle label slot ctx ctx' := by
  refine ⟨?_, ?_, ?_, ?_⟩
  · exact tables.sas ▸ lifecycle.move
  · exact tables.sas ▸ lifecycle.configured
  · exact tables.saRoles ▸ lifecycle.role
  · exact tables.saModes ▸ lifecycle.mode

theorem Moves.associations {ctx ctx' : Ctx} {label : Label} (moves : Moves ctx label ctx') (slot : SaSlot) :
    SaLifecycle label slot ctx ctx' := by
  cases moves with
  | @protects _ _ _ _ _ key _ _ _ protects =>
    obtain rfl := protects.consumed
    exact ⟨.kept rfl rfl, rfl, rfl, rfl⟩
  | @accepts _ _ _ header target key _ _ accepts =>
    obtain rfl := accepts.committed
    refine SaLifecycle.sameTables ?_ (ctx.acceptFrame_sameTables target header.spi (ivArsn header.iv))
    exact .of_updateSa rfl (.kept rfl rfl)
  | effect named effect tables => exact (effect.associations named slot).sameTables tables
  | refuses tables => exact tables.associations.lifecycle _ _
  | assigns _ tables => exact tables.associations.lifecycle _ _

/-! ## Runs -/

/-- Master keys stay as they are, whatever is called. -/
theorem Run.master_key {start ctx : Ctx} {labels : List Label} (run : Run Step start labels ctx)
    {slot : KeySlot} (master : slot.val < sessionKeyBase) :
    (ctx.keys slot).psaKeyId = (start.keys slot).psaKeyId ∧ (ctx.keys slot).state = (start.keys slot).state := by
  refine @Run.invariant _ _ _ _ _ _ (fun ctx => (ctx.keys slot).psaKeyId = (start.keys slot).psaKeyId ∧
    (ctx.keys slot).state = (start.keys slot).state) ?_ ⟨rfl, rfl⟩ run
  rintro ctx label ctx' ⟨psaKeyId, state⟩ step
  have kept := (step.moves.keys slot).master master
  exact ⟨kept.1.trans psaKeyId, kept.2.trans state⟩

theorem key_lifecycle {start ctx ctx' : Ctx} {labels : List Label} {label : Label}
    (run : Run Step start labels ctx) (step : Step ctx label ctx') :
    (∀ slot : KeySlot, slot.val < sessionKeyBase →
      (ctx'.keys slot).psaKeyId = (start.keys slot).psaKeyId ∧
        (ctx'.keys slot).state = (start.keys slot).state) ∧
    (∀ slot : KeySlot, KeyMove label (ctx.keys slot) (ctx'.keys slot)) ∧
    ∀ spi, label.call.frameSpi = some spi → ∀ item ∈ label.trace, item.UsesActiveKey spi := by
  refine ⟨fun slot master => ?_, fun slot => (step.moves.keys slot).move, fun spi frame => ?_⟩
  · exact Run.master_key (run.append (.single step)) master
  · exact step.frame_usesActiveKey frame

theorem sa_lifecycle {start ctx ctx' : Ctx} {labels : List Label} {label : Label}
    (run : Run Step start labels ctx) (step : Step ctx label ctx') (slot : SaSlot) :
    (ctx'.saRoles slot = start.saRoles slot ∧ ctx'.saModes slot = start.saModes slot ∧
      (ctx'.sas slot).configured = (start.sas slot).configured) ∧
    SaMove label ctx slot (ctx'.sas slot) := by
  refine ⟨?_, (step.moves.associations slot).move⟩
  refine @Run.invariant _ _ _ _ _ _ (fun ctx => ctx.saRoles slot = start.saRoles slot ∧
    ctx.saModes slot = start.saModes slot ∧ (ctx.sas slot).configured = (start.sas slot).configured) ?_
    ⟨rfl, rfl, rfl⟩ (run.append (.single step))
  rintro ctx label ctx' ⟨role, mode, configured⟩ step
  have kept := step.moves.associations slot
  exact ⟨kept.role.trans role, kept.mode.trans mode, kept.configured.trans configured⟩

end ZephyrCcsds.Sdls

namespace ZephyrCcsds.Sdls

section Sample

attribute [local instance] defaultKconfig

/-- The SA of a key is stopped, then the key is deactivated. -/
theorem key_lifecycle_deactivation : ∃ labels ctx label ctx',
    Run Step (init sampleConfiguration) labels ctx ∧ Step ctx label ctx' ∧
      ∀ slot : KeySlot, KeyMove label (ctx.keys slot) (ctx'.keys slot) := by
  obtain ⟨⟨label, ctx'⟩, played⟩ := Option.isSome_iff_exists.mp (show
    ((playCalls (init sampleConfiguration) [(.processPdu [0x1e, 0, 16, 0, 1], [])]).bind fun played =>
      playCall played.2 (.processPdu [0x03, 0, 16, 0, 4],
        [⟨.getKeyAttributes 14, (.success, gcmKey .both)⟩])).isSome = true by decide +kernel)
  obtain ⟨⟨labels, ctx⟩, before, next⟩ := Option.bind_eq_some_iff.mp played
  have run := run_of_playCalls before
  have step := step_of_playCall next
  exact ⟨labels, ctx, label, ctx', run, step, (key_lifecycle run step).2.1⟩

/-- An SA is stopped and started again. -/
theorem sa_lifecycle_restart : ∃ labels ctx label ctx',
    Run Step (init sampleConfiguration) labels ctx ∧ Step ctx label ctx' ∧
      ∀ slot : SaSlot, SaMove label ctx slot (ctx'.sas slot) := by
  obtain ⟨⟨label, ctx'⟩, played⟩ := Option.isSome_iff_exists.mp (show
    ((playCalls (init sampleConfiguration) [(.processPdu [0x1e, 0, 16, 0, 1], [])]).bind fun played =>
      playCall played.2 (.processPdu [0x1b, 0, 16, 0, 1],
        [⟨.getKeyAttributes 14, (.success, gcmKey .decryptOnly)⟩])).isSome = true by decide +kernel)
  obtain ⟨⟨labels, ctx⟩, before, next⟩ := Option.bind_eq_some_iff.mp played
  have run := run_of_playCalls before
  have step := step_of_playCall next
  exact ⟨labels, ctx, label, ctx', run, step, fun slot => (sa_lifecycle run step slot).2⟩

end Sample

end ZephyrCcsds.Sdls
