import ZephyrCcsds.Sdls.Lifecycle

/-! # Keys that associations share

Several Security Associations may refer to one key slot, in any state.  Those that are
Operational with security use it in one direction and one security mode, because Start SA
looks at every configured association of the slot and nothing else makes one Operational.
-/

namespace ZephyrCcsds.Sdls

open Callback

variable [Kconfig]

/-- A configured SA that protects or processes frames with its key -/
structure Ctx.UsesKey (ctx : Ctx) (slot : SaSlot) : Prop where
  configured : (ctx.sas slot).configured = true
  operational : (ctx.sas slot).state = .operational
  secured : ctx.saModes slot ≠ .clear

/-- No two such SAs share a key slot and differ in direction or mode. -/
def Ctx.KeysShared (ctx : Ctx) : Prop :=
  ∀ i j : SaSlot, ctx.UsesKey i → ctx.UsesKey j → (ctx.sas i).keySlot = (ctx.sas j).keySlot →
    (ctx.saRoles i).isTx = (ctx.saRoles j).isTx ∧ ctx.saModes i = ctx.saModes j

/-- What Start SA has made sure of: the SA it starts agrees with every configured SA of the key slot. -/
structure Started (ctx : Ctx) (slot : SaSlot) (ctx' : Ctx) : Prop where
  compatible : ctx.saModes slot ≠ .clear → ctx.keyCompatible slot (ctx.sas slot).keySlot
  others : ∀ i, i ≠ slot → ctx'.sas i = ctx.sas i
  keySlot : (ctx'.sas slot).keySlot = (ctx.sas slot).keySlot

theorem Effect.started {encoded : Bytes} {ctx ctx' : Ctx} {t : List Item}
    (effect : Effect encoded ctx .startSa t ctx') : ∃ slot, Started ctx slot ctx' := by
  cases effect with
  | @startSa _ command slot decoded spi configured stopped allowed =>
    refine ⟨slot, fun secured => ?_, fun i other => Ctx.updateSa_other _ _ _ other, ?_⟩
    · rw [StartAllowed, if_neg secured] at allowed
      exact allowed.compatible
    · rw [Ctx.updateSa_same]
      rfl
  | reported listed => simp at listed

theorem Moves.started {ctx ctx' : Ctx} {label : Label} (moves : Moves ctx label ctx')
    (starts : label.CarriesOut .startSa) : ∃ slot, Started ctx slot ctx' := by
  obtain ⟨encoded, named, ok⟩ := starts
  cases moves with
  | protects => cases named
  | accepts => cases named
  | refuses => cases ok
  | @assigns call f assigned =>
    cases call with
    | processPdu => cases assigned
    | recipient => cases assigned
    | _ => cases named
  | @effect call procedure encoded' t ctx₁ _ named' effect tables =>
    have same : procedure = .startSa := by
      have both := named'.symm.trans named
      simp only [Option.some.injEq, Prod.mk.injEq] at both
      exact both.1
    subst same
    obtain ⟨slot, started⟩ := effect.started
    refine ⟨slot, started.compatible, fun i other => ?_, ?_⟩
    · rw [tables.sas, started.others i other]
    · rw [tables.sas, started.keySlot]

/-- An SA that is in use after a step was in use before it, with the same key, or the step has started it. -/
theorem Moves.usesKey {ctx ctx' : Ctx} {label : Label} (moves : Moves ctx label ctx') {slot : SaSlot}
    (uses : ctx'.UsesKey slot) :
    (ctx'.sas slot).keySlot = (ctx.sas slot).keySlot ∧ (ctx.sas slot).configured = true ∧
      ctx.saModes slot ≠ .clear ∧ (ctx.UsesKey slot ∨ label.CarriesOut .startSa ∧ (ctx.sas slot).state = .stopped) := by
  obtain ⟨configured, operational, secured⟩ := uses
  have lifecycle := moves.associations slot
  rw [lifecycle.configured] at configured
  rw [lifecycle.mode] at secured
  cases lifecycle.move with
  | kept state keySlot => exact ⟨keySlot, configured, secured, .inl ⟨configured, state ▸ operational, secured⟩⟩
  | started carried before _ keySlot => exact ⟨keySlot, configured, secured, .inr ⟨carried, before⟩⟩
  | stopped _ _ state => simp [operational] at state
  | expired _ _ state => simp [operational] at state
  | rekeyed _ _ _ state => simp [operational] at state

/-- The step lemma: whatever a call does, the keys in use stay shared in one way. -/
theorem Moves.keysShared {ctx ctx' : Ctx} {label : Label} (moves : Moves ctx label ctx')
    (shared : ctx.KeysShared) : ctx'.KeysShared := by
  intro i j first second same
  have roles := fun slot => (moves.associations slot).role
  have modes := fun slot => (moves.associations slot).mode
  obtain ⟨keyI, configuredI, securedI, usedI⟩ := moves.usesKey first
  obtain ⟨keyJ, configuredJ, securedJ, usedJ⟩ := moves.usesKey second
  rw [roles, roles, modes, modes]
  rw [keyI, keyJ] at same
  by_cases equal : i = j
  · subst equal
    exact ⟨rfl, rfl⟩
  -- at most one of the two has been started by this step
  rcases usedI with usedI | ⟨carried, stoppedI⟩
  · rcases usedJ with usedJ | ⟨carried, stoppedJ⟩
    · exact shared i j usedI usedJ same
    · obtain ⟨slot, started⟩ := moves.started carried
      have this : j = slot := by
        by_contra other
        have state := second.operational
        rw [started.others j other, stoppedJ] at state
        cases state
      subst this
      obtain ⟨direction, mode⟩ := started.compatible securedJ i equal configuredI same
      exact ⟨direction, mode⟩
  · obtain ⟨slot, started⟩ := moves.started carried
    have this : i = slot := by
      by_contra other
      have state := first.operational
      rw [started.others i other, stoppedI] at state
      cases state
    subst this
    obtain ⟨direction, mode⟩ := started.compatible securedI j (Ne.symm equal) configuredJ same.symm
    exact ⟨direction.symm, mode.symm⟩

/-- In every state that a run reaches, Operational SAs with security share a key slot in one direction and one
mode, if they do at the start. -/
theorem operational_keys_shared {start ctx : Ctx} {labels : List Label} (shared : start.KeysShared)
    (run : Run Step start labels ctx) : ctx.KeysShared :=
  run.invariant (fun _ _ _ shared step => step.moves.keysShared shared) shared

end ZephyrCcsds.Sdls

namespace ZephyrCcsds.Sdls

section Sample

attribute [local instance] defaultKconfig

instance (ctx : Ctx) (slot : SaSlot) : Decidable (ctx.UsesKey slot) :=
  decidable_of_iff ((ctx.sas slot).configured = true ∧ (ctx.sas slot).state = .operational ∧ ctx.saModes slot ≠ .clear)
    ⟨fun ⟨configured, operational, secured⟩ => ⟨configured, operational, secured⟩,
      fun ⟨configured, operational, secured⟩ => ⟨configured, operational, secured⟩⟩

instance (ctx : Ctx) : Decidable ctx.KeysShared := inferInstanceAs (Decidable (∀ _, _))

/-- An SA is stopped and started again. -/
theorem operational_keys_shared_restart : ∃ labels ctx, Run Step (init sampleConfiguration) labels ctx ∧
    labels.length = 2 ∧ ctx.KeysShared := by
  obtain ⟨⟨labels, ctx⟩, played, two⟩ := (Option.any_eq_true _ _).mp (show
    (playCalls (init sampleConfiguration) [(.processPdu [0x1e, 0, 16, 0, 1], []),
      (.processPdu [0x1b, 0, 16, 0, 1], [⟨.getKeyAttributes 14, (.success, gcmKey .decryptOnly)⟩])]).any
      (fun played => decide (played.1.length = 2)) = true by decide +kernel)
  have run := run_of_playCalls played
  exact ⟨labels, ctx, run, of_decide_eq_true two, operational_keys_shared (by decide +kernel) run⟩

end Sample

end ZephyrCcsds.Sdls
