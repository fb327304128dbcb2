import ZephyrCcsds.Sdls.Lifecycle
import ZephyrCcsds.Watermark

/-! # Receive anti-replay

The receive ARSN of an SA as a watermark: `process_security` admits an ARSN above it, Set
ARSN raises it, and only Rekey SA may lower it.
-/

namespace ZephyrCcsds.Sdls

open Callback

variable [Kconfig]

theorem SaSlot.spi_injective {slot other : SaSlot} (same : slot.spi = other.spi) : slot = other := by
  unfold SaSlot.spi at same
  exact Fin.ext (by omega)

/-! ## Observations -/

/-- The ARSN that a call has accepted for an SA -/
def Label.acceptedArsn (label : Label) (slot : SaSlot) : Option UInt32 :=
  match label.call, label.result with
  | .processSecurity _ _ protectedData, .ok _ =>
    if spiField protectedData = slot.spi then some (ivArsn (protectedData.slice 2 ivLen)) else none
  | _, _ => none

/-- The call has rekeyed the SA and set its receive ARSN. -/
def Label.RekeysTo (label : Label) (slot : SaSlot) (rxArsn : UInt32) : Prop :=
  ∃ encoded command, label.call.command = some (.rekeySa, encoded) ∧ label.result = .ok () ∧
    epRekeySaDecode encoded = .ok command ∧ command.spi = slot.spi ∧ command.rxArsn = some rxArsn

theorem Label.acceptedArsn_command {call : Call} {procedure : Procedure} {encoded : Bytes} {t : List Item}
    {result : Except SdlsError Unit} (named : call.command = some (procedure, encoded)) (slot : SaSlot) :
    (⟨call, t, result⟩ : Label).acceptedArsn slot = none := by
  cases call with
  | processSecurity => cases named
  | _ => rfl

theorem Label.acceptedArsn_error (call : Call) (t : List Item) (e : SdlsError) (slot : SaSlot) :
    (⟨call, t, .error e⟩ : Label).acceptedArsn slot = none := by
  cases call <;> rfl

theorem Label.acceptedArsn_assigns {call : Call} {f : Ctx → Ctx} (assigned : call.assigns = some f)
    (t : List Item) (result : Except SdlsError Unit) (slot : SaSlot) :
    (⟨call, t, result⟩ : Label).acceptedArsn slot = none := by
  cases call with
  | processSecurity => cases assigned
  | _ => rfl

/-! ## The receive state of one SA -/

/-- What a step may do to the receive state of an SA -/
inductive ReceiveMove (label : Label) (slot : SaSlot) (before after : Sa) : Prop where
  | kept : label.acceptedArsn slot = none → after.rxArsn = before.rxArsn →
      after.rxArsnInitialized = before.rxArsnInitialized → after.rxWindow = before.rxWindow →
      ReceiveMove label slot before after
  | accepted {arsn : UInt32} : label.acceptedArsn slot = some arsn → before.replayCheck arsn = .ok () →
      after.rxArsn = arsn → after.rxArsnInitialized = true → after.rxWindow = before.rxWindow →
      ReceiveMove label slot before after
  | arsnSet : label.acceptedArsn slot = none →
      (before.rxArsnInitialized = true → before.rxArsn ≤ after.rxArsn) → after.rxArsnInitialized = true →
      after.rxWindow = before.rxWindow → ReceiveMove label slot before after
  | windowSet : label.acceptedArsn slot = none → after.rxArsn = before.rxArsn →
      after.rxArsnInitialized = before.rxArsnInitialized → after.rxWindow ≠ 0 →
      after.rxWindow ≤ arsnWindow → ReceiveMove label slot before after
  | rekeyed {rxArsn : UInt32} : label.acceptedArsn slot = none → label.RekeysTo slot rxArsn →
      after.rxArsn = rxArsn → after.rxArsnInitialized = true → after.rxWindow = before.rxWindow →
      ReceiveMove label slot before after

theorem ReceiveMove.of_sas {label : Label} {slot : SaSlot} {ctx ctx' : Ctx}
    (none : label.acceptedArsn slot = none) (same : ctx'.sas = ctx.sas) :
    ReceiveMove label slot (ctx.sas slot) (ctx'.sas slot) := by
  rw [same]
  exact .kept none rfl rfl rfl

/-- A command on one SA leaves the receive state of the others. -/
theorem ReceiveMove.of_updateSa {label : Label} {slot target : SaSlot} {ctx : Ctx} {f : Sa → Sa}
    (elsewhere : slot ≠ target → label.acceptedArsn slot = none)
    (move : ReceiveMove label target (ctx.sas target) (f (ctx.sas target))) :
    ReceiveMove label slot (ctx.sas slot) ((ctx.updateSa target f).sas slot) := by
  by_cases here : slot = target
  · subst here
    rw [Ctx.updateSa_same]
    exact move
  · rw [Ctx.updateSa_other _ _ _ here]
    exact .kept (elsewhere here) rfl rfl rfl

theorem Effect.receive {encoded : Bytes} {ctx ctx' : Ctx} {procedure : Procedure} {t : List Item}
    (effect : Effect encoded ctx procedure t ctx') {call : Call}
    (named : call.command = some (procedure, encoded)) (slot : SaSlot) :
    ReceiveMove ⟨call, t, .ok ()⟩ slot (ctx.sas slot) (ctx'.sas slot) := by
  have none := @Label.acceptedArsn_command _ call procedure encoded t (.ok ()) named
  cases effect with
  | otar => exact .of_sas (none slot) (ctx.swapKeys_onlyKeys _).associations.sas
  | keyActivation => exact .of_sas (none slot) (ctx.setKeyStates_onlyKeys _ _).associations.sas
  | keyDeactivation => exact .of_sas (none slot) (ctx.setKeyStates_onlyKeys _ _).associations.sas
  | keyVerification => exact .of_sas (none slot) (ctx.updateKeys_onlyKeys _ _).associations.sas
  | startSa => exact .of_updateSa (fun _ => none slot) (.kept (none _) rfl rfl rfl)
  | stopSa => exact .of_updateSa (fun _ => none slot) (.kept (none _) rfl rfl rfl)
  | expireSa => exact .of_updateSa (fun _ => none slot) (.kept (none _) rfl rfl rfl)
  | @rekeySa _ command target decoded same =>
    apply ReceiveMove.of_updateSa (fun _ => none slot)
    cases given : command.rxArsn with
    | none => exact .kept (none _) rfl rfl rfl
    | some rxArsn =>
      exact .rekeyed (none _) ⟨encoded, command, named, rfl, decoded, same.symm, given⟩ rfl rfl rfl
  | setArsn decoded same mutableRx forward =>
    exact .of_updateSa (fun _ => none slot) (.arsnSet (none _) forward rfl rfl)
  | setArsnWindow decoded same mutableRx nonzero bounded =>
    exact .of_updateSa (fun _ => none slot) (.windowSet (none _) rfl rfl nonzero bounded)
  | selfTestAbsent => exact .of_sas (none slot) (ctx.recordSelfTest_sameTables encoded).sas
  | selfTestNotOk => exact .of_sas (none slot) (ctx.recordSelfTest_sameTables encoded).sas
  | _ => exact .of_sas (none slot) rfl

theorem Accepts.receive {ctx ctx' : Ctx} {role : SaRole} {auth : AuthHeader} {protectedData : Bytes}
    {header : SecurityHeader} {target : SaSlot} {key : KeySlot} {t : List Item}
    (accepts : Accepts ctx role protectedData header target key t ctx') (slot : SaSlot) :
    ReceiveMove ⟨.processSecurity role auth protectedData, t, .ok ()⟩ slot (ctx.sas slot) (ctx'.sas slot) := by
  have spi : spiField protectedData = target.spi := by
    rw [← securityHeaderDecode_spi accepts.decoded, (Ctx.saLookup_some accepts.found).1]
  have iv : header.iv = protectedData.slice 2 ivLen := securityHeaderDecode_iv accepts.decoded
  obtain rfl := accepts.committed
  rw [(ctx.acceptFrame_sameTables target header.spi (ivArsn header.iv)).sas]
  apply ReceiveMove.of_updateSa
  · intro other
    rw [Label.acceptedArsn]
    refine if_neg fun same => other (SaSlot.spi_injective ?_)
    rw [← same, spi]
  · refine .accepted ?_ accepts.fresh rfl rfl rfl
    rw [Label.acceptedArsn, iv]
    exact if_pos spi

theorem Moves.receive {ctx ctx' : Ctx} {label : Label} (moves : Moves ctx label ctx') (slot : SaSlot) :
    ReceiveMove label slot (ctx.sas slot) (ctx'.sas slot) := by
  cases moves with
  | protects protects =>
    obtain rfl := protects.consumed
    exact .of_sas rfl rfl
  | accepts accepts => exact accepts.receive slot
  | effect named effect tables => exact tables.sas ▸ effect.receive named slot
  | refuses tables => exact .of_sas (Label.acceptedArsn_error _ _ _ slot) tables.sas
  | assigns assigned tables => exact .of_sas (Label.acceptedArsn_assigns assigned _ _ slot) tables.sas

/-! ## The watermark -/

/-- The receive ARSN as a mark, unset until its first known value -/
def Sa.mark (sa : Sa) : WithBot Nat :=
  if sa.rxArsnInitialized then WithBot.some sa.rxArsn.toNat else ⊥

omit [Kconfig] in
theorem Sa.mark_initialized {sa : Sa} (initialized : sa.rxArsnInitialized = true) :
    sa.mark = WithBot.some sa.rxArsn.toNat := if_pos initialized

omit [Kconfig] in
theorem Sa.replayCheck_ok {sa : Sa} {arsn : UInt32} (fresh : sa.replayCheck arsn = .ok ())
    (initialized : sa.rxArsnInitialized = true) : sa.rxArsn < arsn ∧ arsn - sa.rxArsn ≤ sa.rxWindow := by
  unfold Sa.replayCheck at fresh
  rw [if_pos initialized] at fresh
  split_ifs at fresh with stale gap
  exact ⟨UInt32.not_le.mp stale, UInt32.not_lt.mp gap⟩

theorem receive_watermark (slot : SaSlot) :
    Watermark Step (fun ctx => (ctx.sas slot).mark) (fun label => (label.acceptedArsn slot).map UInt32.toNat)
      fun label a => ∃ rxArsn, label.RekeysTo slot rxArsn ∧ rxArsn.toNat < a where
  keep {ctx ctx' label a} step steady reached := by
    -- A mark that bounds a number from above is set.
    have initialized : (ctx.sas slot).rxArsnInitialized = true := by
      by_contra unknown
      rw [Sa.mark, if_neg unknown] at reached
      exact absurd reached (WithBot.not_coe_le_bot a)
    rw [Sa.mark_initialized initialized] at reached
    have low := WithBot.coe_le_coe.mp reached
    cases step.moves.receive slot with
    | kept _ arsn init _ =>
      rw [Sa.mark_initialized (init.trans initialized), arsn]
      exact reached
    | @accepted arsn _ fresh set init _ =>
      rw [Sa.mark_initialized init, set]
      have above := UInt32.lt_iff_toNat_lt.mp (Sa.replayCheck_ok fresh initialized).1
      exact WithBot.coe_le_coe.mpr (by omega)
    | arsnSet _ forward init _ =>
      rw [Sa.mark_initialized init]
      have above := UInt32.le_iff_toNat_le.mp (forward initialized)
      exact WithBot.coe_le_coe.mpr (by omega)
    | windowSet _ arsn init _ _ =>
      rw [Sa.mark_initialized (init.trans initialized), arsn]
      exact reached
    | @rekeyed rxArsn _ rekeys set init _ =>
      rw [Sa.mark_initialized init, set]
      apply WithBot.coe_le_coe.mpr
      by_contra below
      exact steady ⟨rxArsn, rekeys, not_le.mp below⟩
  above {ctx ctx' label a} step admitted := by
    obtain ⟨arsn, accepted, rfl⟩ := Option.map_eq_some_iff.mp admitted
    cases step.moves.receive slot with
    | @accepted arsn' accepted' fresh _ _ _ =>
      obtain rfl : arsn = arsn' := by simpa [accepted] using accepted'
      by_cases initialized : (ctx.sas slot).rxArsnInitialized = true
      · rw [Sa.mark_initialized initialized]
        exact WithBot.coe_lt_coe.mpr (UInt32.lt_iff_toNat_lt.mp (Sa.replayCheck_ok fresh initialized).1)
      · rw [Sa.mark, if_neg initialized]
        exact WithBot.bot_lt_coe _
    | kept none | arsnSet none | windowSet none | rekeyed none =>
      rw [none] at accepted
      cases accepted
  raise {ctx ctx' label a} step admitted := by
    obtain ⟨arsn, accepted, rfl⟩ := Option.map_eq_some_iff.mp admitted
    cases step.moves.receive slot with
    | @accepted arsn' accepted' _ set init _ =>
      obtain rfl : arsn = arsn' := by simpa [accepted] using accepted'
      rw [Sa.mark_initialized init, set]
    | kept none | arsnSet none | windowSet none | rekeyed none =>
      rw [none] at accepted
      cases accepted

/-! ## Reachable receive states -/

/-- What holds of every SA, whatever has been called -/
structure ReceiveInvariant (sa : Sa) : Prop where
  unknown : sa.rxArsnInitialized = false → sa.rxArsn = 0
  window : sa.configured = true → 1 ≤ sa.rxWindow ∧ sa.rxWindow ≤ arsnWindow

theorem configureSa_receive {ctx : Ctx} (inv : ∀ slot, ReceiveInvariant (ctx.sas slot)) (sa : SaInit)
    (slot : SaSlot) : ReceiveInvariant ((ctx.configureSa sa).sas slot) := by
  unfold Ctx.configureSa
  by_cases here : slot = sa.slot
  · subst here
    simp only [Function.update_self]
    exact ⟨sa.uninitialized_zero, fun _ => ⟨Kconfig.arsnWindow_range.1, UInt32.le_refl _⟩⟩
  · simp only [Function.update_of_ne here]
    exact inv slot

theorem configureKeys_sas (ctx : Ctx) (keys : List KeyInit) :
    (keys.foldl Ctx.configureKey ctx).sas = ctx.sas := by
  induction keys generalizing ctx with
  | nil => rfl
  | cons key keys ih => exact ih (ctx.configureKey key)

theorem init_receive (configuration : Configuration) (slot : SaSlot) :
    ReceiveInvariant ((init configuration).sas slot) := by
  have configured : ∀ (sas : List SaInit) (ctx : Ctx), (∀ slot, ReceiveInvariant (ctx.sas slot)) →
      ∀ slot, ReceiveInvariant ((sas.foldl Ctx.configureSa ctx).sas slot) := by
    intro sas
    induction sas with
    | nil => exact fun ctx inv => inv
    | cons sa sas ih => exact fun ctx inv => ih _ (configureSa_receive inv sa)
  apply configured
  intro slot
  rw [configureKeys_sas]
  exact ⟨fun _ => rfl, fun impossible => by cases impossible⟩

theorem ReceiveMove.invariant {label : Label} {slot : SaSlot} {before after : Sa}
    (move : ReceiveMove label slot before after) (configured : after.configured = before.configured)
    (inv : ReceiveInvariant before) : ReceiveInvariant after := by
  have window : after.rxWindow = before.rxWindow →
      (after.configured = true → 1 ≤ after.rxWindow ∧ after.rxWindow ≤ arsnWindow) := by
    rw [configured]
    intro same
    rw [same]
    exact inv.window
  have known : after.rxArsnInitialized = true → after.rxArsnInitialized = false → after.rxArsn = 0 := by
    intro set unset
    rw [set] at unset
    cases unset
  cases move with
  | kept _ arsn init same => exact ⟨fun unset => arsn.trans (inv.unknown (init.symm.trans unset)), window same⟩
  | accepted _ _ _ set same => exact ⟨known set, window same⟩
  | arsnSet _ _ set same => exact ⟨known set, window same⟩
  | windowSet _ arsn init nonzero bounded =>
    refine ⟨fun unset => arsn.trans (inv.unknown (init.symm.trans unset)), fun _ => ⟨?_, bounded⟩⟩
    rw [UInt32.le_iff_toNat_le]
    exact Nat.one_le_iff_ne_zero.mpr fun zero => nonzero (UInt32.toNat_inj.mp zero)
  | rekeyed _ _ _ set same => exact ⟨known set, window same⟩

theorem receive_invariant {configuration : Configuration} {labels : List Label} {ctx : Ctx}
    (run : Run Step (init configuration) labels ctx) (slot : SaSlot) : ReceiveInvariant (ctx.sas slot) := by
  refine @Run.invariant _ _ _ _ _ _ (fun ctx => ReceiveInvariant (ctx.sas slot)) ?_
    (init_receive configuration slot) run
  intro ctx label ctx' inv step
  exact (step.moves.receive slot).invariant (step.moves.associations slot).configured inv

/-- Only a Rekey lowers the stored ARSN: an unset one is zero. -/
theorem ReceiveMove.arsn_le {label : Label} {slot : SaSlot} {before after : Sa}
    (move : ReceiveMove label slot before after) (inv : ReceiveInvariant before)
    (steady : ∀ rxArsn, ¬label.RekeysTo slot rxArsn) : before.rxArsn ≤ after.rxArsn := by
  have rises : (before.rxArsnInitialized = true → before.rxArsn ≤ after.rxArsn) →
      before.rxArsn ≤ after.rxArsn := by
    intro forward
    by_cases initialized : before.rxArsnInitialized = true
    · exact forward initialized
    · rw [inv.unknown (by simpa using initialized), UInt32.le_iff_toNat_le]
      exact Nat.zero_le _
  cases move with
  | kept _ arsn => exact UInt32.le_of_eq arsn.symm
  | accepted _ fresh set =>
    apply rises
    intro initialized
    rw [set]
    exact UInt32.le_of_lt (Sa.replayCheck_ok fresh initialized).1
  | arsnSet _ forward => exact rises forward
  | windowSet _ arsn => exact UInt32.le_of_eq arsn.symm
  | rekeyed _ rekeys => exact absurd rekeys (steady _)

/-! ## The replay rule over runs -/

theorem accepted_arsns_increase {configuration : Configuration} {labels : List Label} {ctx : Ctx}
    (run : Run Step (init configuration) labels ctx) (slot : SaSlot) :
    (∀ front stretch back, labels = front ++ stretch ++ back →
      (∀ label ∈ stretch, ∀ rxArsn, ¬label.RekeysTo slot rxArsn) →
        (stretch.filterMap (·.acceptedArsn slot)).Pairwise (· < ·)) ∧
    ((ctx.sas slot).configured = true →
      1 ≤ (ctx.sas slot).rxWindow ∧ (ctx.sas slot).rxWindow ≤ arsnWindow) ∧
    ∀ label ctx', Step ctx label ctx' →
      (∀ arsn, label.acceptedArsn slot = some arsn → (ctx.sas slot).rxArsnInitialized = true →
        (ctx.sas slot).rxArsn < arsn ∧ arsn.toNat ≤ (ctx.sas slot).rxArsn.toNat + (ctx.sas slot).rxWindow.toNat) ∧
      ((∀ rxArsn, ¬label.RekeysTo slot rxArsn) → (ctx.sas slot).rxArsn ≤ (ctx'.sas slot).rxArsn) := by
  have inv := receive_invariant run slot
  refine ⟨?_, inv.window, fun label ctx' step => ⟨?_, ?_⟩⟩
  · rintro front stretch back rfl steady
    obtain ⟨_, before, _⟩ := run.split
    obtain ⟨_, _, during⟩ := before.split
    have increasing := (receive_watermark slot).increasing during
      fun label found a ⟨rxArsn, rekeys, _⟩ => steady label found rxArsn rekeys
    rw [← List.map_filterMap, List.pairwise_map] at increasing
    exact increasing.imp UInt32.lt_iff_toNat_lt.mpr
  · intro arsn accepted initialized
    cases step.moves.receive slot with
    | @accepted arsn' accepted' fresh _ _ _ =>
      obtain rfl : arsn = arsn' := by simpa [accepted] using accepted'
      obtain ⟨above, near⟩ := Sa.replayCheck_ok fresh initialized
      refine ⟨above, ?_⟩
      have difference := UInt32.toNat_sub_of_le _ _ (UInt32.le_of_lt above)
      have near := UInt32.le_iff_toNat_le.mp near
      omega
    | kept none | arsnSet none | windowSet none | rekeyed none =>
      rw [none] at accepted
      cases accepted
  · exact (step.moves.receive slot).arsn_le inv

/-- A second acceptance of a frame needs a Rekey that sets the ARSN back below the frame's. -/
theorem no_replay_without_rekey {start final : Ctx} {before middle after : List Label}
    {first second : Label} {slot : SaSlot} {arsn : UInt32}
    (run : Run Step start (before ++ first :: (middle ++ second :: after)) final)
    (accepted : first.acceptedArsn slot = some arsn) (again : second.acceptedArsn slot = some arsn) :
    ∃ label ∈ middle, ∃ rxArsn, label.RekeysTo slot rxArsn ∧ rxArsn < arsn := by
  obtain ⟨ctx₁, _, fromFirst⟩ := run.split
  cases fromFirst with
  | @step _ ctx₂ _ _ _ one rest =>
    obtain ⟨ctx₃, between, fromSecond⟩ := rest.split
    cases fromSecond with
    | step two _ =>
      by_contra never
      refine lt_irrefl arsn.toNat ((receive_watermark slot).admitted_lt one between two ?_ ?_ ?_)
      · rw [accepted]
        rfl
      · rw [again]
        rfl
      · rintro label found ⟨rxArsn, rekeys, below⟩
        exact never ⟨label, found, rxArsn, rekeys, UInt32.lt_iff_toNat_lt.mpr below⟩

end ZephyrCcsds.Sdls

namespace ZephyrCcsds.Sdls

section Sample

attribute [local instance] defaultKconfig

/-- Stop, Expire, Rekey to the same key with ARSN 0, and Start -/
def rekeySample : List ScriptedCall :=
  [(.processPdu [0x1e, 0, 16, 0, 1], []),
    (.processPdu [0x19, 0, 16, 0, 1], []),
    (.processPdu [0x16, 0, 64, 0, 1, 0, 4, 0, 0, 0, 0],
      [⟨.getKeyAttributes 14, (.success, gcmKey .decryptOnly)⟩]),
    (.processPdu [0x1b, 0, 16, 0, 1], [⟨.getKeyAttributes 14, (.success, gcmKey .decryptOnly)⟩])]

/-- The next frame, with ARSN 6 -/
def nextFrame : Bytes := [0, 1, 0, 0, 0, 0, 0, 0, 0, 0, 0, 0, 0, 6, 0xab] ++ List.replicate tagLen 0

def receiveNext : ScriptedCall :=
  (.processSecurity .operationalTcRx noHeader nextFrame,
    [⟨.aeadDecrypt 14 (nextFrame.slice 2 ivLen) ([0, 1] ++ List.replicate ivLen 0 ++ [0xab])
      (List.replicate tagLen 0), (.success, [])⟩])

/-- Two frames are accepted in one stretch, and their ARSNs rise within the window. -/
theorem accepted_arsns_increase_sample : ∃ labels ctx, Run Step (init sampleConfiguration) labels ctx ∧
    labels.filterMap (·.acceptedArsn receiveSlot) = [5, 6] ∧ (5 : UInt32) < 6 ∧
    1 ≤ (ctx.sas receiveSlot).rxWindow ∧ (ctx.sas receiveSlot).rxWindow ≤ arsnWindow := by
  have held : (playCalls (init sampleConfiguration) [receiveSample, receiveNext]).any (fun played =>
      decide (played.1.filterMap (·.acceptedArsn receiveSlot) = [5, 6]) &&
        (played.2.sas receiveSlot).configured) = true := by
    decide +kernel
  obtain ⟨⟨labels, ctx⟩, played, checked⟩ := (Option.any_eq_true _ _).mp held
  obtain ⟨accepted, configured⟩ := (Bool.and_eq_true _ _).mp checked
  have arsns : labels.filterMap (·.acceptedArsn receiveSlot) = [5, 6] := of_decide_eq_true accepted
  have run := run_of_playCalls played
  have calls := playCalls_calls played
  -- Neither call is a command, so that neither rekeys.
  have steady : ∀ label ∈ labels, ∀ rxArsn, ¬label.RekeysTo receiveSlot rxArsn := by
    rintro label mem rxArsn ⟨encoded, command, named, -⟩
    have call : label.call ∈ labels.map (·.call) := List.mem_map_of_mem mem
    rw [calls, List.map_cons, List.map_cons, List.map_nil, List.mem_pair] at call
    rcases call with same | same
    · rw [same] at named
      cases named
    · rw [same] at named
      cases named
  obtain ⟨rises, window, -⟩ := accepted_arsns_increase run receiveSlot
  have order := rises [] labels [] (by simp) steady
  rw [arsns] at order
  obtain ⟨least, most⟩ := window configured
  exact ⟨labels, ctx, run, arsns, List.pairwise_pair.mp order, least, most⟩

def replayedSample : Option ((Label × Ctx) × (List Label × Ctx) × Label × Ctx) :=
  (playCall (init sampleConfiguration) receiveSample).bind fun first =>
    (playCalls first.2 rekeySample).bind fun middle =>
      (playCall middle.2 receiveSample).map fun second => (first, middle, second)

theorem parts_of_replayedSample {first second : Label} {middle : List Label} {ctx₁ ctx₂ ctx₃ : Ctx}
    (played : replayedSample = some ((first, ctx₁), (middle, ctx₂), second, ctx₃)) :
    playCall (init sampleConfiguration) receiveSample = some (first, ctx₁) ∧
      playCalls ctx₁ rekeySample = some (middle, ctx₂) ∧ playCall ctx₂ receiveSample = some (second, ctx₃) := by
  obtain ⟨first', one, rest⟩ := Option.bind_eq_some_iff.mp played
  obtain ⟨middle', between, last⟩ := Option.bind_eq_some_iff.mp rest
  obtain ⟨second', two, same⟩ := Option.map_eq_some_iff.mp last
  cases same
  exact ⟨one, between, two⟩

theorem replayedSample_accepted : (replayedSample.any fun played => decide (played.1.1.result = .ok () ∧
    played.2.2.1.result = .ok () ∧
      ∀ slot : KeySlot, played.2.1.2.keys slot = (init sampleConfiguration).keys slot)) = true := by
  decide +kernel

/-- A frame is accepted, its SA rekeyed to the key it has, and the frame accepted again. -/
theorem frame_replayed_after_rekey : ∃ ctx₁ ctx₂ ctx₃ first middle second,
    Step (init sampleConfiguration) first ctx₁ ∧ Run Step ctx₁ middle ctx₂ ∧ Step ctx₂ second ctx₃ ∧
      first.call = receiveSample.1 ∧ middle.map (·.call) = rekeySample.map (·.1) ∧
      second.call = receiveSample.1 ∧ first.result = .ok () ∧ second.result = .ok () ∧
      ∀ slot : KeySlot, ctx₂.keys slot = (init sampleConfiguration).keys slot := by
  obtain ⟨⟨⟨first, ctx₁⟩, ⟨middle, ctx₂⟩, second, ctx₃⟩, played, checked⟩ :=
    (Option.any_eq_true _ _).mp replayedSample_accepted
  obtain ⟨one, between, two⟩ := parts_of_replayedSample played
  exact ⟨ctx₁, ctx₂, ctx₃, first, middle, second, step_of_playCall one, run_of_playCalls between,
    step_of_playCall two, playCall_call one, playCalls_calls between, playCall_call two, of_decide_eq_true checked⟩

theorem receiveSample_accepted {label : Label} (call : label.call = receiveSample.1)
    (result : label.result = .ok ()) : label.acceptedArsn receiveSlot = some 5 := by
  obtain ⟨_, t, _⟩ := label
  cases call
  cases result
  show (if spiField sampleFrame = SaSlot.spi receiveSlot then
    some (ivArsn (sampleFrame.slice 2 ivLen)) else none) = some 5
  decide +kernel

theorem no_replay_without_rekey_sample : ∃ middle : List Label, ∃ label ∈ middle, ∃ rxArsn : UInt32,
    label.RekeysTo receiveSlot rxArsn ∧ rxArsn < 5 := by
  obtain ⟨⟨⟨first, ctx₁⟩, ⟨middle, ctx₂⟩, second, ctx₃⟩, played, checked⟩ :=
    (Option.any_eq_true _ _).mp replayedSample_accepted
  obtain ⟨result, result', -⟩ := of_decide_eq_true checked
  obtain ⟨one, between, two⟩ := parts_of_replayedSample played
  have run : Run Step (init sampleConfiguration) ([] ++ first :: (middle ++ second :: [])) ctx₃ :=
    .step (step_of_playCall one) ((run_of_playCalls between).append (.single (step_of_playCall two)))
  exact ⟨middle, no_replay_without_rekey run (receiveSample_accepted (playCall_call one) result)
    (receiveSample_accepted (playCall_call two) result')⟩

end Sample

end ZephyrCcsds.Sdls
