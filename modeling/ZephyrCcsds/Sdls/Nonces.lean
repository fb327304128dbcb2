import ZephyrCcsds.Sdls.Lifecycle
import ZephyrCcsds.Weyl

/-! # Nonces of released ciphertexts

The sender IV walks through a Weyl sequence: `apply_security` takes one value before it
calls PSA, a verification takes one for each of its entries when it has them all.  Of the
values that are taken no two are the same, whatever OTAR does to the counters of the keys.
-/

namespace ZephyrCcsds.Sdls

open Callback

/-! ## The sender IV -/

/-- The number of sender IV values -/
def ivModulus : Nat := 2 ^ 64

theorem ivStride_coprime : Nat.Coprime ivModulus ivStride.toNat := by
  rw [ivModulus]
  apply Nat.Coprime.pow_left
  decide

/-- The sender IV field of a nonce -/
def senderIv (nonce : Bytes) : Nat := Bytes.getBe (nonce.take 8)

theorem senderIv_constructIv (iv : UInt64) (arsn : UInt32) : senderIv (constructIv iv arsn) = iv.toNat := by
  have first : (constructIv iv arsn).take 8 = Bytes.putBe 8 iv.toNat := by
    unfold constructIv
    rw [List.take_append_of_le_length (by simp), List.take_of_length_le (by simp)]
  rw [senderIv, first, Bytes.getBe_putBe]
  exact Nat.mod_eq_of_lt (by have := iv.toNat_lt; omega)

theorem addStride_toNat (iv : UInt64) :
    (iv + ivStride).toNat = weyl ivModulus ivStride.toNat iv.toNat 1 := by
  rw [weyl, Nat.one_mul, UInt64.toNat_add]
  rfl

theorem advanceIv_toNat (n : Nat) (iv : UInt64) :
    (advanceIv n iv).toNat = weyl ivModulus ivStride.toNat iv.toNat n := by
  induction n generalizing iv with
  | zero => rw [weyl_zero (by have := iv.toNat_lt; rw [ivModulus]; omega)]; rfl
  | succ n ih =>
    rw [advanceIv, Function.iterate_succ_apply, ← advanceIv, ih, addStride_toNat, weyl_shift, Nat.add_comm]

/-! ## What a call takes -/

variable [Kconfig]

def Call.procedure (call : Call) : Option Procedure := call.command.map (·.1)

/-- The keys and nonces of the ciphertexts that a call gives to its caller -/
def Label.released (label : Label) : List (PsaKeyId × Bytes) :=
  match label.result with
  | .ok _ =>
    if label.call.isProtection ∨ label.call.procedure = some .keyVerification then
      label.trace.filterMap Item.encrypted
    else
      []
  | .error _ => []

/-- The keys and nonces for which a call has taken a sender IV value -/
def Label.consumed (label : Label) : List (PsaKeyId × Bytes) :=
  if label.call.isProtection then label.trace.filterMap Item.encrypted else label.released

theorem Label.released_sublist (label : Label) : label.released.Sublist label.consumed := by
  unfold Label.consumed
  split_ifs with protection
  · unfold Label.released
    split
    · rw [if_pos (.inl protection)]
    · exact List.nil_sublist _
  · exact List.Sublist.refl _

theorem released_sublist (labels : List Label) :
    (labels.flatMap Label.released).Sublist (labels.flatMap Label.consumed) := by
  induction labels with
  | nil => exact List.Sublist.refl _
  | cons label labels ih =>
    rw [List.flatMap_cons, List.flatMap_cons]
    exact label.released_sublist.append ih

/-- A step takes the values that follow in the sequence, and leaves the sender IV after them. -/
structure Consumes (label : Label) (ctx ctx' : Ctx) : Prop where
  ivs : label.consumed.map (fun used => senderIv used.2) =
    (List.range label.consumed.length).map (weyl ivModulus ivStride.toNat ctx.txIv.toNat)
  txIv : ctx'.txIv = advanceIv label.consumed.length ctx.txIv

theorem Consumes.nothing {label : Label} {ctx ctx' : Ctx} (none : label.consumed = [])
    (same : ctx'.txIv = ctx.txIv) : Consumes label ctx ctx' := by
  refine ⟨?_, ?_⟩
  · rw [none]
    rfl
  · rw [none]
    exact same

theorem verificationIvs_senderIv (ctx : Ctx) (slots : List KeySlot) (iv : UInt64) :
    (ctx.verificationIvs slots iv).map (fun used => senderIv used.2) =
      (List.range slots.length).map (weyl ivModulus ivStride.toNat iv.toNat) := by
  induction slots generalizing iv with
  | nil => rfl
  | cons slot slots ih =>
    rw [Ctx.verificationIvs, List.map_cons, ih, List.length_cons, List.range_succ_eq_map, List.map_cons,
      List.map_map, senderIv_constructIv, weyl_zero (by have := iv.toNat_lt; rw [ivModulus]; omega)]
    refine congrArg (_ :: ·) (List.map_congr_left fun i _ => ?_)
    rw [Function.comp_apply, Nat.succ_eq_one_add, ← weyl_shift, addStride_toNat]

theorem verificationIvs_length (ctx : Ctx) (slots : List KeySlot) (iv : UInt64) :
    (ctx.verificationIvs slots iv).length = slots.length := by
  induction slots generalizing iv with
  | nil => rfl
  | cons slot slots ih => rw [Ctx.verificationIvs, List.length_cons, List.length_cons, ih]

theorem Label.consumed_command {call : Call} {procedure : Procedure} {encoded : Bytes} {t : List Item}
    (named : call.command = some (procedure, encoded)) (other : procedure ≠ .keyVerification) :
    (⟨call, t, .ok ()⟩ : Label).consumed = [] := by
  have unprotected := Call.not_protection named
  simp [Label.consumed, Label.released, Call.procedure, named, unprotected, other]

theorem Effect.consumes {encoded : Bytes} {ctx ctx' : Ctx} {procedure : Procedure} {t : List Item}
    (effect : Effect encoded ctx procedure t ctx') {call : Call}
    (named : call.command = some (procedure, encoded)) : Consumes ⟨call, t, .ok ()⟩ ctx ctx' := by
  have nothing := @Label.consumed_command _ call procedure encoded t named
  cases effect with
  | @keyVerification _ slots _ used =>
    have consumed : (⟨call, t, .ok ()⟩ : Label).consumed = ctx.verificationIvs slots ctx.txIv := by
      simp [Label.consumed, Label.released, Call.procedure, named, Call.not_protection named, used]
    refine ⟨?_, ?_⟩
    · rw [consumed, verificationIvs_length]
      exact verificationIvs_senderIv ctx slots ctx.txIv
    · rw [consumed, verificationIvs_length]
      rfl
  | otar => exact .nothing (nothing (by decide)) (ctx.swapKeys_onlyKeys _).txIv
  | keyActivation => exact .nothing (nothing (by decide)) (ctx.setKeyStates_onlyKeys _ _).txIv
  | keyDeactivation => exact .nothing (nothing (by decide)) (ctx.setKeyStates_onlyKeys _ _).txIv
  | selfTestAbsent => exact .nothing (nothing (by decide)) (ctx.recordSelfTest_sameTables encoded).txIv
  | selfTestNotOk => exact .nothing (nothing (by decide)) (ctx.recordSelfTest_sameTables encoded).txIv
  | @reported _ _ listed =>
    refine .nothing (nothing fun verification => ?_) rfl
    rw [verification] at listed
    simp at listed
  | _ => exact .nothing (nothing (by decide)) rfl

theorem Moves.consumes {ctx ctx' : Ctx} {label : Label} (moves : Moves ctx label ctx') :
    Consumes label ctx ctx' := by
  cases moves with
  | @protects _ _ _ _ _ key _ _ _ protects =>
    obtain ⟨aad, plaintext, answer, rfl⟩ := protects.called
    obtain rfl := protects.consumed
    refine ⟨?_, rfl⟩
    show [senderIv (ctx.nextIv key)] = [weyl ivModulus ivStride.toNat ctx.txIv.toNat 0]
    rw [Ctx.nextIv, senderIv_constructIv, weyl_zero (by have := ctx.txIv.toNat_lt; rw [ivModulus]; omega)]
  | accepts accepts =>
    obtain rfl := accepts.committed
    exact .nothing rfl rfl
  | effect named effect tables =>
    obtain ⟨ivs, txIv⟩ := effect.consumes named
    exact ⟨ivs, tables.txIv.trans txIv⟩
  | @refuses call t error _ tables protection =>
    refine .nothing ?_ tables.txIv
    unfold Label.consumed
    split_ifs with protecting
    · rw [protection protecting]
      rfl
    · rfl
  | @assigns call f assigned tables =>
    refine .nothing ?_ tables.txIv
    simp [Label.consumed, Label.released]

/-! ## Runs -/

/-- The values taken in a run are the first ones of the sequence. -/
theorem Run.consumes {start ctx : Ctx} {labels : List Label} (run : Run Step start labels ctx) :
    (labels.flatMap Label.consumed).map (fun used => senderIv used.2) =
      (List.range (labels.flatMap Label.consumed).length).map
        (weyl ivModulus ivStride.toNat start.txIv.toNat) := by
  induction run with
  | done => rfl
  | @step s s₁ s₂ label labels one rest ih =>
    obtain ⟨ivs, txIv⟩ := one.moves.consumes
    rw [List.flatMap_cons, List.map_append, List.length_append, ivs, ih, txIv, List.range_add,
      List.map_append, List.map_map]
    refine congrArg (_ ++ ·) (List.map_congr_left fun i _ => ?_)
    rw [Function.comp_apply, advanceIv_toNat, weyl_shift]

theorem nonces_distinct {configuration : Configuration} {labels : List Label} {ctx : Ctx}
    (run : Run Step (init configuration) labels ctx)
    (bounded : (labels.flatMap Label.consumed).length < 2 ^ 64) :
    (labels.flatMap Label.released).Nodup := by
  have distinct : (labels.flatMap Label.consumed).Nodup := by
    apply List.Nodup.of_map (fun used => senderIv used.2)
    rw [Run.consumes run]
    exact weyl_nodup ivStride_coprime (le_of_lt bounded)
  exact List.Nodup.sublist (released_sublist labels) distinct

end ZephyrCcsds.Sdls

namespace ZephyrCcsds.Sdls

section Sample

attribute [local instance] defaultKconfig

/-- The protection of one octet with SPI 2, under a sender IV and an ARSN -/
def protectSample (iv : UInt64) (arsn : UInt32) (status : PsaStatus) : ScriptedCall :=
  (.applySecurity .operationalTmTx transmitSlot noHeader (.apart [0xab]) 0,
    [⟨.aeadEncrypt 15 (constructIv iv arsn) ([0, 2] ++ List.replicate ivLen 0) [0xab],
      (status, List.replicate (1 + tagLen) 0)⟩])

/-- Two frames are released, with one between them that PSA does not encrypt. -/
theorem nonces_distinct_sample : ∃ labels ctx, Run Step (init sampleConfiguration) labels ctx ∧
    (labels.flatMap Label.released).length = 2 ∧ (labels.flatMap Label.released).Nodup := by
  have held : ((playCalls (init sampleConfiguration) [protectSample ivSeed 0 .success,
      protectSample (ivSeed + ivStride) 1 .failure,
      protectSample (ivSeed + ivStride + ivStride) 2 .success]).any fun played =>
        decide ((played.1.flatMap Label.consumed).length < 2 ^ 64 ∧
          (played.1.flatMap Label.released).length = 2)) = true := by
    decide +kernel
  obtain ⟨⟨labels, ctx⟩, played, checked⟩ := (Option.any_eq_true _ _).mp held
  obtain ⟨bounded, two⟩ := of_decide_eq_true checked
  have run := run_of_playCalls played
  exact ⟨labels, ctx, run, two, nonces_distinct run bounded⟩

end Sample

end ZephyrCcsds.Sdls
