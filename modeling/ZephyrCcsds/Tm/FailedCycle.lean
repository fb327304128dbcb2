import ZephyrCcsds.Tm.PacketStream

/-! # Cycles that fail

A cycle drains the queue of its channel into the frame before security is applied, and nothing is
put back when that fails.

* `failed_cycle_keeps_queue_iff` — when a cycle, with or without a frame, leaves the queue as it was.
* `InStep.failed` — then the receivers go on as if there had been no cycle.
-/

namespace ZephyrCcsds.Tm

open Callback Tc

variable [Kconfig] [Sdls.Kconfig] {K : Type} {scheme : Sdls.Aead K} {stored : Sdls.PsaKeyId → K} {s s' : State}
  {cycle : Cycle}

theorem State.dataLen_pos (s : State) (vcid : VcId) : 0 < s.dataLen vcid := by
  have clear := tmFrameLen_clear
  unfold State.dataLen State.securityOverhead
  split
  · rename_i enabled
    unfold State.securityEnabled at enabled
    obtain ⟨⟨ctx, slot⟩, secured⟩ := Option.isSome_iff_exists.mp enabled
    have long := tmFrameLen_secured (State.security_enabled secured).1
    omega
  · omega

/-- The queue holds nothing that the next frame could take: no octet, no room for a header, or no whole header. -/
def State.NothingToTake (s : State) (vcid : VcId) : Prop :=
  (s.vcs vcid).pending.items = [] ∨
    (s.vcs vcid).packetRem = 0 ∧ (s.dataLen vcid < 6 ∨ (s.vcs vcid).pendingLen < 6)

theorem State.filled_sameQueue_iff {vcid : VcId} (active : (s.vcs vcid).Active) :
    SameQueue (s.vcs vcid) ((s.filled vcid).vcs vcid) ↔ s.NothingToTake vcid := by
  rw [State.filled, State.updateVc_same]
  exact Vc.fill_retains_iff active (s.dataLen_pos vcid)

/-- A cycle on an active channel leaves the queue of the channel as it was if and only if there was nothing to take.
Emitting no frame is no exception: then later frames carry what this one would have carried in that case only. -/
theorem failed_cycle_keeps_queue_iff (s s' : State) (t : List Item) (cycle : Cycle)
    (runs : generatorCycle.run.Runs anyKernel s t (.ok cycle) s') (active : cycle.active = true) :
    SameQueue (s.vcs cycle.vcid) (s'.vcs cycle.vcid) ↔ s.NothingToTake cycle.vcid := by
  rcases Fallible.ok_of_runs generatorCycle_queues runs with ⟨idle, -⟩ | ⟨-, pending, same⟩
  · rw [active] at idle
    cases idle
  · rw [← State.filled_sameQueue_iff pending]
    have after := same cycle.vcid
    constructor
    · intro kept
      exact ⟨after.pending.symm.trans kept.pending, after.pendingLen.symm.trans kept.pendingLen,
        after.packetRem.symm.trans kept.packetRem⟩
    · intro kept
      exact kept.trans after

/-- Failed cycles with nothing to take do not disturb the receivers. -/
theorem InStep.failed {s₀ : State} {events : List Event} {t : List Item} (agrees : InStep scheme stored s₀ events s)
    (lengths : ∀ vcid, 7 ≤ s₀.dataLen vcid ∧ s₀.dataLen vcid ≤ 2046)
    (runs : generatorCycle.run.Runs (kernel (scheme.Answers stored)) s t (.ok cycle) s')
    (nothing : cycle.active = true → s.NothingToTake cycle.vcid) : InStep scheme stored s₀ events s' := by
  obtain ⟨protection, -⟩ := Fallible.ok_of_runs (generatorCycle_emits (agrees.fills lengths)) runs
  refine ⟨agrees.protection.trans protection, fun vcid => ?_⟩
  obtain ⟨rest, waiting, follows⟩ := agrees.follows vcid
  refine ⟨rest, waiting, follows.sameQueue ?_⟩
  rcases Fallible.ok_of_runs generatorCycle_queues runs with ⟨-, same⟩ | ⟨active, pending, same⟩
  · exact same vcid
  · by_cases own : vcid = cycle.vcid
    · subst own
      exact ((State.filled_sameQueue_iff pending).mpr (nothing active)).trans (same cycle.vcid)
    · have kept := same vcid
      rw [State.filled, State.updateVc_other _ _ _ own] at kept
      exact kept

end ZephyrCcsds.Tm

namespace ZephyrCcsds.Tm

open Callback Tc

section Sample

attribute [local instance] sampleKconfig Sdls.defaultKconfig

/-- A context whose SA for telemetry is stopped -/
def stoppedCtx : Sdls.Ctx :=
  (Sdls.init Sdls.sampleConfiguration).updateSa Sdls.transmitSlot fun sa => { sa with state := .stopped }

/-- The channel is protected by it and has the small packet in its queue. -/
def stoppedState : State :=
  ((init fun _ => none).setSdls stoppedCtx Sdls.transmitSlot).updateVc sampleVc fun vc =>
    { vc with pending := { items := smallPacket, bounded := by decide }, pendingLen := 7 }

theorem stoppedState_fails : ∃ s', generatorCycle.run.Runs anyKernel stoppedState cycleCalls
    (.ok { active := true, vcid := sampleVc, frame := none }) s' ∧ (s'.vcs sampleVc).pendingLen = 0 := by
  have held : ((generatorCycle.run stoppedState).enact serve cycleCalls).any (fun played =>
      decide (played.1 = .ok { active := true, vcid := sampleVc, frame := none } ∧ (played.2.vcs sampleVc).pendingLen = 0)) = true := by
    decide +kernel
  obtain ⟨⟨result, s'⟩, played, checked⟩ := (Option.any_eq_true _ _).mp held
  obtain ⟨failed, counted⟩ := of_decide_eq_true checked
  have failed : result = .ok { active := true, vcid := sampleVc, frame := none } := failed
  subst failed
  exact ⟨s', runs_of_serve played, counted⟩

theorem failed_cycle_keeps_queue_iff_sample : ∃ s', generatorCycle.run.Runs anyKernel stoppedState cycleCalls
    (.ok { active := true, vcid := sampleVc, frame := none }) s' ∧
      (SameQueue (stoppedState.vcs sampleVc) (s'.vcs sampleVc) ↔ stoppedState.NothingToTake sampleVc) := by
  obtain ⟨s', runs, -⟩ := stoppedState_fails
  exact ⟨s', runs, failed_cycle_keeps_queue_iff stoppedState s' cycleCalls _ runs rfl⟩

/-- The packet has left the queue, and no frame carries it. -/
theorem failed_cycle_loses_packet : ¬ ∀ (s s' : State) (t : List Item) (cycle : Cycle),
    generatorCycle.run.Runs anyKernel s t (.ok cycle) s' → cycle.active = true → cycle.frame = none →
      SameQueue (s.vcs cycle.vcid) (s'.vcs cycle.vcid) := by
  intro claim
  obtain ⟨s', runs, counted⟩ := stoppedState_fails
  have kept := (claim stoppedState s' cycleCalls _ runs rfl rfl).pendingLen
  rw [counted] at kept
  revert kept
  decide

end Sample

end ZephyrCcsds.Tm
