import ZephyrCcsds.Tm.Emission

/-! # What a cycle takes from a queue

The filling loop on any queue, and what a generator cycle does to the queues of all channels.

* `Vc.Drains` — octets only leave the front of a queue.
* `Vc.fill_retains_iff` — when the loop takes nothing at all.
* `generatorCycle_queues` — a cycle fills from the channel that it selects and from no other.
-/

namespace ZephyrCcsds.Tm

open Callback Tc

variable [Kconfig] [Sdls.Kconfig]

/-- Octets leave the front of the queue, and the protection stays. -/
structure Vc.Drains (vc vc' : Vc) : Prop where
  items : vc'.pending.items <:+ vc.pending.items
  sdlsSpi : vc'.sdlsSpi = vc.sdlsSpi

theorem Vc.Drains.refl (vc : Vc) : vc.Drains vc := ⟨List.suffix_rfl, rfl⟩

theorem Vc.Drains.trans {vc vc' vc'' : Vc} (first : vc.Drains vc') (second : vc'.Drains vc'') : vc.Drains vc'' :=
  ⟨second.items.trans first.items, second.sdlsSpi.trans first.sdlsSpi⟩

theorem Vc.Drains.length_le {vc vc' : Vc} (drains : vc.Drains vc') :
    vc'.pending.items.length ≤ vc.pending.items.length := drains.items.length_le

/-! ## Reading -/

variable {vc : Vc} {fill : Fill} {fuel missing len dataLen : Nat} {buf : Bytes}

omit [Sdls.Kconfig] in
theorem kPipeRead_ok {pipe pipe' : Pipe} {octets : Bytes} (read : kPipeRead pipe len = .ok (octets, pipe')) :
    pipe.items ≠ [] ∧ octets = pipe.items.take len ∧ pipe'.items = pipe.items.drop len := by
  unfold kPipeRead at read
  split_ifs at read with empty
  cases read
  exact ⟨empty, rfl, rfl⟩

theorem Vc.readPendingFrom_drains : vc.Drains (Vc.readPendingFrom fuel missing buf vc).1 := by
  induction fuel generalizing missing buf vc with
  | zero => exact .refl vc
  | succ fuel ih =>
    unfold Vc.readPendingFrom
    split
    · exact .refl vc
    · split
      · exact .refl vc
      · rename_i read taken
        split
        · exact .refl vc
        · obtain ⟨-, -, left⟩ := kPipeRead_ok taken
          have first : vc.Drains { vc with pending := read.2, pendingLen := vc.pendingLen - read.1.length } := by
            refine ⟨?_, rfl⟩
            rw [left]
            exact List.drop_suffix ..
          exact first.trans ih

theorem Vc.readPendingBytes_drains : vc.Drains (vc.readPendingBytes len).1 := Vc.readPendingFrom_drains

/-- Reading from a queue that holds something takes something, even if it fails later on. -/
theorem Vc.readPendingBytes_shrinks (asked : 0 < len) (some : vc.pending.items ≠ []) :
    (vc.readPendingBytes len).1.pending.items.length < vc.pending.items.length := by
  obtain ⟨fuel, rfl⟩ : ∃ fuel, len = fuel + 1 := ⟨len - 1, by omega⟩
  have length := List.length_pos_iff.mpr some
  have taken : ¬ (vc.pending.items.take (fuel + 1)).length = 0 := by
    rw [List.length_take]
    omega
  simp only [Vc.readPendingBytes, Vc.readPendingFrom, Nat.succ_ne_zero, if_false, kPipeRead, some, Fifo.get_fst, taken]
  refine Nat.lt_of_le_of_lt Vc.readPendingFrom_drains.length_le ?_
  show (vc.pending.items.drop (fuel + 1)).length < _
  rw [List.length_drop]
  omega

/-- Reading from an empty queue fails and changes nothing. -/
theorem Vc.readPendingBytes_empty (asked : 0 < len) (none : vc.pending.items = []) :
    vc.readPendingBytes len = (vc, .error .eagain) := by
  obtain ⟨fuel, rfl⟩ : ∃ fuel, len = fuel + 1 := ⟨len - 1, by omega⟩
  simp only [Vc.readPendingBytes, Vc.readPendingFrom, Nat.succ_ne_zero, if_false, kPipeRead, none, if_true]

/-! ## The loop -/

theorem Fill.continuePacket_vc (fill : Fill) (space : Nat) : ∃ packetRem, (fill.continuePacket space).1.vc =
    { (fill.vc.readPendingBytes (min fill.vc.packetRem space)).1 with packetRem } := by
  simp only [Fill.continuePacket]
  generalize fill.vc.readPendingBytes (min fill.vc.packetRem space) = read
  obtain ⟨vc, result⟩ := read
  cases result with
  | error e => exact ⟨vc.packetRem, rfl⟩
  | ok octets => exact ⟨_, rfl⟩

theorem Fill.startPacket_vc (fill : Fill) (header : 6 ≤ fill.vc.pendingLen) : ∃ packetRem, fill.startPacket.1.vc =
    { (fill.vc.readPendingBytes 6).1 with packetRem } := by
  have enough : ¬ fill.vc.pendingLen < 6 := Nat.not_lt.mpr header
  simp only [Fill.startPacket, spacePacketPrimaryHdrLen, enough, if_false]
  generalize fill.vc.readPendingBytes 6 = read
  obtain ⟨vc, result⟩ := read
  cases result with
  | error e => exact ⟨vc.packetRem, rfl⟩
  | ok octets => exact ⟨_, rfl⟩

theorem Fill.startPacket_short (fill : Fill) (short : fill.vc.pendingLen < 6) :
    fill.startPacket = (fill, .error .eio) := if_pos short

theorem Fill.turn_drains (fill : Fill) (dataLen : Nat) : fill.vc.Drains (fill.turn dataLen).1.vc := by
  have read : ∀ len packetRem, fill.vc.Drains { (fill.vc.readPendingBytes len).1 with packetRem } :=
    fun len _ => ⟨Vc.readPendingBytes_drains.items, (@Vc.readPendingBytes_drains _ _ fill.vc len).sdlsSpi⟩
  unfold Fill.turn
  split
  · obtain ⟨packetRem, after⟩ := fill.continuePacket_vc (dataLen - fill.used)
    rw [after]
    exact read _ _
  · by_cases short : fill.vc.pendingLen < 6
    · rw [fill.startPacket_short short]
      exact .refl _
    · obtain ⟨packetRem, after⟩ := fill.startPacket_vc (Nat.not_lt.mp short)
      rw [after]
      exact read _ _

theorem Fill.loop_drains : fill.vc.Drains (Fill.loop dataLen fuel fill).1.vc := by
  induction fuel generalizing fill with
  | zero => exact .refl _
  | succ fuel ih =>
    have turned := fill.turn_drains dataLen
    unfold Fill.loop
    split
    · split
      · rename_i after e turn
        rw [turn] at turned
        exact turned
      · rename_i after turn
        rw [turn] at turned
        exact turned.trans ih
    · exact .refl _

theorem Vc.fill_drains (vc : Vc) (dataLen : Nat) : vc.Drains (vc.fill dataLen).1.vc := by
  have looped := @Fill.loop_drains _ _ ⟨vc, [], tmNoFirstHeaderPointer⟩ dataLen dataLen
  exact looped

/-- The first turn on a queue that holds a header, or the rest of a packet, takes something. -/
theorem Fill.turn_shrinks (more : fill.More dataLen) (some : fill.vc.pending.items ≠ [])
    (header : fill.vc.packetRem = 0 → 6 ≤ fill.vc.pendingLen) :
    (fill.turn dataLen).1.vc.pending.items.length < fill.vc.pending.items.length := by
  have space := more.1
  unfold Fill.turn
  split
  · rename_i opened
    obtain ⟨packetRem, after⟩ := fill.continuePacket_vc (dataLen - fill.used)
    rw [after]
    exact Vc.readPendingBytes_shrinks (by omega) some
  · rename_i closed
    obtain ⟨packetRem, after⟩ := fill.startPacket_vc (header (by omega))
    rw [after]
    exact Vc.readPendingBytes_shrinks (by omega) some

/-- The first turn fails where there is nothing to take, or no whole header. -/
theorem Fill.turn_refused (more : fill.More dataLen)
    (nothing : fill.vc.pending.items = [] ∨ fill.vc.packetRem = 0 ∧ fill.vc.pendingLen < 6) :
    ∃ e, (fill.turn dataLen).2 = .error e ∧ (fill.turn dataLen).1.vc = fill.vc := by
  have space := more.1
  by_cases opened : 0 < fill.vc.packetRem
  · have empty : fill.vc.pending.items = [] := nothing.resolve_right fun closed => by omega
    rw [Fill.turn, if_pos opened]
    simp only [Fill.continuePacket]
    rw [Vc.readPendingBytes_empty (by omega) empty]
    exact ⟨_, rfl, rfl⟩
  · rw [Fill.turn, if_neg opened]
    by_cases short : fill.vc.pendingLen < 6
    · rw [fill.startPacket_short short]
      exact ⟨_, rfl, rfl⟩
    · have empty : fill.vc.pending.items = [] := nothing.resolve_right fun closed => short closed.2
      have enough : ¬ fill.vc.pendingLen < spacePacketPrimaryHdrLen := short
      simp only [Fill.startPacket, enough, if_false]
      rw [Vc.readPendingBytes_empty (by decide) empty]
      exact ⟨_, rfl, rfl⟩

/-- A channel that is selected keeps its queue only if the loop finds nothing to take. -/
theorem Vc.fill_retains_iff (active : 0 < vc.pendingLen ∨ 0 < vc.packetRem) (room : 0 < dataLen) :
    SameQueue vc (vc.fill dataLen).1.vc ↔
      vc.pending.items = [] ∨ vc.packetRem = 0 ∧ (dataLen < 6 ∨ vc.pendingLen < 6) := by
  obtain ⟨fuel, rfl⟩ : ∃ fuel, dataLen = fuel + 1 := ⟨dataLen - 1, by omega⟩
  unfold Vc.fill Fill.loop
  by_cases more : Fill.More { vc, data := [], firstHeaderPointer := tmNoFirstHeaderPointer } (fuel + 1)
  · have wide : vc.packetRem = 0 → 6 ≤ fuel + 1 := fun closed => Nat.not_lt.mp fun short => more.2.2 ⟨closed, short⟩
    rw [if_pos more]
    by_cases nothing : vc.pending.items = [] ∨ vc.packetRem = 0 ∧ vc.pendingLen < 6
    · obtain ⟨e, failed, same⟩ := Fill.turn_refused more nothing
      generalize Fill.turn _ (fuel + 1) = turned at failed same
      obtain ⟨after, result⟩ := turned
      have failed : result = .error e := failed
      have same : after.vc = vc := same
      subst failed
      constructor
      · intro _
        rcases nothing with empty | ⟨closed, short⟩
        · exact .inl empty
        · exact .inr ⟨closed, .inr short⟩
      · intro _
        show SameQueue vc after.vc
        rw [same]
        exact .refl vc
    · have some : vc.pending.items ≠ [] := fun empty => nothing (.inl empty)
      have header : vc.packetRem = 0 → 6 ≤ vc.pendingLen :=
        fun closed => Nat.not_lt.mp fun short => nothing (.inr ⟨closed, short⟩)
      have shrinks := Fill.turn_shrinks more some header
      generalize Fill.turn _ (fuel + 1) = turned at shrinks
      obtain ⟨after, result⟩ := turned
      have shrinks : after.vc.pending.items.length < vc.pending.items.length := shrinks
      have fewer : ∀ vc', after.vc.Drains vc' → ¬ SameQueue vc vc' := by
        intro vc' drains same
        have shorter := drains.length_le
        rw [same.pending] at shorter
        omega
      have lost : ¬ (vc.pending.items = [] ∨ vc.packetRem = 0 ∧ (fuel + 1 < 6 ∨ vc.pendingLen < 6)) := by
        rintro (empty | ⟨closed, short | short⟩)
        · exact some empty
        · have := wide closed
          omega
        · have := header closed
          omega
      cases result with
      | error e => exact iff_of_false (fewer _ (.refl _)) lost
      | ok _ => exact iff_of_false (fewer _ Fill.loop_drains) lost
  · rw [if_neg more]
    have closed : vc.packetRem = 0 ∧ fuel + 1 < 6 := by
      by_contra other
      exact more ⟨Nat.succ_pos _, Or.symm active, other⟩
    exact iff_of_true (.refl vc) (.inr ⟨closed.1, .inl closed.2⟩)

/-! ## A cycle -/

variable {psa : (op : Sdls.PsaOp) → Sdls.PsaRes op → Prop} {s : State} {vcid : VcId} {frame : Bytes}

theorem State.SameQueues.refl (s : State) : s.SameQueues s := fun _ => .refl _

theorem State.SameQueues.of_vcs {s s' : State} (same : s'.vcs = s.vcs) : s.SameQueues s' := by
  intro vcid
  rw [same]
  exact .refl _

theorem State.SameQueues.trans {s s' s'' : State} (first : s.SameQueues s') (second : s'.SameQueues s'') :
    s.SameQueues s'' := fun vcid => (first vcid).trans (second vcid)

/-- SDLS does not see the channels. -/
theorem applySecurity_vcs : (applySecurity vcid frame).wp (kernel psa)
    (fun _ _ s' => s'.vcs = s.vcs) (fun _ _ s' => s'.vcs = s.vcs) s := by
  simp only [applySecurity, Fallible.wp_bind, Fallible.wp_read]
  cases s.security vcid with
  | none => exact rfl
  | some pair =>
    obtain ⟨ctx, slot⟩ := pair
    simp only [Fallible.wp_bind, Fallible.wp_attempt, wp_embedSdls, Fallible.wp_ofExcept]
    apply Fallible.wp_iff_runs.mpr
    constructor
    · intro _ _ _ _
      exact ⟨fun _ _ => rfl, fun _ _ => rfl⟩
    · intro _ _ _ _
      exact ⟨fun _ _ => rfl, fun _ _ => rfl⟩

/-- Finishing a frame leaves all queues alone, whether it succeeds or not. -/
theorem finishFrame_queues : (finishFrame vcid frame).wp (kernel psa)
    (fun _ _ s' => s.SameQueues s') (fun _ _ s' => s.SameQueues s') s := by
  simp only [finishFrame, Fallible.wp_bind, Fallible.wp_read]
  apply Fallible.wp_mono applySecurity_vcs
  · intro t frame s₁ same
    apply Fallible.wp_mono appendOcf_writes
    · intro u frame' s₂ written
      obtain ⟨rfl, -⟩ := written
      have counted := s₂.completeOcf.incrementFrameCounters_sameQueues vcid
      exact State.SameQueues.trans (.of_vcs same) counted
    · intro u e s₂ never
      exact never.elim
  · intro t e s₁ same
    exact .of_vcs same

/-- The state once the loop has drained a channel -/
def State.filled (s : State) (vcid : VcId) : State :=
  s.updateVc vcid fun vc => (vc.fill (s.dataLen vcid)).1.vc

theorem State.filled_sameProtection (s : State) (vcid : VcId) : s.SameProtection (s.filled vcid) := by
  refine ⟨fun other => ?_, sameKeys_option_refl _⟩
  by_cases same : other = vcid
  · subst same
    rw [State.filled, State.updateVc_same]
    exact (Vc.fill_drains _ _).sdlsSpi
  · rw [State.filled, State.updateVc_other _ _ _ same]

/-- The data field and the First Header Pointer that a channel fills next -/
def State.nextField (s : State) (vcid : VcId) : Bytes × Nat :=
  ((s.vcs vcid).fill (s.dataLen vcid)).1.finish (s.dataLen vcid)

/-- The builder fills a frame under the lock of the channel, and finishes it unless the queue fails it. -/
theorem wp_buildPacketTransferFrame {Q : List Item → Bytes → State → Prop} {F : List Item → Failure → State → Prop}
    (built : ((s.vcs vcid).fill (s.dataLen vcid)).2 = .ok () →
      (finishFrame vcid (layOut (s.filled vcid) vcid (s.nextField vcid).2 (s.nextField vcid).1)).wp (kernel psa)
        (fun t frame s' => Q (⟨.lock vcid .forever, none⟩ :: (t ++ [⟨.unlock vcid, ()⟩])) frame s')
        (fun t e s' => F (⟨.lock vcid .forever, none⟩ :: (t ++ [⟨.unlock vcid, ()⟩])) e s') (s.filled vcid))
    (failed : ∀ e, F [⟨.lock vcid .forever, none⟩, ⟨.unlock vcid, ()⟩] e (s.filled vcid)) :
    (buildPacketTransferFrame vcid).wp (kernel psa) Q F s := by
  simp only [buildPacketTransferFrame, formatPacketFrame, Fallible.wp_bind, wp_lockForever, Fallible.wp_attempt,
    Fallible.wp_read, Fallible.wp_modify, wp_unlock]
  rw [Fallible.wp_ofExcept]
  constructor
  · intro _ filled
    have filled : ((s.vcs vcid).fill (s.dataLen vcid)).2 = .ok () := by
      cases result : ((s.vcs vcid).fill (s.dataLen vcid)).2 with
      | ok _ => rfl
      | error e =>
        rw [result] at filled
        cases filled
    apply Fallible.wp_mono (built filled)
    · intro t frame s' reached
      rw [Fallible.wp_ofExcept_ok]
      simpa using reached
    · intro t e s' reached
      rw [Fallible.wp_ofExcept_error]
      simpa using reached
  · intro e _
    rw [Fallible.wp_ofExcept_error]
    exact failed e

theorem buildPacketTransferFrame_queues : (buildPacketTransferFrame vcid).wp (kernel psa)
    (fun _ _ s' => (s.filled vcid).SameQueues s') (fun _ _ s' => (s.filled vcid).SameQueues s') s :=
  wp_buildPacketTransferFrame (fun _ => finishFrame_queues) fun _ => .refl _

/-- An active cycle drains the channel that it selects; an idle one drains nothing. -/
theorem generatorCycle_queues : generatorCycle.wp (kernel psa)
    (fun _ cycle s' => (cycle.active = false ∧ s.SameQueues s') ∨
      (cycle.active = true ∧ (s.vcs cycle.vcid).Active ∧ (s.filled cycle.vcid).SameQueues s'))
    (fun _ _ _ => False) s := by
  simp only [generatorCycle, generatorSelectActiveVc, Fallible.wp_bind]
  apply wp_selectActiveVc
  · intro t vcid _ active
    simp only [Fallible.wp_bind, Fallible.wp_modify, Fallible.wp_attempt]
    apply Fallible.wp_mono buildPacketTransferFrame_queues
    · intro u frame s' same
      simp only [emitFrame, Fallible.wp_bind]
      apply wp_routeFrame
      intro _
      exact .inr ⟨rfl, active, same⟩
    · intro u e s' same
      exact .inr ⟨rfl, active, same⟩
  · intro t _
    simp only [Fallible.wp_bind, Fallible.wp_modify, Fallible.wp_attempt, buildIdleTransferFrame, Fallible.wp_read]
    apply Fallible.wp_mono finishFrame_queues
    · intro u frame s' same
      simp only [emitFrame, Fallible.wp_bind]
      apply wp_routeFrame
      intro _
      exact .inl ⟨rfl, same⟩
    · intro u e s' same
      exact .inl ⟨rfl, same⟩

end ZephyrCcsds.Tm
