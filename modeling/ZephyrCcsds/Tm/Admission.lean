import ZephyrCcsds.Callback.Script
import ZephyrCcsds.Tm.PacketFill
import ZephyrCcsds.Tm.Kernel

/-! # Admission of packets

What `ccsds_tm_frame_add` puts into a queue, whichever way it ends.  A packet is written octet by
octet as there is room, and what has been written is not taken back: a call that times out in the
middle of a packet leaves its front in the queue.

* `Vc.accept` — as much of a packet as there is room for.
* `frameAdd_spec` — the two ways a call ends.
* `failed_add_keeps_queue_iff` — when a failed call leaves the queue as it was.
-/

namespace ZephyrCcsds.Tm

open Callback Tc

variable [Kconfig] [Sdls.Kconfig]

/-- The channel with as much of the packet as there is room for -/
def Vc.accept (vc : Vc) (packet : Bytes) : Vc :=
  { vc with pending := vc.pending.put packet, pendingLen := vc.pendingLen + vc.pending.room packet }

variable {psa : (op : Sdls.PsaOp) → Sdls.PsaRes op → Prop} {s : State} {vcid : VcId} {timeout : Timeout}
  {packet : Bytes}

/-! ## Writing -/

theorem State.pipePut_of_full (full : (s.vcs vcid).pending.free = 0) : s.pipePut vcid packet = s := by
  have same : (fun vc : Vc => { vc with pending := vc.pending.put packet }) (s.vcs vcid) = s.vcs vcid := by
    simp only [Fifo.put_of_full full]
  unfold State.pipePut State.updateVc
  rw [same, Function.update_eq_self]

/-- Nothing can be written to a full pipe. -/
theorem writePacket_full {fuel : Nat} (some : packet ≠ []) (full : (s.vcs vcid).pending.free = 0) :
    (writePacket vcid timeout (fuel + 1) packet).wp (kernel psa) (fun _ _ _ => False)
      (fun _ _ s' => timeout ≠ .forever ∧ s' = s) s := by
  simp only [writePacket, some, if_false, Fallible.wp_bind]
  rw [wp_pipeWrite]
  intro answer written
  have length := List.length_pos_iff.mpr some
  rw [full, PipeWritten, if_neg (by omega), if_pos rfl] at written
  obtain ⟨bounded, rfl⟩ := written
  simp only [Except.mapError, State.pipePut_of_full full]
  rw [Fallible.wp_ofExcept_error]
  exact ⟨bounded, rfl⟩

/-- The pipe and its counter after one write -/
theorem State.pipePut_count {written : Nat} (count : (s.vcs vcid).pending.room packet = written) :
    (s.pipePut vcid packet).updateVc vcid (fun vc => { vc with pendingLen := vc.pendingLen + written }) =
      s.updateVc vcid (·.accept packet) := by
  rw [State.pipePut, State.updateVc_updateVc]
  unfold State.updateVc
  congr 2
  rw [← count]
  rfl

theorem writePacket_spec (some : packet ≠ []) :
    (writePacket vcid timeout packet.length packet).wp (kernel psa)
      (fun _ _ s' => packet.length ≤ (s.vcs vcid).pending.free ∧ s' = s.updateVc vcid (·.accept packet))
      (fun _ _ s' => (s.vcs vcid).pending.free < packet.length ∧ timeout ≠ .forever ∧
        s' = s.updateVc vcid (·.accept packet)) s := by
  have length := List.length_pos_iff.mpr some
  obtain ⟨fuel, fuelled⟩ : ∃ fuel, packet.length = fuel + 1 := ⟨packet.length - 1, by omega⟩
  by_cases full : (s.vcs vcid).pending.free = 0
  · have untouched : s.updateVc vcid (·.accept packet) = s := by
      rw [← State.pipePut_count (s := s) rfl, State.pipePut_of_full full]
      have same : (fun vc : Vc => { vc with pendingLen := vc.pendingLen + (s.vcs vcid).pending.room packet }) (s.vcs vcid) =
          s.vcs vcid := by simp [Fifo.room, full]
      unfold State.updateVc
      rw [same, Function.update_eq_self]
    rw [fuelled, untouched]
    apply Fallible.wp_mono (writePacket_full some full)
    · exact fun _ _ _ never => never.elim
    · intro t e s' ended
      exact ⟨by omega, ended⟩
  · rw [fuelled]
    simp only [writePacket, some, if_false, Fallible.wp_bind]
    rw [wp_pipeWrite]
    intro answer written
    by_cases fits : packet.length ≤ (s.vcs vcid).pending.free
    · rw [PipeWritten, if_pos fits] at written
      subst written
      have nonzero : ¬ packet.length = 0 := by omega
      have counted := @State.pipePut_count _ _ s vcid packet packet.length (Fifo.room_of_le fits)
      have finished : packet.drop packet.length = [] := List.drop_length
      simp only [Except.mapError]
      rw [Fallible.wp_ofExcept_ok]
      simp only [Fallible.wp_failIf, nonzero, Fallible.wp_modify, counted, finished]
      refine ⟨fun never => never.elim, fun _ => ?_⟩
      cases fuel with
      | zero => exact ⟨by omega, rfl⟩
      | succ fuel => exact ⟨by omega, rfl⟩
    · rw [PipeWritten, if_neg fits, if_neg full] at written
      obtain ⟨bounded, rfl⟩ := written
      have room : (s.vcs vcid).pending.room packet = (s.vcs vcid).pending.free := by
        simp only [Fifo.room]
        omega
      have counted := State.pipePut_count room
      have missing : packet.drop (s.vcs vcid).pending.free ≠ [] := by
        intro nothing
        have gone := congrArg List.length nothing
        rw [List.length_drop, List.length_nil] at gone
        omega
      -- The pipe is full now, so that the next turn times out.
      have filled : ((s.updateVc vcid (·.accept packet)).vcs vcid).pending.free = 0 := by
        rw [State.updateVc_same]
        show ((s.vcs vcid).pending.put packet).free = 0
        rw [Fifo.free_put, room, Nat.sub_self]
      obtain ⟨turns, more⟩ : ∃ turns, fuel = turns + 1 := ⟨fuel - 1, by omega⟩
      subst more
      simp only [Except.mapError]
      rw [Fallible.wp_ofExcept_ok]
      simp only [Fallible.wp_failIf, full, Fallible.wp_modify, counted]
      refine ⟨fun never => never.elim, fun _ => ?_⟩
      apply Fallible.wp_mono (writePacket_full missing filled)
      · exact fun _ _ _ never => never.elim
      · intro t e s' ended
        exact ⟨by omega, bounded, ended.2⟩

/-! ## The call -/

omit [Sdls.Kconfig] in
theorem checkPacket_ok {vcid : Nat} {vc : VcId} (checked : checkPacket vcid packet = .ok vc) :
    vc.val = vcid ∧ spacePackets.IsPacket packet := by
  unfold checkPacket at checked
  split_ifs at checked with short wrong _ _ bound
  cases checked
  have short : ¬ packet.length < 7 := short
  refine ⟨rfl, ?_, not_not.mp wrong⟩
  rw [spacePackets_header]
  omega

omit [Sdls.Kconfig] in
theorem checkPacket_nonempty {vcid : Nat} {vc : VcId} (checked : checkPacket vcid packet = .ok vc) : packet ≠ [] :=
  List.length_pos_iff.mp (checkPacket_ok checked).2.pos

/-- The lock of a channel, which is asked for first, was not obtained. -/
def Refused (t : List Item) (vcid : VcId) (timeout : Timeout) : Prop :=
  ∃ e, t.head? = some ⟨.lock vcid timeout, some e⟩

/-- A call succeeds with the whole packet in the queue.  It fails before it has written anything, or when the
queue is full. -/
theorem frameAdd_spec (vcid : Nat) (packet : Bytes) (timeout : Timeout) (s : State) :
    (frameAdd vcid packet timeout).wp (kernel psa)
      (fun t _ s' => ∃ vc, checkPacket vcid packet = .ok vc ∧ ¬ Refused t vc timeout ∧
        packet.length ≤ (s.vcs vc).pending.free ∧ s' = s.updateVc vc (·.accept packet))
      (fun t _ s' => (s' = s ∧ ∀ vc, checkPacket vcid packet = .ok vc → Refused t vc timeout) ∨
        ∃ vc, checkPacket vcid packet = .ok vc ∧ ¬ Refused t vc timeout ∧ (s.vcs vc).pending.free < packet.length ∧
          s' = s.updateVc vc (·.accept packet)) s := by
  cases checked : checkPacket vcid packet with
  | error e =>
    simp only [frameAdd, Fallible.wp_bind, checked, Except.mapError]
    rw [Fallible.wp_ofExcept_error]
    refine .inl ⟨rfl, ?_⟩
    intro vc other
    cases other
  | ok vc =>
    simp only [frameAdd, Fallible.wp_bind, checked, Except.mapError]
    rw [Fallible.wp_ofExcept_ok, wp_lock]
    intro answer _
    cases answer with
    | some e =>
      refine .inl ⟨rfl, ?_⟩
      rintro _ ⟨⟩
      exact ⟨e, rfl⟩
    | none =>
      have obtained : ∀ t : List Item, ¬ Refused (⟨.lock vc timeout, none⟩ :: t) vc timeout := by
        rintro t ⟨e, refused⟩
        cases refused
      simp only [Fallible.wp_bind, Fallible.wp_attempt]
      apply Fallible.wp_mono (writePacket_spec (checkPacket_nonempty checked))
      · rintro t _ s' ⟨fits, put⟩
        rw [wp_unlock]
        exact ⟨vc, rfl, obtained _, fits, put⟩
      · rintro t e s' ⟨full, -, put⟩
        rw [wp_unlock]
        exact .inr ⟨vc, rfl, obtained _, full, put⟩

/-! ## Failed calls -/

/-- The octets queued for every channel, and their number, are as before. -/
def State.KeepsQueues (s s' : State) : Prop :=
  ∀ vc, (s'.vcs vc).pending = (s.vcs vc).pending ∧ (s'.vcs vc).pendingLen = (s.vcs vc).pendingLen

theorem State.not_keepsQueues {vc : VcId} (some : packet ≠ []) (free : (s.vcs vc).pending.free ≠ 0) :
    ¬ s.KeepsQueues (s.updateVc vc (·.accept packet)) := by
  intro keeps
  have counted := (keeps vc).2
  have length := List.length_pos_iff.mpr some
  rw [State.updateVc_same] at counted
  simp only [Vc.accept, Fifo.room] at counted
  omega

/-- A failed call leaves the queues as they were if and only if it failed before it wrote anything: for every
channel that the packet is admissible for, the lock was refused, or the packet fits, or nothing does. -/
theorem failed_add_keeps_queue_iff (vcid : Nat) (packet : Bytes) (timeout : Timeout) (s s' : State) (t : List Item)
    (result : Except Failure Unit) (runs : (frameAdd vcid packet timeout).run.Runs anyKernel s t result s') :
    ((∃ e, result = .error e) → s.KeepsQueues s') ↔
      ∀ vc, checkPacket vcid packet = .ok vc → Refused t vc timeout ∨
        packet.length ≤ (s.vcs vc).pending.free ∨ (s.vcs vc).pending.free = 0 := by
  have spec := @frameAdd_spec _ _ (fun _ _ => True) vcid packet timeout s
  cases result with
  | ok _ =>
    obtain ⟨vc, checked, _, fits, _⟩ := Fallible.ok_of_runs spec runs
    constructor
    · rintro _ vc' checked'
      rw [checked] at checked'
      cases checked'
      exact .inr (.inl fits)
    · rintro _ ⟨e, failed⟩
      cases failed
  | error e =>
    rcases Fallible.error_of_runs spec runs with ⟨rfl, refused⟩ | ⟨vc, checked, obtained, full, rfl⟩
    · constructor
      · intro _ vc checked
        exact .inl (refused vc checked)
      · intro _ _ vc
        exact ⟨rfl, rfl⟩
    · have nonempty := checkPacket_nonempty checked
      constructor
      · intro keeps vc' checked'
        rw [checked] at checked'
        cases checked'
        by_cases free : (s.vcs vc).pending.free = 0
        · exact .inr (.inr free)
        -- some room, but less than the packet: the octets that fit stay behind
        · exact absurd (keeps ⟨e, rfl⟩) (State.not_keepsQueues nonempty free)
      · intro condition _ other
        rcases condition vc checked with refused | fits | free
        · exact absurd refused obtained
        · omega
        · by_cases same : other = vc
          · subst same
            rw [State.updateVc_same]
            refine ⟨Fifo.put_of_full free, ?_⟩
            simp only [Vc.accept, Fifo.room]
            omega
          · rw [State.updateVc_other _ _ _ same]
            exact ⟨rfl, rfl⟩

end ZephyrCcsds.Tm

namespace ZephyrCcsds.Tm

open Callback Tc

section Sample

attribute [local instance] sampleKconfig Sdls.defaultKconfig

/-- The channel of the samples -/
def sampleVc : VcId := ⟨0, by decide⟩

/-- A Space Packet of seven octets -/
def smallPacket : Bytes := [0x00, 0x05, 0xc0, 0x00, 0x00, 0x00, 0xaa]

/-- A Space Packet of 28 octets -/
def longPacket : Bytes := [0x00, 0x06, 0xc0, 0x00, 0x00, 0x15] ++ List.replicate 22 0xbb

/-- The calls of an admission for which there is room -/
def addCalls (packet : Bytes) : List Item :=
  [⟨.lock sampleVc .noWait, none⟩, ⟨.pipeWrite sampleVc packet .noWait, .ok packet.length⟩, ⟨.unlock sampleVc, ()⟩]

/-- A generator that protects all channels under SPI 2, with data fields of 24 octets -/
def securedGenerator : State := (init fun _ => none).setSdls (Sdls.init Sdls.sampleConfiguration) Sdls.transmitSlot

/-- The encryption of a data field of a channel -/
def encryption (vcid : UInt8) (nonce clear : Bytes) : Item :=
  ⟨.psa (.aeadEncrypt 15 nonce ([0x07, 0xb0 + 2 * vcid, 0, 0, 0, 0, 0, 2] ++ List.replicate 12 0) clear),
    (.success, Sdls.sampleMask clear ++ Sdls.sampleTag)⟩

/-- The second nonce of that generator -/
def secondNonce : Bytes := [0x9e, 0x37, 0x79, 0xb9, 0x7f, 0x4a, 0x7c, 0x15, 0, 0, 0, 1]

/-- The channel with the long packet in its queue, so that four octets are free -/
def nearlyFull : State :=
  (init fun _ => none).updateVc sampleVc fun vc =>
    { vc with pending := { items := longPacket, bounded := by decide }, pendingLen := 28 }

/-- The calls of an admission that times out after four octets -/
def timedOut : List Item :=
  [⟨.lock sampleVc .noWait, none⟩, ⟨.pipeWrite sampleVc smallPacket .noWait, .ok 4⟩,
    ⟨.pipeWrite sampleVc (smallPacket.drop 4) .noWait, .error .eagain⟩, ⟨.unlock sampleVc, ()⟩]

theorem nearlyFull_timedOut : ∃ s', (frameAdd 0 smallPacket .noWait).run.Runs anyKernel nearlyFull timedOut
    (.error (.errno .eagain)) s' ∧ (s'.vcs sampleVc).pendingLen = 32 := by
  have held : (((frameAdd 0 smallPacket .noWait).run nearlyFull).enact serve timedOut).any (fun played =>
      decide (played.1 = .error (.errno .eagain) ∧ (played.2.vcs sampleVc).pendingLen = 32)) = true := by
    decide +kernel
  obtain ⟨⟨result, s'⟩, played, checked⟩ := (Option.any_eq_true _ _).mp held
  obtain ⟨failed, counted⟩ := of_decide_eq_true checked
  have failed : result = .error (.errno .eagain) := failed
  subst failed
  exact ⟨s', runs_of_serve played, counted⟩

theorem failed_add_keeps_queue_iff_sample : ∃ s',
    (frameAdd 0 smallPacket .noWait).run.Runs anyKernel nearlyFull timedOut (.error (.errno .eagain)) s' ∧
      (((∃ e, (Except.error (.errno .eagain) : Except Failure Unit) = .error e) → nearlyFull.KeepsQueues s') ↔
        ∀ vc, checkPacket 0 smallPacket = .ok vc → Refused timedOut vc .noWait ∨
          smallPacket.length ≤ (nearlyFull.vcs vc).pending.free ∨ (nearlyFull.vcs vc).pending.free = 0) := by
  obtain ⟨s', runs, -⟩ := nearlyFull_timedOut
  exact ⟨s', runs, failed_add_keeps_queue_iff 0 smallPacket .noWait nearlyFull s' timedOut _ runs⟩

/-- Four octets of the packet stay in the queue although the call fails. -/
theorem failed_add_leaves_fragment : ¬ ∀ (vcid : Nat) (packet : Bytes) (timeout : Timeout) (s s' : State)
    (t : List Item) (e : Failure), (frameAdd vcid packet timeout).run.Runs anyKernel s t (.error e) s' →
      s.KeepsQueues s' := by
  intro claim
  obtain ⟨s', runs, counted⟩ := nearlyFull_timedOut
  have kept := (claim 0 smallPacket .noWait nearlyFull s' timedOut _ runs sampleVc).2
  rw [counted] at kept
  revert kept
  decide

end Sample

end ZephyrCcsds.Tm
