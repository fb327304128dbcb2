import ZephyrCcsds.Runs
import ZephyrCcsds.Tm.Admission
import ZephyrCcsds.Tm.Draining
import ZephyrCcsds.Tm.Receiver

/-! # The packets of a virtual channel

Runs of admissions and generator cycles, and what a receiver of one channel gets out of the frames.

* `Step` — a packet that is admitted, or a cycle that emits a frame.
* `received` — the receiver of a channel after the frames of a run.
* `admitted_packets_are_received` — it has the packets admitted so far, except for what is queued.
-/

namespace ZephyrCcsds.Tm

open Callback Tc

variable [Kconfig] [Sdls.Kconfig] {K : Type} {scheme : Sdls.Aead K} {stored : Sdls.PsaKeyId → K} {s s' : State}
  {vcid : VcId}

/-! ## Frames of a cycle -/

theorem Shows.of_same {s s' : State} {firstHeaderPointer : Nat} {data frame : Bytes}
    (shows : Shows scheme stored s vcid firstHeaderPointer data frame) (sdls : s'.sdls = s.sdls)
    (vcs : s'.vcs = s.vcs) (mcfc : s'.mcfc = s.mcfc) :
    Shows scheme stored s' vcid firstHeaderPointer data frame := by
  have security : s'.security vcid = s.security vcid := by simp only [State.security, sdls, vcs]
  have protection : s'.protection stored vcid = s.protection stored vcid := by
    simp only [State.protection, security]
  have dataLen : s'.dataLen vcid = s.dataLen vcid := by
    unfold State.dataLen State.securityOverhead State.securityEnabled
    rw [security]
  have header := shows.header
  have field := shows.field
  refine ⟨shows.length, ?_, ?_⟩
  · rw [header]
    simp only [buildPrimaryHeader, vcs, mcfc]
  · rw [protection, dataLen]
    exact field

theorem buildPacketTransferFrame_emits (whole : (s.nextField vcid).1.length = s.dataLen vcid) :
    (buildPacketTransferFrame vcid).wp (kernel (scheme.Answers stored))
      (fun _ frame s' => Shows scheme stored (s.filled vcid) vcid (s.nextField vcid).2 (s.nextField vcid).1 frame ∧
        s.SameProtection s')
      (fun _ _ s' => s.SameProtection s') s := by
  have filled := s.filled_sameProtection vcid
  rw [← filled.dataLen vcid] at whole
  apply wp_buildPacketTransferFrame
  · intro _
    apply Fallible.wp_mono (@finishFrame_emits _ _ _ scheme stored (s.filled vcid) vcid (s.nextField vcid).2 _ whole)
    · intro t frame s' emitted
      exact ⟨emitted.1, filled.trans emitted.2.1⟩
    · intro t e s' kept
      exact filled.trans kept.1
  · exact fun _ => filled

theorem generatorCycle_emits (whole : ∀ vcid, (s.vcs vcid).Active → (s.nextField vcid).1.length = s.dataLen vcid) :
    generatorCycle.wp (kernel (scheme.Answers stored))
      (fun _ cycle s' => s.SameProtection s' ∧ ∀ frame, cycle.frame = some frame →
        (cycle.active = false ∧ ∃ vcid data, Shows scheme stored s vcid tmIdleFirstHeaderPointer data frame) ∨
        (cycle.active = true ∧ Shows scheme stored (s.filled cycle.vcid) cycle.vcid (s.nextField cycle.vcid).2
          (s.nextField cycle.vcid).1 frame))
      (fun _ _ _ => False) s := by
  simp only [generatorCycle, generatorSelectActiveVc, Fallible.wp_bind]
  apply wp_selectActiveVc
  · intro t vcid _ active
    simp only [Fallible.wp_bind, Fallible.wp_modify, Fallible.wp_attempt]
    have emits := @buildPacketTransferFrame_emits _ _ K scheme stored
      { s with generatorLastCycleActive := true, generatorLastVcid := vcid } vcid (whole vcid active)
    apply Fallible.wp_mono emits
    · intro u frame s' emitted
      obtain ⟨shows, kept⟩ := emitted
      simp only [emitFrame, Fallible.wp_bind]
      apply wp_routeFrame
      intro _
      refine ⟨⟨kept.sdlsSpi, kept.sdls⟩, ?_⟩
      intro _ same
      cases same
      exact .inr ⟨rfl, shows.of_same rfl rfl rfl⟩
    · intro u e s' kept
      exact ⟨⟨kept.sdlsSpi, kept.sdls⟩, fun _ never => by cases never⟩
  · intro t _
    simp only [Fallible.wp_bind, Fallible.wp_modify, Fallible.wp_attempt, buildIdleTransferFrame, Fallible.wp_read,
      layOut_nil]
    apply Fallible.wp_mono (finishFrame_emits List.length_replicate)
    · intro u frame s' emitted
      obtain ⟨shows, kept, -⟩ := emitted
      simp only [emitFrame, Fallible.wp_bind]
      apply wp_routeFrame
      intro _
      refine ⟨⟨kept.sdlsSpi, kept.sdls⟩, ?_⟩
      intro _ same
      cases same
      exact .inl ⟨rfl, _, _, shows.of_same rfl rfl rfl⟩
    · intro u e s' kept
      exact ⟨⟨kept.1.sdlsSpi, kept.1.sdls⟩, fun _ never => by cases never⟩

/-! ## Runs -/

/-- A packet that has been admitted, or a cycle -/
inductive Event where
  | added (vcid : Nat) (packet : Bytes)
  | cycled (cycle : Cycle)

/-- A successful admission of a packet that is not an idle packet, or a cycle that emits a frame -/
def Step (scheme : Sdls.Aead K) (stored : Sdls.PsaKeyId → K) (s : State) (event : Event) (s' : State) : Prop :=
  match event with
  | .added vcid packet => packetApid packet ≠ tmIdleApid ∧
      ∃ timeout t, (frameAdd vcid packet timeout).run.Runs (kernel (scheme.Answers stored)) s t (.ok ()) s'
  | .cycled cycle => cycle.frame.isSome ∧
      ∃ t, generatorCycle.run.Runs (kernel (scheme.Answers stored)) s t (.ok cycle) s'

/-- The packets admitted for a channel, in order -/
def admitted (vcid : VcId) (events : List Event) : List Bytes :=
  events.filterMap fun event =>
    match event with
    | .added vc packet => if vc = vcid.val then some packet else none
    | .cycled _ => none

/-- The frames emitted, in order -/
def emitted (events : List Event) : List Bytes :=
  events.filterMap fun event =>
    match event with
    | .added _ _ => none
    | .cycled cycle => cycle.frame

/-- The receiver of a channel takes the frames of that channel once their protection has been removed. -/
def Receiver.receive (scheme : Sdls.Aead K) (protection : Protection K) (dataLen : Nat) (vcid : VcId)
    (receiver : Receiver) (frame : Bytes) : Receiver :=
  if frameVcid frame = vcid.val then
    match protection.clearField scheme dataLen frame with
    | some field => receiver.accept (frameFirstHeaderPointer frame) field
    | none => receiver
  else
    receiver

/-- The receiver after the frames of a run from `s` -/
def received (scheme : Sdls.Aead K) (stored : Sdls.PsaKeyId → K) (s : State) (vcid : VcId) (events : List Event) :
    Receiver :=
  (emitted events).foldl (Receiver.receive scheme (s.protection stored vcid) (s.dataLen vcid) vcid)
    { packets := [], tail := [] }

/-- What a receiver does not have of the admitted packets is queued, and of the first of them it has the front that
has left the queue. -/
def Receiver.MissesOnly (receiver : Receiver) (admitted : List Bytes) (queued : Bytes) : Prop :=
  ∃ waiting front, admitted = receiver.packets ++ waiting ∧ waiting.flatten = front ++ queued ∧
    (front = [] ∨ front = receiver.tail) ∧ ∀ packet ∈ waiting.head?, front.length < packet.length

/-- Nothing is queued for any channel. -/
def State.QueuesEmpty (s : State) : Prop := ∀ vcid, SameQueue Vc.init (s.vcs vcid)

/-! ## Agreement along a run -/

variable {receiver : Receiver} {packets waiting : List Bytes} {vc vc' : Vc} {rest packet : Bytes}

theorem Receiver.Follows.start (same : SameQueue Vc.init vc) :
    Receiver.Follows { packets := [], tail := [] } [] vc [] [] := by
  obtain ⟨pending, pendingLen, packetRem⟩ := same
  have none : ∀ P : Bytes → Prop, ∀ packet ∈ ([] : List Bytes), P packet := fun _ _ => (absurd · List.not_mem_nil)
  refine ⟨⟨?_, packetRem, ?_, none _⟩, rfl, fun some => absurd rfl some, by decide, none _⟩
  · unfold Vc.Mirrored
    rw [pendingLen, pending]
    rfl
  · rw [pending]
    rfl

theorem Receiver.Follows.sameQueue (follows : receiver.Follows packets vc rest waiting) (same : SameQueue vc vc') :
    receiver.Follows packets vc' rest waiting := by
  obtain ⟨pending, pendingLen, packetRem⟩ := same
  obtain ⟨mirrored, rem, items, whole⟩ := follows.queued
  refine ⟨⟨?_, packetRem.trans rem, by rw [pending, items], whole⟩, follows.admitted_eq, follows.open_whole,
    follows.incomplete, follows.proper⟩
  unfold Vc.Mirrored
  rw [pendingLen, pending]
  exact mirrored

/-- A packet that fits comes behind the others. -/
theorem Receiver.Follows.add (follows : receiver.Follows packets vc rest waiting)
    (whole : spacePackets.IsPacket packet) (proper : packetApid packet ≠ tmIdleApid)
    (fits : packet.length ≤ vc.pending.free) :
    receiver.Follows (packets ++ [packet]) (vc.accept packet) rest (waiting ++ [packet]) := by
  have items : (vc.accept packet).pending.items = vc.pending.items ++ packet := Fifo.put_items_of_le fits
  have counted : (vc.accept packet).pendingLen = vc.pendingLen + packet.length := by
    simp only [Vc.accept, Fifo.room_of_le fits]
  have mirrored : vc.pendingLen = vc.pending.items.length := follows.queued.mirrored
  refine ⟨⟨?_, follows.queued.packetRem, ?_, ?_⟩, ?_, follows.open_whole, follows.incomplete, ?_⟩
  · unfold Vc.Mirrored
    rw [counted, items, List.length_append, mirrored]
  · rw [items, follows.queued.items]
    simp
  · intro other listed
    rcases List.mem_append.mp listed with earlier | last
    · exact follows.queued.whole other earlier
    · rw [List.mem_singleton.mp last]
      exact whole
  · rw [follows.admitted_eq]
    simp
  · intro other listed
    rcases List.mem_append.mp listed with earlier | last
    · exact follows.proper other earlier
    · rw [List.mem_singleton.mp last]
      exact proper

theorem Receiver.Follows.missesOnly (follows : receiver.Follows packets vc rest waiting) :
    receiver.MissesOnly packets vc.pending.items := by
  have items := follows.queued.items
  by_cases closed : rest = []
  · subst closed
    refine ⟨waiting, [], by simpa [Receiver.opened] using follows.admitted_eq, by rw [items]; simp, .inl rfl, ?_⟩
    intro packet first
    exact (follows.queued.whole packet (List.mem_of_mem_head? first)).pos
  · have some := List.length_pos_iff.mpr closed
    refine ⟨(receiver.tail ++ rest) :: waiting, receiver.tail, ?_, ?_, .inr rfl, ?_⟩
    · rw [follows.admitted_eq, Receiver.opened, if_neg closed]
      rfl
    · rw [items]
      simp
    · intro packet first
      cases first
      rw [List.length_append]
      omega

/-- The pointer of a filled frame fits into its field. -/
theorem State.nextField_pointer_lt (queued : Queued (s.vcs vcid) rest waiting) (bounded : s.dataLen vcid ≤ 2046) :
    (s.nextField vcid).2 < 2048 := by
  obtain ⟨fill, filled, position, fits, -⟩ := Vc.fill_position queued bounded
  have first : fill.firstHeaderPointer < 2048 := by
    cases position with
    | continuing missing octets queued pointer =>
      rw [pointer]
      decide
    | within done front back later split octets header queued pointer =>
      have inside := congrArg List.length octets
      simp only [List.length_append] at inside
      simp only [Fill.used] at fits
      omega
  rw [State.nextField, filled]
  simp only [Fill.finish_snd]
  split
  · omega
  · exact first

/-! ## Steps -/

/-- The protection is that of the start, and every receiver follows its channel. -/
structure InStep (scheme : Sdls.Aead K) (stored : Sdls.PsaKeyId → K) (s₀ : State) (events : List Event) (s : State) :
    Prop where
  protection : s₀.SameProtection s
  follows : ∀ vcid, ∃ rest waiting, (received scheme stored s₀ vcid events).Follows (admitted vcid events) (s.vcs vcid)
    rest waiting

variable {s₀ : State} {events : List Event} {event : Event}

theorem received_added {vc : Nat} :
    received scheme stored s₀ vcid (events ++ [.added vc packet]) = received scheme stored s₀ vcid events := by
  simp [received, emitted]

omit [Kconfig] [Sdls.Kconfig] in
theorem admitted_cycled {cycle : Cycle} : admitted vcid (events ++ [.cycled cycle]) = admitted vcid events := by
  simp [admitted]

theorem received_cycled {cycle : Cycle} {frame : Bytes} (some : cycle.frame = some frame) :
    received scheme stored s₀ vcid (events ++ [.cycled cycle]) =
      (received scheme stored s₀ vcid events).receive scheme (s₀.protection stored vcid) (s₀.dataLen vcid) vcid frame := by
  simp [received, emitted, some]

theorem InStep.added {vc : VcId} (agrees : InStep scheme stored s₀ events s) (whole : spacePackets.IsPacket packet)
    (proper : packetApid packet ≠ tmIdleApid) (fits : packet.length ≤ (s.vcs vc).pending.free) :
    InStep scheme stored s₀ (events ++ [.added vc.val packet]) (s.updateVc vc (·.accept packet)) := by
  constructor
  · apply agrees.protection.trans
    refine ⟨fun other => ?_, sameKeys_option_refl _⟩
    by_cases same : other = vc
    · subst same
      rw [State.updateVc_same]
      rfl
    · rw [State.updateVc_other _ _ _ same]
  · intro vcid
    obtain ⟨rest, waiting, follows⟩ := agrees.follows vcid
    rw [received_added]
    by_cases same : vcid = vc
    · subst same
      have listed : admitted vcid (events ++ [.added vcid.val packet]) = admitted vcid events ++ [packet] := by
        simp [admitted]
      rw [listed, State.updateVc_same]
      exact ⟨rest, waiting ++ [packet], follows.add whole proper fits⟩
    · have other : ¬ vc.val = vcid.val := fun equal => same (Fin.ext equal.symm)
      have listed : admitted vcid (events ++ [.added vc.val packet]) = admitted vcid events := by
        simp [admitted, other]
      rw [listed, State.updateVc_other _ _ _ same]
      exact ⟨rest, waiting, follows⟩

/-- An idle frame tells a receiver nothing. -/
theorem Receiver.receive_idle {shown : VcId} {data frame : Bytes} {protection : Protection K} {dataLen : Nat}
    (shows : Shows scheme stored s shown tmIdleFirstHeaderPointer data frame) :
    receiver.receive scheme protection dataLen vcid frame = receiver := by
  have pointer : frameFirstHeaderPointer frame = tmIdleFirstHeaderPointer :=
    frameFirstHeaderPointer_of_header shows.header
  unfold Receiver.receive
  split
  · split
    · rw [pointer, Receiver.accept, if_pos rfl]
    · rfl
  · rfl

/-- A receiver takes the data field of a frame of its channel. -/
theorem Receiver.receive_own {firstHeaderPointer : Nat} {data frame : Bytes}
    (shows : Shows scheme stored s vcid firstHeaderPointer data frame) (bounded : firstHeaderPointer < 2048) :
    receiver.receive scheme (s.protection stored vcid) (s.dataLen vcid) vcid frame =
      receiver.accept firstHeaderPointer data := by
  have pointer := frameFirstHeaderPointer_of_header shows.header
  rw [Nat.mod_eq_of_lt bounded] at pointer
  rw [Receiver.receive, if_pos (frameVcid_of_header shows.header), shows.field, pointer]

/-- A receiver leaves the frames of the other channels alone. -/
theorem Receiver.receive_other {shown : VcId} {firstHeaderPointer : Nat} {data frame : Bytes}
    {protection : Protection K} {dataLen : Nat}
    (shows : Shows scheme stored s shown firstHeaderPointer data frame) (other : vcid ≠ shown) :
    receiver.receive scheme protection dataLen vcid frame = receiver := by
  have apart : ¬ frameVcid frame = vcid.val := by
    rw [frameVcid_of_header shows.header]
    exact fun equal => other (Fin.ext equal.symm)
  rw [Receiver.receive, if_neg apart]

/-- Every channel can be filled, because its receiver follows it. -/
theorem InStep.fills (agrees : InStep scheme stored s₀ events s)
    (lengths : ∀ vcid, 7 ≤ s₀.dataLen vcid ∧ s₀.dataLen vcid ≤ 2046) (vcid : VcId) (_ : (s.vcs vcid).Active) :
    (s.nextField vcid).1.length = s.dataLen vcid := by
  obtain ⟨rest, waiting, follows⟩ := agrees.follows vcid
  obtain ⟨fill, _, _, filled, fits, _⟩ := follows.accept_frame (lengths vcid).1 (lengths vcid).2
  rw [← agrees.protection.dataLen] at filled fits
  rw [State.nextField, filled]
  exact fill.finish_length fits

theorem InStep.cycled {cycle : Cycle} {frame : Bytes} {t : List Item} (agrees : InStep scheme stored s₀ events s)
    (lengths : ∀ vcid, 7 ≤ s₀.dataLen vcid ∧ s₀.dataLen vcid ≤ 2046) (some : cycle.frame = some frame)
    (runs : generatorCycle.run.Runs (kernel (scheme.Answers stored)) s t (.ok cycle) s') :
    InStep scheme stored s₀ (events ++ [.cycled cycle]) s' := by
  have sameLen : ∀ vcid, s.dataLen vcid = s₀.dataLen vcid := agrees.protection.dataLen
  obtain ⟨protection, shown⟩ := Fallible.ok_of_runs (generatorCycle_emits (agrees.fills lengths)) runs
  have queues := Fallible.ok_of_runs generatorCycle_queues runs
  refine ⟨agrees.protection.trans protection, fun vcid => ?_⟩
  obtain ⟨rest, waiting, follows⟩ := agrees.follows vcid
  rw [admitted_cycled, received_cycled some]
  rcases shown frame some with ⟨idle, shownVc, data, shows⟩ | ⟨active, shows⟩
  -- an idle frame: no receiver takes it, and no queue has moved
  · rw [Receiver.receive_idle shows]
    rcases queues with ⟨-, same⟩ | ⟨active, -⟩
    · exact ⟨rest, waiting, follows.sameQueue (same vcid)⟩
    · rw [idle] at active
      cases active
  · rcases queues with ⟨idle, -⟩ | ⟨-, -, same⟩
    · rw [active] at idle
      cases idle
    · by_cases own : vcid = cycle.vcid
      · subst own
        obtain ⟨long, bounded⟩ := lengths cycle.vcid
        -- a frame of this channel: its fill is what the receiver reads next
        obtain ⟨fill, rest', waiting', filled, -, follows'⟩ := follows.accept_frame long bounded
        rw [← sameLen] at filled bounded follows'
        have field : s.nextField cycle.vcid = fill.finish (s.dataLen cycle.vcid) := by rw [State.nextField, filled]
        have drained : (s.filled cycle.vcid).vcs cycle.vcid = fill.vc := by
          rw [State.filled, State.updateVc_same, filled]
        have before := agrees.protection.trans (s.filled_sameProtection cycle.vcid)
        have taken := @Receiver.receive_own _ _ K scheme stored (s.filled cycle.vcid) cycle.vcid
          (received scheme stored s₀ cycle.vcid events) _ _ _ shows
          (State.nextField_pointer_lt follows.queued bounded)
        rw [before.protection, before.dataLen] at taken
        rw [taken, field]
        have kept := same cycle.vcid
        rw [drained] at kept
        exact ⟨rest', waiting', follows'.sameQueue kept⟩
      -- a frame of another channel
      · rw [Receiver.receive_other shows own]
        have kept := same vcid
        rw [State.filled, State.updateVc_other _ _ _ own] at kept
        exact ⟨rest, waiting, follows.sameQueue kept⟩

theorem InStep.step (agrees : InStep scheme stored s₀ events s)
    (lengths : ∀ vcid, 7 ≤ s₀.dataLen vcid ∧ s₀.dataLen vcid ≤ 2046) (step : Step scheme stored s event s') :
    InStep scheme stored s₀ (events ++ [event]) s' := by
  cases event with
  | added vc packet =>
    obtain ⟨proper, timeout, t, runs⟩ := step
    obtain ⟨shown, checked, -, fits, rfl⟩ := Fallible.ok_of_runs (frameAdd_spec vc packet timeout s) runs
    obtain ⟨rfl, whole⟩ := checkPacket_ok checked
    exact agrees.added whole proper fits
  | cycled cycle =>
    obtain ⟨some, t, runs⟩ := step
    obtain ⟨frame, some⟩ := Option.isSome_iff_exists.mp some
    exact agrees.cycled lengths some runs

/-- A receiver of a channel gets exactly the packets admitted for it, in order, except for what is queued. -/
theorem admitted_packets_are_received (scheme : Sdls.Aead K) (stored : Sdls.PsaKeyId → K) (s s' : State)
    (events : List Event) (empty : s.QueuesEmpty) (lengths : ∀ vcid, 7 ≤ s.dataLen vcid ∧ s.dataLen vcid ≤ 2046)
    (run : Run (Step scheme stored) s events s') (vcid : VcId) :
    (received scheme stored s vcid events).MissesOnly (admitted vcid events) (s'.vcs vcid).pending.items := by
  have start : InStep scheme stored s [] s := ⟨.refl s, fun vcid => ⟨[], [], .start (empty vcid)⟩⟩
  have agrees := Run.invariant_history (fun _ _ _ _ agrees step => InStep.step agrees lengths step) start run
  obtain ⟨rest, waiting, follows⟩ := agrees.follows vcid
  exact follows.missesOnly

end ZephyrCcsds.Tm

namespace ZephyrCcsds.Tm

open Callback Tc

section Sample

attribute [local instance] sampleKconfig Sdls.defaultKconfig

/-- The calls of a cycle on the channel of the samples, in clear -/
def cycleCalls : List Item :=
  [⟨.lock sampleVc .forever, none⟩, ⟨.unlock sampleVc, ()⟩, ⟨.lock sampleVc .forever, none⟩, ⟨.unlock sampleVc, ()⟩]

/-- The same with the encryption of the data field -/
def securedCycleCalls (nonce clear : Bytes) : List Item :=
  [⟨.lock sampleVc .forever, none⟩, ⟨.unlock sampleVc, ()⟩, ⟨.lock sampleVc .forever, none⟩, encryption 0 nonce clear,
    ⟨.unlock sampleVc, ()⟩]

/-- An idle packet of 20 octets -/
def idleTail : Bytes := [0x07, 0xff, 0xc0, 0x00, 0x00, 0x0d] ++ List.replicate 14 0

/-- The long packet crosses the end of the first frame: its last four octets are sent in the second. -/
theorem sampleStream : ∃ first second s₂ s', Run (Step Sdls.sampleScheme Sdls.sampleKeys) securedGenerator
    [.added 0 longPacket, .cycled first] s₂ ∧ (s₂.vcs sampleVc).packetRem = 4 ∧
    Run (Step Sdls.sampleScheme Sdls.sampleKeys) s₂ [.cycled second] s' := by
  have held : ((((frameAdd 0 longPacket .noWait).run securedGenerator).enact serve (addCalls longPacket)).bind fun one =>
      ((generatorCycle.run one.2).enact (serveSecured Sdls.sampleScheme Sdls.sampleKeys)
        (securedCycleCalls (List.replicate 12 0) (longPacket.take 24))).bind fun two =>
      ((generatorCycle.run two.2).enact (serveSecured Sdls.sampleScheme Sdls.sampleKeys)
        (securedCycleCalls secondNonce (longPacket.drop 24 ++ idleTail))).map fun three => (one, two, three)).any
      (fun all => decide (all.1.1 = .ok () ∧ (all.2.1.1.toOption.bind Cycle.frame).isSome ∧
        (all.2.1.2.vcs sampleVc).packetRem = 4 ∧ (all.2.2.1.toOption.bind Cycle.frame).isSome)) = true := by
    decide +kernel
  obtain ⟨⟨⟨added, s₁⟩, ⟨first, s₂⟩, ⟨second, s₃⟩⟩, played, checked⟩ := (Option.any_eq_true _ _).mp held
  obtain ⟨⟨_, _⟩, one, rest⟩ := Option.bind_eq_some_iff.mp played
  obtain ⟨⟨_, _⟩, two, rest⟩ := Option.bind_eq_some_iff.mp rest
  obtain ⟨⟨_, _⟩, three, same⟩ := Option.map_eq_some_iff.mp rest
  cases same
  obtain ⟨succeeded, someFirst, crosses, someSecond⟩ := of_decide_eq_true checked
  have succeeded : added = .ok () := succeeded
  subst succeeded
  have encrypts : ∀ key nonce aad plaintext, Sdls.sampleScheme.Answers Sdls.sampleKeys
      (.aeadEncrypt key nonce aad plaintext)
      (.success, Sdls.sampleScheme.encrypt (Sdls.sampleKeys key) nonce aad plaintext) := fun _ _ _ _ _ => rfl
  cases first with
  | error e => cases someFirst
  | ok first =>
    cases second with
    | error e => cases someSecond
    | ok second =>
      exact ⟨first, second, s₂, s₃,
        .step ⟨by decide, _, _, runs_of_serve one⟩ (.single ⟨someFirst, _, runs_of_serveSecured encrypts two⟩), crosses,
        .single ⟨someSecond, _, runs_of_serveSecured encrypts three⟩⟩

theorem admitted_packets_are_received_sample : ∃ first second s',
    Run (Step Sdls.sampleScheme Sdls.sampleKeys) securedGenerator [.added 0 longPacket, .cycled first, .cycled second]
      s' ∧
    ∀ vcid, (received Sdls.sampleScheme Sdls.sampleKeys securedGenerator vcid
      [.added 0 longPacket, .cycled first, .cycled second]).MissesOnly
        (admitted vcid [.added 0 longPacket, .cycled first, .cycled second]) (s'.vcs vcid).pending.items := by
  obtain ⟨first, second, s₂, s', before, -, after⟩ := sampleStream
  exact ⟨first, second, s', before.append after, admitted_packets_are_received Sdls.sampleScheme Sdls.sampleKeys
    securedGenerator s' _ (fun _ => ⟨rfl, rfl, rfl⟩) (by decide +kernel) (before.append after)⟩

end Sample

end ZephyrCcsds.Tm
