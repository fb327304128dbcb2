import ZephyrCcsds.Tm.FrameCounters
import ZephyrCcsds.Tm.PacketStream

/-! # A receiver that loses frames

Frames of the downlink may be lost.  A receiver notices a loss by the virtual channel frame count, drops the
packet it has open, and goes on where the next First Header Pointer says that a packet starts.

**Main results:**

- `Resync.Hears`: what a frame that arrives brings, compared with a receiver that has had every frame.
- `lossy_downlink`: the packets delivered are admitted packets in their order, and after a loss at most the packet
  that it has cut is missing.
-/

namespace ZephyrCcsds.Tm

open Callback Tc

variable [Kconfig] [Sdls.Kconfig]

/-! ## The receiver -/

/-- The packets received so far, the front of an open one (`none` while the receiver waits for a packet to start),
and the frame count that is due -/
structure Resync where
  packets : List Bytes
  tail : Option Bytes
  next : UInt8
  deriving DecidableEq

/-- The open packet, unless frames are missing before the one with this count -/
def Resync.open (resync : Resync) (count : UInt8) : Option Bytes :=
  if count = resync.next then resync.tail else none

/-- The data field of a frame with its count and its First Header Pointer -/
def Resync.accept (resync : Resync) (count : UInt8) (firstHeaderPointer : Nat) (field : Bytes) : Resync :=
  match resync.open count with
  | some tail =>
    let accepted := ({ packets := resync.packets, tail } : Receiver).accept firstHeaderPointer field
    { packets := accepted.packets, tail := some accepted.tail, next := count + 1 }
  | none =>
    if firstHeaderPointer = tmIdleFirstHeaderPointer ∨ firstHeaderPointer = tmNoFirstHeaderPointer then
      { packets := resync.packets, tail := none, next := count + 1 }
    else
      let found := spacePackets.split (field.drop firstHeaderPointer)
      { packets := resync.packets ++ carried found.1, tail := some found.2, next := count + 1 }

variable {receiver receiver' : Receiver} {resync resync' : Resync} {count : UInt8} {firstHeaderPointer : Nat}
  {field : Bytes}

/-- What a frame brings to this receiver and to one that has had every frame: the same packets, or none to this one
while it waits, or all but the packet that a loss has cut. -/
inductive Resync.Hears (resync : Resync) (receiver : Receiver) (count : UInt8) (resync' : Resync)
    (receiver' : Receiver) : Prop where
  | along {found : List Bytes} (before : resync.open count = some receiver.tail)
      (mine : resync'.packets = resync.packets ++ found) (all : receiver'.packets = receiver.packets ++ found)
      (after : resync'.tail = some receiver'.tail)
  | waiting {cut : List Bytes} (before : resync.open count = none) (mine : resync'.packets = resync.packets)
      (all : receiver'.packets = receiver.packets ++ cut) (one : cut.length ≤ 1)
      (closed : receiver.tail = [] → cut = [] ∧ receiver'.tail = []) (ended : cut ≠ [] → receiver'.tail = [])
      (after : resync'.tail = none)
  | caughtUp {cut found : List Bytes} (before : resync.open count = none)
      (mine : resync'.packets = resync.packets ++ found) (all : receiver'.packets = receiver.packets ++ (cut ++ found))
      (one : cut.length ≤ 1) (closed : receiver.tail = [] → cut = []) (after : resync'.tail = some receiver'.tail)

omit [Kconfig] [Sdls.Kconfig] in
theorem Receiver.completed_length (receiver : Receiver) (continuation : Bytes) :
    (carried (receiver.completed continuation)).length ≤ 1 := by
  have one : (receiver.completed continuation).length ≤ 1 := by
    unfold Receiver.completed
    split <;> simp
  exact (List.length_filter_le _ _).trans one

omit [Kconfig] [Sdls.Kconfig] in
theorem Receiver.completed_closed {receiver : Receiver} (closed : receiver.tail = []) (continuation : Bytes) :
    receiver.completed continuation = [] := by
  unfold Receiver.completed
  rw [if_neg fun both => both.1 closed]

omit [Kconfig] [Sdls.Kconfig] in
theorem Resync.accept_hears (same : ∀ tail, resync.open count = some tail → tail = receiver.tail) :
    resync.Hears receiver count (resync.accept count firstHeaderPointer field)
      (receiver.accept firstHeaderPointer field) := by
  unfold Resync.accept
  cases before : resync.open count with
  | some tail =>
    obtain rfl := same tail before
    -- What is found depends on the open packet alone.
    have found : ∃ found, ∀ packets, (({ packets, tail := receiver.tail } : Receiver).accept firstHeaderPointer
        field).packets = packets ++ found := by
      unfold Receiver.accept
      by_cases idle : firstHeaderPointer = tmIdleFirstHeaderPointer
      · exact ⟨[], fun packets => by simp only [if_pos idle, List.append_nil]⟩
      · by_cases none : firstHeaderPointer = tmNoFirstHeaderPointer
        · exact ⟨carried (receiver.completed field), fun packets => by simp only [if_neg idle, if_pos none]; rfl⟩
        · exact ⟨carried (receiver.completed (field.take firstHeaderPointer) ++
            (spacePackets.split (field.drop firstHeaderPointer)).1), fun packets => by
              simp only [if_neg idle, if_neg none]; rfl⟩
    have ends : ∀ packets, (({ packets, tail := receiver.tail } : Receiver).accept firstHeaderPointer field).tail =
        (receiver.accept firstHeaderPointer field).tail := by
      intro packets
      unfold Receiver.accept
      split
      · rfl
      · split <;> rfl
    obtain ⟨found, brings⟩ := found
    exact .along before (brings _) (brings receiver.packets) (congrArg some (ends _))
  | none =>
    dsimp only
    by_cases idle : firstHeaderPointer = tmIdleFirstHeaderPointer
    · rw [if_pos (.inl idle), Receiver.accept, if_pos idle]
      exact @Hears.waiting _ _ _ _ _ [] before rfl (List.append_nil _).symm (Nat.zero_le _) (fun closed => ⟨rfl, closed⟩)
        (fun some => absurd rfl some) rfl
    · by_cases none : firstHeaderPointer = tmNoFirstHeaderPointer
      · rw [if_pos (.inr none), Receiver.accept, if_neg idle, if_pos none]
        refine .waiting before rfl rfl (receiver.completed_length field) (fun closed => ?_) (fun some => ?_) rfl
        · rw [Receiver.completed_closed closed]
          exact ⟨rfl, if_pos (.inl closed)⟩
        · apply if_pos
          right
          intro nothing
          rw [nothing] at some
          exact some rfl
      · have starts : ¬ (firstHeaderPointer = tmIdleFirstHeaderPointer ∨ firstHeaderPointer = tmNoFirstHeaderPointer) := by
          simp [idle, none]
        rw [if_neg starts, Receiver.accept, if_neg idle, if_neg none]
        refine .caughtUp before rfl ?_ (receiver.completed_length (field.take firstHeaderPointer)) (fun closed => ?_) rfl
        · rw [← carried_append]
        · rw [Receiver.completed_closed closed]
          rfl

/-! ## The receiver of a channel -/

variable {K : Type} {scheme : Sdls.Aead K} {stored : Sdls.PsaKeyId → K} {s s₀ s' : State} {vcid : VcId}

/-- The receiver of a channel takes the frames of that channel once their protection has been removed. -/
def Resync.receive (scheme : Sdls.Aead K) (protection : Protection K) (dataLen : Nat) (vcid : VcId) (resync : Resync)
    (frame : Bytes) : Resync :=
  if frameVcid frame = vcid.val then
    match protection.clearField scheme dataLen frame with
    | some field => resync.accept (frame.getD 3 0) (frameFirstHeaderPointer frame) field
    | none => resync
  else
    resync

/-- An event, and whether the frame that it emits arrives -/
abbrev Sighting : Type := Event × Bool

/-- The frame that an event emits -/
def Event.frame : Event → Option Bytes
  | .added _ _ => none
  | .cycled cycle => cycle.frame

/-- The frame of an event, if it is one of the channel -/
def Event.frameOn (vcid : VcId) (event : Event) : Option Bytes :=
  event.frame.filter fun frame => decide (frameVcid frame = vcid.val)

/-- The frames that arrive -/
def arrived (sightings : List Sighting) : List Bytes :=
  sightings.filterMap fun sighting => if sighting.2 then sighting.1.frame else none

/-- No frame of the channel arrives. -/
def Missed (vcid : VcId) (sightings : List Sighting) : Prop :=
  ∀ sighting ∈ sightings, sighting.2 = false ∨ sighting.1.frameOn vcid = none

/-- Of the frames of the channel fewer than 256 are lost in a row. -/
def GapsCounted (vcid : VcId) (sightings : List Sighting) : Prop :=
  ∀ front gap back, sightings = front ++ gap ++ back → Missed vcid gap →
    (gap.filterMap fun sighting => sighting.1.frameOn vcid).length < 256

/-- The receiver of a channel after the frames of a run from `s` that arrive -/
def resynced (scheme : Sdls.Aead K) (stored : Sdls.PsaKeyId → K) (s : State) (vcid : VcId)
    (sightings : List Sighting) : Resync :=
  (arrived sightings).foldl (Resync.receive scheme (s.protection stored vcid) (s.dataLen vcid) vcid)
    { packets := [], tail := some [], next := (s.vcs vcid).vcfc }

/-- The receiver that has every frame of the run -/
abbrev complete (scheme : Sdls.Aead K) (stored : Sdls.PsaKeyId → K) (s : State) (vcid : VcId)
    (sightings : List Sighting) : Receiver :=
  received scheme stored s vcid (sightings.map Prod.fst)

variable {sightings : List Sighting} {sighting : Sighting} {event : Event}

omit [Kconfig] [Sdls.Kconfig] in
theorem Receiver.receive_prefix (protection : Protection K) (dataLen : Nat) (receiver : Receiver) (frame : Bytes) :
    receiver.packets <+: (receiver.receive scheme protection dataLen vcid frame).packets := by
  unfold Receiver.receive
  split
  · split
    · unfold Receiver.accept
      split
      · exact List.prefix_rfl
      · split <;> exact List.prefix_append _ _
    · exact List.prefix_rfl
  · exact List.prefix_rfl

/-! ## One cycle -/

/-- What the frame of a cycle is to the two receivers of a channel -/
theorem InStep.frame {events : List Event} {cycle : Cycle} {frame : Bytes} {t : List Item}
    (agrees : InStep scheme stored s₀ events s)
    (lengths : ∀ vcid, 7 ≤ s₀.dataLen vcid ∧ s₀.dataLen vcid ≤ 2046) (emitted : cycle.frame = some frame)
    (runs : generatorCycle.run.Runs (kernel (scheme.Answers stored)) s t (.ok cycle) s') :
    (frameVcid frame = vcid.val → (s'.vcs vcid).vcfc = (s.vcs vcid).vcfc + 1 ∧
      frame.getD 3 0 = (s.vcs vcid).vcfc ∧
      ∃ field, (s₀.protection stored vcid).clearField scheme (s₀.dataLen vcid) frame = some field) ∧
    (frameVcid frame ≠ vcid.val → (s'.vcs vcid).vcfc = (s.vcs vcid).vcfc) := by
  obtain ⟨carries, -, meter⟩ := (Fallible.ok_of_runs generatorCycle_meters runs).routed frame emitted
  have counts : ∀ other, (s'.vcs other).vcfc =
      if other = cycle.vcid then (s.vcs cycle.vcid).vcfc + 1 else (s.vcs other).vcfc := by
    intro other
    have ticked : (s'.vcs other).vcfc = (s.meter.tick cycle.vcid).vcfc other :=
      congrFun (congrArg Meter.vcfc meter) other
    exact ticked.trans (Function.update_apply ..)
  constructor
  · intro own
    have same : vcid = cycle.vcid := Fin.ext (own.symm.trans carries.channel)
    refine ⟨by rw [counts, if_pos same, same], same ▸ carries.octets.2, ?_⟩
    obtain ⟨-, shown⟩ := Fallible.ok_of_runs (generatorCycle_emits (agrees.fills lengths)) runs
    -- What the data field holds is idle data, or what the loop has filled it with.
    rcases shown frame emitted with ⟨-, other, data, shows⟩ | ⟨-, shows⟩
    · have channel : vcid = other := Fin.ext (own.symm.trans (frameVcid_of_header shows.header))
      have field := shows.field
      rw [agrees.protection.protection, agrees.protection.dataLen, ← channel] at field
      exact ⟨data, field⟩
    · have filled := agrees.protection.trans (s.filled_sameProtection cycle.vcid)
      have field := shows.field
      rw [filled.protection, filled.dataLen, ← same] at field
      exact ⟨_, field⟩
  · intro other
    rw [counts, if_neg]
    intro same
    exact other (by rw [carries.channel, same])

/-- The receiver has some of the packets, and it knows where it is up to the frames lost since it last had one. -/
structure Resync.Keeps (resync : Resync) (receiver : Receiver) (lost : Nat) (count : UInt8) : Prop where
  sublist : resync.packets.Sublist receiver.packets
  same : lost = 0 → ∀ tail, resync.tail = some tail → tail = receiver.tail
  counted : count = resync.next + UInt8.ofNat lost
  few : lost < 256

omit [Kconfig] [Sdls.Kconfig] in
/-- The count tells whether a frame is missing. -/
theorem Resync.Keeps.open_eq {lost : Nat} (keeps : resync.Keeps receiver lost count) :
    resync.open count = if lost = 0 then resync.tail else none := by
  have due : count = resync.next ↔ lost = 0 := by
    rw [keeps.counted]
    constructor
    · intro same
      have zero : UInt8.ofNat lost = 0 := by simpa using same
      have few := congrArg UInt8.toNat zero
      rw [UInt8.toNat_ofNat', Nat.mod_eq_of_lt keeps.few] at few
      exact few
    · rintro rfl
      exact UInt8.add_zero _
  simp only [Resync.open, due]

omit [Kconfig] [Sdls.Kconfig] in
theorem Resync.Keeps.hears {lost : Nat} (keeps : resync.Keeps receiver lost count) :
    resync.Hears receiver count (resync.accept count firstHeaderPointer field)
      (receiver.accept firstHeaderPointer field) := by
  apply Resync.accept_hears
  intro tail opened
  rw [keeps.open_eq] at opened
  by_cases none : lost = 0
  · rw [if_pos none] at opened
    exact keeps.same none tail opened
  · rw [if_neg none] at opened
    cases opened

omit [Kconfig] [Sdls.Kconfig] in
theorem Resync.accept_next : (resync.accept count firstHeaderPointer field).next = count + 1 := by
  unfold Resync.accept
  cases resync.open count with
  | some tail => rfl
  | none =>
    dsimp only
    split <;> rfl

omit [Kconfig] [Sdls.Kconfig] in
/-- A frame that arrives -/
theorem Resync.Keeps.heard {lost : Nat} (keeps : resync.Keeps receiver lost count) :
    (resync.accept count firstHeaderPointer field).Keeps (receiver.accept firstHeaderPointer field) 0 (count + 1) := by
  have counted : count + 1 = (resync.accept count firstHeaderPointer field).next + UInt8.ofNat 0 := by
    rw [Resync.accept_next]
    exact (UInt8.add_zero _).symm
  cases @Resync.Keeps.hears _ _ _ firstHeaderPointer field _ keeps with
  | along before mine all after =>
    refine ⟨?_, fun _ tail is => ?_, counted, by decide⟩
    · rw [mine, all]
      exact keeps.sublist.append (List.Sublist.refl _)
    · rw [after] at is
      exact (Option.some.inj is).symm
  | waiting before mine all one closed ended after =>
    refine ⟨?_, fun _ tail is => ?_, counted, by decide⟩
    · rw [mine, all]
      exact keeps.sublist.trans (List.sublist_append_left _ _)
    · rw [after] at is
      cases is
  | caughtUp before mine all one closed after =>
    refine ⟨?_, fun _ tail is => ?_, counted, by decide⟩
    · rw [mine, all]
      exact keeps.sublist.append (List.sublist_append_right _ _)
    · rw [after] at is
      exact (Option.some.inj is).symm

omit [Kconfig] [Sdls.Kconfig] in
/-- A frame that is lost -/
theorem Resync.Keeps.missed {lost : Nat} (keeps : resync.Keeps receiver lost count)
    (more : receiver.packets <+: receiver'.packets) (few : lost + 1 < 256) :
    resync.Keeps receiver' (lost + 1) (count + 1) := by
  refine ⟨keeps.sublist.trans more.sublist, fun zero => absurd zero (Nat.succ_ne_zero _), ?_, few⟩
  rw [keeps.counted, UInt8.ofNat_add, UInt8.add_assoc]
  rfl

/-! ## Runs -/

theorem resynced_append (sightings : List Sighting) (sighting : Sighting) :
    resynced scheme stored s₀ vcid (sightings ++ [sighting]) =
      (arrived [sighting]).foldl (Resync.receive scheme (s₀.protection stored vcid) (s₀.dataLen vcid) vcid)
        (resynced scheme stored s₀ vcid sightings) := by
  rw [resynced, arrived, List.filterMap_append, List.foldl_append]
  rfl

theorem complete_append (sightings : List Sighting) (sighting : Sighting) :
    complete scheme stored s₀ vcid (sightings ++ [sighting]) =
      (emitted [sighting.1]).foldl (Receiver.receive scheme (s₀.protection stored vcid) (s₀.dataLen vcid) vcid)
        (complete scheme stored s₀ vcid sightings) := by
  rw [complete, received, List.map_append, emitted, List.filterMap_append, List.foldl_append]
  rfl

/-- What an event comes to for a channel: no frame of it, or a frame with the next count that arrives or is lost -/
inductive Brings (scheme : Sdls.Aead K) (stored : Sdls.PsaKeyId → K) (s₀ : State) (vcid : VcId)
    (sightings : List Sighting) (sighting : Sighting) (count count' : UInt8) : Prop where
  | nothing (none : sighting.1.frameOn vcid = none) (same : count' = count)
      (mine : resynced scheme stored s₀ vcid (sightings ++ [sighting]) = resynced scheme stored s₀ vcid sightings)
      (all : complete scheme stored s₀ vcid (sightings ++ [sighting]) = complete scheme stored s₀ vcid sightings)
  | lost {frame : Bytes} (some : sighting.1.frameOn vcid = some frame) (missed : sighting.2 = false)
      (next : count' = count + 1)
      (mine : resynced scheme stored s₀ vcid (sightings ++ [sighting]) = resynced scheme stored s₀ vcid sightings)
      (all : (complete scheme stored s₀ vcid sightings).packets <+:
        (complete scheme stored s₀ vcid (sightings ++ [sighting])).packets)
  | heard {frame : Bytes} {firstHeaderPointer : Nat} {field : Bytes} (some : sighting.1.frameOn vcid = some frame)
      (next : count' = count + 1)
      (mine : resynced scheme stored s₀ vcid (sightings ++ [sighting]) =
        (resynced scheme stored s₀ vcid sightings).accept count firstHeaderPointer field)
      (all : complete scheme stored s₀ vcid (sightings ++ [sighting]) =
        (complete scheme stored s₀ vcid sightings).accept firstHeaderPointer field)

theorem InStep.brings (agrees : InStep scheme stored s₀ (sightings.map Prod.fst) s)
    (lengths : ∀ vcid, 7 ≤ s₀.dataLen vcid ∧ s₀.dataLen vcid ≤ 2046)
    (step : Step scheme stored s sighting.1 s') :
    Brings scheme stored s₀ vcid sightings sighting (s.vcs vcid).vcfc (s'.vcs vcid).vcfc := by
  obtain ⟨event, arrives⟩ := sighting
  have mine := @resynced_append _ _ K scheme stored s₀ vcid sightings ⟨event, arrives⟩
  have all := @complete_append _ _ K scheme stored s₀ vcid sightings ⟨event, arrives⟩
  cases event with
  | added vc packet =>
    obtain ⟨-, timeout, t, runs⟩ := step
    obtain ⟨shown, -, -, -, rfl⟩ := Fallible.ok_of_runs (frameAdd_spec vc packet timeout s) runs
    refine .nothing rfl ?_ ?_ all
    · by_cases same : vcid = shown
      · rw [same, State.updateVc_same]
        rfl
      · rw [State.updateVc_other _ _ _ same]
    · rw [mine]
      cases arrives <;> rfl
  | cycled cycle =>
    obtain ⟨some, t, runs⟩ := step
    obtain ⟨frame, some⟩ := Option.isSome_iff_exists.mp some
    obtain ⟨own, other⟩ := @InStep.frame _ _ K scheme stored s s₀ s' vcid _ _ _ _ agrees lengths some runs
    have emits : Event.frame (.cycled cycle) = Option.some frame := some
    have brought : emitted [.cycled cycle] = [frame] := by simp only [emitted, List.filterMap_cons, some, List.filterMap_nil]
    rw [brought, List.foldl_cons, List.foldl_nil] at all
    -- A frame of another channel brings neither receiver anything.
    by_cases channel : frameVcid frame = vcid.val
    · obtain ⟨next, count, field, clear⟩ := own channel
      have on : Event.frameOn vcid (.cycled cycle) = Option.some frame := by
        rw [Event.frameOn, emits, Option.filter_some, if_pos (by simpa using channel)]
      cases arrives with
      | false =>
        refine .lost on rfl next (by rw [mine]; rfl) ?_
        rw [all]
        exact Receiver.receive_prefix ..
      | true =>
        refine @Brings.heard _ _ K scheme stored s₀ vcid _ _ _ _ frame (frameFirstHeaderPointer frame) field on next ?_ ?_
        · rw [mine]
          simp only [arrived, List.filterMap_cons, if_true, emits, List.filterMap_nil, List.foldl_cons, List.foldl_nil]
          rw [Resync.receive, if_pos channel, clear, count]
        · rw [all, Receiver.receive, if_pos channel, clear]
    · have on : Event.frameOn vcid (.cycled cycle) = Option.none := by
        rw [Event.frameOn, emits, Option.filter_some, if_neg (by simpa using channel)]
      refine .nothing on (other channel) ?_ ?_
      · rw [mine]
        cases arrives with
        | false => rfl
        | true =>
          simp only [arrived, List.filterMap_cons, if_true, emits, List.filterMap_nil, List.foldl_cons, List.foldl_nil]
          rw [Resync.receive, if_neg channel]
      · rw [all, Receiver.receive, if_neg channel]

/-- A step of a run, with what happens to its frame -/
abbrev Sighted (scheme : Sdls.Aead K) (stored : Sdls.PsaKeyId → K) (s : State) (sighting : Sighting) (s' : State) :
    Prop :=
  Step scheme stored s sighting.1 s'

/-- Where the receiver is, behind the frames that have been lost since the last one that arrived -/
structure Tracking (scheme : Sdls.Aead K) (stored : Sdls.PsaKeyId → K) (s₀ : State) (vcid : VcId)
    (sightings : List Sighting) (s : State) : Prop where
  agrees : InStep scheme stored s₀ (sightings.map Prod.fst) s
  keeps : ∃ front gap, sightings = front ++ gap ∧ Missed vcid gap ∧
    (resynced scheme stored s₀ vcid sightings).Keeps (complete scheme stored s₀ vcid sightings)
      (gap.filterMap fun sighting => sighting.1.frameOn vcid).length (s.vcs vcid).vcfc

omit [Kconfig] [Sdls.Kconfig] in
theorem GapsCounted.front {more : List Sighting} (counted : GapsCounted vcid (sightings ++ more)) :
    GapsCounted vcid sightings := by
  intro front gap back split missed
  exact counted front gap (back ++ more) (by rw [split, List.append_assoc]) missed

omit [Kconfig] [Sdls.Kconfig] in
theorem Missed.append {more : List Sighting} (first : Missed vcid sightings) (second : Missed vcid more) :
    Missed vcid (sightings ++ more) := by
  intro sighting listed
  exact (List.mem_append.mp listed).elim (first sighting) (second sighting)

/-- The step lemma -/
theorem Tracking.step (tracking : Tracking scheme stored s₀ vcid sightings s)
    (lengths : ∀ vcid, 7 ≤ s₀.dataLen vcid ∧ s₀.dataLen vcid ≤ 2046)
    (counted : GapsCounted vcid (sightings ++ [sighting])) (step : Sighted scheme stored s sighting s') :
    Tracking scheme stored s₀ vcid (sightings ++ [sighting]) s' := by
  obtain ⟨agrees, front, gap, split, missed, keeps⟩ := tracking
  refine ⟨by rw [List.map_append]; exact agrees.step lengths step, ?_⟩
  cases @InStep.brings _ _ K scheme stored s s₀ s' vcid sightings sighting agrees lengths step with
  | nothing none same mine all =>
    refine ⟨front, gap ++ [sighting], by rw [split, List.append_assoc], missed.append (by simpa [Missed] using .inr none), ?_⟩
    rw [mine, all, same, List.filterMap_append, List.filterMap_cons, none, List.filterMap_nil, List.append_nil]
    exact keeps
  | lost some lost next mine all =>
    have further : Missed vcid (gap ++ [sighting]) := missed.append (by simpa [Missed] using .inl lost)
    have length : ((gap ++ [sighting]).filterMap fun sighting => sighting.1.frameOn vcid).length =
        (gap.filterMap fun sighting => sighting.1.frameOn vcid).length + 1 := by
      rw [List.filterMap_append, List.filterMap_cons, some, List.filterMap_nil]
      exact List.length_append
    have few := counted front (gap ++ [sighting]) [] (by rw [split]; simp) further
    refine ⟨front, gap ++ [sighting], by rw [split, List.append_assoc], further, ?_⟩
    rw [length] at few ⊢
    rw [mine, next]
    exact keeps.missed all few
  | heard some next mine all =>
    refine ⟨sightings ++ [sighting], [], by simp, by simp [Missed], ?_⟩
    rw [mine, all, next]
    exact keeps.heard

/-- What the receivers have got since some moment, while every frame arrives -/
inductive Resync.Since (resync₀ : Resync) (receiver₀ : Receiver) (resync : Resync) (receiver : Receiver)
    (count : UInt8) : Prop where
  | along {cut found : List Bytes} (now : resync.open count = some receiver.tail)
      (mine : resync.packets = resync₀.packets ++ found) (all : receiver.packets = receiver₀.packets ++ (cut ++ found))
      (one : cut.length ≤ 1) (closed : receiver₀.tail = [] → cut = [])
  | waiting {cut : List Bytes} (now : resync.open count = none) (mine : resync.packets = resync₀.packets)
      (all : receiver.packets = receiver₀.packets ++ cut) (one : cut.length ≤ 1)
      (closed : receiver₀.tail = [] → cut = [] ∧ receiver.tail = []) (ended : cut ≠ [] → receiver.tail = [])

variable {resync₀ : Resync} {receiver₀ : Receiver}

omit [Kconfig] [Sdls.Kconfig] in
theorem Resync.Keeps.since {lost : Nat} (keeps : resync.Keeps receiver lost count) :
    resync.Since receiver resync receiver count := by
  cases opened : resync.open count with
  | some tail =>
    have same := keeps.open_eq
    rw [opened] at same
    by_cases none : lost = 0
    · rw [if_pos none] at same
      have front := keeps.same none tail same.symm
      exact @Since.along _ _ _ _ _ [] [] (by rw [opened, front]) (by simp) (by simp) (Nat.zero_le _) fun _ => rfl
    · rw [if_neg none] at same
      cases same
  | none =>
    exact @Since.waiting _ _ _ _ _ [] opened rfl (by simp) (Nat.zero_le _) (fun closed => ⟨rfl, closed⟩)
      fun some => absurd rfl some

omit [Kconfig] [Sdls.Kconfig] in
/-- Another frame arrives. -/
theorem Resync.Since.heard (since : resync₀.Since receiver₀ resync receiver count)
    (hears : resync.Hears receiver count resync' receiver') (next : resync'.next = count + 1) :
    resync₀.Since receiver₀ resync' receiver' (count + 1) := by
  have opened : resync'.open (count + 1) = resync'.tail := if_pos next.symm
  cases since with
  | along now mine all one closed =>
    cases hears with
    | along before mine' all' after =>
      refine .along (opened.trans after) (by rw [mine', mine, List.append_assoc]) ?_ one closed
      rw [all', all]
      simp only [List.append_assoc]
    | waiting before => simp [now] at before
    | caughtUp before => simp [now] at before
  | @waiting cut now mine all one closed ended =>
    cases hears with
    | along before => simp [now] at before
    | @waiting cut' before mine' all' one' closed' ended' after =>
      -- Only one packet was open when the frames were lost.
      have either : cut = [] ∨ cut' = [] := by
        by_cases empty : cut = []
        · exact .inl empty
        · exact .inr (closed' (ended empty)).1
      refine .waiting (opened.trans after) (mine'.trans mine) (by rw [all', all, List.append_assoc]) ?_ ?_ ?_
      · rcases either with rfl | rfl
        · simpa using one'
        · simpa using one
      · intro none
        obtain ⟨rfl, tail⟩ := closed none
        obtain ⟨rfl, tail'⟩ := closed' tail
        exact ⟨rfl, tail'⟩
      · intro some
        by_cases empty : cut' = []
        · rw [empty, List.append_nil] at some
          exact (closed' (ended some)).2
        · exact ended' empty
    | @caughtUp cut' found before mine' all' one' closed' after =>
      have either : cut = [] ∨ cut' = [] := by
        by_cases empty : cut = []
        · exact .inl empty
        · exact .inr (closed' (ended empty))
      refine @Since.along _ _ _ _ _ (cut ++ cut') found (opened.trans after) (by rw [mine', mine]) ?_ ?_ ?_
      · rw [all', all]
        simp only [List.append_assoc]
      · rcases either with rfl | rfl
        · simpa using one'
        · simpa using one
      · intro none
        obtain ⟨rfl, tail⟩ := closed none
        exact closed' tail

theorem Tracking.start (empty : s.QueuesEmpty) : Tracking scheme stored s vcid [] s where
  agrees := ⟨.refl s, fun vcid => ⟨[], [], .start (empty vcid)⟩⟩
  keeps := ⟨[], [], rfl, by simp [Missed], List.Sublist.refl _, fun _ _ same => (Option.some.inj same).symm,
    (UInt8.add_zero _).symm, Nat.zero_lt_succ _⟩

/-- The run lemma -/
theorem Tracking.run {more : List Sighting} (lengths : ∀ vcid, 7 ≤ s₀.dataLen vcid ∧ s₀.dataLen vcid ≤ 2046)
    (tracking : Tracking scheme stored s₀ vcid sightings s) (counted : GapsCounted vcid (sightings ++ more))
    (run : Run (Sighted scheme stored) s more s') : Tracking scheme stored s₀ vcid (sightings ++ more) s' := by
  induction run generalizing sightings with
  | done => rwa [List.append_nil]
  | @step _ _ _ sighting more one _ ih =>
    rw [← List.singleton_append, ← List.append_assoc] at counted ⊢
    exact ih (tracking.step lengths counted.front one) counted

/-- The run lemma for frames that all arrive -/
theorem Tracking.since {middle : List Sighting} (lengths : ∀ vcid, 7 ≤ s₀.dataLen vcid ∧ s₀.dataLen vcid ≤ 2046)
    (tracking : Tracking scheme stored s₀ vcid sightings s) (counted : GapsCounted vcid (sightings ++ middle))
    (arrive : ∀ sighting ∈ middle, sighting.2 = true)
    (since : resync₀.Since receiver₀ (resynced scheme stored s₀ vcid sightings)
      (complete scheme stored s₀ vcid sightings) (s.vcs vcid).vcfc)
    (run : Run (Sighted scheme stored) s middle s') :
    resync₀.Since receiver₀ (resynced scheme stored s₀ vcid (sightings ++ middle))
      (complete scheme stored s₀ vcid (sightings ++ middle)) (s'.vcs vcid).vcfc := by
  induction run generalizing sightings with
  | done => rwa [List.append_nil]
  | @step _ _ _ sighting middle one _ ih =>
    obtain ⟨now, later⟩ := List.forall_mem_cons.mp arrive
    rw [← List.singleton_append, ← List.append_assoc] at counted ⊢
    refine ih (tracking.step lengths counted.front one) counted later ?_
    obtain ⟨_, _, _, _, keeps⟩ := tracking.keeps
    cases @InStep.brings _ _ K scheme stored _ s₀ _ vcid sightings sighting tracking.agrees lengths one with
    | nothing none same mine all => rwa [mine, all, same]
    | lost some lost => simp [now] at lost
    | heard some next mine all =>
      rw [mine, all, next]
      exact since.heard keeps.hears Resync.accept_next

/-- What the receiver that has every frame has is admitted. -/
theorem Tracking.admitted (tracking : Tracking scheme stored s₀ vcid sightings s) :
    (complete scheme stored s₀ vcid sightings).packets <+: Tm.admitted vcid (sightings.map Prod.fst) := by
  obtain ⟨rest, waiting, follows⟩ := tracking.agrees.follows vcid
  rw [follows.admitted_eq]
  exact List.prefix_append _ _

/-- Frames are lost, of each channel fewer than 256 in a row.  The packets that the receiver delivers are admitted
packets, whole, in their order and none twice; and over any stretch of the run in which every frame arrives it delivers
what a receiver delivers that has had every frame since the start, except for at most one packet that was open when
the stretch began. -/
theorem lossy_downlink (scheme : Sdls.Aead K) (stored : Sdls.PsaKeyId → K) (s s' : State) (sightings : List Sighting)
    (empty : s.QueuesEmpty) (lengths : ∀ vcid, 7 ≤ s.dataLen vcid ∧ s.dataLen vcid ≤ 2046)
    (run : Run (Sighted scheme stored) s sightings s') (vcid : VcId) (counted : GapsCounted vcid sightings) :
    (resynced scheme stored s vcid sightings).packets.Sublist (admitted vcid (sightings.map Prod.fst)) ∧
    ∀ front middle back, sightings = front ++ middle ++ back → (∀ sighting ∈ middle, sighting.2 = true) →
      ∃ cut found,
        (complete scheme stored s vcid (front ++ middle)).packets =
          (complete scheme stored s vcid front).packets ++ (cut ++ found) ∧
        (resynced scheme stored s vcid (front ++ middle)).packets =
          (resynced scheme stored s vcid front).packets ++ found ∧
        cut.length ≤ 1 ∧ ((complete scheme stored s vcid front).tail = [] → cut = []) := by
  have start := @Tracking.start _ _ K scheme stored s vcid empty
  constructor
  · have tracking := start.run lengths (by rwa [List.nil_append]) run
    obtain ⟨_, _, _, _, keeps⟩ := tracking.keeps
    exact keeps.sublist.trans tracking.admitted.sublist
  · rintro front middle back rfl arrive
    have counted := counted.front
    obtain ⟨s₂, run, -⟩ := run.split
    obtain ⟨s₁, before, during⟩ := run.split
    have tracking := start.run lengths (show GapsCounted vcid ([] ++ front) from counted.front) before
    obtain ⟨_, _, _, _, keeps⟩ := tracking.keeps
    cases tracking.since lengths counted arrive keeps.since during with
    | along now mine all one closed => exact ⟨_, _, all, mine, one, closed⟩
    | @waiting cut now mine all one closed ended =>
      exact ⟨cut, [], by simpa using all, by simpa using mine, one, fun none => (closed none).1⟩

end ZephyrCcsds.Tm

/-! ## The first of two frames is lost -/

namespace ZephyrCcsds.Tm

open Callback

section Sample

attribute [local instance] sampleKconfig Sdls.defaultKconfig

/-- A run that is too short for the frame count to come round -/
theorem GapsCounted.of_short {vcid : VcId} {sightings : List Sighting} (short : sightings.length < 256) :
    GapsCounted vcid sightings := by
  intro front gap back split _
  have inside := List.length_filterMap_le (fun sighting : Sighting => sighting.1.frameOn vcid) gap
  have total := congrArg List.length split
  simp only [List.length_append] at total
  omega

/-- Two packets, each in a frame of its own -/
theorem twoFrames : ∃ first second s', Run (Sighted Sdls.sampleScheme Sdls.sampleKeys) (init fun _ => none)
    [(.added 0 smallPacket, true), (.cycled first, false), (.added 0 smallPacket, true), (.cycled second, true)] s' := by
  have held : ((((frameAdd 0 smallPacket .noWait).run (init fun _ => none)).enact serve (addCalls smallPacket)).bind fun one =>
      ((generatorCycle.run one.2).enact serve cycleCalls).bind fun two =>
      (((frameAdd 0 smallPacket .noWait).run two.2).enact serve (addCalls smallPacket)).bind fun three =>
      ((generatorCycle.run three.2).enact serve cycleCalls).map fun four => (one, two, three, four)).any (fun all =>
        decide (all.1.1 = .ok () ∧ (all.2.1.1.toOption.bind Cycle.frame).isSome ∧ all.2.2.1.1 = .ok () ∧
          (all.2.2.2.1.toOption.bind Cycle.frame).isSome)) = true := by
    decide +kernel
  obtain ⟨⟨⟨added₁, s₁⟩, ⟨result₁, s₂⟩, ⟨added₂, s₃⟩, ⟨result₂, s₄⟩⟩, played, checked⟩ := (Option.any_eq_true _ _).mp held
  obtain ⟨⟨_, _⟩, one, rest⟩ := Option.bind_eq_some_iff.mp played
  obtain ⟨⟨_, _⟩, two, rest⟩ := Option.bind_eq_some_iff.mp rest
  obtain ⟨⟨_, _⟩, three, rest⟩ := Option.bind_eq_some_iff.mp rest
  obtain ⟨⟨_, _⟩, four, same⟩ := Option.map_eq_some_iff.mp rest
  cases same
  obtain ⟨succeeded₁, some₁, succeeded₂, some₂⟩ := of_decide_eq_true checked
  have succeeded₁ : added₁ = .ok () := succeeded₁
  have succeeded₂ : added₂ = .ok () := succeeded₂
  subst succeeded₁ succeeded₂
  cases result₁ with
  | error e => cases some₁
  | ok first =>
    cases result₂ with
    | error e => cases some₂
    | ok second =>
      exact ⟨first, second, s₄, .step ⟨by decide, _, _, runs_of_serve one⟩ (.step ⟨some₁, _, runs_of_serve two⟩
        (.step ⟨by decide, _, _, runs_of_serve three⟩ (.step ⟨some₂, _, runs_of_serve four⟩ .done)))⟩

theorem lossy_downlink_sample : ∃ first second s',
    Run (Sighted Sdls.sampleScheme Sdls.sampleKeys) (init fun _ => none)
      [(.added 0 smallPacket, true), (.cycled first, false), (.added 0 smallPacket, true), (.cycled second, true)] s' ∧
    (resynced Sdls.sampleScheme Sdls.sampleKeys (init fun _ => none) 0 [(.added 0 smallPacket, true),
      (.cycled first, false), (.added 0 smallPacket, true), (.cycled second, true)]).packets.Sublist
        (admitted 0 [.added 0 smallPacket, .cycled first, .added 0 smallPacket, .cycled second]) := by
  obtain ⟨first, second, s', run⟩ := twoFrames
  have facts := lossy_downlink Sdls.sampleScheme Sdls.sampleKeys (init fun _ => none) s' _ (fun _ => ⟨rfl, rfl, rfl⟩)
    (by decide) run 0 (.of_short (by simp))
  exact ⟨first, second, s', run, facts.1⟩

end Sample

end ZephyrCcsds.Tm
