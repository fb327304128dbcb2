import ZephyrCcsds.Tc.Reassembly
import ZephyrCcsds.Tc.SpacePackets

/-! # Delivery of packets

Packets that have handlers, carried by segments in any of the admissible ways, reach their
handlers once and in order, unless a reassembly was left open: then every complete packet
is refused from there on.
-/

namespace ZephyrCcsds.Tc

open Callback

variable [Kconfig] [Sdls.Kconfig]

/-! ## Packets with handlers -/

/-- A packet and the MAP it is sent on -/
structure SentPacket where
  mapId : Nat
  packet : EncodedPacket

/-- Some handler is responsible for a packet. -/
def Served (rx : TcRx) (sent : SentPacket) : Prop :=
  ∃ packet handler, spacePacketDecode sent.packet.octets = .ok packet ∧
    rx.handlerFor sent.mapId packet.apid = some handler

/-- A call gives a handler the packet that was sent, octet by octet. -/
def DeliveredTo (rx : TcRx) (call : PartCall) (sent : SentPacket) : Prop :=
  ∃ packet handler, spacePacketDecode sent.packet.octets = .ok packet ∧
    rx.handlerFor sent.mapId packet.apid = some handler ∧ call.op = .handler handler packet ∧
    spacePacketEncode packet sent.packet.octets.length = .ok sent.packet.octets

/-- Handlers return zero, and nothing changes the routes of the profile. -/
abbrev ServingWalk : State → Walk → State → Prop := WalkStep (fun code => code = 0) KeepsRoutes

abbrev servingHandlers : Environment TcOp TcRes State PartCall := handlers (fun code => code = 0) KeepsRoutes

/-- The routes are the same. -/
def SameHandlers (rx rx' : TcRx) : Prop := ∀ mapId apid, rx'.handlerFor mapId apid = rx.handlerFor mapId apid

omit [Kconfig] [Sdls.Kconfig] in
theorem not_fromHandler_zero {e : Failure} : ¬ FromHandler (fun code => code = 0) e := by
  rintro ⟨code, zero, nonzero, _⟩
  exact nonzero zero

theorem Served.same {rx rx' : TcRx} {sent : SentPacket} (served : Served rx sent) (same : SameHandlers rx rx') :
    Served rx' sent := by
  obtain ⟨packet, handler, decoded, chosen⟩ := served
  exact ⟨packet, handler, decoded, (same _ _).trans chosen⟩

theorem DeliveredTo.same {rx rx' : TcRx} {call : PartCall} {sent : SentPacket} (delivered : DeliveredTo rx' call sent)
    (same : SameHandlers rx rx') : DeliveredTo rx call sent := by
  obtain ⟨packet, handler, decoded, chosen, rest⟩ := delivered
  exact ⟨packet, handler, decoded, (same _ _).symm.trans chosen, rest⟩

variable {s s' : State}

theorem Dispatched.delivered {mapId : Nat} {encoded : EncodedPacket} {t : List PartCall}
    (dispatched : Dispatched KeepsRoutes s mapId encoded.octets t s') :
    (∃ call, t = [call] ∧ DeliveredTo s.rx call ⟨mapId, encoded⟩) ∧ KeepsRoutes s s' := by
  obtain ⟨packet, decoded, handler, chosen, rfl, kept⟩ := dispatched
  obtain ⟨packet', decoded', _, encodes⟩ := encoded.decoded
  rw [decoded] at decoded'
  cases decoded'
  exact ⟨⟨_, rfl, packet, handler, decoded, chosen, rfl, encodes⟩, kept⟩

theorem Unserved.not_served {mapId : Nat} {encoded : EncodedPacket} (nobody : Unserved s mapId encoded.octets) :
    ¬ Served s.rx ⟨mapId, encoded⟩ := by
  rintro ⟨packet, handler, decoded, chosen⟩
  rw [nobody packet decoded] at chosen
  cases chosen

/-! ## Complete packets in one segment -/

/-- The walk over data that begins with a complete packet -/
theorem walkPackets_cons (mapId turns : Nat) (packet : EncodedPacket) (rest : Bytes) :
    walkPackets mapId (turns + 1) (packet.octets ++ rest) = (do
      let first ← dispatchTcSegmentPart {
        mapId, segmentBoundary := .unsegmented, startsPacket := true, endsPacket := true
        data := packet.octets, packetLen := packet.octets.length }
      let others ← walkPackets mapId turns rest
      pure (first + others)) := by
  have header := packet.header_lt
  have length : encodedPacketLen (packet.octets ++ rest) = packet.octets.length := by
    rw [encodedPacketLen_append header.le, packet.complete]
  have total : (packet.octets ++ rest).length = packet.octets.length + rest.length := List.length_append
  rw [walkPackets, if_neg (by omega), if_neg (by omega), length]
  simp only [if_neg (show ¬ (packet.octets ++ rest).length < packet.octets.length by omega), List.take_left,
    List.drop_left]

/-- The walk over complete packets delivers them one after another. -/
theorem walkPackets_delivers {mapId : Nat} {packets : List EncodedPacket} {turns : Nat}
    (enough : (packets.flatMap (·.octets)).length ≤ turns) (inactive : s.rx.reassembly.active = false)
    (served : ∀ packet ∈ packets, Served s.rx ⟨mapId, packet⟩) :
    (walkPackets mapId turns (packets.flatMap (·.octets))).wp servingHandlers
      (fun t _ s' => List.Forall₂ (DeliveredTo s.rx) t (packets.map (SentPacket.mk mapId)) ∧ KeepsRoutes s s')
      (fun _ _ _ => False) s := by
  induction packets generalizing turns s with
  | nil =>
    cases turns with
    | zero => exact ⟨.nil, .refl s⟩
    | succ turns => exact ⟨.nil, .refl s⟩
  | cons packet packets ih =>
    obtain ⟨now, later⟩ := List.forall_mem_cons.mp served
    have header := packet.header_lt
    simp only [List.flatMap_cons, List.length_append] at enough
    obtain ⟨turns, rfl⟩ : ∃ n, turns = n + 1 := ⟨turns - 1, by omega⟩
    rw [List.flatMap_cons, walkPackets_cons, Fallible.wp_bind]
    apply Fallible.wp_mono (dispatchTcSegmentPart_packet rfl)
    · intro t n s₁ outcome
      cases outcome with
      | delivered _ dispatched =>
        obtain ⟨⟨call, rfl, delivered⟩, kept⟩ := dispatched.delivered
        have same : SameHandlers s.rx s₁.rx := kept.handlerFor
        have inactive₁ : s₁.rx.reassembly.active = false := by rw [kept.reassembly, inactive]
        rw [Fallible.wp_bind]
        apply Fallible.wp_mono (ih (by omega) inactive₁ fun other listed => (later other listed).same same)
        · rintro u _ s₂ ⟨rest, kept'⟩
          simp only [Fallible.wp_pure, List.append_nil, List.map_cons, List.singleton_append]
          refine ⟨.cons delivered (rest.imp fun _ _ delivered => delivered.same same), ?_⟩
          exact ⟨kept'.reassembly.trans kept.reassembly, kept'.router.trans kept.router,
            kept'.mapApidRoute.trans kept.mapApidRoute⟩
        · exact fun _ _ _ impossible => impossible
    · intro t e s₁ outcome
      cases outcome with
      | busy active => simp [inactive] at active
      | answered _ _ answer => exact not_fromHandler_zero answer
      | unserved _ nobody => exact nobody.not_served now

/-- On an active reassembly the walk is refused at its first packet. -/
theorem walkPackets_busy {mapId turns : Nat} {packet : EncodedPacket} {rest : Bytes}
    (active : s.rx.reassembly.active = true) :
    (walkPackets mapId (turns + 1) (packet.octets ++ rest)).wp servingHandlers
      (fun _ _ _ => False) (fun _ e s' => e = .errno .ebusy ∧ s' = s) s := by
  rw [walkPackets_cons, Fallible.wp_bind]
  apply Fallible.wp_mono (dispatchTcSegmentPart_packet rfl)
  · intro t n s₁ outcome
    cases outcome with
    | delivered inactive => simp [active] at inactive
  · intro t e s₁ outcome
    cases outcome with
    | busy => exact ⟨rfl, rfl⟩
    | answered inactive => simp [active] at inactive
    | unserved inactive => simp [active] at inactive

/-! ## A packet in fragments -/

/-- The reassembly holds the octets of a packet on a MAP. -/
structure Holding (s : State) (mapId : Nat) (octets : Bytes) (declared : Nat) : Prop where
  active : s.rx.reassembly.active = true
  mapId : s.rx.reassembly.mapId = mapId
  octets : s.rx.reassembly.octets = octets
  declared : s.rx.reassembly.expectedLen = declared

omit [Sdls.Kconfig] in
/-- A part that fits into its packet is copied. -/
theorem TcReassembly.append_fits {reassembly : TcReassembly} {part : TcSegmentPart}
    (fits : reassembly.len + part.data.length ≤ reassembly.expectedLen)
    (room : reassembly.expectedLen ≤ tcMaxSpacePacketLen)
    (complete : part.endsPacket = true → reassembly.len + part.data.length = reassembly.expectedLen) :
    ∃ reassembly', reassembly.append part = (reassembly', .ok ()) := by
  unfold append
  simp only [dif_pos (show part.data.length ≤ tcMaxSpacePacketLen - reassembly.len by omega)]
  rw [if_neg (by omega), if_neg]
  · exact ⟨_, rfl⟩
  · rintro ⟨ends, short⟩
    exact short (complete ends)

omit [Sdls.Kconfig] in
theorem TcReassembly.receive_first {reassembly : TcReassembly} {part : TcSegmentPart} (starts : part.startsPacket = true)
    (goesOn : part.endsPacket = false) (inactive : reassembly.active = false)
    (fits : part.data.length ≤ part.packetLen) (some : 0 < part.packetLen)
    (room : part.packetLen ≤ tcMaxSpacePacketLen) :
    ∃ reassembly', reassembly.receive part = (reassembly', .ok ()) := by
  unfold receive start
  rw [if_pos starts, if_neg (by simp [inactive]), if_neg (by omega)]
  apply append_fits _ room (by simp [goesOn])
  show 0 + part.data.length ≤ part.packetLen
  omega

omit [Sdls.Kconfig] in
theorem TcReassembly.receive_next {reassembly : TcReassembly} {part : TcSegmentPart} (goesOn : part.startsPacket = false)
    (active : reassembly.active = true) (same : reassembly.mapId = part.mapId)
    (fits : reassembly.len + part.data.length ≤ reassembly.expectedLen)
    (room : reassembly.expectedLen ≤ tcMaxSpacePacketLen)
    (complete : part.endsPacket = true → reassembly.len + part.data.length = reassembly.expectedLen) :
    ∃ reassembly', reassembly.receive part = (reassembly', .ok ()) := by
  unfold receive start
  rw [if_neg (by simp [goesOn]), if_neg (by simp [active, same])]
  exact append_fits fits room complete

variable {walk : Walk} {mapId : Nat}

/-- A walk that a fragment comes out of ends as its dispatch does. -/
theorem ServingWalk.outcome {part : TcSegmentPart} (step : ServingWalk s walk s')
    (passed : walk.segment.fragment = some part) : ∃ s₀, KeepsRoutes s s₀ ∧
      FragmentOutcome (fun code => code = 0) KeepsRoutes part s₀ walk.calls walk.result s' := by
  obtain ⟨s₀, kept, runs⟩ := step
  rw [walkParts_fragment passed] at runs
  exact ⟨s₀, kept, @Fallible.of_runs _ _ _ _ _ _ _ _ _ (FragmentOutcome (fun code => code = 0) KeepsRoutes part s₀)
    (dispatchTcSegmentPart_fragment (TcSegment.isFragment passed).not_whole) _ _ _ runs⟩

/-- A fragment with more to come is kept. -/
theorem ServingWalk.kept {part : TcSegmentPart} (step : ServingWalk s walk s')
    (passed : walk.segment.fragment = some part) (goesOn : part.endsPacket = false)
    (taken : ∃ reassembly', s.rx.reassembly.receive part = (reassembly', .ok ())) :
    walk.calls = [] ∧ walk.result = .ok 0 ∧ SameHandlers s.rx s'.rx ∧
      Joined s.rx.reassembly part s'.rx.reassembly := by
  obtain ⟨reassembly', taken⟩ := taken
  obtain ⟨s₀, kept, outcome⟩ := step.outcome passed
  rw [← kept.reassembly] at taken
  obtain ⟨segment, calls, result⟩ := walk
  cases outcome with
  | refused received => simp [taken] at received
  | kept received =>
    rw [← kept.reassembly]
    exact ⟨rfl, rfl, kept.handlerFor, TcReassembly.receive_ok received⟩
  | delivered _ ends => simp [goesOn] at ends
  | answered _ ends => simp [goesOn] at ends
  | unserved _ ends => simp [goesOn] at ends

/-- The fragment that completes a packet delivers it. -/
theorem ServingWalk.completed {part : TcSegmentPart} {packet : EncodedPacket} (step : ServingWalk s walk s')
    (passed : walk.segment.fragment = some part) (ends : part.endsPacket = true)
    (taken : ∃ reassembly', s.rx.reassembly.receive part = (reassembly', .ok ()))
    (completes : ∀ reassembly', Joined s.rx.reassembly part reassembly' →
      reassembly'.mapId = mapId ∧ reassembly'.octets = packet.octets)
    (served : Served s.rx ⟨mapId, packet⟩) :
    (∃ call, walk.calls = [call] ∧ DeliveredTo s.rx call ⟨mapId, packet⟩) ∧ walk.result = .ok 1 ∧
      SameHandlers s.rx s'.rx ∧ s'.rx.reassembly.active = false := by
  obtain ⟨reassembly', taken⟩ := taken
  obtain ⟨s₀, kept, outcome⟩ := step.outcome passed
  rw [← kept.reassembly] at taken completes
  obtain ⟨rfl, octets⟩ := completes _ (TcReassembly.receive_ok taken)
  have served₀ := served.same kept.handlerFor
  obtain ⟨segment, calls, result⟩ := walk
  cases outcome with
  | refused received => simp [taken] at received
  | kept _ goesOn => simp [ends] at goesOn
  | delivered received _ dispatched =>
    rw [taken] at received
    cases received
    rw [octets] at dispatched
    obtain ⟨⟨call, rfl, delivered⟩, kept'⟩ := dispatched.delivered
    refine ⟨⟨call, rfl, delivered.same kept.handlerFor⟩, rfl, fun mapId apid => ?_, rfl⟩
    exact (kept'.handlerFor mapId apid).trans (kept.handlerFor mapId apid)
  | answered _ _ _ answer => exact absurd answer not_fromHandler_zero
  | unserved received _ nobody =>
    rw [taken] at received
    cases received
    rw [octets] at nobody
    exact absurd served₀ nobody.not_served

/-! ## Ways of carrying packets -/

/-- The fragments of a packet behind its FIRST one -/
def continuations (mapId : Nat) (middle : List Bytes) : List TcSegment :=
  middle.map fun data => { boundary := .continuation, mapId, data }

/-- The segments carry the packets in order: complete packets in one unsegmented segment, or one packet split
into a FIRST part with its header, CONTINUATION parts and a LAST part. -/
inductive Carriage : List TcSegment → List SentPacket → Prop where
  | done : Carriage [] []
  | complete {mapId : Nat} {packets : List EncodedPacket} {segments : List TcSegment} {rest : List SentPacket}
      (some : packets ≠ []) (carries : Carriage segments rest) :
      Carriage ({ boundary := .unsegmented, mapId, data := packets.flatMap (·.octets) } :: segments)
        (packets.map (SentPacket.mk mapId) ++ rest)
  | split {mapId : Nat} {packet : EncodedPacket} {first last : Bytes} {middle : List Bytes}
      {segments : List TcSegment} {rest : List SentPacket} (fits : packet.octets.length ≤ tcMaxSpacePacketLen)
      (header : spacePacketPrimaryHdrLen ≤ first.length) (nonempty : ∀ data ∈ middle, data ≠ []) (ends : last ≠ [])
      (parts : packet.octets = first ++ middle.flatten ++ last) (carries : Carriage segments rest) :
      Carriage ({ boundary := .first, mapId, data := first } :: (continuations mapId middle ++
          { boundary := .last, mapId, data := last } :: segments))
        ({ mapId, packet } :: rest)

variable {walks : List Walk}

/-- The first fragment of a packet opens the reassembly. -/
theorem first_fragment_held {packet : EncodedPacket} {first rest : Bytes} (step : ServingWalk s walk s')
    (segment : walk.segment = { boundary := .first, mapId, data := first })
    (inactive : s.rx.reassembly.active = false) (fits : packet.octets.length ≤ tcMaxSpacePacketLen)
    (header : spacePacketPrimaryHdrLen ≤ first.length) (parts : packet.octets = first ++ rest) (more : rest ≠ []) :
    walk.calls = [] ∧ walk.result = .ok 0 ∧ SameHandlers s.rx s'.rx ∧
      Holding s' mapId first packet.octets.length := by
  have declared : encodedPacketLen first = packet.octets.length := by
    rw [← packet.complete, parts, encodedPacketLen_append header]
  have total : packet.octets.length = first.length + rest.length := by rw [parts, List.length_append]
  have longer : 0 < rest.length := List.length_pos_iff.mpr more
  have positive : 6 ≤ first.length := header
  have passed : walk.segment.fragment = some {
      mapId, segmentBoundary := .first, startsPacket := true, endsPacket := false, data := first
      packetLen := encodedPacketLen first } := by
    rw [segment, TcSegment.fragment]
    simp only
    rw [if_neg (by omega), if_neg (by omega), if_neg (by omega)]
  obtain ⟨silent, zero, same, joined⟩ := step.kept passed rfl
    (TcReassembly.receive_first rfl rfl inactive (by simp only; omega) (by simp only; omega) (by simp only; omega))
  obtain ⟨_, expected, octets⟩ := joined.starts rfl
  exact ⟨silent, zero, same, joined.active, joined.mapId, octets, expected.trans declared⟩

/-- The further fragments are appended, as long as the packet is not complete. -/
theorem middle_fragments_held {octets : Bytes} {declared : Nat} {middle : List Bytes}
    (run : Run ServingWalk s walks s') (segments : walks.map (·.segment) = continuations mapId middle)
    (holding : Holding s mapId octets declared) (nonempty : ∀ data ∈ middle, data ≠ [])
    (fits : octets.length + middle.flatten.length ≤ declared) (room : declared ≤ tcMaxSpacePacketLen) :
    (∀ walk ∈ walks, walk.calls = [] ∧ walk.result = .ok 0) ∧ SameHandlers s.rx s'.rx ∧
      Holding s' mapId (octets ++ middle.flatten) declared := by
  induction middle generalizing s walks octets with
  | nil =>
    obtain rfl : walks = [] := List.map_eq_nil_iff.mp segments
    cases run
    refine ⟨by simp, fun _ _ => rfl, ?_⟩
    simpa using holding
  | cons data middle ih =>
    obtain ⟨now, later⟩ := List.forall_mem_cons.mp nonempty
    obtain ⟨walk, walks, rfl⟩ : ∃ walk rest, walks = walk :: rest := by
      cases walks with
      | nil => simp [continuations] at segments
      | cons walk rest => exact ⟨walk, rest, rfl⟩
    cases run with
    | step one rest =>
      rw [continuations, List.map_cons, List.map_cons] at segments
      obtain ⟨segment, segments⟩ := List.cons.inj segments
      simp only [List.flatten_cons, List.length_append] at fits
      have len : s.rx.reassembly.len = octets.length := by rw [← TcReassembly.octets_length, holding.octets]
      have passed : walk.segment.fragment = some {
          mapId, segmentBoundary := .continuation, startsPacket := false, endsPacket := false, data, packetLen := 0 } := by
        rw [segment, TcSegment.fragment]
        simp only
        rw [if_neg (by simpa using now)]
        rfl
      have inside : s.rx.reassembly.len + data.length ≤ s.rx.reassembly.expectedLen := by
        rw [len, holding.declared]
        omega
      have bound : s.rx.reassembly.expectedLen ≤ tcMaxSpacePacketLen := by rw [holding.declared]; exact room
      obtain ⟨silent, zero, same, joined⟩ := one.kept passed rfl
        (TcReassembly.receive_next rfl holding.active holding.mapId inside bound (by simp))
      obtain ⟨_, _, expected, octets'⟩ := joined.continues rfl
      have extended : Holding _ mapId (octets ++ data) declared :=
        ⟨joined.active, joined.mapId, by rw [octets', holding.octets], by rw [expected, holding.declared]⟩
      obtain ⟨others, same', held⟩ := ih rest segments extended later (by rw [List.length_append]; omega)
      refine ⟨?_, fun mapId apid => (same' mapId apid).trans (same mapId apid), ?_⟩
      · exact List.forall_mem_cons.mpr ⟨⟨silent, zero⟩, others⟩
      · rw [List.flatten_cons, ← List.append_assoc]
        exact held

/-- The last fragment of a packet delivers it. -/
theorem last_fragment_delivers {packet : EncodedPacket} {octets last : Bytes} (step : ServingWalk s walk s')
    (segment : walk.segment = { boundary := .last, mapId, data := last })
    (holding : Holding s mapId octets packet.octets.length) (fits : packet.octets.length ≤ tcMaxSpacePacketLen)
    (ends : last ≠ []) (parts : packet.octets = octets ++ last) (served : Served s.rx ⟨mapId, packet⟩) :
    (∃ call, walk.calls = [call] ∧ DeliveredTo s.rx call ⟨mapId, packet⟩) ∧ walk.result = .ok 1 ∧
      SameHandlers s.rx s'.rx ∧ s'.rx.reassembly.active = false := by
  have len : s.rx.reassembly.len = octets.length := by rw [← TcReassembly.octets_length, holding.octets]
  have total : packet.octets.length = octets.length + last.length := by rw [parts, List.length_append]
  have passed : walk.segment.fragment = some {
      mapId, segmentBoundary := .last, startsPacket := false, endsPacket := true, data := last, packetLen := 0 } := by
    rw [segment, TcSegment.fragment]
    simp only
    rw [if_neg (by simpa using ends)]
    rfl
  apply step.completed passed rfl _ _ served
  · apply TcReassembly.receive_next rfl holding.active holding.mapId
    · rw [len, holding.declared]
      exact total.ge
    · rw [holding.declared]
      exact fits
    · intro _
      rw [len, holding.declared]
      exact total.symm
  · intro reassembly' joined
    obtain ⟨_, _, _, octets'⟩ := joined.continues rfl
    exact ⟨joined.mapId, by rw [octets', holding.octets, parts]⟩

/-- An unsegmented segment with complete packets delivers them. -/
theorem complete_packets_delivered {packets : List EncodedPacket} (step : ServingWalk s walk s')
    (segment : walk.segment = { boundary := .unsegmented, mapId, data := packets.flatMap (·.octets) })
    (some : packets ≠ []) (inactive : s.rx.reassembly.active = false)
    (served : ∀ packet ∈ packets, Served s.rx ⟨mapId, packet⟩) :
    List.Forall₂ (DeliveredTo s.rx) walk.calls (packets.map (SentPacket.mk mapId)) ∧
      (∃ n, walk.result = .ok n) ∧ SameHandlers s.rx s'.rx ∧ s'.rx.reassembly.active = false := by
  obtain ⟨s₀, kept, runs⟩ := step
  have nonempty : ¬ (packets.flatMap (·.octets)).length = 0 := by
    obtain ⟨packet, packets, rfl⟩ := List.exists_cons_of_ne_nil some
    have header := packet.header_lt
    rw [List.flatMap_cons, List.length_append]
    omega
  have walks : walkParts walk.segment =
      walkPackets mapId (packets.flatMap (·.octets)).length (packets.flatMap (·.octets)) := by
    rw [segment, walkParts]
    simp only
    rw [if_neg nonempty]
  rw [walks] at runs
  have inactive₀ : s₀.rx.reassembly.active = false := by rw [kept.reassembly, inactive]
  have delivers := @walkPackets_delivers _ _ s₀ mapId packets _ le_rfl inactive₀ fun packet listed =>
    (served packet listed).same kept.handlerFor
  obtain ⟨segment, calls, result⟩ := walk
  cases result with
  | error e => exact (Fallible.error_of_runs delivers runs).elim
  | ok n =>
    obtain ⟨all, kept'⟩ := Fallible.ok_of_runs delivers runs
    refine ⟨all.imp fun _ _ delivered => delivered.same kept.handlerFor, ⟨n, rfl⟩, fun mapId apid => ?_, ?_⟩
    · exact (kept'.handlerFor mapId apid).trans (kept.handlerFor mapId apid)
    · rw [kept'.reassembly, kept.reassembly, inactive]

/-! ## Runs -/

/-- Any segments can be walked. -/
theorem walks_exist (s : State) (segments : List TcSegment) :
    ∃ walks s', Run ServingWalk s walks s' ∧ walks.map (·.segment) = segments := by
  induction segments generalizing s with
  | nil => exact ⟨[], s, .done, rfl⟩
  | cons segment segments ih =>
    have answers : ∀ (s : State) (op : TcOp), ∃ r t s', servingHandlers s op r t s' := by
      intro s op
      obtain ⟨r, answered⟩ := @handlerAnswer_exists (fun code => code = 0) 0 rfl op
      exact ⟨r, _, s, rfl, answered, .refl s⟩
    obtain ⟨calls, result, s₁, runs⟩ := Act.exists_runs answers ((walkParts segment).run s)
    obtain ⟨walks, s', rest, same⟩ := ih s₁
    refine ⟨⟨segment, calls, result⟩ :: walks, s', .step ⟨s, .refl s, runs⟩ rest, ?_⟩
    rw [List.map_cons, same]

/-- From an inactive reassembly, every way of carrying packets that have handlers delivers each packet once, in
order and octet by octet; every segment returns zero, and no reassembly stays open. -/
theorem carried_packets_are_delivered {segments : List TcSegment} {sent : List SentPacket}
    (carries : Carriage segments sent) (inactive : s.rx.reassembly.active = false)
    (served : ∀ packet ∈ sent, Served s.rx packet) :
    (∃ walks s', Run ServingWalk s walks s' ∧ walks.map (·.segment) = segments) ∧
    ∀ walks s', Run ServingWalk s walks s' → walks.map (·.segment) = segments →
      List.Forall₂ (DeliveredTo s.rx) (walks.flatMap (·.calls)) sent ∧
      (∀ walk ∈ walks, ∃ n, walk.result = .ok n) ∧ s'.rx.reassembly.active = false := by
  refine ⟨walks_exist s segments, ?_⟩
  induction carries generalizing s with
  | done =>
    intro walks s' run same
    obtain rfl := List.map_eq_nil_iff.mp same
    cases run
    exact ⟨.nil, by simp, inactive⟩
  | complete some carries ih =>
    intro walks s' run same
    obtain ⟨walk, walks, rfl, segment, same⟩ := List.map_eq_cons_iff.mp same
    cases run with
    | step one rest =>
      have now := fun packet listed => served ⟨_, packet⟩ (List.mem_append_left _ (List.mem_map_of_mem listed))
      obtain ⟨delivered, zero, kept, inactive'⟩ := complete_packets_delivered one segment some inactive now
      obtain ⟨others, zeros, ended⟩ := ih inactive'
        (fun packet listed => (served packet (List.mem_append_right _ listed)).same kept) walks s' rest same
      refine ⟨?_, List.forall_mem_cons.mpr ⟨zero, zeros⟩, ended⟩
      rw [List.flatMap_cons]
      exact List.rel_append delivered (others.imp fun _ _ delivered => delivered.same kept)
  | @split mapId packet first last middle segments sent fits header nonempty ends parts carries ih =>
    intro walks s' run same
    obtain ⟨now, later⟩ := List.forall_mem_cons.mp served
    obtain ⟨opening, walks, rfl, segment, same⟩ := List.map_eq_cons_iff.mp same
    obtain ⟨middles, walks, rfl, middleSegments, same⟩ := List.map_eq_append_iff.mp same
    obtain ⟨closing, walks, rfl, lastSegment, same⟩ := List.map_eq_cons_iff.mp same
    cases run with
    | step one rest =>
      obtain ⟨s₂, between, rest⟩ := rest.split
      cases rest with
      | step two rest =>
        have total : packet.octets.length = first.length + middle.flatten.length + last.length := by
          rw [parts, List.length_append, List.length_append]
        -- FIRST holds its octets, each CONTINUATION adds to them, and LAST delivers the whole
        obtain ⟨silent, zero, kept, held⟩ := first_fragment_held one segment inactive fits header
          (parts.trans (List.append_assoc ..)) (by simp [ends])
        obtain ⟨silents, kept', held'⟩ := middle_fragments_held between middleSegments held nonempty (by omega) fits
        have kept₂ : SameHandlers s.rx s₂.rx := fun mapId apid => (kept' mapId apid).trans (kept mapId apid)
        obtain ⟨⟨call, calls, delivered⟩, one', kept₃, inactive'⟩ :=
          last_fragment_delivers two lastSegment held' fits ends parts (now.same kept₂)
        have kept₄ : SameHandlers s.rx _ := fun mapId apid => (kept₃ mapId apid).trans (kept₂ mapId apid)
        -- no reassembly is open any more, so the rest of the carriage is as from the start
        obtain ⟨others, zeros, ended⟩ := ih inactive' (fun packet listed => (later packet listed).same kept₄) walks s'
          rest same
        have quiet : middles.flatMap (·.calls) = [] := by
          rw [List.flatMap_eq_nil_iff]
          exact fun walk listed => (silents walk listed).1
        refine ⟨?_, ?_, ended⟩
        · rw [List.flatMap_cons, List.flatMap_append, List.flatMap_cons, silent, quiet, calls]
          exact .cons (delivered.same kept₂) (others.imp fun _ _ delivered => delivered.same kept₄)
        · intro walk listed
          simp only [List.mem_cons, List.mem_append] at listed
          rcases listed with rfl | listed | rfl | listed
          · exact ⟨0, zero⟩
          · exact ⟨0, (silents walk listed).2⟩
          · exact ⟨1, one'⟩
          · exact zeros walk listed

/-! ## An abandoned reassembly -/

/-- An unsegmented segment of complete packets that have handlers -/
def WellFormed (rx : TcRx) (segment : TcSegment) : Prop :=
  ∃ mapId packets, packets ≠ [] ∧
    segment = { boundary := .unsegmented, mapId, data := packets.flatMap EncodedPacket.octets } ∧
    ∀ packet ∈ packets, Served rx ⟨mapId, packet⟩

/-- The number of segments that are refused because a reassembly is active -/
def refusedBusy (walks : List Walk) : Nat :=
  walks.countP fun walk => walk.result = .error (.errno .ebusy)

theorem WellFormed.same {rx rx' : TcRx} {segment : TcSegment} (wellFormed : WellFormed rx segment)
    (same : SameHandlers rx rx') : WellFormed rx' segment := by
  obtain ⟨mapId, packets, some, shape, served⟩ := wellFormed
  exact ⟨mapId, packets, some, shape, fun packet listed => (served packet listed).same same⟩

/-- A well-formed segment on an active reassembly is refused, and the reassembly stays active. -/
theorem WellFormed.busy (wellFormed : WellFormed s.rx walk.segment) (active : s.rx.reassembly.active = true)
    (step : ServingWalk s walk s') :
    walk.result = .error (.errno .ebusy) ∧ SameHandlers s.rx s'.rx ∧ s'.rx.reassembly.active = true := by
  obtain ⟨mapId, packets, some, segment, -⟩ := wellFormed
  obtain ⟨s₀, kept, runs⟩ := step
  obtain ⟨packet, packets, rfl⟩ := List.exists_cons_of_ne_nil some
  have header := packet.header_lt
  have length : (packet.octets ++ packets.flatMap (·.octets)).length ≠ 0 := by
    rw [List.length_append]
    omega
  obtain ⟨turns, enough⟩ := Nat.exists_eq_succ_of_ne_zero length
  have walks : walkParts walk.segment = walkPackets mapId (turns + 1) (packet.octets ++ packets.flatMap (·.octets)) := by
    rw [segment, walkParts]
    simp only [List.flatMap_cons]
    rw [if_neg length, enough]
  rw [walks] at runs
  have active₀ : s₀.rx.reassembly.active = true := by rw [kept.reassembly, active]
  have refuses := @walkPackets_busy _ _ s₀ mapId turns packet (packets.flatMap (·.octets)) active₀
  obtain ⟨_, calls, result⟩ := walk
  cases result with
  | ok n => exact (Fallible.ok_of_runs refuses runs).elim
  | error e =>
    obtain ⟨rfl, rfl⟩ := Fallible.error_of_runs refuses runs
    exact ⟨rfl, kept.handlerFor, active₀⟩

theorem refusedBusy_of_active (wellFormed : ∀ walk ∈ walks, WellFormed s.rx walk.segment)
    (active : s.rx.reassembly.active = true) (run : Run ServingWalk s walks s') :
    refusedBusy walks = walks.length := by
  induction run with
  | done => rfl
  | step one _ ih =>
    obtain ⟨now, later⟩ := List.forall_mem_cons.mp wellFormed
    obtain ⟨refused, same, active'⟩ := now.busy active one
    have rest := ih (fun walk listed => (later walk listed).same same) active'
    unfold refusedBusy at rest ⊢
    rw [List.countP_cons_of_pos (by simpa using refused), rest, List.length_cons]

theorem refusedBusy_of_inactive (wellFormed : ∀ walk ∈ walks, WellFormed s.rx walk.segment)
    (inactive : s.rx.reassembly.active = false) (run : Run ServingWalk s walks s') : refusedBusy walks = 0 := by
  induction run with
  | done => rfl
  | step one _ ih =>
    obtain ⟨⟨mapId, packets, some, segment, served⟩, later⟩ := List.forall_mem_cons.mp wellFormed
    obtain ⟨_, ⟨n, zero⟩, same, inactive'⟩ := complete_packets_delivered one segment some inactive served
    have rest := ih (fun walk listed => (later walk listed).same same) inactive'
    unfold refusedBusy at rest ⊢
    rw [List.countP_cons_of_neg (by simp [zero]), rest]

/-- An abandoned reassembly refuses every complete packet that follows it: at most one of them is refused exactly
when no reassembly is active at their start or there is at most one segment. -/
theorem abandoned_reassembly_blocks_iff {segments : List TcSegment}
    (wellFormed : ∀ segment ∈ segments, WellFormed s.rx segment) :
    (∀ walks s', Run ServingWalk s walks s' → walks.map (·.segment) = segments → refusedBusy walks ≤ 1) ↔
      s.rx.reassembly.active = false ∨ segments.length ≤ 1 := by
  have each : ∀ walks : List Walk, walks.map (·.segment) = segments →
      ∀ walk ∈ walks, WellFormed s.rx walk.segment := by
    rintro walks rfl walk listed
    exact wellFormed _ (List.mem_map_of_mem listed)
  constructor
  · intro atMostOne
    by_contra both
    obtain ⟨active, long⟩ := not_or.mp both
    obtain ⟨walks, s', run, same⟩ := walks_exist s segments
    have refused := refusedBusy_of_active (each walks same) (by simpa using active) run
    have bound := atMostOne walks s' run same
    have length := congrArg List.length same
    rw [List.length_map] at length
    rw [refused, length] at bound
    exact long bound
  · intro condition walks s' run same
    by_cases active : s.rx.reassembly.active = true
    · have refused := refusedBusy_of_active (each walks same) active run
      have length := congrArg List.length same
      rw [List.length_map] at length
      rw [refused, length]
      exact condition.resolve_left (by simp [active])
    · rw [refusedBusy_of_inactive (each walks same) (by simpa using active) run]
      exact Nat.zero_le 1

end ZephyrCcsds.Tc

/-! ## A FIRST segment that is never completed -/

namespace ZephyrCcsds.Tc

open Callback

section Sample

attribute [local instance] defaultKconfig Sdls.defaultKconfig

def routedEncoded : EncodedPacket where
  octets := [0x10, 0x05, 0xc0, 0x00, 0x00, 0x00, 0xab]
  complete := by decide

def completeOnMap0 : TcSegment where
  boundary := .unsegmented
  mapId := 0
  data := routedEncoded.octets

theorem routedEncoded_served {rx : TcRx} (chosen : rx.handlerFor 0 5 = some 1) : Served rx ⟨0, routedEncoded⟩ :=
  ⟨routedPacket, 1, by decide, chosen⟩

theorem completeOnMap0_wellFormed {rx : TcRx} (chosen : rx.handlerFor 0 5 = some 1) : WellFormed rx completeOnMap0 :=
  ⟨0, [routedEncoded], by simp, by simp [completeOnMap0], by simpa using routedEncoded_served chosen⟩

theorem routedProfile_handlerFor : routedProfile.rx.handlerFor 0 5 = some 1 := by decide +kernel

/-- The profile behind a FIRST segment -/
theorem abandoned_profile : ∃ walks s, Run AnyWalk routedProfile walks s ∧ s.rx.reassembly.active = true ∧
    s.rx.handlerFor 0 5 = some 1 := by
  have played : (playWalks routedProfile [(firstOnMap0, [])]).any
      (fun played => played.2.rx.reassembly.active && decide (played.2.rx.handlerFor 0 5 = some 1)) = true := by
    decide +kernel
  obtain ⟨⟨walks, s⟩, played, facts⟩ := (Option.any_eq_true _ _).mp played
  obtain ⟨active, chosen⟩ := (Bool.and_eq_true _ _).mp facts
  obtain ⟨run, -⟩ := @runs_of_playWalks _ _ (fun _ => True) KeepsReassembly _ _ (fun _ => rfl) _ (by simp) _ played
  exact ⟨walks, s, run, active, of_decide_eq_true chosen⟩

/-- Two complete packets in a row are refused behind a FIRST segment. -/
theorem abandoned_reassembly_blocks : ¬ ∀ (s₀ s s' : State) (before walks : List Walk),
    s₀.rx.reassembly.active = false → Run AnyWalk s₀ before s →
    (∀ walk ∈ walks, WellFormed s.rx walk.segment) → Run ServingWalk s walks s' → refusedBusy walks ≤ 1 := by
  intro claim
  obtain ⟨before, s, first, active, chosen⟩ := abandoned_profile
  obtain ⟨walks, s', run, same⟩ := walks_exist s [completeOnMap0, completeOnMap0]
  have wellFormed : ∀ walk ∈ walks, WellFormed s.rx walk.segment := by
    intro walk listed
    have segment : walk.segment ∈ [completeOnMap0, completeOnMap0] := same ▸ List.mem_map_of_mem listed
    have shape : walk.segment = completeOnMap0 := by simpa using segment
    rw [shape]
    exact completeOnMap0_wellFormed chosen
  have bound := claim _ _ _ _ _ routedProfile_inactive first wellFormed run
  rw [refusedBusy_of_active wellFormed active run] at bound
  have length := congrArg List.length same
  simp only [List.length_map, List.length_cons, List.length_nil] at length
  omega

theorem abandoned_reassembly_blocks_iff_sample :
    (∀ walks s', Run ServingWalk routedProfile walks s' →
      walks.map (·.segment) = [completeOnMap0, completeOnMap0] → refusedBusy walks ≤ 1) ↔
    routedProfile.rx.reassembly.active = false ∨ [completeOnMap0, completeOnMap0].length ≤ 1 :=
  abandoned_reassembly_blocks_iff (by simpa using completeOnMap0_wellFormed routedProfile_handlerFor)

/-- The packet in a segment of its own, and then in two fragments -/
theorem routedEncoded_carriage : Carriage [completeOnMap0, firstOnMap0, lastOnMap0]
    [⟨0, routedEncoded⟩, ⟨0, routedEncoded⟩] := by
  have split : Carriage [firstOnMap0, lastOnMap0] [⟨0, routedEncoded⟩] :=
    @Carriage.split _ 0 routedEncoded firstOnMap0.data lastOnMap0.data [] [] [] (by decide) (by decide) (by simp)
      (by decide) (by decide) .done
  exact @Carriage.complete _ 0 [routedEncoded] _ _ (by simp) split

/-- A packet with four octets of data -/
def continuedEncoded : EncodedPacket where
  octets := [0x10, 0x05, 0xc0, 0x01, 0x00, 0x03, 0x01, 0x02, 0x03, 0x04]
  complete := by decide

theorem continuedEncoded_served {rx : TcRx} (chosen : rx.handlerFor 0 5 = some 1) : Served rx ⟨0, continuedEncoded⟩ :=
  ⟨{ routedPacket with sequenceCount := 1, payload := [1, 2, 3, 4] }, 1, by decide, chosen⟩

/-- Two packets in one segment, and a packet in a FIRST, two CONTINUATION parts and a LAST -/
def continuedSegments : List TcSegment :=
  [{ boundary := .unsegmented, mapId := 0, data := routedEncoded.octets ++ continuedEncoded.octets },
    { boundary := .first, mapId := 0, data := [0x10, 0x05, 0xc0, 0x01, 0x00, 0x03, 0x01] },
    { boundary := .continuation, mapId := 0, data := [0x02] },
    { boundary := .continuation, mapId := 0, data := [0x03] },
    { boundary := .last, mapId := 0, data := [0x04] }]

theorem continuedSegments_carriage :
    Carriage continuedSegments [⟨0, routedEncoded⟩, ⟨0, continuedEncoded⟩, ⟨0, continuedEncoded⟩] := by
  have split : Carriage (continuedSegments.drop 1) [⟨0, continuedEncoded⟩] :=
    @Carriage.split _ 0 continuedEncoded [0x10, 0x05, 0xc0, 0x01, 0x00, 0x03, 0x01] [0x04] [[0x02], [0x03]] [] []
      (by decide) (by decide) (by simp) (by decide) (by decide) .done
  exact @Carriage.complete _ 0 [routedEncoded, continuedEncoded] _ _ (by simp) split

theorem carried_packets_are_delivered_sample : ∃ walks s', Run ServingWalk routedProfile walks s' ∧
    walks.map (·.segment) = continuedSegments ∧
    List.Forall₂ (DeliveredTo routedProfile.rx) (walks.flatMap (·.calls))
      [⟨0, routedEncoded⟩, ⟨0, continuedEncoded⟩, ⟨0, continuedEncoded⟩] := by
  have facts := carried_packets_are_delivered continuedSegments_carriage routedProfile_inactive
    (by simpa using ⟨routedEncoded_served routedProfile_handlerFor, continuedEncoded_served routedProfile_handlerFor⟩)
  obtain ⟨walks, s', run, same⟩ := facts.1
  exact ⟨walks, s', run, same, (facts.2 walks s' run same).1⟩

end Sample

end ZephyrCcsds.Tc
