import ZephyrCcsds.Callback.Fallible
import ZephyrCcsds.Runs
import ZephyrCcsds.Tc.Profile

/-! # Walking segments

What `ccsds_tc_segment_walk_parts` does with one segment, for packet handlers that leave the
reassembly alone: a complete packet is dispatched from the segment, a fragment goes through
the reassembly, and only the fragment that completes a packet calls a handler.
-/

namespace ZephyrCcsds.Tc

open Callback

variable [Kconfig] [Sdls.Kconfig]

/-! ## Packet handlers -/

/-- A call of the walk, with the reassembly that it is made in -/
structure PartCall where
  reassembly : TcReassembly
  op : TcOp

/-- Whether an answer of a packet handler is one of `answers` -/
def HandlerAnswer (answers : Int → Prop) : (op : TcOp) → TcRes op → Prop
  | .psa _, _ => True
  | .authenticatedRx, _ => True
  | .handler .., code => answers code

/-- The environment in which handlers return one of `answers` and may change the state along `touches` before
they do. -/
def handlers (answers : Int → Prop) (touches : State → State → Prop) : Environment TcOp TcRes State PartCall :=
  fun s op r t s' => t = [⟨s.rx.reassembly, op⟩] ∧ HandlerAnswer answers op r ∧ touches s s'

/-- The reassembly is private to the profile. -/
def KeepsReassembly (s s' : State) : Prop := s'.rx.reassembly = s.rx.reassembly

/-- The routes of the profile stay as they are too. -/
structure KeepsRoutes (s s' : State) : Prop where
  reassembly : s'.rx.reassembly = s.rx.reassembly
  router : s'.rx.router = s.rx.router
  mapApidRoute : s'.rx.mapApidRoute = s.rx.mapApidRoute

omit [Kconfig] [Sdls.Kconfig] in
theorem handlerAnswer_exists {answers : Int → Prop} {code : Int} (answer : answers code) (op : TcOp) :
    ∃ r, HandlerAnswer answers op r := by
  cases op with
  | psa op => exact ⟨(default : Sdls.PsaRes op), trivial⟩
  | authenticatedRx => exact ⟨0, trivial⟩
  | handler => exact ⟨code, answer⟩

/-- The handler that a packet is dispatched to -/
def TcRx.handlerFor (rx : TcRx) (mapId apid : Nat) : Option Handler :=
  if rx.mapApidRoute.active ∧ rx.mapApidRoute.mapId = mapId ∧ rx.mapApidRoute.apid = apid then
    some rx.mapApidRoute.handler
  else
    (rx.router.find apid).map (·.handler)

theorem KeepsRoutes.handlerFor {s s' : State} (keeps : KeepsRoutes s s') (mapId apid : Nat) :
    s'.rx.handlerFor mapId apid = s.rx.handlerFor mapId apid := by
  unfold TcRx.handlerFor
  rw [keeps.router, keeps.mapApidRoute]

theorem KeepsRoutes.refl (s : State) : KeepsRoutes s s := ⟨rfl, rfl, rfl⟩

variable {answers : Int → Prop} {touches : State → State → Prop} {s : State}

/-- The handler for a packet has been called, and nothing else. -/
def HandlerCalled (touches : State → State → Prop) (s : State) (mapId : Nat) (packet : SpacePacket)
    (t : List PartCall) (s' : State) : Prop :=
  ∃ handler, s.rx.handlerFor mapId packet.apid = some handler ∧
    t = [⟨s.rx.reassembly, .handler handler packet⟩] ∧ touches s s'

/-- A packet has been decoded and given to its handler. -/
def Dispatched (touches : State → State → Prop) (s : State) (mapId : Nat) (encoded : Bytes) (t : List PartCall)
    (s' : State) : Prop :=
  ∃ packet, spacePacketDecode encoded = .ok packet ∧ HandlerCalled touches s mapId packet t s'

/-- The error is the answer of a handler. -/
def FromHandler (answers : Int → Prop) (e : Failure) : Prop := ∃ code, answers code ∧ code ≠ 0 ∧ e = .callback code

/-- There is no handler for a packet. -/
def Unserved (s : State) (mapId : Nat) (encoded : Bytes) : Prop :=
  ∀ packet, spacePacketDecode encoded = .ok packet → s.rx.handlerFor mapId packet.apid = none

omit [Kconfig] [Sdls.Kconfig] in
theorem spacePacketDecode_apid {encoded : Bytes} {packet : SpacePacket}
    (decoded : spacePacketDecode encoded = .ok packet) : packet.apid ≤ apidMax := by
  unfold spacePacketDecode at decoded
  simp only at decoded
  split_ifs at decoded
  cases decoded
  show _ % 2048 ≤ 2047
  omega

omit [Kconfig] [Sdls.Kconfig] in
theorem spacePacketDecode_not_ebusy {encoded : Bytes} {e : Errno} (refused : spacePacketDecode encoded = .error e) :
    Failure.errno e ≠ .errno .ebusy := by
  unfold spacePacketDecode at refused
  simp only at refused
  split_ifs at refused <;> cases refused <;> decide

/-- The dispatch of a packet calls the handler for it, if it decodes and there is one. -/
theorem wp_dispatchEncodedPacket {τ : Type} {E : Environment TcOp TcRes State τ} {mapId : Nat} {encoded : Bytes}
    {Q : List τ → Unit → State → Prop} {F : List τ → Failure → State → Prop}
    (called : ∀ packet handler, spacePacketDecode encoded = .ok packet →
      s.rx.handlerFor mapId packet.apid = some handler → (callHandler handler packet).wp E Q F s)
    (unserved : ∀ e, Unserved s mapId encoded → e ≠ .errno .ebusy → F [] e s) :
    (dispatchEncodedPacket mapId encoded).wp E Q F s := by
  unfold dispatchEncodedPacket
  cases decoded : spacePacketDecode encoded with
  | error e =>
    apply unserved _ _ (spacePacketDecode_not_ebusy decoded)
    intro packet other
    rw [decoded] at other
    cases other
  | ok packet =>
    simp only [dispatchTcPacket, Fallible.wp_bind, Fallible.wp_read, List.nil_append]
    by_cases routed : s.rx.mapApidRoute.active ∧ s.rx.mapApidRoute.mapId = mapId ∧
        s.rx.mapApidRoute.apid = packet.apid
    · rw [if_pos routed]
      exact called packet _ decoded (if_pos routed)
    · rw [if_neg routed]
      have chosen : s.rx.handlerFor mapId packet.apid = (s.rx.router.find packet.apid).map (·.handler) :=
        if_neg routed
      simp only [routerDispatch, Fallible.wp_bind, Fallible.wp_failIf, Fallible.wp_read, List.nil_append]
      constructor
      · intro beyond
        have apid := spacePacketDecode_apid decoded
        omega
      · intro _
        cases found : s.rx.router.find packet.apid with
        | none =>
          rw [found] at chosen
          refine unserved _ (fun other decoded' => ?_) (by decide)
          rw [decoded] at decoded'
          cases decoded'
          exact chosen
        | some entry =>
          rw [found] at chosen
          exact called packet _ decoded chosen

theorem dispatchEncodedPacket_spec (mapId : Nat) (encoded : Bytes) :
    (dispatchEncodedPacket mapId encoded).wp (handlers answers touches)
      (fun t _ s' => Dispatched touches s mapId encoded t s')
      (fun t e s' => (Dispatched touches s mapId encoded t s' ∧ FromHandler answers e) ∨
        Unserved s mapId encoded ∧ t = [] ∧ s' = s ∧ e ≠ .errno .ebusy) s := by
  apply wp_dispatchEncodedPacket
  · intro packet handler decoded chosen
    simp only [callHandler, Fallible.wp_bind, Fallible.wp_call, Fallible.wp_failIf]
    rintro code t s' ⟨rfl, answered, touched⟩
    have called : Dispatched touches s mapId encoded [⟨s.rx.reassembly, .handler handler packet⟩] s' :=
      ⟨packet, decoded, handler, chosen, rfl, touched⟩
    constructor
    · intro nonzero
      exact .inl ⟨called, code, answered, nonzero, rfl⟩
    · intro _
      exact called
  · intro e nobody other
    exact .inr ⟨nobody, rfl, rfl, other⟩

/-! ## Fragments -/

/-- The octets of a packet that have arrived -/
def TcReassembly.octets (reassembly : TcReassembly) : Bytes := reassembly.buffer.take reassembly.len

/-- The reassembly behind a part of a packet -/
def TcReassembly.receive (reassembly : TcReassembly) (part : TcSegmentPart) : TcReassembly × Except Errno Unit :=
  match reassembly.start part with
  | (reassembly, .error e) => (reassembly, .error e)
  | (reassembly, .ok ()) => reassembly.append part

omit [Sdls.Kconfig] in
theorem TcReassembly.octets_length (reassembly : TcReassembly) : reassembly.octets.length = reassembly.len := by
  rw [octets, List.length_take, reassembly.buffer_length]
  exact Nat.min_eq_left reassembly.len_le

omit [Sdls.Kconfig] in
theorem TcReassembly.append_octets (reassembly : TcReassembly) (data : Bytes) :
    (reassembly.buffer.overwrite reassembly.len data).take (reassembly.len + data.length) =
      reassembly.octets ++ data := by
  have front : (reassembly.octets ++ data).length = reassembly.len + data.length := by
    rw [List.length_append, reassembly.octets_length]
  show ((reassembly.octets ++ data) ++ _).take _ = _
  rw [← front, List.take_left]

/-- A part that the reassembly has taken -/
structure Joined (reassembly : TcReassembly) (part : TcSegmentPart) (reassembly' : TcReassembly) : Prop where
  active : reassembly'.active = true
  mapId : reassembly'.mapId = part.mapId
  starts : part.startsPacket = true → reassembly.active = false ∧ reassembly'.expectedLen = part.packetLen ∧
    reassembly'.octets = part.data
  continues : part.startsPacket = false → reassembly.active = true ∧ reassembly.mapId = part.mapId ∧
    reassembly'.expectedLen = reassembly.expectedLen ∧ reassembly'.octets = reassembly.octets ++ part.data
  len_le : reassembly'.len ≤ reassembly'.expectedLen
  expectedLen_le : reassembly'.expectedLen ≤ tcMaxSpacePacketLen
  complete : part.endsPacket = true → reassembly'.len = reassembly'.expectedLen

omit [Sdls.Kconfig] in
/-- The copy of a part that belongs to the packet -/
theorem TcReassembly.append_ok {reassembly reassembly' : TcReassembly} {part : TcSegmentPart}
    (taken : reassembly.append part = (reassembly', .ok ())) :
    reassembly'.active = reassembly.active ∧ reassembly'.mapId = reassembly.mapId ∧
    reassembly'.expectedLen = reassembly.expectedLen ∧ reassembly'.octets = reassembly.octets ++ part.data ∧
    reassembly'.len ≤ reassembly'.expectedLen ∧ reassembly'.expectedLen ≤ tcMaxSpacePacketLen ∧
    (part.endsPacket = true → reassembly'.len = reassembly'.expectedLen) := by
  unfold append at taken
  by_cases fits : part.data.length ≤ tcMaxSpacePacketLen - reassembly.len
  · simp only [dif_pos fits] at taken
    split_ifs at taken with long short
    · cases taken
    · cases taken
    cases taken
    refine ⟨rfl, rfl, rfl, reassembly.append_octets part.data, ?_, ?_, ?_⟩
    · show reassembly.len + part.data.length ≤ reassembly.expectedLen
      omega
    · show reassembly.expectedLen ≤ tcMaxSpacePacketLen
      omega
    · intro ends
      show reassembly.len + part.data.length = reassembly.expectedLen
      by_contra differ
      exact short ⟨ends, differ⟩
  · rw [dif_neg fits] at taken
    cases taken

omit [Sdls.Kconfig] in
theorem TcReassembly.append_error {reassembly reassembly' : TcReassembly} {part : TcSegmentPart} {e : Errno}
    (refused : reassembly.append part = (reassembly', .error e)) : reassembly' = .zero := by
  unfold append at refused
  by_cases fits : part.data.length ≤ tcMaxSpacePacketLen - reassembly.len
  · simp only [dif_pos fits] at refused
    split_ifs at refused <;> cases refused <;> rfl
  · rw [dif_neg fits] at refused
    cases refused
    rfl

omit [Sdls.Kconfig] in
theorem TcReassembly.receive_ok {reassembly reassembly' : TcReassembly} {part : TcSegmentPart}
    (taken : reassembly.receive part = (reassembly', .ok ())) : Joined reassembly part reassembly' := by
  unfold receive start at taken
  cases starts : part.startsPacket with
  | true =>
    simp only [starts, if_true] at taken
    by_cases active : reassembly.active = true
    · simp only [if_pos active] at taken
      cases taken
    · by_cases size : part.packetLen = 0 ∨ tcMaxSpacePacketLen < part.packetLen
      · simp only [if_neg active, if_pos size] at taken
        cases taken
      · simp only [if_neg active, if_neg size] at taken
        obtain ⟨active', mapId', expected', octets', len, bound, complete⟩ := append_ok taken
        refine ⟨active', mapId', fun _ => ⟨by simpa using active, expected', octets'⟩, ?_, len, bound, complete⟩
        simp [starts]
  | false =>
    simp only [starts, Bool.false_eq_true, if_false] at taken
    by_cases other : ¬ reassembly.active = true ∨ reassembly.mapId ≠ part.mapId
    · simp only [if_pos other] at taken
      cases taken
    · simp only [if_neg other] at taken
      obtain ⟨active, same⟩ := not_or.mp other
      have active := not_not.mp active
      have same := not_not.mp same
      obtain ⟨active', mapId', expected', octets', len, bound, complete⟩ := append_ok taken
      refine ⟨active'.trans active, mapId'.trans same, ?_, fun _ => ⟨active, same, expected', octets'⟩, len, bound,
        complete⟩
      simp [starts]

omit [Sdls.Kconfig] in
/-- A fragment that is refused leaves no reassembly open. -/
theorem TcReassembly.receive_error {reassembly reassembly' : TcReassembly} {part : TcSegmentPart} {e : Errno}
    (refused : reassembly.receive part = (reassembly', .error e)) : reassembly'.active = false := by
  unfold receive start at refused
  split_ifs at refused with starts active size other
  · cases refused
    rfl
  · cases refused
    simpa using active
  · rw [append_error refused]
    rfl
  · cases refused
    rfl
  · rw [append_error refused]
    rfl

/-! ## Parts -/

/-- How the dispatch of a fragment ends -/
inductive FragmentOutcome (answers : Int → Prop) (touches : State → State → Prop) (part : TcSegmentPart) (s : State) :
    List PartCall → Except Failure Nat → State → Prop where
  | refused {reassembly : TcReassembly} {e : Errno} (received : s.rx.reassembly.receive part = (reassembly, .error e)) :
      FragmentOutcome answers touches part s [] (.error (.errno e)) (s.withReassembly reassembly)
  | kept {reassembly : TcReassembly} (received : s.rx.reassembly.receive part = (reassembly, .ok ()))
      (goesOn : part.endsPacket = false) :
      FragmentOutcome answers touches part s [] (.ok 0) (s.withReassembly reassembly)
  | delivered {reassembly : TcReassembly} {t : List PartCall} {s' : State}
      (received : s.rx.reassembly.receive part = (reassembly, .ok ())) (ends : part.endsPacket = true)
      (dispatched : Dispatched touches (s.withReassembly reassembly) reassembly.mapId reassembly.octets t s') :
      FragmentOutcome answers touches part s t (.ok 1) (s'.withReassembly .zero)
  | answered {reassembly : TcReassembly} {t : List PartCall} {e : Failure} {s' : State}
      (received : s.rx.reassembly.receive part = (reassembly, .ok ())) (ends : part.endsPacket = true)
      (dispatched : Dispatched touches (s.withReassembly reassembly) reassembly.mapId reassembly.octets t s')
      (answer : FromHandler answers e) :
      FragmentOutcome answers touches part s t (.error e) (s'.withReassembly .zero)
  | unserved {reassembly : TcReassembly} {e : Failure}
      (received : s.rx.reassembly.receive part = (reassembly, .ok ())) (ends : part.endsPacket = true)
      (nobody : Unserved (s.withReassembly reassembly) reassembly.mapId reassembly.octets) :
      FragmentOutcome answers touches part s [] (.error e) (s.withReassembly .zero)

theorem wp_reassemble {τ : Type} {E : Environment TcOp TcRes State τ}
    {step : TcReassembly → TcReassembly × Except Errno Unit} {Q : List τ → Unit → State → Prop}
    {F : List τ → Failure → State → Prop} :
    (reassemble step).wp E Q F s ↔
      ((step s.rx.reassembly).2 = .ok () → Q [] () (s.withReassembly (step s.rx.reassembly).1)) ∧
        ∀ e, (step s.rx.reassembly).2 = .error e → F [] (.errno e) (s.withReassembly (step s.rx.reassembly).1) := by
  simp only [reassemble, Fallible.wp_bind, Fallible.wp_read, Fallible.wp_modify]
  cases (step s.rx.reassembly).2 with
  | error e => simp
  | ok _ => simp

theorem dispatchTcSegmentPart_fragment {part : TcSegmentPart} (fragment : (part.startsPacket && part.endsPacket) = false) :
    (dispatchTcSegmentPart part).wp (handlers answers touches)
      (fun t n s' => FragmentOutcome answers touches part s t (.ok n) s')
      (fun t e s' => FragmentOutcome answers touches part s t (.error e) s') s := by
  unfold dispatchTcSegmentPart
  simp only [fragment, Bool.false_eq_true, if_false, Fallible.wp_bind, wp_reassemble]
  obtain ⟨started, verdict⟩ : ∃ started, s.rx.reassembly.start part = started := ⟨_, rfl⟩
  obtain ⟨reassembly₁, result₁⟩ := started
  rw [verdict]
  constructor
  · rintro rfl
    -- the second step starts from what the first has stored
    show _ ∧ _
    obtain ⟨appended, verdict'⟩ : ∃ appended, reassembly₁.append part = appended := ⟨_, rfl⟩
    obtain ⟨reassembly₂, result₂⟩ := appended
    have received : s.rx.reassembly.receive part = (reassembly₂, result₂) := by
      rw [TcReassembly.receive, verdict]
      exact verdict'
    have stored : (s.withReassembly reassembly₁).rx.reassembly = reassembly₁ := rfl
    rw [stored, verdict']
    constructor
    · rintro rfl
      by_cases ends : part.endsPacket = true
      · simp only [ends, not_true_eq_false, if_false, Fallible.wp_bind, Fallible.wp_read, Fallible.wp_attempt,
          Fallible.wp_modify]
        apply Fallible.wp_mono (dispatchEncodedPacket_spec (s := s.withReassembly reassembly₂) reassembly₂.mapId
          reassembly₂.octets)
        · intro t _ s' dispatched
          rw [← List.append_nil t] at dispatched
          exact .delivered received ends dispatched
        · rintro t e s' (⟨dispatched, answer⟩ | ⟨nobody, rfl, rfl, -⟩)
          · rw [← List.append_nil t] at dispatched
            exact .answered received ends dispatched answer
          · exact .unserved received ends nobody
      · simp only [ends]
        exact .kept received (by simpa using ends)
    · rintro e rfl
      exact .refused received
  · rintro e rfl
    refine .refused ?_
    rw [TcReassembly.receive, verdict]

/-- How the dispatch of a complete packet ends -/
inductive PacketOutcome (answers : Int → Prop) (touches : State → State → Prop) (part : TcSegmentPart) (s : State) :
    List PartCall → Except Failure Nat → State → Prop where
  | busy (active : s.rx.reassembly.active = true) :
      PacketOutcome answers touches part s [] (.error (.errno .ebusy)) s
  | delivered {t : List PartCall} {s' : State} (inactive : s.rx.reassembly.active = false)
      (dispatched : Dispatched touches s part.mapId part.data t s') :
      PacketOutcome answers touches part s t (.ok 1) s'
  | answered {t : List PartCall} {e : Failure} {s' : State} (inactive : s.rx.reassembly.active = false)
      (dispatched : Dispatched touches s part.mapId part.data t s') (answer : FromHandler answers e) :
      PacketOutcome answers touches part s t (.error e) s'
  | unserved {e : Failure} (inactive : s.rx.reassembly.active = false) (nobody : Unserved s part.mapId part.data)
      (other : e ≠ .errno .ebusy) :
      PacketOutcome answers touches part s [] (.error e) s

theorem dispatchTcSegmentPart_packet {part : TcSegmentPart} (whole : (part.startsPacket && part.endsPacket) = true) :
    (dispatchTcSegmentPart part).wp (handlers answers touches)
      (fun t n s' => PacketOutcome answers touches part s t (.ok n) s')
      (fun t e s' => PacketOutcome answers touches part s t (.error e) s') s := by
  unfold dispatchTcSegmentPart
  simp only [whole, if_true, Fallible.wp_bind, Fallible.wp_read, Fallible.wp_failIf]
  constructor
  · intro active
    exact .busy active
  · intro inactive
    have inactive : s.rx.reassembly.active = false := by simpa using inactive
    apply Fallible.wp_mono (dispatchEncodedPacket_spec part.mapId part.data)
    · intro t _ s' dispatched
      simp only [List.nil_append, List.append_nil, Fallible.wp_pure]
      exact .delivered inactive dispatched
    · rintro t e s' (⟨dispatched, answer⟩ | ⟨nobody, rfl, rfl, other⟩)
      · exact .answered inactive dispatched answer
      · exact .unserved inactive nobody other

/-! ## Segments -/

/-- The fragment that the walk passes on, for a segment that carries one -/
def TcSegment.fragment (segment : TcSegment) : Option TcSegmentPart :=
  if segment.data.length = 0 then none
  else
    match segment.boundary with
    | .continuation | .last =>
      some {
        mapId := segment.mapId, segmentBoundary := segment.boundary, startsPacket := false
        endsPacket := segment.boundary.endsPacket, data := segment.data, packetLen := 0 }
    | .first =>
      if segment.data.length < spacePacketPrimaryHdrLen then none
      else if encodedPacketLen segment.data ≤ segment.data.length then none
      else
        some {
          mapId := segment.mapId, segmentBoundary := segment.boundary, startsPacket := true
          endsPacket := false, data := segment.data, packetLen := encodedPacketLen segment.data }
    | .unsegmented => none

/-- The fragment of a segment -/
structure IsFragment (segment : TcSegment) (part : TcSegmentPart) : Prop where
  mapId : part.mapId = segment.mapId
  data : part.data = segment.data
  starts : part.startsPacket = true ↔ segment.boundary = .first
  ends : part.endsPacket = true ↔ segment.boundary = .last
  segmented : segment.boundary ≠ .unsegmented
  packetLen : segment.boundary = .first → part.packetLen = encodedPacketLen segment.data ∧
    spacePacketPrimaryHdrLen ≤ segment.data.length

omit [Kconfig] [Sdls.Kconfig] in
theorem TcSegment.isFragment {segment : TcSegment} {part : TcSegmentPart} (passed : segment.fragment = some part) :
    IsFragment segment part := by
  obtain ⟨boundary, mapId, data⟩ := segment
  unfold fragment at passed
  by_cases empty : data.length = 0
  · simp [empty] at passed
  · cases boundary with
    | continuation =>
      simp only [if_neg empty, Option.some.injEq] at passed
      subst passed
      exact ⟨rfl, rfl, by simp, by simp [SegmentBoundary.endsPacket], by simp, by simp⟩
    | last =>
      simp only [if_neg empty, Option.some.injEq] at passed
      subst passed
      exact ⟨rfl, rfl, by simp, by simp [SegmentBoundary.endsPacket], by simp, by simp⟩
    | unsegmented => simp [empty] at passed
    | first =>
      simp only [if_neg empty] at passed
      split_ifs at passed with headless whole
      simp only [Option.some.injEq] at passed
      subst passed
      exact ⟨rfl, rfl, by simp, by simp, by simp, fun _ => ⟨rfl, by simpa using headless⟩⟩

omit [Kconfig] [Sdls.Kconfig] in
theorem IsFragment.not_whole {segment : TcSegment} {part : TcSegmentPart} (fragment : IsFragment segment part) :
    (part.startsPacket && part.endsPacket) = false := by
  by_contra whole
  simp only [Bool.not_eq_false, Bool.and_eq_true] at whole
  have first := fragment.starts.mp whole.1
  rw [fragment.ends.mp whole.2] at first
  cases first

theorem walkParts_fragment {segment : TcSegment} {part : TcSegmentPart} (passed : segment.fragment = some part) :
    walkParts segment = dispatchTcSegmentPart part := by
  obtain ⟨boundary, mapId, data⟩ := segment
  unfold TcSegment.fragment at passed
  unfold walkParts
  by_cases empty : data.length = 0
  · simp [empty] at passed
  · cases boundary with
    | continuation =>
      simp only [if_neg empty, Option.some.injEq] at passed ⊢
      rw [passed]
    | last =>
      simp only [if_neg empty, Option.some.injEq] at passed ⊢
      rw [passed]
    | unsegmented => simp [empty] at passed
    | first =>
      simp only [if_neg empty] at passed ⊢
      split_ifs at passed ⊢ with headless whole
      rw [Option.some.inj passed]

/-- A walk that passes no fragment on -/
def OutsideReassembly (s : State) (t : List PartCall) (s' : State) : Prop :=
  s'.rx.reassembly = s.rx.reassembly ∧ ∀ call ∈ t, call.reassembly = s.rx.reassembly

instance : Composes (OutsideReassembly : State → List PartCall → State → Prop) where
  refl s := ⟨rfl, by simp⟩
  trans first second := by
    refine ⟨second.1.trans first.1, fun call made => ?_⟩
    rcases List.mem_append.mp made with early | late
    · exact first.2 call early
    · exact (second.2 call late).trans first.1

theorem Dispatched.outside (keeps : ∀ s s', touches s s' → KeepsReassembly s s') {mapId : Nat} {encoded : Bytes}
    {t : List PartCall} {s' : State} (dispatched : Dispatched touches s mapId encoded t s') :
    OutsideReassembly s t s' := by
  obtain ⟨packet, _, handler, _, rfl, touched⟩ := dispatched
  refine ⟨keeps s s' touched, fun call made => ?_⟩
  rw [List.mem_singleton.mp made]

theorem PacketOutcome.outside (keeps : ∀ s s', touches s s' → KeepsReassembly s s') {part : TcSegmentPart}
    {t : List PartCall} {r : Except Failure Nat} {s' : State}
    (outcome : PacketOutcome answers touches part s t r s') : OutsideReassembly s t s' := by
  cases outcome with
  | busy => exact Composes.refl _
  | delivered _ dispatched => exact dispatched.outside keeps
  | answered _ dispatched => exact dispatched.outside keeps
  | unserved => exact Composes.refl _

theorem walkPackets_outside (keeps : ∀ s s', touches s s' → KeepsReassembly s s') (mapId turns : Nat) (data : Bytes) :
    (walkPackets mapId turns data).Along (handlers answers touches) OutsideReassembly := by
  induction turns generalizing data with
  | zero => exact Fallible.along_pure
  | succ turns ih =>
    unfold walkPackets
    apply Fallible.along_ite Fallible.along_pure
    apply Fallible.along_ite Fallible.along_fail
    apply Fallible.along_ite Fallible.along_fail
    apply Fallible.along_bind
    · apply Fallible.along_of_wp
      intro s
      exact Fallible.wp_mono (dispatchTcSegmentPart_packet rfl) (fun _ _ _ outcome => outcome.outside keeps)
        fun _ _ _ outcome => outcome.outside keeps
    · intro first
      exact Fallible.along_bind (ih _) fun rest => Fallible.along_pure

theorem walkParts_outside (keeps : ∀ s s', touches s s' → KeepsReassembly s s') {segment : TcSegment}
    (passed : segment.fragment = none) :
    (walkParts segment).Along (handlers answers touches) OutsideReassembly := by
  obtain ⟨boundary, mapId, data⟩ := segment
  unfold TcSegment.fragment at passed
  unfold walkParts
  by_cases empty : data.length = 0
  · simp only [if_pos empty]
    exact Fallible.along_fail
  · cases boundary with
    | continuation => simp [empty] at passed
    | last => simp [empty] at passed
    | unsegmented =>
      simp only [if_neg empty]
      exact walkPackets_outside keeps mapId data.length data
    | first =>
      by_cases headless : data.length < spacePacketPrimaryHdrLen
      · simp only [if_neg empty, if_pos headless]
        exact Fallible.along_fail
      · by_cases whole : encodedPacketLen data ≤ data.length
        · simp only [if_neg empty, if_neg headless, if_pos whole]
          exact Fallible.along_fail
        · simp [empty, headless, whole] at passed

end ZephyrCcsds.Tc
