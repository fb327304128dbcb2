import ZephyrCcsds.Tc.Cltu
import ZephyrCcsds.Tc.PacketDelivery
import ZephyrCcsds.Tc.Provenance
import ZephyrCcsds.Tc.SequenceControl

/-! # The uplink

A ground station numbers the segments that carry its packets and sends each in a Type-AD frame.  The link
loses, repeats and reorders CLTUs inside the COP-1 window, flips a bit in each codeblock, and brings other CLTUs
in between; the profile decodes, accepts, reassembles and dispatches.

**Main results:**

- `Pending.advance`: a walk of the next segment delivers what it completes, and the rest stays to come.
- `uplink_delivers_in_order`: in every run the packets are delivered once and in order, and no run is stuck.
-/

namespace ZephyrCcsds.Tc

open Callback

variable [Kconfig]

/-! ## The ground station -/

/-- The Sequence Flags of a segment -/
def SegmentBoundary.code : SegmentBoundary → Nat
  | .continuation => 0
  | .first => 1
  | .last => 2
  | .unsegmented => 3

/-- A segment as the data of a frame -/
def TcSegment.encode (segment : TcSegment) : Bytes :=
  UInt8.ofNat (segment.boundary.code * 64 + segment.mapId) :: segment.data

/-- A frame and a CLTU of this build have room for the segment. -/
structure TcSegment.Fits (segment : TcSegment) : Prop where
  map : segment.mapId ≤ tcMapIdMax
  short : tcPrimaryHdrLen + segment.encode.length ≤ 1024
  cltu : (tcPrimaryHdrLen + segment.encode.length + 6) / 7 * 8 + 10 ≤ maxCltuLen
  buffer : (tcPrimaryHdrLen + segment.encode.length + 6) / 7 * 7 ≤ maxFrameLen

/-- A segment that can be sent -/
structure UplinkSegment where
  segment : TcSegment
  fits : segment.Fits

/-- The virtual channel, and the segments to be sent on it -/
structure Ground where
  vcid : Fin 64
  segments : List UplinkSegment

/-- The Type-AD frame with an index -/
def Ground.frame (ground : Ground) (index : Nat) (segment : UplinkSegment) : SentFrame where
  bypass := false
  controlCommand := false
  reserved := ⟨0, Nat.succ_pos 3⟩
  virtualChannelId := ground.vcid
  frameSequenceNumber := UInt8.ofNat index
  data := segment.segment.encode
  short := segment.fits.short

omit [Kconfig] in
theorem tcSegmentDecode_encode {segment : TcSegment} (map : segment.mapId ≤ tcMapIdMax) :
    tcSegmentDecode segment.encode = .ok segment := by
  obtain ⟨boundary, mapId, data⟩ := segment
  have map : mapId ≤ 63 := map
  have header : (UInt8.ofNat (boundary.code * 64 + mapId)).toNat = boundary.code * 64 + mapId := by
    rw [UInt8.toNat_ofNat']
    cases boundary <;> simp only [SegmentBoundary.code] <;> omega
  have flags : SegmentBoundary.ofCode ((boundary.code * 64 + mapId) / 64) = boundary := by
    rw [show (boundary.code * 64 + mapId) / 64 = boundary.code by omega]
    cases boundary <;> rfl
  have octet : (TcSegment.encode { boundary, mapId, data }).getD 0 0 = UInt8.ofNat (boundary.code * 64 + mapId) := rfl
  unfold tcSegmentDecode
  rw [if_neg (by simp [TcSegment.encode, tcSegmentHdrLen])]
  simp only [octet, header, flags]
  rw [show (boundary.code * 64 + mapId) % 64 = mapId by omega]
  rfl

/-- The frame of a segment arrives in the frame buffer. -/
theorem receiveCltu_sent (plain : tcRnd = false) (ground : Ground) (index : Nat) (segment : UplinkSegment)
    (errors : Nat → Option (Fin 63)) {frameBuf : Bytes} (whole : frameBuf.length = maxFrameLen) :
    ∃ frameBuf' reception, receiveCltu (cltuSent errors (ground.frame index segment).encode) frameBuf =
        (frameBuf', .ok reception) ∧ frameBuf'.length = maxFrameLen ∧
      reception.frame = (ground.frame index segment).decoded ∧
      (ground.frame index segment).decoded.octets frameBuf' = segment.segment.encode := by
  obtain ⟨frame, isFrame⟩ : ∃ frame, frame = ground.frame index segment := ⟨_, rfl⟩
  have data : frame.data = segment.segment.encode := by rw [isFrame]; rfl
  have octets : frame.encode.length = tcPrimaryHdrLen + segment.segment.encode.length := by
    rw [frame.encode_length, data]
  have blocks : codeblockCount frame.encode = (tcPrimaryHdrLen + segment.segment.encode.length + 6) / 7 := by
    rw [codeblockCount, octets]
  have limit : (cltuSent errors frame.encode).length ≤ maxCltuLen := by
    rw [cltuSent_length, blocks]
    exact segment.fits.cltu
  have room : (filled frame.encode).length ≤ frameBuf.length := by
    rw [filled_length, blocks, whole]
    exact segment.fits.buffer
  have some : frame.encode ≠ [] := by
    apply List.ne_nil_of_length_pos
    rw [octets]
    exact Nat.lt_add_right _ (by decide)
  have decoded := cltuDecodeMessage_sent errors frame.encode frameBuf some limit room
  -- Behind the frame the buffer holds the fill of the last codeblock and what was there before.
  have front : frameBuf.overwrite 0 (filled frame.encode) =
      frame.encode ++ List.replicate (codeblockCount frame.encode * 7 - frame.encode.length) tcFillByte ++
        frameBuf.drop (0 + (filled frame.encode).length) := rfl
  have total : (filled frame.encode).length =
      frame.encode.length + (codeblockCount frame.encode * 7 - frame.encode.length) := by
    rw [filled, List.length_append, List.length_replicate]
  have accepted : tcFrameDecode (frameBuf.overwrite 0 (filled frame.encode)) (filled frame.encode).length =
      .ok frame.decoded := by
    rw [total, front, frame.tcFrameDecode_encode]
  rw [← isFrame]
  refine ⟨frameBuf.overwrite 0 (filled frame.encode),
    { cltuLen := (cltuSent errors frame.encode).length, tcFrameLen := (filled frame.encode).length
      frame := frame.decoded }, ?_, ?_, rfl, ?_⟩
  · unfold receiveCltu
    rw [if_neg (by omega), decoded]
    simp only [derandomize, plain, Bool.false_eq_true, if_false, accepted]
  · rw [Bytes.overwrite_length (by omega), whole]
  · rw [front, List.append_assoc, frame.octets_encode, data]

variable [Sdls.Kconfig]

/-! ## What the segments still bring -/

variable {s s' : State} {walk : Walk}

/-- The segments that are still to come bring these packets, the first of which the reassembly may hold in
part. -/
inductive Pending (s : State) : List TcSegment → List SentPacket → Prop where
  | between {segments : List TcSegment} {sent : List SentPacket} (inactive : s.rx.reassembly.active = false)
      (carries : Carriage segments sent) : Pending s segments sent
  | within {mapId : Nat} {packet : EncodedPacket} {octets last : Bytes} {middle : List Bytes}
      {segments : List TcSegment} {rest : List SentPacket} (holding : Holding s mapId octets packet.octets.length)
      (fits : packet.octets.length ≤ tcMaxSpacePacketLen) (nonempty : ∀ data ∈ middle, data ≠ []) (ends : last ≠ [])
      (parts : packet.octets = octets ++ middle.flatten ++ last) (carries : Carriage segments rest) :
      Pending s (continuations mapId middle ++ { boundary := .last, mapId, data := last } :: segments)
        ({ mapId, packet } :: rest)

/-- The fragments of an open packet that are still to come -/
theorem Pending.fragments {mapId : Nat} {packet : EncodedPacket} {octets last : Bytes} {middle : List Bytes}
    {segments : List TcSegment} {rest : List SentPacket} {upcoming : List TcSegment}
    (holding : Holding s mapId octets packet.octets.length) (fits : packet.octets.length ≤ tcMaxSpacePacketLen)
    (nonempty : ∀ data ∈ middle, data ≠ []) (ends : last ≠ [])
    (parts : packet.octets = octets ++ middle.flatten ++ last) (carries : Carriage segments rest)
    (served : ∀ packet' ∈ SentPacket.mk mapId packet :: rest, Served s.rx packet') (step : ServingWalk s walk s')
    (next : continuations mapId middle ++ { boundary := .last, mapId, data := last } :: segments =
      walk.segment :: upcoming) :
    ∃ now later, SentPacket.mk mapId packet :: rest = now ++ later ∧
      List.Forall₂ (DeliveredTo s.rx) walk.calls now ∧ (∃ n, walk.result = .ok n) ∧ Pending s' upcoming later := by
  cases middle with
  | nil =>
    -- The last fragment is next: it completes the packet.
    obtain ⟨segment, rfl⟩ := List.cons.inj next
    have whole : packet.octets = octets ++ last := by simpa using parts
    obtain ⟨⟨call, calls, delivered⟩, one, -, inactive⟩ :=
      last_fragment_delivers step segment.symm holding fits ends whole (served _ List.mem_cons_self)
    refine ⟨[⟨mapId, packet⟩], rest, rfl, ?_, ⟨1, one⟩, .between inactive carries⟩
    rw [calls]
    exact .cons delivered .nil
  | cons data middle =>
    obtain ⟨segment, rfl⟩ := List.cons.inj next
    obtain ⟨now, later⟩ := List.forall_mem_cons.mp nonempty
    have total := congrArg List.length parts
    simp only [List.flatten_cons, List.length_append] at total
    obtain ⟨silent, -, held⟩ := @middle_fragments_held _ _ s s' mapId [walk] octets packet.octets.length [data]
      (.single step) (by rw [List.map_cons, ← segment]; rfl) holding (by simpa using now)
      (by simp only [List.flatten_cons, List.flatten_nil, List.append_nil]; omega) fits
    obtain ⟨quiet, zero⟩ := silent walk List.mem_cons_self
    refine ⟨[], ⟨mapId, packet⟩ :: rest, rfl, by rw [quiet]; exact .nil, ⟨0, zero⟩, ?_⟩
    rw [List.flatten_cons, List.flatten_nil, List.append_nil] at held
    exact .within held fits later ends (by rw [parts, List.flatten_cons]; simp only [List.append_assoc]) carries

/-- A walk of the next segment delivers the packets that it completes, and the others stay to come. -/
theorem Pending.advance {upcoming : List TcSegment} {sent : List SentPacket}
    (pending : Pending s (walk.segment :: upcoming) sent) (served : ∀ packet ∈ sent, Served s.rx packet)
    (step : ServingWalk s walk s') : ∃ now later, sent = now ++ later ∧
      List.Forall₂ (DeliveredTo s.rx) walk.calls now ∧ (∃ n, walk.result = .ok n) ∧ Pending s' upcoming later := by
  generalize next : walk.segment :: upcoming = segments at pending
  cases pending with
  | within holding fits nonempty ends parts carries =>
    exact Pending.fragments holding fits nonempty ends parts carries served step next.symm
  | between inactive carries =>
    cases carries with
    | done => cases next
    | @complete mapId packets segments rest some carries =>
      obtain ⟨segment, rfl⟩ := List.cons.inj next
      have now := fun packet listed => served ⟨_, packet⟩ (List.mem_append_left _ (List.mem_map_of_mem listed))
      obtain ⟨delivered, zero, -, inactive'⟩ := complete_packets_delivered step segment some inactive now
      exact ⟨_, rest, rfl, delivered, zero, .between inactive' carries⟩
    | @split mapId packet first last middle segments rest fits header nonempty ends parts carries =>
      obtain ⟨segment, rfl⟩ := List.cons.inj next
      obtain ⟨silent, zero, -, held⟩ := first_fragment_held step segment inactive fits header
        (parts.trans (List.append_assoc ..)) (by simp [ends])
      refine ⟨[], _, rfl, by rw [silent]; exact .nil, ⟨0, zero⟩, ?_⟩
      exact .within held fits nonempty ends parts carries

theorem Pending.same (same : s'.rx.reassembly = s.rx.reassembly) {segments : List TcSegment}
    {sent : List SentPacket} (pending : Pending s segments sent) : Pending s' segments sent := by
  cases pending with
  | between inactive carries => exact .between (by rw [same, inactive]) carries
  | within holding fits nonempty ends parts carries =>
    obtain ⟨active, mapId, octets, declared⟩ := holding
    rw [← same] at active mapId octets declared
    exact .within ⟨active, mapId, octets, declared⟩ fits nonempty ends parts carries

/-! ## The dispatch of a CLTU -/

/-- The profile apart from the reassembly -/
def State.beside (s : State) : TcRx := { s.rx with reassembly := .zero }

/-- Handlers return zero and leave the profile alone. -/
abbrev uplinkHandlers : Environment TcOp TcRes State PartCall := handlers (fun code => code = 0) fun s s' => s'.rx = s.rx

theorem uplinkHandlers_answer (s : State) (op : TcOp) : ∃ r t s', uplinkHandlers s op r t s' := by
  obtain ⟨r, answered⟩ := @handlerAnswer_exists (fun code => code = 0) 0 rfl op
  exact ⟨r, _, s, rfl, answered, rfl⟩

theorem walkParts_beside (segment : TcSegment) :
    (walkParts segment).Along uplinkHandlers fun s _ s' => s'.beside = s.beside := by
  have composes : Composes (fun (s : State) (_ : List PartCall) s' => s'.beside = s.beside) :=
    { refl := fun _ => rfl, trans := fun first second => second.trans first }
  apply walkParts_along
  · intro handler packet
    apply Fallible.along_call
    rintro s op r t s' ⟨-, -, still⟩
    rw [State.beside, still]
    rfl
  · exact fun _ _ => rfl

/-- On a profile without SDLS a Type-AD frame that sequence control accepts is walked. -/
structure Walked (s : State) (segment : TcSegment) (vcState : TcVcState) (frameBuf : Bytes) (t : List PartCall)
    (result : Except Failure Unit) (s' : State) : Prop where
  beside : s'.beside = { s.beside with vcState, frameBuf }
  walk : ∃ walk s₁, ServingWalk s walk s₁ ∧ walk.segment = segment ∧ walk.calls = t ∧
    s'.rx.reassembly = s₁.rx.reassembly ∧ ((∃ n, walk.result = .ok n) → result = .ok ())

/-- Nothing has happened except to the state of sequence control and the frame buffer. -/
structure Unwalked (s : State) (vcState : TcVcState) (frameBuf : Bytes) (t : List PartCall) (s' : State) : Prop where
  beside : s'.beside = { s.beside with vcState, frameBuf }
  reassembly : s'.rx.reassembly = s.rx.reassembly
  silent : t = []

/-- A walk within a dispatch -/
theorem walkParts_walked {s₀ : State} (kept : KeepsRoutes s s₀) (segment : TcSegment) :
    (walkParts segment).wp uplinkHandlers
      (fun t n s' => s'.beside = s₀.beside ∧ ServingWalk s ⟨segment, t, .ok n⟩ s')
      (fun t e s' => s'.beside = s₀.beside ∧ ServingWalk s ⟨segment, t, .error e⟩ s') s₀ := by
  have serving : ∀ {t result s'}, (walkParts segment).run.Runs uplinkHandlers s₀ t result s' →
      s'.beside = s₀.beside ∧ ServingWalk s ⟨segment, t, result⟩ s' := by
    intro t result s' run
    refine ⟨Prog.wp_of_runs (walkParts_beside segment s₀) run, s₀, kept, Prog.Runs.mono ?_ run⟩
    rintro s op r t s' ⟨called, answered, still⟩
    exact ⟨called, answered, by rw [still], by rw [still], by rw [still]⟩
  exact Fallible.wp_iff_runs.mpr ⟨fun _ _ _ run => serving run, fun _ _ _ run => serving run⟩

theorem withSdls_detached {f : Sdls.Ctx → Sdls.Ctx} (detached : s.rx.sdls = none) : (s.withSdls f).rx = s.rx := by
  show { s.rx with sdls := s.rx.sdls.map f } = s.rx
  rw [detached, Option.map_none, ← detached]

theorem beside_of_rx {s s' : State} (same : s'.rx = s.rx) : s'.beside = s.beside := by
  rw [State.beside, same]
  rfl

/-- What the delivery of a Type-AD frame comes to, by the verdict of sequence control -/
def Sequenced (s : State) (segment : TcSegment) (frame : TcFrame) (t : List PartCall) (result : Except Failure Unit)
    (s' : State) : Prop :=
  match s.rx.vcState.countFrame.updateSequenceState frame with
  | (vcState, .ok ()) => Walked s segment vcState s.rx.frameBuf t result s'
  | (vcState, .error _) => Unwalked s vcState s.rx.frameBuf t s' ∧ result ≠ .ok ()

theorem deliverFrame_sequenced {reception : Reception} {frame : TcFrame} {segment : TcSegment}
    (detached : s.rx.sdls = none) (data : frame.controlCommand = false)
    (carried : tcSegmentDecode (frame.octets s.rx.frameBuf) = .ok segment) :
    (deliverFrame reception frame).wp uplinkHandlers (fun t a s' => Sequenced s segment frame t (.ok a) s')
      (fun t e s' => Sequenced s segment frame t (.error e) s') s := by
  unfold Sequenced
  simp only [deliverFrame, deliverData, Fallible.wp_bind, Fallible.wp_modify, data, Bool.false_eq_true, if_false,
    Fallible.wp_attempt, wp_stepVcState, List.nil_append, Fallible.wp_read]
  obtain ⟨verdict, isVerdict⟩ : ∃ verdict, (s.withVcState s.rx.vcState.countFrame).rx.vcState.updateSequenceState frame =
    verdict := ⟨_, rfl⟩
  rw [isVerdict]
  have same : s.rx.vcState.countFrame.updateSequenceState frame = verdict := isVerdict
  obtain ⟨vcState, result⟩ := verdict
  rw [same]
  cases result with
  | error e =>
    refine ⟨fun accepted => (by cases accepted), fun e' _ => ?_⟩
    simp only [wp_refuseWith]
    have untouched := @withSdls_detached _ _ ((s.withVcState s.rx.vcState.countFrame).withVcState vcState)
      Sdls.Ctx.clearAuthenticatedRx detached
    refine ⟨⟨?_, ?_, rfl⟩, fun impossible => (by cases impossible)⟩
    · exact beside_of_rx untouched
    · exact (congrArg TcRx.reassembly untouched :)
  | ok _ =>
    refine ⟨fun _ => ?_, fun e refused => (by cases refused)⟩
    rw [show ((s.withVcState s.rx.vcState.countFrame).withVcState vcState).rx.frameBuf = s.rx.frameBuf from rfl, carried]
    simp only [deliverSegment, Fallible.wp_bind, Fallible.wp_modify, Fallible.wp_attempt, List.nil_append]
    obtain ⟨s₀, isStart⟩ : ∃ s₀, s₀ = ((s.withVcState s.rx.vcState.countFrame).withVcState vcState).withSdls
      startDispatching := ⟨_, rfl⟩
    have start : s₀.rx = ((s.withVcState s.rx.vcState.countFrame).withVcState vcState).rx := by
      rw [isStart]
      exact withSdls_detached detached
    have kept : KeepsRoutes s s₀ := ⟨by rw [start]; rfl, by rw [start]; rfl, by rw [start]; rfl⟩
    have beside₀ : s₀.beside = { s.beside with vcState, frameBuf := s.rx.frameBuf } := beside_of_rx start
    rw [← isStart]
    -- What the walk leaves, the statistics apart, is what the dispatch leaves.
    have walked : ∀ {t : List PartCall} {walkResult : Except Failure Nat} {result : Except Failure Unit} {s₁ s' : State},
        s₁.beside = s₀.beside → ServingWalk s ⟨segment, t, walkResult⟩ s₁ →
        s'.rx = (s₁.withSdls Sdls.Ctx.clearAuthenticatedRx).rx → ((∃ n, walkResult = .ok n) → result = .ok ()) →
        Walked s segment vcState s.rx.frameBuf t result s' := by
      intro t walkResult result s₁ s' beside₁ walks ends zero
      have detached₁ : s₁.rx.sdls = none := (congrArg TcRx.sdls (beside₁.trans beside₀) :).trans detached
      rw [withSdls_detached detached₁] at ends
      exact ⟨(beside_of_rx ends).trans (beside₁.trans beside₀), _, s₁, walks, rfl, rfl, by rw [ends], zero⟩
    apply Fallible.wp_mono (walkParts_walked kept segment)
    · intro t n s₁ reached
      simp only [List.append_nil]
      exact walked reached.1 reached.2 rfl fun _ => rfl
    · intro t e s₁ reached
      simp only [wp_refuseWith, List.append_nil]
      refine walked reached.1 reached.2 rfl fun impossible => ?_
      obtain ⟨n, never⟩ := impossible
      cases never

/-- The dispatch of a received and admitted frame on a profile without SDLS is its delivery. -/
theorem wp_tcCltuDispatch_admitted {cltu frameBuf : Bytes} {reception : Reception}
    {Q : List PartCall → Unit → State → Prop} {F : List PartCall → Failure → State → Prop}
    (detached : s.rx.sdls = none) (received : receiveCltu cltu s.rx.frameBuf = (frameBuf, .ok reception))
    (admitted : admitFrame s.rx.acceptedVcid reception.frame = .ok ())
    (post : (deliverFrame reception reception.frame).wp uplinkHandlers Q F (s.withFrameBuf frameBuf)) :
    (tcCltuDispatch cltu).wp uplinkHandlers Q F s := by
  have detached' : (s.withFrameBuf frameBuf).rx.sdls = none := detached
  simp only [tcCltuDispatch, secureFrame, Fallible.wp_bind, Fallible.wp_read, Fallible.wp_modify, received, admitted,
    detached', Fallible.wp_pure, List.nil_append]
  exact post

/-- A profile that a ground station can send to -/
structure Listens (ground : Ground) (s : State) : Prop where
  detached : s.rx.sdls = none
  vcid : s.rx.acceptedVcid = ground.vcid
  buffer : s.rx.frameBuf.length = maxFrameLen

theorem tcCltuDispatch_sent (plain : tcRnd = false) {ground : Ground} (listens : Listens ground s) (index : Nat)
    (segment : UplinkSegment) (errors : Nat → Option (Fin 63)) : ∃ frameBuf, frameBuf.length = maxFrameLen ∧
      (tcCltuDispatch (cltuSent errors (ground.frame index segment).encode)).wp uplinkHandlers
        (fun t a s' => Sequenced (s.withFrameBuf frameBuf) segment.segment (ground.frame index segment).decoded t
          (.ok a) s')
        (fun t e s' => Sequenced (s.withFrameBuf frameBuf) segment.segment (ground.frame index segment).decoded t
          (.error e) s') s := by
  obtain ⟨frameBuf, reception, received, whole, isFrame, octets⟩ :=
    receiveCltu_sent plain ground index segment errors listens.buffer
  refine ⟨frameBuf, whole, wp_tcCltuDispatch_admitted listens.detached received ?_ ?_⟩
  · rw [isFrame, listens.vcid]
    have inside : ¬ tcVcCount ≤ (ground.frame index segment).decoded.virtualChannelId :=
      Nat.not_le.mpr ground.vcid.isLt
    unfold admitFrame
    rw [if_neg inside, if_neg (fun differs => differs rfl), if_neg (fun control => Bool.false_ne_true control.1)]
  · rw [isFrame]
    refine deliverFrame_sequenced listens.detached rfl ?_
    rw [show (s.withFrameBuf frameBuf).rx.frameBuf = frameBuf from rfl, octets]
    exact tcSegmentDecode_encode segment.fits.map

/-- The frame buffer at the start makes no difference. -/
theorem Walked.anyBuffer {frameBuf frameBuf' : Bytes} {segment : TcSegment} {vcState : TcVcState} {t : List PartCall}
    {result : Except Failure Unit} (walked : Walked (s.withFrameBuf frameBuf) segment vcState frameBuf' t result s') :
    Walked s segment vcState frameBuf' t result s' := by
  obtain ⟨beside, walk, s₁, ⟨s₀, kept, runs⟩, rest⟩ := walked
  exact ⟨beside, walk, s₁, ⟨s₀, ⟨kept.reassembly, kept.router, kept.mapApidRoute⟩, runs⟩, rest⟩

theorem Unwalked.anyBuffer {frameBuf frameBuf' : Bytes} {vcState : TcVcState} {t : List PartCall}
    (unwalked : Unwalked (s.withFrameBuf frameBuf) vcState frameBuf' t s') : Unwalked s vcState frameBuf' t s' :=
  ⟨unwalked.beside, unwalked.reassembly, unwalked.silent⟩

/-! ## Other CLTUs -/

/-- A CLTU that brings no Type-D frame on the virtual channel of the profile and does not set `V(R)`: noise, frames
of others, and Unlock commands -/
def Foreign (s : State) (cltu : Bytes) : Prop :=
  ∀ reception, (receiveCltu cltu s.rx.frameBuf).2 = .ok reception →
    admitFrame s.rx.acceptedVcid reception.frame = .ok () → reception.frame.controlCommand = true ∧
      (reception.frame.octets (receiveCltu cltu s.rx.frameBuf).1).getD 0 0 ≠ 0x82

omit [Sdls.Kconfig] in
theorem receiveCltu_length (cltu frameBuf : Bytes) : (receiveCltu cltu frameBuf).1.length = frameBuf.length := by
  have kept : (cltuDecodeMessage cltu frameBuf).1.length = frameBuf.length := by
    unfold cltuDecodeMessage
    dsimp only
    split_ifs with short long start whole tail small
    all_goals try rfl
    have blocks := @decodeBlocks_length cltu ((cltu.length - 2) / bchBlockSize - 1) 0 frameBuf
      (by rw [Nat.zero_add]; omega)
    generalize decodeBlocks cltu ((cltu.length - 2) / bchBlockSize - 1) 0 frameBuf = decoded at blocks ⊢
    obtain ⟨buffer, result⟩ := decoded
    cases result <;> exact blocks
  unfold receiveCltu
  by_cases oversize : maxCltuLen < cltu.length
  · simp only [if_pos oversize]
  · simp only [if_neg oversize]
    generalize cltuDecodeMessage cltu frameBuf = decoded at kept ⊢
    obtain ⟨buffer, result⟩ := decoded
    cases result with
    | error e => exact kept
    | ok len =>
      dsimp only
      cases tcFrameDecode (derandomize buffer len) len <;> exact (derandomize_length buffer len).trans kept

omit [Kconfig] [Sdls.Kconfig] in
/-- A control command that does not set `V(R)` leaves it, and can only take a lockout away. -/
theorem handleControlFrame_keeps {vcState : TcVcState} {data : Bytes} (other : data.getD 0 0 ≠ 0x82) :
    (vcState.handleControlFrame data).1.reportValue = vcState.reportValue ∧
      (vcState.lockoutFlag = false → (vcState.handleControlFrame data).1.lockoutFlag = false) := by
  unfold TcVcState.handleControlFrame
  split_ifs with empty unlock locked sets
  · exact ⟨rfl, id⟩
  · exact ⟨rfl, fun _ => rfl⟩
  · exact ⟨rfl, id⟩
  · exact absurd sets.2.1 other
  · exact ⟨rfl, id⟩

/-- Nothing has happened to `V(R)` and the lockout. -/
def Passed (s : State) (t : List PartCall) (s' : State) : Prop :=
  ∃ vcState frameBuf, Unwalked s vcState frameBuf t s' ∧ frameBuf.length = s.rx.frameBuf.length ∧
    vcState.reportValue = s.rx.vcState.reportValue ∧ (s.rx.vcState.lockoutFlag = false → vcState.lockoutFlag = false)

theorem tcCltuDispatch_foreign {cltu : Bytes} (detached : s.rx.sdls = none) (foreign : Foreign s cltu) :
    (tcCltuDispatch cltu).wp uplinkHandlers (fun t _ s' => Passed s t s') (fun t _ s' => Passed s t s') s := by
  have length := receiveCltu_length cltu s.rx.frameBuf
  unfold Foreign at foreign
  obtain ⟨frameBuf, result, received⟩ : ∃ frameBuf result, receiveCltu cltu s.rx.frameBuf = (frameBuf, result) :=
    ⟨_, _, rfl⟩
  rw [received] at length foreign
  have refused : ∀ stats, Passed s [] { s.withFrameBuf frameBuf with stats } := fun stats =>
    ⟨s.rx.vcState, frameBuf, ⟨rfl, rfl, rfl⟩, length, rfl, id⟩
  -- The decoders refuse it, or the checks on the frame do, or it is a control frame that leaves V(R) alone.
  cases result with
  | error refusal =>
    simp only [tcCltuDispatch, Fallible.wp_bind, Fallible.wp_read, Fallible.wp_modify, received, wp_refuseWith,
      List.nil_append]
    exact refused _
  | ok reception =>
    cases admission : admitFrame s.rx.acceptedVcid reception.frame with
    | error e =>
      simp only [tcCltuDispatch, Fallible.wp_bind, Fallible.wp_read, Fallible.wp_modify, received, admission,
        wp_refuseWith, List.nil_append]
      exact refused _
    | ok _ =>
      obtain ⟨control, other⟩ := foreign reception rfl admission
      obtain ⟨reportValue, unlocked⟩ := @handleControlFrame_keeps s.rx.vcState.countFrame _ other
      apply wp_tcCltuDispatch_admitted detached received admission
      have passed : ∀ stats, Passed s [] { (s.withFrameBuf frameBuf).withVcState
          (s.rx.vcState.countFrame.handleControlFrame (reception.frame.octets frameBuf)).1 with stats } := fun stats =>
        ⟨_, frameBuf, ⟨rfl, rfl, rfl⟩, length, reportValue, unlocked⟩
      simp only [deliverFrame, deliverControl, Fallible.wp_bind, Fallible.wp_modify, control, if_true,
        Fallible.wp_read, Fallible.wp_attempt, wp_stepVcState, List.nil_append, wp_refuseWith]
      exact ⟨fun _ => passed _, fun _ _ => passed _⟩

/-! ## Runs -/

/-- The profile with the history of the link: the indices of the frames whose dispatch returned zero, and the calls
of the packet handlers -/
structure Uplink where
  profile : State
  accepted : List Nat
  calls : List PartCall

/-- The index of the next frame -/
def Uplink.next (link : Uplink) : Nat := link.accepted.length

def Uplink.start (s : State) : Uplink where
  profile := s
  accepted := []
  calls := []

/-- The dispatch of the frame with an index has returned zero. -/
def Uplink.accept (link : Uplink) (index : Nat) (calls : List PartCall) (s : State) : Uplink where
  profile := s
  accepted := link.accepted ++ [index]
  calls := link.calls ++ calls

/-- Another dispatch has returned. -/
def Uplink.pass (link : Uplink) (calls : List PartCall) (s : State) : Uplink where
  profile := s
  accepted := link.accepted
  calls := link.calls ++ calls

/-- A CLTU that arrives: the frame with an index, with the flipped bits of its codeblocks, or anything else -/
inductive Arrival where
  | frame (index : Nat) (errors : Nat → Option (Fin 63))
  | other (cltu : Bytes)

/-- The dispatch of a CLTU that arrives -/
inductive Arrives (ground : Ground) (link : Uplink) : Arrival → Uplink → Prop where
  | accepted {index : Nat} {segment : UplinkSegment} {errors : Nat → Option (Fin 63)} {calls : List PartCall}
      {s' : State} (sent : ground.segments[index]? = some segment)
      (near : |(index : Int) - link.next| < (cop1WindowSize / 2 : Nat))
      (run : (tcCltuDispatch (cltuSent errors (ground.frame index segment).encode)).run.Runs uplinkHandlers
        link.profile calls (.ok ()) s') :
      Arrives ground link (.frame index errors) (link.accept index calls s')
  | refused {index : Nat} {segment : UplinkSegment} {errors : Nat → Option (Fin 63)} {calls : List PartCall}
      {failure : Failure} {s' : State} (sent : ground.segments[index]? = some segment)
      (near : |(index : Int) - link.next| < (cop1WindowSize / 2 : Nat))
      (run : (tcCltuDispatch (cltuSent errors (ground.frame index segment).encode)).run.Runs uplinkHandlers
        link.profile calls (.error failure) s') :
      Arrives ground link (.frame index errors) (link.pass calls s')
  | other {cltu : Bytes} {calls : List PartCall} {result : Except Failure Unit} {s' : State}
      (foreign : Foreign link.profile cltu)
      (run : (tcCltuDispatch cltu).run.Runs uplinkHandlers link.profile calls result s') :
      Arrives ground link (.other cltu) (link.pass calls s')

/-- Where the uplink is behind the accepted frames -/
structure Uplink.InOrder (ground : Ground) (start : State) (sent : List SentPacket) (link : Uplink) : Prop where
  accepted : link.accepted = List.range link.next
  within : link.next ≤ ground.segments.length
  beside : ∃ vcState frameBuf, link.profile.beside = { start.beside with vcState, frameBuf }
  buffer : link.profile.rx.frameBuf.length = maxFrameLen
  reportValue : link.profile.rx.vcState.reportValue = UInt8.ofNat link.next
  unlocked : link.profile.rx.vcState.lockoutFlag = false
  delivered : ∃ done later, sent = done ++ later ∧ List.Forall₂ (DeliveredTo start.rx) link.calls done ∧
    Pending link.profile ((ground.segments.map (·.segment)).drop link.next) later

namespace Uplink.InOrder

variable {ground : Ground} {start : State} {sent : List SentPacket} {link : Uplink}

theorem same (inOrder : link.InOrder ground start sent) : SameHandlers start.rx link.profile.rx := by
  obtain ⟨vcState, frameBuf, beside⟩ := inOrder.beside
  intro mapId apid
  exact (congrArg (fun rx : TcRx => rx.handlerFor mapId apid) beside :)

theorem listens (inOrder : link.InOrder ground start sent) (listens : Listens ground start) :
    Listens ground link.profile := by
  obtain ⟨vcState, frameBuf, beside⟩ := inOrder.beside
  exact ⟨(congrArg TcRx.sdls beside :).trans listens.detached, (congrArg TcRx.acceptedVcid beside :).trans listens.vcid,
    inOrder.buffer⟩

/-- Nothing that matters has happened. -/
theorem unwalked (inOrder : link.InOrder ground start sent) {vcState : TcVcState} {frameBuf : Bytes}
    {t : List PartCall} (unwalked : Unwalked link.profile vcState frameBuf t s') (whole : frameBuf.length = maxFrameLen)
    (reportValue : vcState.reportValue = link.profile.rx.vcState.reportValue) (unlocked : vcState.lockoutFlag = false) :
    (link.pass t s').InOrder ground start sent := by
  obtain ⟨beside, reassembly, rfl⟩ := unwalked
  obtain ⟨_, _, sofar⟩ := inOrder.beside
  obtain ⟨done, later, all, delivered, pending⟩ := inOrder.delivered
  have beside' : s'.beside = { start.beside with vcState, frameBuf } := by rw [beside, sofar]
  have vcState' : s'.rx.vcState = vcState := (congrArg TcRx.vcState beside :)
  have frameBuf' : s'.rx.frameBuf = frameBuf := (congrArg TcRx.frameBuf beside :)
  constructor
  · exact inOrder.accepted
  · exact inOrder.within
  · exact ⟨vcState, frameBuf, beside'⟩
  · exact (congrArg List.length frameBuf').trans whole
  · exact (congrArg TcVcState.reportValue vcState').trans (reportValue.trans inOrder.reportValue)
  · exact (congrArg TcVcState.lockoutFlag vcState').trans unlocked
  · refine ⟨done, later, all, ?_, pending.same reassembly⟩
    show List.Forall₂ _ (link.calls ++ []) done
    rwa [List.append_nil]

/-- The next frame has been accepted. -/
theorem walked (inOrder : link.InOrder ground start sent) (served : ∀ packet ∈ sent, Served start.rx packet)
    {segment : UplinkSegment} (next : ground.segments[link.next]? = some segment) {vcState : TcVcState}
    {frameBuf : Bytes} {t : List PartCall} {result : Except Failure Unit}
    (walked : Walked link.profile segment.segment vcState frameBuf t result s') (whole : frameBuf.length = maxFrameLen)
    (reportValue : vcState.reportValue = UInt8.ofNat (link.next + 1)) (unlocked : vcState.lockoutFlag = false) :
    result = .ok () ∧ (link.accept link.next t s').InOrder ground start sent := by
  obtain ⟨beside, walk, s₁, step, isSegment, rfl, reassembly, zero⟩ := walked
  obtain ⟨_, _, sofar⟩ := inOrder.beside
  obtain ⟨done, later, all, delivered, pending⟩ := inOrder.delivered
  obtain ⟨inside, isNext⟩ := List.getElem?_eq_some_iff.mp next
  -- The segment is the first of those that are left.
  have head : (ground.segments.map (·.segment)).drop link.next =
      walk.segment :: (ground.segments.map (·.segment)).drop (link.next + 1) := by
    rw [List.drop_eq_getElem_cons (by rwa [List.length_map]), List.getElem_map, isNext, isSegment]
  rw [head] at pending
  have servedNow : ∀ packet ∈ later, Served link.profile.rx packet := fun packet listed =>
    (served packet (by rw [all]; exact List.mem_append_right _ listed)).same inOrder.same
  obtain ⟨now, later', split, calls, completed, pending'⟩ := pending.advance servedNow step
  have beside' : s'.beside = { start.beside with vcState, frameBuf } := by rw [beside, sofar]
  have vcState' : s'.rx.vcState = vcState := (congrArg TcRx.vcState beside :)
  have frameBuf' : s'.rx.frameBuf = frameBuf := (congrArg TcRx.frameBuf beside :)
  have length : (link.accepted ++ [link.next]).length = link.next + 1 := List.length_append
  refine ⟨zero completed, ?_, ?_, ?_, ?_, ?_, ?_, ?_⟩
  · show link.accepted ++ [link.next] = List.range (link.accepted ++ [link.next]).length
    rw [length, List.range_succ, ← inOrder.accepted]
  · show (link.accepted ++ [link.next]).length ≤ _
    omega
  · exact ⟨vcState, frameBuf, beside'⟩
  · exact (congrArg List.length frameBuf').trans whole
  · show _ = UInt8.ofNat (link.accepted ++ [link.next]).length
    rw [length]
    exact (congrArg TcVcState.reportValue vcState').trans reportValue
  · exact (congrArg TcVcState.lockoutFlag vcState').trans unlocked
  · refine ⟨done ++ now, later', by rw [all, split, List.append_assoc], ?_, ?_⟩
    · exact List.rel_append delivered (calls.imp fun _ _ one => one.same inOrder.same)
    · show Pending s' ((ground.segments.map (·.segment)).drop (link.accepted ++ [link.next]).length) later'
      rw [length]
      exact pending'.same reassembly

/-- Of the frames in the window the next one is accepted, and the others change nothing that matters. -/
theorem frame (plain : tcRnd = false) (hears : Listens ground start) (served : ∀ packet ∈ sent, Served start.rx packet)
    (inOrder : link.InOrder ground start sent) {index : Nat} {segment : UplinkSegment}
    (isSent : ground.segments[index]? = some segment) (near : |(index : Int) - link.next| < (cop1WindowSize / 2 : Nat))
    (errors : Nat → Option (Fin 63)) :
    (tcCltuDispatch (cltuSent errors (ground.frame index segment).encode)).wp uplinkHandlers
      (fun t _ s' => index = link.next ∧ (link.accept index t s').InOrder ground start sent)
      (fun t _ s' => index ≠ link.next ∧ (link.pass t s').InOrder ground start sent) link.profile := by
  obtain ⟨frameBuf, whole, dispatched⟩ := tcCltuDispatch_sent plain (inOrder.listens hears) index segment errors
  have verdict := @updateSequenceState_ad _ link.profile.rx.vcState.countFrame (ground.frame index segment).decoded
    link.next index inOrder.unlocked inOrder.reportValue rfl rfl rfl near
  have expects := inOrder.reportValue
  have unlocked := inOrder.unlocked
  have outcome : ∀ {t result s'}, Sequenced (link.profile.withFrameBuf frameBuf) segment.segment
      (ground.frame index segment).decoded t result s' →
      (index = link.next ∧ result = .ok () ∧ (link.accept index t s').InOrder ground start sent) ∨
      (index ≠ link.next ∧ result ≠ .ok () ∧ (link.pass t s').InOrder ground start sent) := by
    intro t result s' sequenced
    unfold Sequenced at sequenced
    rw [show (link.profile.withFrameBuf frameBuf).rx.vcState = link.profile.rx.vcState from rfl, verdict] at sequenced
    -- The next frame is walked; a duplicate and a frame behind a gap are not.
    by_cases same : index = link.next
    · rw [if_pos same] at sequenced
      obtain ⟨zero, next⟩ := @walked _ _ s' _ _ _ _ inOrder served segment (same ▸ isSent) _ _ _ _
        sequenced.anyBuffer whole rfl unlocked
      exact .inl ⟨same, zero, same ▸ next⟩
    · by_cases earlier : index < link.next
      · rw [if_neg same, if_pos earlier] at sequenced
        exact .inr ⟨same, sequenced.2, inOrder.unwalked sequenced.1.anyBuffer whole rfl unlocked⟩
      · rw [if_neg same, if_neg earlier] at sequenced
        exact .inr ⟨same, sequenced.2, inOrder.unwalked sequenced.1.anyBuffer whole rfl unlocked⟩
  apply Fallible.wp_mono dispatched
  · intro t a s' sequenced
    cases outcome sequenced with
    | inl next => exact ⟨next.1, next.2.2⟩
    | inr other => exact absurd rfl other.2.1
  · intro t e s' sequenced
    cases outcome sequenced with
    | inl next => cases next.2.1
    | inr other => exact ⟨other.1, other.2.2⟩

theorem initially (listens : Listens ground start) (zero : start.rx.vcState.reportValue = 0)
    (unlocked : start.rx.vcState.lockoutFlag = false) (inactive : start.rx.reassembly.active = false)
    (carries : Carriage (ground.segments.map (·.segment)) sent) : (Uplink.start start).InOrder ground start sent where
  accepted := rfl
  within := Nat.zero_le _
  beside := ⟨_, _, rfl⟩
  buffer := listens.buffer
  reportValue := zero
  unlocked := unlocked
  delivered := ⟨[], sent, rfl, .nil, .between inactive carries⟩

/-- The step lemma -/
theorem arrives (plain : tcRnd = false) (hears : Listens ground start) (served : ∀ packet ∈ sent, Served start.rx packet)
    (inOrder : link.InOrder ground start sent) {arrival : Arrival} {link' : Uplink}
    (step : Arrives ground link arrival link') : link'.InOrder ground start sent := by
  cases step with
  | accepted isSent near run => exact (Fallible.ok_of_runs (inOrder.frame plain hears served isSent near _) run).2
  | refused isSent near run => exact (Fallible.error_of_runs (inOrder.frame plain hears served isSent near _) run).2
  | other foreign run =>
    have passed := @Fallible.of_runs _ _ _ _ _ _ _ _ _ (fun t _ s' => Passed link.profile t s')
      (tcCltuDispatch_foreign (inOrder.listens hears).detached foreign) _ _ _ run
    obtain ⟨vcState, frameBuf, unwalked, whole, reportValue, unlocked⟩ := passed
    exact inOrder.unwalked unwalked (whole.trans inOrder.buffer) reportValue (unlocked inOrder.unlocked)

omit [Sdls.Kconfig] in
theorem near_next (next : Nat) : |(next : Int) - next| < (cop1WindowSize / 2 : Nat) := by
  have window := Kconfig.cop1WindowSize_range
  rw [sub_self, abs_zero]
  omega

/-- Any frame in the window can arrive. -/
theorem canArrive {index : Nat} {segment : UplinkSegment} (isSent : ground.segments[index]? = some segment)
    (near : |(index : Int) - link.next| < (cop1WindowSize / 2 : Nat)) (errors : Nat → Option (Fin 63)) :
    ∃ link', Arrives ground link (.frame index errors) link' := by
  obtain ⟨calls, result, s', run⟩ := Act.exists_runs uplinkHandlers_answer ((tcCltuDispatch
    (cltuSent errors (ground.frame index segment).encode)).run link.profile)
  cases result with
  | ok _ => exact ⟨_, .accepted isSent near run⟩
  | error e => exact ⟨_, .refused isSent near run⟩

/-- When the next frame arrives, it is accepted. -/
theorem next_accepted (plain : tcRnd = false) (hears : Listens ground start)
    (served : ∀ packet ∈ sent, Served start.rx packet) (inOrder : link.InOrder ground start sent)
    {errors : Nat → Option (Fin 63)} {link' : Uplink} (step : Arrives ground link (.frame link.next errors) link') :
    link'.next = link.next + 1 := by
  cases step with
  | accepted => exact List.length_append
  | refused isSent near run =>
    exact absurd rfl (Fallible.error_of_runs (inOrder.frame plain hears served isSent near _) run).1

/-- Every frame that is left can arrive. -/
theorem finishes (plain : tcRnd = false) (hears : Listens ground start) (served : ∀ packet ∈ sent, Served start.rx packet)
    (inOrder : link.InOrder ground start sent) : ∃ arrivals link', Run (Arrives ground) link arrivals link' ∧
      link'.next = ground.segments.length ∧ link'.InOrder ground start sent := by
  obtain ⟨left, isLeft⟩ : ∃ left, left = ground.segments.length - link.next := ⟨_, rfl⟩
  induction left generalizing link with
  | zero =>
    have within := inOrder.within
    exact ⟨[], link, .done, by omega, inOrder⟩
  | succ left ih =>
    have more : link.next < ground.segments.length := by omega
    obtain ⟨link₁, step⟩ := canArrive (List.getElem?_eq_getElem more) (near_next link.next) fun _ => none
    have next := inOrder.next_accepted plain hears served step
    obtain ⟨arrivals, link', run, all, finished⟩ := ih (inOrder.arrives plain hears served step) (by omega)
    exact ⟨_, link', .step step run, all, finished⟩

/-- When every frame has been accepted, every packet has been delivered. -/
theorem complete (inOrder : link.InOrder ground start sent) (all : link.next = ground.segments.length) :
    List.Forall₂ (DeliveredTo start.rx) link.calls sent ∧ link.profile.rx.reassembly.active = false := by
  obtain ⟨done, later, split, delivered, pending⟩ := inOrder.delivered
  rw [all, ← List.length_map (·.segment), List.drop_length] at pending
  generalize none_left : ([] : List TcSegment) = segments at pending
  cases pending with
  | between inactive carries =>
    subst none_left
    cases carries with
    | done => exact ⟨by rwa [split, List.append_nil], inactive⟩
  | within => exact absurd none_left.symm (by simp)

end Uplink.InOrder

/-- Over every sequence of arrivals inside the window, each with at most one flipped bit in a codeblock, the frames are
accepted in order without a gap or a repetition and `V(R)` counts them; the handlers have been given the packets that
the accepted frames complete, each once, in order and octet by octet; the next frame is accepted whenever it arrives,
and from every state in which the link can be all packets can still be delivered. -/
theorem uplink_delivers_in_order (plain : tcRnd = false) {ground : Ground} {start : State} {sent : List SentPacket}
    (listens : Listens ground start) (zero : start.rx.vcState.reportValue = 0)
    (unlocked : start.rx.vcState.lockoutFlag = false) (inactive : start.rx.reassembly.active = false)
    (carries : Carriage (ground.segments.map (·.segment)) sent) (served : ∀ packet ∈ sent, Served start.rx packet)
    {arrivals : List Arrival} {link : Uplink} (run : Run (Arrives ground) (.start start) arrivals link) :
    link.accepted = List.range link.next ∧ link.next ≤ ground.segments.length ∧
    link.profile.rx.vcState.reportValue.toNat = link.next % 256 ∧ link.profile.rx.vcState.lockoutFlag = false ∧
    (∃ done later, sent = done ++ later ∧ List.Forall₂ (DeliveredTo start.rx) link.calls done ∧
      Pending link.profile ((ground.segments.map (·.segment)).drop link.next) later) ∧
    (link.next = ground.segments.length → List.Forall₂ (DeliveredTo start.rx) link.calls sent) ∧
    (∀ segment, ground.segments[link.next]? = some segment → ∀ errors t result s',
      (tcCltuDispatch (cltuSent errors (ground.frame link.next segment).encode)).run.Runs uplinkHandlers link.profile t
        result s' → result = .ok ()) ∧
    ∃ arrivals' link', Run (Arrives ground) link arrivals' link' ∧
      List.Forall₂ (DeliveredTo start.rx) link'.calls sent := by
  have inOrder : link.InOrder ground start sent := by
    apply run.invariant _ (.initially listens zero unlocked inactive carries)
    exact fun link arrival link' inOrder step => Uplink.InOrder.arrives plain listens served inOrder step
  refine ⟨inOrder.accepted, inOrder.within, ?_, inOrder.unlocked, inOrder.delivered, fun all => (inOrder.complete all).1,
    ?_, ?_⟩
  · rw [inOrder.reportValue, UInt8.toNat_ofNat']
  · intro segment isSent errors t result s' dispatched
    cases result with
    | ok _ => rfl
    | error e =>
      have verdict := inOrder.frame plain listens served isSent (Uplink.InOrder.near_next link.next) errors
      exact absurd rfl (Fallible.error_of_runs verdict dispatched).1
  · obtain ⟨arrivals', link', rest, all, finished⟩ := inOrder.finishes plain listens served
    exact ⟨arrivals', link', rest, (finished.complete all).1⟩

end ZephyrCcsds.Tc

/-! ## A frame that overtakes the one before it -/

namespace ZephyrCcsds.Tc

section Sample

attribute [local instance] defaultKconfig Sdls.defaultKconfig

/-- The profile with handlers for APID 5, and its frame buffer -/
def uplinkProfile : State := routedProfile.withFrameBuf (List.replicate maxFrameLen 0)

theorem completeOnMap0_fits : completeOnMap0.Fits := ⟨by decide, by decide, by decide, by decide⟩

theorem firstOnMap0_fits : firstOnMap0.Fits := ⟨by decide, by decide, by decide, by decide⟩

theorem lastOnMap0_fits : lastOnMap0.Fits := ⟨by decide, by decide, by decide, by decide⟩

/-- A packet in a segment of its own, and then in two fragments -/
def uplinkGround : Ground where
  vcid := ⟨0, Nat.succ_pos 63⟩
  segments := [⟨completeOnMap0, completeOnMap0_fits⟩, ⟨firstOnMap0, firstOnMap0_fits⟩, ⟨lastOnMap0, lastOnMap0_fits⟩]

theorem uplinkProfile_listens : Listens uplinkGround uplinkProfile where
  detached := by decide +kernel
  vcid := by decide +kernel
  buffer := List.length_replicate

theorem uplinkProfile_served : ∀ packet ∈ [⟨0, routedEncoded⟩, ⟨0, routedEncoded⟩], Served uplinkProfile.rx packet := by
  have served : Served uplinkProfile.rx ⟨0, routedEncoded⟩ := routedEncoded_served routedProfile_handlerFor
  simpa using served

/-- Frame 1 arrives before frame 0 and once more behind it. -/
theorem uplink_delivers_in_order_sample : ∃ arrivals link, Run (Arrives uplinkGround) (.start uplinkProfile)
    (.frame 1 (fun _ => some 4) :: arrivals) link ∧
    List.Forall₂ (DeliveredTo uplinkProfile.rx) link.calls [⟨0, routedEncoded⟩, ⟨0, routedEncoded⟩] := by
  have zero : uplinkProfile.rx.vcState.reportValue = 0 := by decide +kernel
  have unlocked : uplinkProfile.rx.vcState.lockoutFlag = false := by decide +kernel
  have inOrder : (Uplink.start uplinkProfile).InOrder uplinkGround uplinkProfile _ :=
    .initially uplinkProfile_listens zero unlocked routedProfile_inactive routedEncoded_carriage
  have ahead : |((1 : Nat) : Int) - (Uplink.start uplinkProfile).next| < (cop1WindowSize / 2 : Nat) := by decide
  obtain ⟨link, early⟩ := Uplink.InOrder.canArrive (show uplinkGround.segments[1]? = some _ from rfl) ahead
    fun _ => some 4
  have facts := uplink_delivers_in_order rfl uplinkProfile_listens zero unlocked routedProfile_inactive
    routedEncoded_carriage uplinkProfile_served (.single early)
  obtain ⟨arrivals, link', run, delivered⟩ := facts.2.2.2.2.2.2.2
  exact ⟨arrivals, link', .step early run, delivered⟩

end Sample

end ZephyrCcsds.Tc
