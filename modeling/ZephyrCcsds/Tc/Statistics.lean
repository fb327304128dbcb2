import ZephyrCcsds.Tc.Provenance
import ZephyrCcsds.Tc.SegmentWalk

/-! # The receive statistics

`record_tc_result` runs once in every call of `ccsds_profile_tc_cltu_dispatch`.  It counts the
call and at most one category of failure, whatever the call has done.

The packets are counted one by one during the segment walk, but they reach the statistics
only with a walk that succeeds.  The statistics are therefore right in every run in which
no walk stops behind a packet that a handler has taken.

A handler may pass further CLTUs to the receive path, on another profile; the statistics are
those of all profiles.
-/

namespace ZephyrCcsds.Tc

open Callback

variable [Kconfig] [Sdls.Kconfig]

/-! ## Runs -/

/-- What the statistics count: a packet that a handler has taken, and a call that has returned -/
inductive Mark where
  | packet
  | call
  deriving DecidableEq

/-- Whether an answer is that of a handler which takes its packet -/
def TcOp.takes : (op : TcOp) → TcRes op → Bool
  | .psa _, _ => false
  | .authenticatedRx, _ => false
  | .handler .., code => decide (code = 0)

/-- A callback that has returned: what was counted before it did, and the state it has left -/
structure Event where
  op : TcOp
  result : TcRes op
  within : List Mark
  left : State

/-- A handler has returned `0`. -/
def Event.taken (event : Event) : Bool := event.op.takes event.result

def Event.marks (event : Event) : List Mark := event.within ++ if event.taken then [.packet] else []

/-- A call of `ccsds_profile_tc_cltu_dispatch` that has returned, with the profile it was made on -/
structure Call where
  rx : TcRx
  cltu : Bytes
  events : List Event

def Call.marks (call : Call) : List Mark := call.events.flatMap Event.marks ++ [.call]

/-- A condition on a call in an environment: its state, its CLTU and its callbacks -/
abbrev Condition : Type := Environment TcOp TcRes State Event → State → Bytes → List Event → Prop

/-- A call that meets the condition.  The rest of the system may change the profile between two calls. -/
def CallStep (condition : Condition) (E : Environment TcOp TcRes State Event) (stats : TcRxStats) (call : Call)
    (stats' : TcRxStats) : Prop :=
  condition E ⟨call.rx, stats⟩ call.cltu call.events ∧
    ∃ result rx', (tcCltuDispatch call.cltu).run.Runs E ⟨call.rx, stats⟩ call.events result ⟨rx', stats'⟩

/-- The environment in which PSA answers at once, and in which the callback and the handlers return anything and
do anything to the profile.  What happens to the statistics meanwhile is given by `meanwhile`. -/
def callingBack (meanwhile : TcRxStats → List Mark → TcRxStats → Prop) : Environment TcOp TcRes State Event :=
  fun s op r t s' => ∃ within, t = [⟨op, r, within, s'⟩] ∧
    match op with
    | .psa _ => within = [] ∧ s' = s
    | .authenticatedRx => meanwhile s.stats within s'.stats
    | .handler .. => meanwhile s.stats within s'.stats

/-- Callbacks that make calls of their own, at most `depth` levels deep -/
def callbacks (condition : Condition) : (depth : Nat) → Environment TcOp TcRes State Event
  | 0 => callingBack fun stats within stats' => within = [] ∧ stats' = stats
  | depth + 1 =>
    callingBack fun stats within stats' =>
      ∃ calls, Run (CallStep condition (callbacks condition depth)) stats calls stats' ∧
        within = calls.flatMap Call.marks

/-- The statistics behind `ccsds_profile_tc_rx_reset_stats` -/
def TcRxStats.reset : TcRxStats where
  cltusReceived := 0
  cltusOversize := 0
  cltuDecodeFailures := 0
  tcFrameRejects := 0
  controlFramesSeen := 0
  packetsDispatched := 0
  dispatchFailures := 0
  lastError := none
  lastCltuLen := 0
  lastTcFrameLen := 0

/-! ## Counters -/

/-- The counters of calls and failures count one stage for each call. -/
structure CountsStages (stats : TcRxStats) (stages : List TcCltuStage) (stats' : TcRxStats) : Prop where
  cltusReceived : stats'.cltusReceived = stats.cltusReceived + .ofNat stages.length
  cltusOversize : stats'.cltusOversize = stats.cltusOversize + .ofNat (stages.countP fun stage => stage = .oversize)
  cltuDecodeFailures :
    stats'.cltuDecodeFailures = stats.cltuDecodeFailures + .ofNat (stages.countP fun stage => stage = .cltu)
  tcFrameRejects : stats'.tcFrameRejects = stats.tcFrameRejects +
    .ofNat (stages.countP fun stage => stage = .tcFrame ∨ stage = .sdls ∨ stage = .packet)
  dispatchFailures :
    stats'.dispatchFailures = stats.dispatchFailures + .ofNat (stages.countP fun stage => stage = .router)

/-- Every call has been counted, under one stage. -/
def CountsCalls (stats : TcRxStats) (marks : List Mark) (stats' : TcRxStats) : Prop :=
  ∃ stages : List TcCltuStage, stages.length = marks.count .call ∧ CountsStages stats stages stats'

/-- Every packet that a handler has taken has been counted. -/
def CountsPackets (stats : TcRxStats) (marks : List Mark) (stats' : TcRxStats) : Prop :=
  stats'.packetsDispatched = stats.packetsDispatched + .ofNat (marks.count .packet)

instance : Composes CountsStages where
  refl stats := by constructor <;> simp
  trans first second := by
    constructor
    · simp [second.cltusReceived, first.cltusReceived, UInt32.add_assoc]
    · simp [second.cltusOversize, first.cltusOversize, UInt32.add_assoc]
    · simp [second.cltuDecodeFailures, first.cltuDecodeFailures, UInt32.add_assoc]
    · simp [second.tcFrameRejects, first.tcFrameRejects, UInt32.add_assoc]
    · simp [second.dispatchFailures, first.dispatchFailures, UInt32.add_assoc]

instance : Composes CountsCalls where
  refl stats := ⟨[], by simp, Composes.refl stats⟩
  trans first second := by
    obtain ⟨stages, length, counts⟩ := first
    obtain ⟨stages', length', counts'⟩ := second
    exact ⟨stages ++ stages', by simp [length, length'], Composes.trans counts counts'⟩

instance : Composes CountsPackets where
  refl stats := by simp [CountsPackets]
  trans first second := by
    unfold CountsPackets at first second ⊢
    rw [second, first]
    simp [UInt32.add_assoc]

omit [Kconfig] [Sdls.Kconfig] in
theorem record_counts (stats : TcRxStats) (result : TcCltuResult) (cltuLen : Nat) (ret : Option Failure) :
    CountsStages stats [result.stage] (stats.record result cltuLen ret) := by
  obtain ⟨stage, tcFrameLen, packetsDispatched⟩ := result
  cases stage <;> cases ret <;> constructor <;> simp [TcRxStats.record]

omit [Kconfig] [Sdls.Kconfig] in
theorem record_packets (stats : TcRxStats) (result : TcCltuResult) (cltuLen : Nat) (ret : Option Failure) :
    (stats.record result cltuLen ret).packetsDispatched = stats.packetsDispatched +
      .ofNat (if result.stage = .dispatched then result.packetsDispatched else 0) := by
  obtain ⟨stage, tcFrameLen, packetsDispatched⟩ := result
  cases stage <;> cases ret <;> simp [TcRxStats.record]

/-! ## The condition -/

/-- The first packet of the data is taken: it is complete, no reassembly is open, there is a handler for it, and
the handler has returned `0`. -/
structure Taken (mapId : Nat) (s : State) (data : Bytes) (event : Event) : Prop where
  header : spacePacketPrimaryHdrLen ≤ data.length
  complete : encodedPacketLen data ≤ data.length
  inactive : s.rx.reassembly.active = false
  served : ∃ packet handler, spacePacketDecode (data.take (encodedPacketLen data)) = .ok packet ∧
    s.rx.handlerFor mapId packet.apid = some handler ∧ event.op = .handler handler packet
  taken : event.taken = true

/-- Every packet of the data is taken, each in the state that the handler before it has left. -/
inductive AllTaken (mapId : Nat) : State → Bytes → List Event → Prop where
  | done {s : State} {events : List Event} : AllTaken mapId s [] events
  | packet {s : State} {data : Bytes} {event : Event} {events : List Event} (now : Taken mapId s data event)
      (later : AllTaken mapId event.left (data.drop (encodedPacketLen data)) events) :
      AllTaken mapId s data (event :: events)

/-- The first packet of the data is not taken. -/
def FirstRefused (mapId : Nat) (s : State) (data : Bytes) (events : List Event) : Prop :=
  ∀ event ∈ events.head?, ¬ Taken mapId s data event

/-- The segment that a CLTU brings to the walk, with the callbacks before it and the state it finds -/
def BringsSegment (E : Environment TcOp TcRes State Event) (s : State) (cltu : Bytes) (events : List Event)
    (segment : TcSegment) (s' : State) : Prop :=
  ∃ frameBuf reception frame s₁ vcState, receiveCltu cltu s.rx.frameBuf = (frameBuf, .ok reception) ∧
    admitFrame s.rx.acceptedVcid reception.frame = .ok () ∧
    (secureFrame reception).run.Runs E (s.withFrameBuf frameBuf) events (.ok frame) s₁ ∧
    frame.controlCommand = false ∧
    s₁.rx.vcState.countFrame.updateSequenceState frame = (vcState, .ok ()) ∧
    tcSegmentDecode (frame.octets s₁.rx.frameBuf) = .ok segment ∧
    s' = (s₁.withVcState vcState).withSdls startDispatching

/-- The walk of an unsegmented segment does not stop behind a packet that has been taken. -/
def Uninterrupted (segment : TcSegment) (s : State) (events : List Event) : Prop :=
  segment.boundary = .unsegmented →
    FirstRefused segment.mapId s segment.data events ∨ AllTaken segment.mapId s segment.data events

/-- The same of a call -/
def UninterruptedCall : Condition := fun E s cltu events =>
  ∀ before during segment s', events = before ++ during → BringsSegment E s cltu before segment s' →
    Uninterrupted segment s' during

theorem AllTaken.first {mapId : Nat} {s : State} {data : Bytes} {events : List Event}
    (all : AllTaken mapId s data events) (nonempty : data ≠ []) :
    ∃ event rest, events = event :: rest ∧ Taken mapId s data event ∧
      AllTaken mapId event.left (data.drop (encodedPacketLen data)) rest := by
  cases all with
  | done => exact absurd rfl nonempty
  | packet now later => exact ⟨_, _, rfl, now, later⟩

/-! ## The segment walk -/

/-- The packets that were taken outside of nested calls -/
def takenBy (events : List Event) : Nat := events.countP Event.taken

section Walk

variable {meanwhile : TcRxStats → List Mark → TcRxStats → Prop} {s : State}

theorem callHandler_taken (handler : Handler) (packet : SpacePacket) :
    (callHandler handler packet).wp (callingBack meanwhile)
      (fun t _ s' => ∃ event, t = [event] ∧ event.op = .handler handler packet ∧ event.taken = true ∧ event.left = s')
      (fun t _ _ => ∃ event, t = [event] ∧ event.taken = false) s := by
  simp only [callHandler, Fallible.wp_bind, Fallible.wp_call, Fallible.wp_failIf]
  rintro code t s' ⟨within, rfl, -⟩
  constructor
  · intro nonzero
    exact ⟨_, rfl, by simpa [Event.taken, TcOp.takes] using nonzero⟩
  · intro zero
    exact ⟨_, rfl, rfl, by simpa [Event.taken, TcOp.takes] using zero, rfl⟩

theorem dispatchEncodedPacket_taken (mapId : Nat) (encoded : Bytes) :
    (dispatchEncodedPacket mapId encoded).wp (callingBack meanwhile)
      (fun t _ s' => ∃ event packet handler, t = [event] ∧ spacePacketDecode encoded = .ok packet ∧
        s.rx.handlerFor mapId packet.apid = some handler ∧ event.op = .handler handler packet ∧
        event.taken = true ∧ event.left = s')
      (fun t _ _ => ∀ event ∈ t, event.taken = false) s := by
  apply wp_dispatchEncodedPacket
  · intro packet handler decoded chosen
    apply Fallible.wp_mono (callHandler_taken handler packet)
    · rintro t _ s' ⟨event, rfl, called, taken, left⟩
      exact ⟨event, packet, handler, rfl, decoded, chosen, called, taken, left⟩
    · rintro t _ s' ⟨event, rfl, refused⟩
      simpa using refused
  · intro e _ _
    simp

/-- The dispatch of a part counts the packet that it has delivered. -/
theorem dispatchTcSegmentPart_counts (part : TcSegmentPart) :
    (dispatchTcSegmentPart part).wp (callingBack meanwhile) (fun t n _ => n = takenBy t)
      (fun t _ _ => ∀ event ∈ t, event.taken = false) s := by
  by_cases whole : (part.startsPacket && part.endsPacket) = true
  · simp only [dispatchTcSegmentPart, whole, if_true, Fallible.wp_bind, Fallible.wp_read, Fallible.wp_failIf]
    constructor
    · simp
    · intro _
      apply Fallible.wp_mono (dispatchEncodedPacket_taken part.mapId part.data)
      · rintro t _ s' ⟨event, _, _, rfl, -, -, -, taken, -⟩
        simp [takenBy, taken]
      · rintro t e s' refused
        simpa using refused
  · simp only [dispatchTcSegmentPart, whole, Bool.false_eq_true, if_false, Fallible.wp_bind, wp_reassemble]
    refine ⟨fun _ => ⟨fun _ => ?_, by simp⟩, by simp⟩
    by_cases ends : part.endsPacket = true
    · simp only [ends, not_true_eq_false, if_false, Fallible.wp_bind, Fallible.wp_read, Fallible.wp_attempt,
        Fallible.wp_modify]
      apply Fallible.wp_mono (dispatchEncodedPacket_taken _ _)
      · rintro t _ s' ⟨event, _, _, rfl, -, -, -, taken, -⟩
        simp [takenBy, taken]
      · rintro t e s' refused
        simpa using refused
    · simp [ends, takenBy]

/-- A complete packet that has been dispatched was the next one to be taken. -/
theorem dispatchTcSegmentPart_whole {part : TcSegmentPart} (whole : (part.startsPacket && part.endsPacket) = true)
    {data : Bytes} (header : spacePacketPrimaryHdrLen ≤ data.length) (complete : encodedPacketLen data ≤ data.length)
    (packet : part.data = data.take (encodedPacketLen data)) :
    (dispatchTcSegmentPart part).wp (callingBack meanwhile)
      (fun t n s' => n = 1 ∧ ∃ event, t = [event] ∧ Taken part.mapId s data event ∧ event.left = s')
      (fun t _ _ => ∀ event ∈ t, event.taken = false) s := by
  simp only [dispatchTcSegmentPart, whole, if_true, Fallible.wp_bind, Fallible.wp_read, Fallible.wp_failIf]
  constructor
  · simp
  · intro inactive
    apply Fallible.wp_mono (dispatchEncodedPacket_taken part.mapId part.data)
    · rintro t _ s' ⟨event, packet', handler, rfl, decoded, chosen, called, taken, left⟩
      rw [packet] at decoded
      have inactive : s.rx.reassembly.active = false := by simpa using inactive
      exact ⟨rfl, event, rfl, ⟨header, complete, inactive, ⟨packet', handler, decoded, chosen, called⟩, taken⟩, left⟩
    · rintro t e s' refused
      simpa using refused

theorem takenBy_refused {events : List Event} (refused : ∀ event ∈ events, event.taken = false) :
    takenBy events = 0 := by
  simpa [takenBy, List.countP_eq_zero] using refused

/-- The walk counts what it has delivered.  If it fails, not every packet is taken, and if the first one was not
taken, none is. -/
theorem walkPackets_counts (mapId turns : Nat) (data : Bytes) :
    (walkPackets mapId turns data).wp (callingBack meanwhile) (fun t n _ => n = takenBy t)
      (fun t _ _ => ¬ AllTaken mapId s data t ∧ (FirstRefused mapId s data t → takenBy t = 0)) s := by
  induction turns generalizing data s with
  | zero => exact rfl
  | succ turns ih =>
    -- Data that is refused before any callback is not empty.
    have stuck : data ≠ [] →
        ¬ AllTaken mapId s data [] ∧ (FirstRefused mapId s data [] → takenBy [] = 0) := by
      intro nonempty
      refine ⟨fun all => ?_, fun _ => rfl⟩
      obtain ⟨_, _, events, -⟩ := all.first nonempty
      cases events
    unfold walkPackets
    by_cases empty : data.length = 0
    · rw [if_pos empty]
      exact rfl
    · have nonempty : data ≠ [] := fun none => empty (by rw [none]; rfl)
      rw [if_neg empty]
      by_cases headless : data.length < spacePacketPrimaryHdrLen
      · rw [if_pos headless]
        exact stuck nonempty
      · rw [if_neg headless]
        by_cases short : data.length < encodedPacketLen data
        · simp only [if_pos short]
          exact stuck nonempty
        · simp only [if_neg short, Fallible.wp_bind]
          apply Fallible.wp_mono (dispatchTcSegmentPart_whole rfl (by omega) (by omega) rfl)
          · rintro t n s₁ ⟨rfl, event, rfl, taken, rfl⟩
            apply Fallible.wp_mono (ih _)
            · intro u n s₂ counted
              simp [takenBy, taken.taken, counted]
              omega
            · rintro u e s₂ ⟨interrupted, -⟩
              constructor
              · intro all
                obtain ⟨_, _, events, -, later⟩ := all.first nonempty
                cases events
                exact interrupted later
              · intro refused
                exact absurd taken (refused event (by simp))
          · intro t e s₁ refused
            refine ⟨fun all => ?_, fun _ => takenBy_refused refused⟩
            obtain ⟨event, _, rfl, now, -⟩ := all.first nonempty
            simpa [refused] using now.taken

/-- The walk of a segment counts what it has delivered.  If it fails uninterrupted, it has delivered nothing. -/
theorem walkParts_counts (segment : TcSegment) :
    (walkParts segment).wp (callingBack meanwhile) (fun t n _ => n = takenBy t)
      (fun t _ _ => Uninterrupted segment s t → takenBy t = 0) s := by
  have part : ∀ part, (dispatchTcSegmentPart part).wp (callingBack meanwhile) (fun t n _ => n = takenBy t)
      (fun t _ _ => Uninterrupted segment s t → takenBy t = 0) s := by
    intro part
    apply Fallible.wp_mono (dispatchTcSegmentPart_counts part)
    · exact fun t n s' counted => counted
    · exact fun t e s' refused _ => takenBy_refused refused
  unfold walkParts
  by_cases empty : segment.data.length = 0
  · rw [if_pos empty]
    exact fun _ => rfl
  · rw [if_neg empty]
    cases boundary : segment.boundary with
    | continuation => exact part _
    | last => exact part _
    | first =>
      by_cases headless : segment.data.length < spacePacketPrimaryHdrLen
      · simp only [if_pos headless]
        exact fun _ => rfl
      · by_cases whole : encodedPacketLen segment.data ≤ segment.data.length
        · simp only [if_neg headless, if_pos whole]
          exact fun _ => rfl
        · simp only [if_neg headless, if_neg whole]
          exact part _
    | unsegmented =>
      apply Fallible.wp_mono (walkPackets_counts _ _ _)
      · exact fun t n s' counted => counted
      · rintro t e s' ⟨interrupted, refused⟩ uninterrupted
        exact refused ((uninterrupted boundary).resolve_right interrupted)

end Walk

/-! ## Calls -/

section Dispatch

variable {meanwhile R : TcRxStats → List Mark → TcRxStats → Prop} [Composes R] {s s' : State} {t : List Event}

/-- What nested calls have done to the statistics -/
def Meanwhile (R : TcRxStats → List Mark → TcRxStats → Prop) (s : State) (t : List Event) (s' : State) : Prop :=
  R s.stats (t.flatMap (·.within)) s'.stats

instance : Composes (Meanwhile R) where
  refl s := Composes.refl s.stats
  trans first second := by
    unfold Meanwhile
    rw [List.flatMap_append]
    exact Composes.trans first second

theorem callingBack_along (meets : ∀ stats within stats', meanwhile stats within stats' → R stats within stats') :
    EnvironmentAlong (callingBack meanwhile) (Meanwhile R) := by
  rintro s op r t s' ⟨within, rfl, during⟩
  have one : [(⟨op, r, within, s'⟩ : Event)].flatMap (·.within) = within := by simp
  show R s.stats _ s'.stats
  rw [one]
  cases op with
  | psa _ =>
    obtain ⟨rfl, rfl⟩ := during
    exact Composes.refl _
  | authenticatedRx => exact meets _ _ _ during
  | handler => exact meets _ _ _ during

/-- Nothing has been recorded, and no handler has taken a packet. -/
structure Unrecorded (R : TcRxStats → List Mark → TcRxStats → Prop) (s : State) (t : List Event) (s' : State) :
    Prop where
  meanwhile : Meanwhile R s t s'
  none : takenBy t = 0

instance : Composes (Unrecorded R) where
  refl s := ⟨Composes.refl s, rfl⟩
  trans first second := by
    refine ⟨Composes.trans first.meanwhile second.meanwhile, ?_⟩
    rw [takenBy, List.countP_append]
    exact (congrArg₂ _ first.none second.none :)

/-- The call has been recorded with a number of packets. -/
def Recorded (R : TcRxStats → List Mark → TcRxStats → Prop) (s : State) (t : List Event) (counted : Nat)
    (s' : State) : Prop :=
  ∃ stats stage, R s.stats (t.flatMap (·.within)) stats ∧ CountsStages stats [stage] s'.stats ∧
    s'.stats.packetsDispatched = stats.packetsDispatched + .ofNat counted

omit [Composes R] in
theorem Meanwhile.recorded (during : Meanwhile R s t s') (result : TcCltuResult) (cltuLen : Nat)
    (ret : Option Failure) : Recorded R s t (if result.stage = .dispatched then result.packetsDispatched else 0)
      (s'.record result cltuLen ret) :=
  ⟨s'.stats, result.stage, during, record_counts _ _ _ _, record_packets _ _ _ _⟩

/-- A call that has been refused before the segment walk -/
structure Refused (R : TcRxStats → List Mark → TcRxStats → Prop) (s : State) (t : List Event) (s' : State) :
    Prop where
  recorded : Recorded R s t 0 s'
  none : takenBy t = 0

omit [Composes R] in
theorem Unrecorded.refused (unrecorded : Unrecorded R s t s') (stage : TcCltuStage) (tcFrameLen cltuLen : Nat)
    (ret : Option Failure) : Refused R s t (s'.record ⟨stage, tcFrameLen, 0⟩ cltuLen ret) := by
  refine ⟨?_, unrecorded.none⟩
  have recorded := unrecorded.meanwhile.recorded ⟨stage, tcFrameLen, 0⟩ cltuLen ret
  rwa [ite_self] at recorded

/-! ### The SDLS block -/

section Block

variable (meets : ∀ stats within stats', meanwhile stats within stats' → R stats within stats')

include meets in
theorem callAuthenticatedRx_counts (reception : Reception) :
    (callAuthenticatedRx reception).wp (callingBack meanwhile) (fun t _ s' => Unrecorded R s t s')
      (fun t _ s' => Refused R s t s') s := by
  simp only [callAuthenticatedRx, Fallible.wp_bind, Fallible.wp_read, List.nil_append]
  by_cases registered : s.rx.authenticatedRxFn = true
  · simp only [if_pos registered, Fallible.wp_bind, Fallible.wp_call]
    intro code t s' returned
    have during : Meanwhile R s t s' := callingBack_along meets _ _ _ _ _ returned
    obtain ⟨within, rfl, -⟩ := returned
    have unrecorded : Unrecorded R s [⟨.authenticatedRx, code, within, s'⟩] s' := ⟨during, rfl⟩
    by_cases refused : code ≠ 0
    · simp only [if_pos refused, wp_refuseWith, List.append_nil]
      exact unrecorded.refused _ _ _ _
    · simp only [if_neg refused, Fallible.wp_pure, List.append_nil]
      exact unrecorded
  · simp only [if_neg registered, Fallible.wp_pure]
    exact Composes.refl s

omit [Composes R] in
theorem Unrecorded.then_refused [Composes R] {s₁ : State} {u : List Event} (first : Unrecorded R s t s₁)
    (second : Refused R s₁ u s') : Refused R s (t ++ u) s' := by
  obtain ⟨⟨stats, stage, during, stages, packets⟩, none⟩ := second
  refine ⟨⟨stats, stage, ?_, stages, packets⟩, ?_⟩
  · rw [List.flatMap_append]
    exact Composes.trans first.meanwhile during
  · rw [takenBy, List.countP_append]
    exact (congrArg₂ _ first.none none :)

theorem embedSdls_unrecorded {ε α : Type} {p : Fallible Sdls.PsaOp Sdls.PsaRes Sdls.State ε α} {st : Sdls.State} :
    (p.embed sdlsPart TcOp.psa st : Fallible TcOp TcRes State ε α).Along (callingBack meanwhile) (Unrecorded R) := by
  apply Fallible.along_embed
  · rintro s op r u s' ⟨within, rfl, rfl, rfl⟩
    exact ⟨Composes.refl s'.stats, rfl⟩
  · exact fun s t => ⟨Composes.refl s.stats, rfl⟩

include meets in
theorem unprotectFrame_counts (reception : Reception) (ctx : Sdls.Ctx) :
    (unprotectFrame reception ctx).wp (callingBack meanwhile) (fun t _ s' => Unrecorded R s t s')
      (fun t _ s' => Refused R s t s') s := by
  simp only [unprotectFrame, Fallible.wp_bind, Fallible.wp_read, Fallible.wp_attempt, List.nil_append]
  apply Fallible.wp_of_along (embedSdls_unrecorded (R := R))
  · intro t _ s₁ verified
    apply Fallible.wp_mono (callAuthenticatedRx_counts meets reception)
    · intro u _ s₂ approved
      simp only [Fallible.wp_modify, Fallible.wp_pure, List.append_nil]
      have both : Unrecorded R s (t ++ u) s₂ := Composes.trans verified approved
      exact ⟨both.meanwhile, both.none⟩
    · intro u e s₂ refused
      exact verified.then_refused refused
  · intro t e s₁ rejected
    simp only [wp_refuseWith, List.append_nil]
    exact rejected.refused _ _ _ _

include meets in
theorem secureFrame_counts (reception : Reception) :
    (secureFrame reception).wp (callingBack meanwhile) (fun t _ s' => Unrecorded R s t s')
      (fun t _ s' => Refused R s t s') s := by
  have unrecorded : Unrecorded R s [] s := Composes.refl s
  simp only [secureFrame, Fallible.wp_bind, Fallible.wp_read, List.nil_append]
  cases s.rx.sdls with
  | none => exact unrecorded
  | some ctx =>
    by_cases typeC : reception.frame.controlCommand = true
    · simp only [if_pos typeC, Fallible.wp_pure]
      exact unrecorded
    · by_cases headless : reception.frame.dataLen < tcSegmentHdrLen
      · simp only [if_neg typeC, if_pos headless, wp_refuseWith]
        exact unrecorded.refused _ _ _ _
      · by_cases clear : s.rx.OnClearMap (s.rx.frameBuf.getD reception.frame.data 0)
        · by_cases disabled : ¬ s.rx.clearMapEnabled = true
          · simp only [if_neg typeC, if_neg headless, if_pos clear, if_pos disabled, wp_refuseWith]
            exact unrecorded.refused _ _ _ _
          · simp only [if_neg typeC, if_neg headless, if_pos clear, if_neg disabled, Fallible.wp_pure]
            exact unrecorded
        · simp only [if_neg typeC, if_neg headless, if_neg clear]
          exact unprotectFrame_counts meets reception ctx

/-! ### Delivery -/

/-- A call that has been recorded, and counted right under a condition -/
structure Counted (R : TcRxStats → List Mark → TcRxStats → Prop) (s : State) (t : List Event) (condition : Prop)
    (s' : State) : Prop where
  recorded : ∃ counted, Recorded R s t counted s' ∧ (condition → counted = takenBy t)

omit [Composes R] in
theorem Refused.counted (refused : Refused R s t s') (condition : Prop) : Counted R s t condition s' :=
  ⟨0, refused.recorded, fun _ => refused.none.symm⟩

include meets in
theorem walkParts_meanwhile (segment : TcSegment) :
    (walkParts segment).Along (callingBack meanwhile) (Meanwhile R) :=
  walkParts_along (fun _ _ => Fallible.along_call (callingBack_along meets)) (fun s _ => Composes.refl s.stats) segment

include meets in
theorem deliverSegment_counts (reception : Reception) (segment : TcSegment) :
    (deliverSegment reception segment).wp (callingBack meanwhile)
      (fun t _ s' => Counted R s t (Uninterrupted segment (s.withSdls startDispatching) t) s')
      (fun t _ s' => Counted R s t (Uninterrupted segment (s.withSdls startDispatching) t) s') s := by
  simp only [deliverSegment, Fallible.wp_bind, Fallible.wp_modify, Fallible.wp_attempt, List.nil_append]
  apply Fallible.wp_mono (Fallible.wp_and_along (walkParts_meanwhile meets segment) (walkParts_counts segment))
  · rintro t n s₁ ⟨during, counted⟩
    simp only [List.append_nil]
    have during' : Meanwhile R s t (s₁.withSdls Sdls.Ctx.clearAuthenticatedRx) := during
    refine ⟨n, ?_, fun _ => counted⟩
    exact during'.recorded ⟨.dispatched, reception.tcFrameLen, n⟩ reception.cltuLen none
  · rintro t e s₁ ⟨during, delivered⟩
    simp only [wp_refuseWith, List.append_nil]
    have during' : Meanwhile R s t (s₁.withSdls Sdls.Ctx.clearAuthenticatedRx) := during
    refine ⟨0, ?_, fun uninterrupted => (delivered uninterrupted).symm⟩
    exact during'.recorded ⟨.router, reception.tcFrameLen, 0⟩ reception.cltuLen (some e)

/-- The walks of the segment that a frame brings are not interrupted. -/
def UninterruptedFrame (frame : TcFrame) (s : State) (t : List Event) : Prop :=
  ∀ vcState segment, s.rx.vcState.countFrame.updateSequenceState frame = (vcState, .ok ()) →
    frame.controlCommand = false → tcSegmentDecode (frame.octets s.rx.frameBuf) = .ok segment →
      Uninterrupted segment ((s.withVcState vcState).withSdls startDispatching) t

include meets in
theorem deliverFrame_counts (reception : Reception) (frame : TcFrame) :
    (deliverFrame reception frame).wp (callingBack meanwhile)
      (fun t _ s' => Counted R s t (UninterruptedFrame frame s t) s')
      (fun t _ s' => Counted R s t (UninterruptedFrame frame s t) s') s := by
  have refused : ∀ (s' : State) stage tcFrameLen cltuLen ret, s'.stats = s.stats →
      Counted R s [] (UninterruptedFrame frame s []) (s'.record ⟨stage, tcFrameLen, 0⟩ cltuLen ret) := by
    intro s' stage tcFrameLen cltuLen ret same
    have unrecorded : Unrecorded R s [] s' := ⟨by rw [Meanwhile, same]; exact Composes.refl s.stats, rfl⟩
    exact (unrecorded.refused stage tcFrameLen cltuLen ret).counted _
  simp only [deliverFrame, Fallible.wp_bind, Fallible.wp_modify, List.nil_append]
  by_cases typeC : frame.controlCommand = true
  · simp only [if_pos typeC, deliverControl, Fallible.wp_bind, Fallible.wp_read, Fallible.wp_attempt, wp_stepVcState,
      List.nil_append]
    constructor
    · intro _
      exact refused _ _ _ _ _ rfl
    · intro e _
      exact refused _ _ _ _ _ rfl
  · simp only [if_neg typeC, deliverData, Fallible.wp_bind, Fallible.wp_attempt, wp_stepVcState, List.nil_append]
    constructor
    · intro accepted
      simp only [Fallible.wp_read, List.nil_append]
      generalize decoded : tcSegmentDecode (frame.octets _) = outcome
      cases outcome with
      | error e => exact refused _ _ _ _ _ rfl
      | ok segment =>
        have delivered := deliverSegment_counts meets reception segment
          (s := s.withVcState (s.rx.vcState.countFrame.updateSequenceState frame).1)
        apply Fallible.wp_mono delivered
        all_goals
          rintro t _ s' ⟨counted, recorded, right⟩
          refine ⟨counted, recorded, fun uninterrupted => right ?_⟩
          exact uninterrupted _ segment (Prod.ext rfl accepted) (by simpa using typeC) decoded
    · intro e _
      exact refused _ _ _ _ _ rfl

end Block

include R in
/-- A call is recorded once.  It counts its packets right if the walk is not interrupted. -/
theorem tcCltuDispatch_counts (meets : ∀ stats within stats', meanwhile stats within stats' → R stats within stats')
    (cltu : Bytes) :
    (tcCltuDispatch cltu).wp (callingBack meanwhile)
      (fun t _ s' => Counted R s t (UninterruptedCall (callingBack meanwhile) s cltu t) s')
      (fun t _ s' => Counted R s t (UninterruptedCall (callingBack meanwhile) s cltu t) s') s := by
  have unrecorded : ∀ frameBuf, Unrecorded R s [] (s.withFrameBuf frameBuf) :=
    fun _ => ⟨Composes.refl s.stats, rfl⟩
  simp only [tcCltuDispatch, Fallible.wp_bind, Fallible.wp_read, Fallible.wp_modify, List.nil_append]
  cases received : receiveCltu cltu s.rx.frameBuf with
  | mk frameBuf outcome =>
    cases outcome with
    | error refusal => exact ((unrecorded frameBuf).refused _ _ _ _).counted _
    | ok reception =>
      dsimp only
      cases admitted : admitFrame s.rx.acceptedVcid reception.frame with
      | error e => exact ((unrecorded frameBuf).refused _ _ _ _).counted _
      | ok _ =>
        simp only [Fallible.wp_bind]
        have block := Fallible.wp_iff_runs.mp (secureFrame_counts (s := s.withFrameBuf frameBuf) meets reception)
        rw [Fallible.wp_iff_runs]
        constructor
        · intro before frame s₁ secured
          have first : Unrecorded R s before s₁ := Composes.trans (unrecorded frameBuf) (block.1 _ _ _ secured)
          apply Fallible.wp_mono (deliverFrame_counts meets reception frame)
          all_goals
            rintro during _ s' ⟨counted, ⟨stats, stage, nested, stages, packets⟩, right⟩
            refine ⟨counted, ⟨stats, stage, ?_, stages, packets⟩, fun uninterrupted => ?_⟩
            · rw [List.flatMap_append]
              exact Composes.trans first.meanwhile nested
            · have same := right fun vcState segment accepted typeD decoded =>
                uninterrupted before during segment _ rfl
                  ⟨frameBuf, reception, frame, s₁, vcState, received, admitted, secured, typeD, accepted, decoded, rfl⟩
              rw [same, takenBy, takenBy, List.countP_append, show before.countP Event.taken = 0 from first.none,
                Nat.zero_add]
        · intro t e s' refused
          exact ((unrecorded frameBuf).then_refused (block.2 _ _ _ refused)).counted _

end Dispatch

/-! ## Runs of calls -/

/-- What a run has done to the statistics: the calls are counted, and if no walk is interrupted the packets too. -/
def Counts (uninterrupted : Prop) (stats : TcRxStats) (marks : List Mark) (stats' : TcRxStats) : Prop :=
  CountsCalls stats marks stats' ∧ (uninterrupted → CountsPackets stats marks stats')

instance {uninterrupted : Prop} : Composes (Counts uninterrupted) where
  refl stats := ⟨Composes.refl stats, fun _ => Composes.refl stats⟩
  trans first second :=
    ⟨Composes.trans first.1 second.1, fun held => Composes.trans (first.2 held) (second.2 held)⟩

theorem count_marks (events : List Event) :
    (events.flatMap Event.marks).count .call = (events.flatMap (·.within)).count .call ∧
      (events.flatMap Event.marks).count .packet = (events.flatMap (·.within)).count .packet + takenBy events := by
  induction events with
  | nil => simp [takenBy]
  | cons event events ih =>
    unfold takenBy at ih ⊢
    simp only [List.flatMap_cons, List.count_append, Event.marks, List.countP_cons, ih.1, ih.2]
    cases event.taken
    · simp
      omega
    · simp
      omega

section Runs

variable {condition : Condition} {uninterrupted : Prop}
  (holds : uninterrupted → ∀ E s cltu events, condition E s cltu events → UninterruptedCall E s cltu events)

include holds in
theorem CallStep.counts {meanwhile : TcRxStats → List Mark → TcRxStats → Prop}
    (meets : ∀ stats within stats', meanwhile stats within stats' → Counts uninterrupted stats within stats')
    {stats stats' : TcRxStats} {call : Call} (step : CallStep condition (callingBack meanwhile) stats call stats') :
    Counts uninterrupted stats call.marks stats' := by
  obtain ⟨admitted, result, rx', run⟩ := step
  have outcome := Fallible.of_runs (G := fun t _ s' => Counted (Counts uninterrupted) ⟨call.rx, stats⟩ t
    (UninterruptedCall (callingBack meanwhile) ⟨call.rx, stats⟩ call.cltu t) s')
    (tcCltuDispatch_counts meets call.cltu) run
  obtain ⟨counted, ⟨stats₁, stage, ⟨nested, nestedPackets⟩, stages, packets⟩, right⟩ := outcome
  obtain ⟨calls, taken⟩ := count_marks call.events
  constructor
  · obtain ⟨earlier, length, counts⟩ := nested
    refine ⟨earlier ++ [stage], ?_, Composes.trans counts stages⟩
    simp [Call.marks, length, calls]
  · intro held
    have same := right (holds held _ _ _ _ admitted)
    have before : CountsPackets stats _ stats₁ := nestedPackets held
    show stats'.packetsDispatched = stats.packetsDispatched + .ofNat (call.marks.count .packet)
    rw [show stats'.packetsDispatched = _ from packets, before, same, UInt32.add_assoc, ← UInt32.ofNat_add, ← taken]
    simp [Call.marks]

include holds in
theorem runs_count {meanwhile : TcRxStats → List Mark → TcRxStats → Prop}
    (meets : ∀ stats within stats', meanwhile stats within stats' → Counts uninterrupted stats within stats')
    {stats stats' : TcRxStats} {calls : List Call}
    (run : Run (CallStep condition (callingBack meanwhile)) stats calls stats') :
    Counts uninterrupted stats (calls.flatMap Call.marks) stats' :=
  run_along (fun _ _ _ step => step.counts holds meets) run

include holds in
/-- The statistics of calls are right when those of the calls that their handlers make are. -/
theorem nested_runs_count (depth : Nat) {stats stats' : TcRxStats} {calls : List Call}
    (run : Run (CallStep condition (callbacks condition depth)) stats calls stats') :
    Counts uninterrupted stats (calls.flatMap Call.marks) stats' := by
  induction depth generalizing stats calls stats' with
  | zero =>
    refine runs_count holds ?_ run
    rintro stats within stats' ⟨rfl, rfl⟩
    exact (Composes.refl stats' : Counts uninterrupted stats' [] stats')
  | succ depth ih =>
    refine runs_count holds ?_ run
    rintro stats _ stats' ⟨nested, run, rfl⟩
    exact ih run

end Runs

/-- In every run since a reset each call is counted, with at most one category of failure.  If no walk stops behind
a packet that has been taken, every packet that a handler has taken is counted too. -/
theorem statistics_count_packets {condition : Condition} {depth : Nat} {calls : List Call} {stats : TcRxStats}
    (run : Run (CallStep condition (callbacks condition depth)) TcRxStats.reset calls stats) :
    CountsCalls TcRxStats.reset (calls.flatMap Call.marks) stats ∧
      ((∀ E s cltu events, condition E s cltu events → UninterruptedCall E s cltu events) →
        stats.packetsDispatched = UInt32.ofNat ((calls.flatMap Call.marks).count .packet)) := by
  obtain ⟨counted, packets⟩ := nested_runs_count (fun held => held) depth run
  refine ⟨counted, fun held => ?_⟩
  have right : CountsPackets _ _ _ := packets held
  rw [right]
  exact UInt32.zero_add _

end ZephyrCcsds.Tc

/-! ## A second packet that nobody takes -/

namespace ZephyrCcsds.Tc

open Callback

section Sample

attribute [local instance] defaultKconfig Sdls.defaultKconfig

/-- A Type-BD frame with a packet for APID 5 and one for APID 6 -/
def twoPacketCltu : Bytes :=
  [0xeb, 0x90, 0x20, 0x7b, 0x00, 0x13, 0x00, 0xc0, 0x10, 0x0a, 0x05, 0xc0, 0x00, 0x00, 0x00, 0xab, 0x10, 0x98,
    0x06, 0xc0, 0x00, 0x00, 0x00, 0xab, 0x55, 0xd2, 0xc5, 0xc5, 0xc5, 0xc5, 0xc5, 0xc5, 0xc5, 0x79]

/-- What is shown of a callback that leaves the state alone -/
def observeStill (s : State) (op : TcOp) (result : TcRes op) : Event := ⟨op, result, [], s⟩

/-- What an answer adds to the marks -/
def marksOf (answer : (op : TcOp) × TcRes op) : List Mark := if answer.1.takes answer.2 then [.packet] else []

theorem CallStep.of_record {condition : Condition} {rx : TcRx} {stats : TcRxStats} {cltu : Bytes}
    {script : List ((op : TcOp) × TcRes op)} {t : List Event} {result : Except Failure Unit} {s' : State}
    (played : ((tcCltuDispatch cltu).run ⟨rx, stats⟩).record observeStill script = some (t, result, s'))
    (admitted : condition (callbacks condition 0) ⟨rx, stats⟩ cltu t) :
    CallStep condition (callbacks condition 0) stats ⟨rx, cltu, t⟩ s'.stats ∧
      Call.marks ⟨rx, cltu, t⟩ = script.flatMap marksOf ++ [.call] := by
  constructor
  · refine ⟨admitted, result, s'.rx, ?_⟩
    apply Prog.Runs.mono _ (Prog.runs_of_record played)
    rintro s op r t s' ⟨rfl, rfl⟩
    refine ⟨[], rfl, ?_⟩
    cases op with
    | psa _ => exact ⟨rfl, rfl⟩
    | authenticatedRx => exact ⟨rfl, rfl⟩
    | handler => exact ⟨rfl, rfl⟩
  · have marks := Act.map_of_record Event.marks marksOf (fun _ _ _ => rfl) played
    rw [Call.marks, List.flatMap_def, marks, ← List.flatMap_def]

/-- The first packet has been taken, and the statistics do not count it. -/
theorem interrupted_walk_not_counted : ¬ ∀ (depth : Nat) (calls : List Call) (stats : TcRxStats),
    Run (CallStep (fun _ _ _ _ => True) (callbacks (fun _ _ _ _ => True) depth)) TcRxStats.reset calls stats →
    CountsCalls TcRxStats.reset (calls.flatMap Call.marks) stats ∧
      stats.packetsDispatched = UInt32.ofNat ((calls.flatMap Call.marks).count .packet) := by
  intro claim
  have dispatched : (((tcCltuDispatch twoPacketCltu).run ⟨(sampleProfile none false).rx, .reset⟩).record
      observeStill [⟨.handler 1 sampleSpacePacket, (0 : Int)⟩]).any
      (fun played => decide (played.2.2.stats.packetsDispatched = 0)) = true := by
    decide +kernel
  obtain ⟨⟨t, result, s'⟩, played, lost⟩ := (Option.any_eq_true _ _).mp dispatched
  obtain ⟨step, marks⟩ := @CallStep.of_record (fun _ _ _ _ => True) _ _ _ _ _ _ _ played trivial
  have counted := (claim 0 _ _ (.single step)).2
  rw [List.flatMap_singleton, marks, show s'.stats.packetsDispatched = 0 from of_decide_eq_true lost] at counted
  exact absurd counted (by decide)

theorem secureFrame_without_sdls {E : Environment TcOp TcRes State Event} {reception : Reception} {s : State}
    (detached : s.rx.sdls = none) (frameBuf : Bytes) :
    (secureFrame reception).wp E (fun t frame s' => t = [] ∧ frame = reception.frame ∧ s' = s.withFrameBuf frameBuf)
      (fun _ _ _ => False) (s.withFrameBuf frameBuf) := by
  have detached' : (s.withFrameBuf frameBuf).rx.sdls = none := detached
  simp only [secureFrame, Fallible.wp_bind, Fallible.wp_read, detached']
  exact ⟨rfl, rfl, rfl⟩

theorem withFrameBuf_frameBuf (s : State) (frameBuf : Bytes) : (s.withFrameBuf frameBuf).rx.frameBuf = frameBuf := rfl

/-- A Type-BD frame with two packets for APID 5 -/
def pairCltu : Bytes :=
  [0xeb, 0x90, 0x20, 0x7b, 0x00, 0x13, 0x00, 0xc0, 0x10, 0x0a, 0x05, 0xc0, 0x00, 0x00, 0x00, 0xab, 0x10, 0x98,
    0x05, 0xc0, 0x00, 0x00, 0x00, 0xab, 0x55, 0x36, 0xc5, 0xc5, 0xc5, 0xc5, 0xc5, 0xc5, 0xc5, 0x79]

def pairReception : Reception where
  cltuLen := 34
  tcFrameLen := 21
  frame := { clearReception.frame with dataLen := 15 }

def pairFrameBuf : Bytes := (receiveCltu pairCltu (List.replicate maxFrameLen 0)).1

theorem pairCltu_received :
    receiveCltu pairCltu (sampleProfile none false).rx.frameBuf = (pairFrameBuf, .ok pairReception) := by
  have decoded : (receiveCltu pairCltu (List.replicate maxFrameLen 0)).2 = .ok pairReception := by
    decide +kernel
  rw [sampleProfile_frameBuf, ← decoded]
  exact Prod.mk.eta.symm

def pairSegment : TcSegment where
  boundary := .unsegmented
  mapId := 0
  data := [0x10, 0x05, 0xc0, 0x00, 0x00, 0x00, 0xab, 0x10, 0x05, 0xc0, 0x00, 0x00, 0x00, 0xab]

theorem pairSegment_decoded : tcSegmentDecode (pairReception.frame.octets pairFrameBuf) = .ok pairSegment := by
  decide +kernel

/-- No reassembly is open, and handler 1 is responsible for APID 5. -/
def servesSample (s : State) : Bool := !s.rx.reassembly.active && decide (s.rx.handlerFor 0 5 = some 1)

theorem servesSample_begun (rx : TcRx) (stats stats' : TcRxStats) (frameBuf : Bytes) (vcState : TcVcState) :
    servesSample ((((State.mk rx stats').withFrameBuf frameBuf).withVcState vcState).withSdls startDispatching) =
      servesSample ⟨rx, stats⟩ := rfl

/-- What an event answers -/
def answerOf (event : Event) : (op : TcOp) × TcRes op := ⟨event.op, event.result⟩

theorem taken_sample {s : State} {data : Bytes} {event : Event} (header : spacePacketPrimaryHdrLen ≤ data.length)
    (complete : encodedPacketLen data ≤ data.length)
    (decoded : spacePacketDecode (data.take (encodedPacketLen data)) = .ok sampleSpacePacket)
    (serves : servesSample s = true) (answered : answerOf event = ⟨.handler 1 sampleSpacePacket, (0 : Int)⟩) :
    Taken 0 s data event := by
  obtain ⟨idle, chosen⟩ := (Bool.and_eq_true _ _).mp serves
  obtain ⟨op, result, within, left⟩ := event
  cases answered
  exact ⟨header, complete, by simpa using idle, ⟨_, 1, decoded, of_decide_eq_true chosen, rfl⟩, rfl⟩

theorem pairCltu_uninterrupted (E : Environment TcOp TcRes State Event) (stats : TcRxStats) {events : List Event}
    (answered : events.map answerOf =
      [⟨.handler 1 sampleSpacePacket, (0 : Int)⟩, ⟨.handler 1 sampleSpacePacket, (0 : Int)⟩])
    (serves : ∀ event ∈ events, servesSample event.left = true) :
    UninterruptedCall E ⟨(sampleProfile none false).rx, stats⟩ pairCltu events := by
  rintro before during segment s' split
    ⟨frameBuf, reception, frame, s₁, vcState, received, -, secured, -, -, decoded, rfl⟩
  intro _
  have received' : receiveCltu pairCltu (sampleProfile none false).rx.frameBuf = (frameBuf, .ok reception) := received
  rw [pairCltu_received] at received'
  obtain ⟨rfl, same⟩ := Prod.mk.inj received'
  obtain rfl := Except.ok.inj same
  have detached : (State.mk (sampleProfile none false).rx stats).rx.sdls = none := sampleProfile_sdls
  obtain ⟨rfl, rfl, rfl⟩ := Fallible.ok_of_runs (secureFrame_without_sdls detached pairFrameBuf) secured
  rw [withFrameBuf_frameBuf, pairSegment_decoded, Except.ok.injEq] at decoded
  subst decoded
  rw [List.nil_append] at split
  subst split
  obtain ⟨first, rest, rfl, one, others⟩ := List.map_eq_cons_iff.mp answered
  obtain ⟨second, rest, rfl, two, ended⟩ := List.map_eq_cons_iff.mp others
  obtain rfl := List.map_eq_nil_iff.mp ended
  have start : servesSample ⟨(sampleProfile none false).rx, .reset⟩ = true := by decide +kernel
  rw [← servesSample_begun _ _ stats pairFrameBuf vcState] at start
  -- The second packet is taken in the state that the first handler has left.
  have later : Taken 0 first.left (pairSegment.data.drop (encodedPacketLen pairSegment.data)) second :=
    taken_sample (by decide) (by decide) (by decide) (serves first (by simp)) two
  right
  refine .packet (taken_sample (by decide) (by decide) (by decide) start one) (.packet later ?_)
  rw [show (pairSegment.data.drop (encodedPacketLen pairSegment.data)).drop
    (encodedPacketLen (pairSegment.data.drop (encodedPacketLen pairSegment.data))) = [] by decide]
  exact .done

/-- Both packets of a segment are taken and counted. -/
theorem statistics_count_packets_pair : ∃ (call : Call) (stats : TcRxStats),
    Run (CallStep UninterruptedCall (callbacks UninterruptedCall 0)) TcRxStats.reset [call] stats ∧
    call.marks = [.packet, .packet, .call] ∧ CountsCalls TcRxStats.reset [.packet, .packet, .call] stats ∧
    stats.packetsDispatched = 2 := by
  have dispatched : (((tcCltuDispatch pairCltu).run ⟨(sampleProfile none false).rx, .reset⟩).record
      observeStill [⟨.handler 1 sampleSpacePacket, (0 : Int)⟩, ⟨.handler 1 sampleSpacePacket, (0 : Int)⟩]).any
      (fun played => played.1.all fun event => servesSample event.left) = true := by
    decide +kernel
  obtain ⟨⟨t, result, s'⟩, played, serves⟩ := (Option.any_eq_true _ _).mp dispatched
  have answered := Act.map_of_record answerOf id (fun _ _ _ => rfl) played
  obtain ⟨step, marks⟩ := CallStep.of_record played
    (pairCltu_uninterrupted _ _ answered (List.all_eq_true.mp serves))
  have run := Run.single step
  obtain ⟨calls, packets⟩ := statistics_count_packets run
  have all : [(⟨(sampleProfile none false).rx, pairCltu, t⟩ : Call)].flatMap Call.marks =
      [.packet, .packet, .call] := by
    rw [List.flatMap_singleton, marks]
    rfl
  rw [all] at calls packets
  exact ⟨_, _, run, by rw [marks]; rfl, calls, packets fun _ _ _ _ held => held⟩

end Sample

end ZephyrCcsds.Tc
