import ZephyrCcsds.Callback.Script
import ZephyrCcsds.Tc.SegmentWalk

/-! # Reassembly

Segments of any MAP arrive in any order and share one reassembly buffer.  While a packet is
open, the buffer holds the data of one FIRST segment and of the CONTINUATION segments behind
it, up to the last segment that was passed on to the reassembly.
-/

namespace ZephyrCcsds.Tc

open Callback

variable [Kconfig] [Sdls.Kconfig]

/-! ## Runs -/

/-- The walk of one segment, with the calls it makes and its result -/
structure Walk where
  segment : TcSegment
  calls : List PartCall
  result : Except Failure Nat

/-- One walk.  Before it the rest of the system may have moved along `touches`. -/
def WalkStep (answers : Int → Prop) (touches : State → State → Prop) (s : State) (walk : Walk) (s' : State) : Prop :=
  ∃ s₀, touches s s₀ ∧
    (walkParts walk.segment).run.Runs (handlers answers touches) s₀ walk.calls walk.result s'

/-- Handlers and the rest of the system do anything but change the reassembly. -/
abbrev AnyWalk : State → Walk → State → Prop := WalkStep (fun _ => True) KeepsReassembly

/-- The segments whose fragments were passed on to the reassembly -/
def passedOn (walks : List Walk) : List TcSegment :=
  (walks.map (·.segment)).filter fun segment => segment.fragment.isSome

/-! ## What the buffer holds -/

/-- The segments end with the fragments of an open packet: its octets so far and its declared length. -/
def OpenPacket (segments : List TcSegment) (mapId : Nat) (octets : Bytes) (declared : Nat) : Prop :=
  ∃ front first middle, segments = front ++ first :: middle ∧
    first.boundary = .first ∧ first.mapId = mapId ∧
    (∀ segment ∈ middle, segment.boundary = .continuation ∧ segment.mapId = mapId) ∧
    octets = (first :: middle).flatMap (·.data) ∧ declared = encodedPacketLen first.data

/-- `len <= expected_len <= sizeof(buffer)` while the reassembly is active -/
def TcReassembly.Bounded (reassembly : TcReassembly) : Prop :=
  reassembly.active = true →
    reassembly.len ≤ reassembly.expectedLen ∧ reassembly.expectedLen ≤ tcMaxSpacePacketLen

/-- The reassembly holds the open packet of the segments. -/
structure Tracks (segments : List TcSegment) (reassembly : TcReassembly) : Prop where
  bounded : reassembly.Bounded
  contents : reassembly.active = true →
    OpenPacket segments reassembly.mapId reassembly.octets reassembly.expectedLen

omit [Sdls.Kconfig] in
theorem Tracks.of_inactive {segments : List TcSegment} {reassembly : TcReassembly}
    (inactive : reassembly.active = false) : Tracks segments reassembly where
  bounded active := by simp [inactive] at active
  contents active := by simp [inactive] at active

/-- A packet that was delivered from the reassembly buffer: the segments end with a FIRST segment, CONTINUATION
segments and a LAST segment of one MAP, and the packet is their data. -/
def Delivered (segments : List TcSegment) (calls : List PartCall) : Prop :=
  ∃ front first middle last, segments = front ++ first :: (middle ++ [last]) ∧
    first.boundary = .first ∧ last.boundary = .last ∧ last.mapId = first.mapId ∧
    (∀ segment ∈ middle, segment.boundary = .continuation ∧ segment.mapId = first.mapId) ∧
    let octets := (first :: (middle ++ [last])).flatMap (·.data)
    octets.length = encodedPacketLen first.data ∧
    ∃ reassembly packet handler, calls = [⟨reassembly, .handler handler packet⟩] ∧
      reassembly.octets = octets ∧ spacePacketDecode octets = .ok packet

omit [Sdls.Kconfig] in
/-- A fragment that the reassembly takes continues the history of the buffer. -/
theorem Tracks.joined {segments : List TcSegment} {segment : TcSegment} {part : TcSegmentPart}
    {reassembly reassembly' : TcReassembly} (tracks : Tracks segments reassembly)
    (fragment : IsFragment segment part) (goesOn : part.endsPacket = false)
    (joined : Joined reassembly part reassembly') : Tracks (segments ++ [segment]) reassembly' where
  bounded _ := ⟨joined.len_le, joined.expectedLen_le⟩
  contents _ := by
    rw [joined.mapId, fragment.mapId]
    cases starts : part.startsPacket with
    | true =>
      have first := fragment.starts.mp starts
      obtain ⟨_, declared, octets⟩ := joined.starts starts
      refine ⟨segments, segment, [], rfl, first, rfl, by simp, ?_, ?_⟩
      · rw [octets, fragment.data]
        simp
      · rw [declared, (fragment.packetLen first).1]
    | false =>
      obtain ⟨active, mapId, declared, octets⟩ := joined.continues starts
      have boundary : segment.boundary = .continuation := by
        -- neither the first nor the last fragment
        have notFirst := mt fragment.starts.mpr (by simp [starts])
        have notLast := mt fragment.ends.mpr (by simp [goesOn])
        have segmented := fragment.segmented
        cases kind : segment.boundary <;> simp [kind] at notFirst notLast segmented ⊢
      obtain ⟨front, first, middle, rfl, opens, same, continues, held, declared'⟩ := tracks.contents active
      refine ⟨front, first, middle ++ [segment], by simp, opens, ?_, ?_, ?_, ?_⟩
      · rw [same, mapId, fragment.mapId]
      · intro other listed
        rcases List.mem_append.mp listed with earlier | this
        · rw [← fragment.mapId, ← mapId]
          exact continues other earlier
        · rw [List.mem_singleton.mp this]
          exact ⟨boundary, rfl⟩
      · rw [octets, held, fragment.data]
        simp
      · rw [declared, declared']

omit [Sdls.Kconfig] in
/-- The last fragment of a packet makes the buffer the whole packet. -/
theorem Tracks.completed {segments : List TcSegment} {segment : TcSegment} {part : TcSegmentPart}
    {reassembly reassembly' : TcReassembly} (tracks : Tracks segments reassembly)
    (fragment : IsFragment segment part) (ends : part.endsPacket = true)
    (joined : Joined reassembly part reassembly') :
    ∃ front first middle, segments ++ [segment] = front ++ first :: (middle ++ [segment]) ∧
      first.boundary = .first ∧ segment.mapId = first.mapId ∧
      (∀ other ∈ middle, other.boundary = .continuation ∧ other.mapId = first.mapId) ∧
      reassembly'.octets = (first :: (middle ++ [segment])).flatMap (·.data) ∧
      reassembly'.octets.length = encodedPacketLen first.data := by
  have starts : part.startsPacket = false := by
    have whole := fragment.not_whole
    simpa [ends] using whole
  obtain ⟨active, mapId, declared, octets⟩ := joined.continues starts
  obtain ⟨front, first, middle, rfl, opens, same, continues, held, declared'⟩ := tracks.contents active
  refine ⟨front, first, middle, by simp, opens, ?_, ?_, ?_, ?_⟩
  · rw [same, mapId, fragment.mapId]
  · rw [same]
    exact continues
  · rw [octets, held, fragment.data]
    simp
  · rw [reassembly'.octets_length, joined.complete ends, declared, declared']

/-! ## One walk -/

/-- What a walk keeps: the calls it makes are in a bounded state, those for a fragment deliver a packet, and the
reassembly tracks the segments behind it. -/
structure WalkTracked (segments : List TcSegment) (walk : Walk) (s' : State) : Prop where
  tracks : Tracks (segments ++ passedOn [walk]) s'.rx.reassembly
  bounded : ∀ call ∈ walk.calls, call.reassembly.Bounded
  delivered : walk.segment.boundary ≠ .unsegmented → walk.calls ≠ [] →
    Delivered (segments ++ passedOn [walk]) walk.calls

omit [Sdls.Kconfig] in
theorem passedOn_some {walk : Walk} {part : TcSegmentPart} (passed : walk.segment.fragment = some part) :
    passedOn [walk] = [walk.segment] := by
  simp [passedOn, passed]

omit [Sdls.Kconfig] in
theorem passedOn_none {walk : Walk} (passed : walk.segment.fragment = none) : passedOn [walk] = [] := by
  simp [passedOn, passed]

variable {answers : Int → Prop} {touches : State → State → Prop} {s s' : State} {segments : List TcSegment}
  {walk : Walk}

theorem Tracks.delivers {part : TcSegmentPart} {reassembly : TcReassembly} {t : List PartCall}
    (keeps : ∀ s s', touches s s' → KeepsReassembly s s') (tracks : Tracks segments s.rx.reassembly)
    {segment : TcSegment} (fragment : IsFragment segment part) (ends : part.endsPacket = true)
    (joined : Joined s.rx.reassembly part reassembly)
    (dispatched : Dispatched touches (s.withReassembly reassembly) reassembly.mapId reassembly.octets t s') :
    (∀ call ∈ t, call.reassembly.Bounded) ∧ Delivered (segments ++ [segment]) t := by
  obtain ⟨front, first, middle, split, opens, same, continues, held, declared⟩ :=
    tracks.completed fragment ends joined
  obtain ⟨_, calls⟩ := dispatched.outside keeps
  obtain ⟨packet, decoded, handler, _, made, _⟩ := dispatched
  constructor
  · intro call listed
    rw [calls call listed]
    exact fun _ => ⟨joined.len_le, joined.expectedLen_le⟩
  · refine ⟨front, first, middle, segment, split, opens, fragment.ends.mp ends, same, continues, ?_, reassembly, packet,
      handler, made, held, ?_⟩
    · rw [← held, declared]
    · rw [← held, decoded]

theorem FragmentOutcome.tracked {part : TcSegmentPart} (keeps : ∀ s s', touches s s' → KeepsReassembly s s')
    (tracks : Tracks segments s.rx.reassembly) (passed : walk.segment.fragment = some part)
    (outcome : FragmentOutcome answers touches part s walk.calls walk.result s') : WalkTracked segments walk s' := by
  have fragment := TcSegment.isFragment passed
  obtain ⟨segment, calls, result⟩ := walk
  cases outcome with
  | refused received =>
    refine ⟨.of_inactive (TcReassembly.receive_error received), by simp, by simp⟩
  | kept received goesOn =>
    refine ⟨?_, by simp, by simp⟩
    rw [passedOn_some passed]
    exact tracks.joined fragment goesOn (TcReassembly.receive_ok received)
  | delivered received ends dispatched =>
    obtain ⟨bounded, delivered⟩ := tracks.delivers keeps fragment ends (TcReassembly.receive_ok received) dispatched
    refine ⟨.of_inactive rfl, bounded, fun _ _ => ?_⟩
    rw [passedOn_some passed]
    exact delivered
  | answered received ends dispatched answer =>
    obtain ⟨bounded, delivered⟩ := tracks.delivers keeps fragment ends (TcReassembly.receive_ok received) dispatched
    refine ⟨.of_inactive rfl, bounded, fun _ _ => ?_⟩
    rw [passedOn_some passed]
    exact delivered
  | unserved received ends nobody =>
    exact ⟨.of_inactive rfl, by simp, by simp⟩

/-- A segment that is refused before the reassembly makes no call. -/
theorem walkParts_refused {segment : TcSegment} (passed : segment.fragment = none)
    (segmented : segment.boundary ≠ .unsegmented) :
    (walkParts segment).wp (handlers answers touches) (fun t _ _ => t = []) (fun t _ _ => t = []) s := by
  obtain ⟨boundary, mapId, data⟩ := segment
  unfold TcSegment.fragment at passed
  unfold walkParts
  by_cases empty : data.length = 0
  · simp [empty]
  · cases boundary with
    | continuation => simp [empty] at passed
    | last => simp [empty] at passed
    | unsegmented => simp at segmented
    | first =>
      by_cases headless : data.length < spacePacketPrimaryHdrLen
      · simp [empty, headless]
      · by_cases whole : encodedPacketLen data ≤ data.length
        · simp [empty, headless, whole]
        · simp [empty, headless, whole] at passed

/-- The step lemma: every walk keeps the reassembly on the track of the segments. -/
theorem WalkStep.tracked (keeps : ∀ s s', touches s s' → KeepsReassembly s s')
    (tracks : Tracks segments s.rx.reassembly) (step : WalkStep answers touches s walk s') :
    WalkTracked segments walk s' := by
  obtain ⟨s₀, touched, runs⟩ := step
  have same : s₀.rx.reassembly = s.rx.reassembly := keeps s s₀ touched
  rw [← same] at tracks
  cases passed : walk.segment.fragment with
  | some part =>
    rw [walkParts_fragment passed] at runs
    have outcome := @Fallible.of_runs _ _ _ _ _ _ _ _ _ (FragmentOutcome answers touches part s₀)
      (dispatchTcSegmentPart_fragment (TcSegment.isFragment passed).not_whole) _ _ _ runs
    exact outcome.tracked keeps tracks passed
  | none =>
    obtain ⟨kept, calls⟩ := Prog.wp_of_runs (walkParts_outside keeps passed s₀) runs
    refine ⟨?_, ?_, ?_⟩
    · rw [passedOn_none passed, List.append_nil, kept]
      exact tracks
    · intro call listed
      rw [calls call listed]
      exact tracks.bounded
    · intro segmented called
      exact absurd (@Fallible.of_runs _ _ _ _ _ _ _ _ _ (fun t _ _ => t = []) (walkParts_refused passed segmented)
        _ _ _ runs) called

/-! ## Runs of walks -/

omit [Sdls.Kconfig] in
@[simp] theorem passedOn_append (front back : List Walk) : passedOn (front ++ back) = passedOn front ++ passedOn back := by
  simp [passedOn]

/-- The run lemma: the reassembly is on the track of the segments walked so far. -/
theorem tracks_of_run (keeps : ∀ s s', touches s s' → KeepsReassembly s s')
    (inactive : s.rx.reassembly.active = false) {walks : List Walk}
    (run : Run (WalkStep answers touches) s walks s') : Tracks (passedOn walks) s'.rx.reassembly := by
  refine @Run.invariant_history _ _ (WalkStep answers touches) s s' walks
    (fun past s => Tracks (passedOn past) s.rx.reassembly) ?_ [] (.of_inactive inactive) run
  intro past s walk s' tracks step
  rw [passedOn_append]
  exact (step.tracked keeps tracks).tracks

/-- Whatever segments arrive and whatever the handlers return, an active reassembly is within its bounds, and a
packet that is delivered from the buffer is the data of one FIRST segment, CONTINUATION segments and one LAST
segment of one MAP, next to one another among the segments that were passed on to the reassembly. -/
theorem reassembled_packets_are_contiguous {s s' : State} {walks : List Walk}
    (inactive : s.rx.reassembly.active = false) (run : Run AnyWalk s walks s') :
    s'.rx.reassembly.Bounded ∧
    (∀ walk ∈ walks, ∀ call ∈ walk.calls, call.reassembly.Bounded) ∧
    ∀ before walk after, walks = before ++ walk :: after → walk.segment.boundary ≠ .unsegmented →
      walk.calls ≠ [] → Delivered (passedOn (before ++ [walk])) walk.calls := by
  have keeps : ∀ s s', KeepsReassembly s s' → KeepsReassembly s s' := fun _ _ kept => kept
  have each : ∀ before walk after, walks = before ++ walk :: after →
      ∃ s₁, WalkTracked (passedOn before) walk s₁ := by
    rintro before walk after rfl
    obtain ⟨middle, first, rest⟩ := run.split
    cases rest with
    | step one _ => exact ⟨_, one.tracked keeps (tracks_of_run keeps inactive first)⟩
  refine ⟨(tracks_of_run keeps inactive run).bounded, ?_, ?_⟩
  · intro walk listed call made
    obtain ⟨before, after, split⟩ := List.append_of_mem listed
    obtain ⟨_, tracked⟩ := each before walk after split
    exact tracked.bounded call made
  · intro before walk after split segmented called
    obtain ⟨_, tracked⟩ := each before walk after split
    rw [passedOn_append]
    exact tracked.delivered segmented called

/-! ## Walks from a script -/

/-- Walk segments, with the answers to the calls that each makes. -/
def playWalks (s : State) : List (TcSegment × List ((op : TcOp) × TcRes op)) → Option (List Walk × State)
  | [] => some ([], s)
  | (segment, script) :: rest =>
    (((walkParts segment).run s).record (fun s op _ => (⟨s.rx.reassembly, op⟩ : PartCall)) script).bind
      fun (calls, result, s') => (playWalks s' rest).map fun (walks, s'') => ({ segment, calls, result } :: walks, s'')

theorem runs_of_playWalks (still : ∀ s, touches s s) {script : List (TcSegment × List ((op : TcOp) × TcRes op))}
    (allowed : ∀ walk ∈ script, ∀ answer ∈ walk.2, HandlerAnswer answers answer.1 answer.2) {walks : List Walk}
    (played : playWalks s script = some (walks, s')) :
    Run (WalkStep answers touches) s walks s' ∧ walks.map (·.segment) = script.map (·.1) := by
  induction script generalizing s walks with
  | nil =>
    cases played
    exact ⟨.done, rfl⟩
  | cons walk script ih =>
    obtain ⟨segment, answersScript⟩ := walk
    obtain ⟨now, later⟩ := List.forall_mem_cons.mp allowed
    rw [playWalks, Option.bind_eq_some_iff] at played
    obtain ⟨⟨calls, result, s₁⟩, first, rest⟩ := played
    obtain ⟨⟨walks, s₂⟩, rest, joined⟩ := Option.map_eq_some_iff.mp rest
    cases joined
    obtain ⟨run, segments⟩ := ih later rest
    refine ⟨.step ⟨s, still s, ?_⟩ run, ?_⟩
    · apply Prog.Runs.mono _ (Act.runs_of_record_allowed first now)
      rintro s op r t s' ⟨answered, rfl, rfl⟩
      exact ⟨rfl, answered, still _⟩
    · rw [List.map_cons, List.map_cons, segments]

end ZephyrCcsds.Tc

/-! ## A refused segment between two fragments -/

namespace ZephyrCcsds.Tc

open Callback

section Sample

attribute [local instance] defaultKconfig Sdls.defaultKconfig

/-- A profile whose packets for APID 5 have a handler -/
def routedProfile : State where
  rx := {
    router := { entries := fun i => { apid := 5, handler := 1, active := decide (i.val = 0) } }
    acceptedVcid := 0
    vcState := {
      noRfAvailableFlag := false, noBitLockFlag := false, waitFlag := false, lockoutFlag := false
      retransmitFlag := false, farmBCounter := 0, reportValue := 0 }
    reassembly := .zero
    mapApidRoute := { handler := 0, apid := 0, mapId := 0, active := false }
    frameBuf := []
    sdls := none
    clearMapId := 0
    clearMapConfigured := false
    clearMapEnabled := false
    authenticatedRxFn := false }
  stats := {
    cltusReceived := 0, cltusOversize := 0, cltuDecodeFailures := 0, tcFrameRejects := 0
    controlFramesSeen := 0, packetsDispatched := 0, dispatchFailures := 0, lastError := none
    lastCltuLen := 0, lastTcFrameLen := 0 }

theorem routedProfile_inactive : routedProfile.rx.reassembly.active = false := rfl

-- Only the kernel evaluates walks on this profile.
attribute [irreducible] routedProfile

def routedPacket : SpacePacket where
  version := 0
  type := 1
  secondaryHeader := false
  apid := 5
  sequenceFlags := 3
  sequenceCount := 0
  payload := [0xab]

/-- The header of a packet on MAP 0 -/
def firstOnMap0 : TcSegment where
  boundary := .first
  mapId := 0
  data := [0x10, 0x05, 0xc0, 0x00, 0x00, 0x00]

/-- A FIRST segment on MAP 1 that is too short for a header -/
def shortFirstOnMap1 : TcSegment where
  boundary := .first
  mapId := 1
  data := [0x10]

/-- The last octet of the packet on MAP 0 -/
def lastOnMap0 : TcSegment where
  boundary := .last
  mapId := 0
  data := [0xab]

/-- The segments that are not UNSEGMENTED, whether they reach the reassembly or not -/
def segmented (walks : List Walk) : List TcSegment :=
  (walks.map (·.segment)).filter fun segment => segment.boundary ≠ .unsegmented

/-- The two parts are joined in spite of the segment between them. -/
theorem interleaved_walks : ∃ (one two three : Walk) (s' : State),
    Run AnyWalk routedProfile [one, two, three] s' ∧
    one.segment = firstOnMap0 ∧ two.segment = shortFirstOnMap1 ∧ three.segment = lastOnMap0 ∧ three.calls ≠ [] := by
  have played : (playWalks routedProfile
      [(firstOnMap0, []), (shortFirstOnMap1, []), (lastOnMap0, [⟨.handler 1 routedPacket, (0 : Int)⟩])]).any
      (fun played => decide ((played.1.map fun walk => walk.calls.map (·.op)) = [[], [], [.handler 1 routedPacket]])) =
        true := by
    decide +kernel
  obtain ⟨⟨walks, s'⟩, played, calls⟩ := (Option.any_eq_true _ _).mp played
  have allowed : ∀ walk ∈ [(firstOnMap0, []), (shortFirstOnMap1, []),
      (lastOnMap0, [(⟨.handler 1 routedPacket, (0 : Int)⟩ : (op : TcOp) × TcRes op)])],
      ∀ answer ∈ walk.2, HandlerAnswer (fun _ => True) answer.1 answer.2 := by
    simp [HandlerAnswer]
  obtain ⟨run, segments⟩ := @runs_of_playWalks _ _ _ KeepsReassembly _ _ (fun _ => rfl) _ allowed _ played
  have calls := of_decide_eq_true calls
  obtain ⟨one, two, three, rfl⟩ : ∃ one two three, walks = [one, two, three] := by
    have length := congrArg List.length segments
    rw [List.length_map] at length
    exact List.length_eq_three.mp length
  simp only [List.map_cons, List.map_nil, List.cons.injEq, and_true] at segments calls
  refine ⟨one, two, three, s', run, segments.1, segments.2.1, segments.2.2, fun silent => ?_⟩
  simp [silent] at calls

/-- Among all the segments that arrive, the fragments of a delivered packet need not be next to one another. -/
theorem fragments_not_contiguous : ¬ ∀ (s s' : State) (walks : List Walk),
    s.rx.reassembly.active = false → Run AnyWalk s walks s' →
    s'.rx.reassembly.Bounded ∧
    ∀ before walk after, walks = before ++ walk :: after → walk.segment.boundary ≠ .unsegmented →
      walk.calls ≠ [] → Delivered (segmented (before ++ [walk])) walk.calls := by
  intro claim
  obtain ⟨one, two, three, s', run, first, second, third, called⟩ := interleaved_walks
  obtain ⟨front, opening, middle, last, split, opens, ends, sameMap, continues, -⟩ :=
    (claim _ _ _ routedProfile_inactive run).2 [one, two] three [] rfl (by rw [third]; decide) called
  have all : segmented ([one, two] ++ [three]) = [firstOnMap0, shortFirstOnMap1, lastOnMap0] := by
    simp only [segmented, List.cons_append, List.nil_append, List.map_cons, List.map_nil, first, second, third]
    decide
  rw [all] at split
  -- the packet would have to start with the first segment or with the second one
  match front, split with
  | [], split =>
    obtain ⟨rfl, rest⟩ := List.cons.inj split
    have inside : shortFirstOnMap1 ∈ middle := by
      cases middle with
      | nil => simp at rest
      | cons head tail =>
        obtain ⟨rfl, _⟩ := List.cons.inj rest
        exact List.mem_cons_self
    exact absurd (continues _ inside).1 (by decide)
  | [_], split =>
    obtain ⟨-, split⟩ := List.cons.inj split
    obtain ⟨rfl, rest⟩ := List.cons.inj split
    cases middle with
    | nil =>
      obtain ⟨rfl, -⟩ := List.cons.inj rest
      exact absurd sameMap (by decide)
    | cons head tail => simp at rest
  | _ :: _ :: front, split =>
    have length := congrArg List.length split
    simp only [List.length_cons, List.length_nil, List.length_append] at length
    omega

theorem reassembled_packets_are_contiguous_sample : ∃ (before : List Walk) (walk : Walk) (s' : State),
    Run AnyWalk routedProfile (before ++ [walk]) s' ∧ walk.segment = lastOnMap0 ∧ s'.rx.reassembly.Bounded ∧
    Delivered (passedOn (before ++ [walk])) walk.calls := by
  obtain ⟨one, two, three, s', run, first, second, third, called⟩ := interleaved_walks
  have facts := reassembled_packets_are_contiguous routedProfile_inactive run
  exact ⟨[one, two], three, s', run, third, facts.1,
    facts.2.2 [one, two] three [] rfl (by rw [third]; decide) called⟩

end Sample

end ZephyrCcsds.Tc
