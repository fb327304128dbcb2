import ZephyrCcsds.Runs
import ZephyrCcsds.Serial
import ZephyrCcsds.Tc.Profile

/-! # Sequence control

The sender numbers its Type-AD frames without a bound and transmits the numbers modulo 256.
The frames arrive in any order, some of them repeatedly or never, with Type-BD frames
between them.  While every one that arrives is inside the window around the next expected
frame, `update_tc_sequence_state` follows the unbounded numbers.
-/

namespace ZephyrCcsds.Tc

variable [Kconfig]

/-! ## The link -/

/-- A Type-D frame that arrives: the Type-AD frame with an index of the sender, or a Type-BD frame -/
inductive Delivery where
  | ad (index : Nat) (frame : TcFrame) (data : frame.controlCommand = false) (sequenced : frame.bypass = false)
      (numbered : frame.frameSequenceNumber = UInt8.ofNat index)
  | bd (frame : TcFrame) (data : frame.controlCommand = false) (bypass : frame.bypass = true)

/-- The state of sequence control with the history of the link: the indices of the accepted Type-AD
frames in the order of their acceptance, and whether a later frame than the next one has been
delivered since the last acceptance. -/
structure Link where
  vcState : TcVcState
  accepted : List Nat
  beyond : Bool

/-- The index of the next frame -/
def Link.next (link : Link) : Nat := link.accepted.length

def Link.start (vcState : TcVcState) : Link where
  vcState := vcState
  accepted := []
  beyond := false

/-- A delivery is processed, and recorded in the history. -/
def Link.deliver (link : Link) : Delivery → Link
  | .ad index frame .. =>
    match link.vcState.updateSequenceState frame with
    | (vcState, .ok ()) => { vcState, accepted := link.accepted ++ [index], beyond := false }
    | (vcState, .error _) => { link with vcState, beyond := link.beyond || link.next < index }
  | .bd frame .. => { link with vcState := (link.vcState.updateSequenceState frame).1 }

/-- A Type-AD frame is less than half the window away from the next frame. -/
def Link.Near (link : Link) (index : Nat) : Prop := |(index : Int) - link.next| < (cop1WindowSize / 2 : Nat)

def Link.Admits (link : Link) : Delivery → Prop
  | .ad index .. => link.Near index
  | .bd .. => True

/-- The processing of one admissible delivery -/
def Link.Step (link : Link) (delivery : Delivery) (link' : Link) : Prop :=
  link.Admits delivery ∧ link' = link.deliver delivery

/-! ## Frame sequence numbers -/

theorem tcCop1HalfWindow_toNat : tcCop1HalfWindow.toNat = cop1WindowSize / 2 := by
  have range := Kconfig.cop1WindowSize_range
  unfold tcCop1HalfWindow
  rw [UInt8.toNat_ofNat']
  exact Nat.mod_eq_of_lt (by omega)

omit [Kconfig] in
/-- The difference of two frame sequence numbers is a serial distance. -/
theorem fsn_sub_toNat (a b : Nat) :
    ((UInt8.ofNat b - UInt8.ofNat a).toNat : Int) = serialDistance 256 a b := by
  unfold serialDistance
  rw [UInt8.toNat_sub, UInt8.toNat_ofNat', UInt8.toNat_ofNat']
  omega

theorem fsn_sub_lt_window_iff {a b : Nat} (near : |(b : Int) - a| < (cop1WindowSize / 2 : Nat)) :
    UInt8.ofNat b - UInt8.ofNat a < tcCop1HalfWindow ↔ a ≤ b := by
  have range := Kconfig.cop1WindowSize_range
  have compare := serialDistance_lt_window_iff (by omega : 2 * ((cop1WindowSize / 2 : Nat) : Int) ≤ 256) near
  rw [← fsn_sub_toNat] at compare
  rw [UInt8.lt_iff_toNat_lt, tcCop1HalfWindow_toNat]
  omega

theorem fsn_eq_iff {a b : Nat} (near : |(b : Int) - a| < (cop1WindowSize / 2 : Nat)) :
    UInt8.ofNat b = UInt8.ofNat a ↔ b = a := by
  have range := Kconfig.cop1WindowSize_range
  have compare := serialDistance_eq_zero_iff (by omega : 2 * ((cop1WindowSize / 2 : Nat) : Int) ≤ 256) near
  rw [← fsn_sub_toNat] at compare
  constructor
  · intro same
    rw [same] at compare
    simp at compare
    omega
  · intro same
    rw [same]

/-! ## One delivery -/

/-- What sequence control does with a Type-AD frame inside the window: the next frame is accepted,
an earlier one is dropped, and a later one calls for a retransmission. -/
theorem updateSequenceState_ad {vcState : TcVcState} {frame : TcFrame} {next index : Nat}
    (unlocked : vcState.lockoutFlag = false) (expects : vcState.reportValue = UInt8.ofNat next)
    (data : frame.controlCommand = false) (sequenced : frame.bypass = false)
    (numbered : frame.frameSequenceNumber = UInt8.ofNat index)
    (near : |(index : Int) - next| < (cop1WindowSize / 2 : Nat)) :
    vcState.updateSequenceState frame =
      if index = next then
        ({ vcState with reportValue := UInt8.ofNat (next + 1), retransmitFlag := false }, .ok ())
      else if index < next then (vcState, .error .eagain)
      else ({ vcState with retransmitFlag := true }, .error .eagain) := by
  have reverse : |(next : Int) - index| < (cop1WindowSize / 2 : Nat) := by rwa [abs_sub_comm]
  unfold TcVcState.updateSequenceState
  simp only [unlocked, data, sequenced, numbered, expects, fsn_eq_iff near, fsn_sub_lt_window_iff near,
    fsn_sub_lt_window_iff reverse, Bool.false_eq_true, or_self, if_false]
  by_cases same : index = next
  · simp only [if_pos same, UInt8.ofNat_add]
    rfl
  · by_cases earlier : index < next
    · simp only [if_neg same, if_pos earlier, if_pos earlier.le]
    · -- the third comparison never fails, so the lockout is out of reach
      have later : next ≤ index := by omega
      simp only [if_neg same, if_neg earlier, if_neg (show ¬ index ≤ next by omega), if_pos later]

theorem updateSequenceState_bd {vcState : TcVcState} {frame : TcFrame}
    (unlocked : vcState.lockoutFlag = false) (bypass : frame.bypass = true) :
    vcState.updateSequenceState frame = (vcState, .ok ()) := by
  simp [TcVcState.updateSequenceState, unlocked, bypass]

/-! ## Runs -/

/-- Sequence control is where the history of the link says.  `pending` is the retransmit flag at the start,
which stays until a frame is accepted. -/
structure Link.InOrder (pending : Bool) (link : Link) : Prop where
  accepted : link.accepted = List.range link.next
  reportValue : link.vcState.reportValue = UInt8.ofNat link.next
  unlocked : link.vcState.lockoutFlag = false
  retransmit : link.vcState.retransmitFlag = true ↔
    link.beyond = true ∨ link.accepted = [] ∧ pending = true

namespace Link.InOrder

variable {pending : Bool} {link : Link}

omit [Kconfig] in
theorem start {vcState : TcVcState} (zero : vcState.reportValue = 0) (unlocked : vcState.lockoutFlag = false) :
    (Link.start vcState).InOrder vcState.retransmitFlag where
  accepted := rfl
  reportValue := zero
  unlocked := unlocked
  retransmit := by simp [Link.start]

/-- The next Type-AD frame is accepted and no other. -/
theorem accepts_iff (inOrder : link.InOrder pending) {frame : TcFrame} {index : Nat}
    (data : frame.controlCommand = false) (sequenced : frame.bypass = false)
    (numbered : frame.frameSequenceNumber = UInt8.ofNat index) (near : link.Near index) :
    (link.vcState.updateSequenceState frame).2 = .ok () ↔ index = link.next := by
  rw [updateSequenceState_ad inOrder.unlocked inOrder.reportValue data sequenced numbered near]
  by_cases same : index = link.next
  · simp [same]
  · by_cases earlier : index < link.next
    · simp [same, earlier]
    · simp [same, earlier]

theorem deliver (inOrder : link.InOrder pending) {delivery : Delivery} (admits : link.Admits delivery) :
    (link.deliver delivery).InOrder pending := by
  obtain ⟨accepted, reportValue, unlocked, retransmit⟩ := inOrder
  cases delivery with
  | bd frame data bypass =>
    simp only [Link.deliver, updateSequenceState_bd unlocked bypass]
    exact ⟨accepted, reportValue, unlocked, retransmit⟩
  | ad index frame data sequenced numbered =>
    have result := updateSequenceState_ad unlocked reportValue data sequenced numbered admits
    by_cases same : index = link.next
    · rw [if_pos same] at result
      simp only [Link.deliver, result]
      constructor
      · simp only [Link.next, List.length_append, List.length_singleton, List.range_succ]
        rw [same, ← Link.next, ← accepted]
      · simp [Link.next]
      · exact unlocked
      · simp
    · by_cases earlier : index < link.next
      · rw [if_neg same, if_pos earlier] at result
        simp only [Link.deliver, result]
        have notBeyond : decide (link.next < index) = false := decide_eq_false (by omega)
        exact ⟨accepted, reportValue, unlocked, by rw [notBeyond, Bool.or_false]; exact retransmit⟩
      · rw [if_neg same, if_neg earlier] at result
        simp only [Link.deliver, result]
        have later : decide (link.next < index) = true := decide_eq_true (by omega)
        exact ⟨accepted, reportValue, unlocked, by simp [later]⟩

/-- The run lemma: the history is right after every run. -/
theorem run (inOrder : link.InOrder pending) {deliveries : List Delivery} {link' : Link}
    (run : Run Link.Step link deliveries link') : link'.InOrder pending := by
  apply run.invariant _ inOrder
  rintro link delivery _ inOrder ⟨admits, rfl⟩
  exact inOrder.deliver admits

end Link.InOrder

/-- Over every sequence of deliveries inside the window, sequence control accepts the Type-AD frames in
order, without a gap or a repetition; `V(R)` counts them, the lockout is never entered, and the
retransmit flag tells whether a later frame has arrived since the last acceptance (or, before the
first one, whether it was set from the start). -/
theorem sequence_control_follows_the_sender {start : TcVcState} (zero : start.reportValue = 0)
    (unlocked : start.lockoutFlag = false) {deliveries : List Delivery} {link : Link}
    (run : Run Link.Step (Link.start start) deliveries link) :
    link.accepted = List.range link.next ∧
    link.vcState.reportValue.toNat = link.next % 256 ∧
    link.vcState.lockoutFlag = false ∧
    (link.vcState.retransmitFlag = true ↔
      link.beyond = true ∨ link.accepted = [] ∧ start.retransmitFlag = true) ∧
    (∀ (index : Nat) (frame : TcFrame), frame.controlCommand = false → frame.bypass = false →
      frame.frameSequenceNumber = UInt8.ofNat index → link.Near index →
        ((link.vcState.updateSequenceState frame).2 = .ok () ↔ index = link.next)) ∧
    (∀ frame : TcFrame, frame.controlCommand = false → frame.bypass = true →
      link.vcState.updateSequenceState frame = (link.vcState, .ok ())) := by
  have inOrder := (Link.InOrder.start zero unlocked).run run
  obtain ⟨accepted, reportValue, unlocked, retransmit⟩ := id inOrder
  refine ⟨accepted, ?_, unlocked, retransmit, ?_, ?_⟩
  · rw [reportValue, UInt8.toNat_ofNat']
  · intro index frame data sequenced numbered near
    exact inOrder.accepts_iff data sequenced numbered near
  · intro frame _ bypass
    exact updateSequenceState_bd unlocked bypass

end ZephyrCcsds.Tc

/-! ## A link that loses a frame and sends it again -/

namespace ZephyrCcsds.Tc

section Sample

attribute [local instance] defaultKconfig

def idleVcState : TcVcState where
  noRfAvailableFlag := false
  noBitLockFlag := false
  waitFlag := false
  lockoutFlag := false
  retransmitFlag := false
  farmBCounter := 0
  reportValue := 0

def sampleFrame (bypass : Bool) (frameSequenceNumber : UInt8) : TcFrame where
  spacecraftId := 123
  virtualChannelId := 0
  bypass := bypass
  controlCommand := false
  frameSequenceNumber := frameSequenceNumber
  data := 5
  dataLen := 8

/-- Frame 1 overtakes frame 0, a Type-BD frame follows, and frame 0 arrives twice. -/
def sampleDeliveries : List Delivery :=
  [.ad 1 (sampleFrame false 1) rfl rfl rfl, .bd (sampleFrame true 0) rfl rfl,
    .ad 0 (sampleFrame false 0) rfl rfl rfl, .ad 0 (sampleFrame false 0) rfl rfl rfl]

/-- The link behind them -/
def sampleLink : Link where
  vcState := { idleVcState with reportValue := 1 }
  accepted := [0]
  beyond := false

theorem sampleDeliveries_run : Run Link.Step (Link.start idleVcState) sampleDeliveries sampleLink := by
  have jump : (Link.start idleVcState).Near 1 := by
    unfold Link.Near
    decide
  have next : { Link.start idleVcState with beyond := true : Link }.Near 0 := by
    unfold Link.Near
    decide
  have repeated : sampleLink.Near 0 := by
    unfold Link.Near
    decide
  exact .step ⟨jump, rfl⟩ (.step ⟨trivial, rfl⟩ (.step ⟨next, rfl⟩ (.step ⟨repeated, rfl⟩ .done)))

theorem sequence_control_follows_the_sender_sample :
    sampleLink.accepted = List.range sampleLink.next ∧
    (sampleLink.vcState.retransmitFlag = true ↔
      sampleLink.beyond = true ∨ sampleLink.accepted = [] ∧ idleVcState.retransmitFlag = true) :=
  have facts := sequence_control_follows_the_sender rfl rfl sampleDeliveries_run
  ⟨facts.1, facts.2.2.2.1⟩

end Sample

end ZephyrCcsds.Tc
