import Mathlib.Tactic.Ring
import ZephyrCcsds.SlidingWindow
import ZephyrCcsds.Tc.Uplink

/-! # The COP-1 loop

The profile reports its sequence control in Communications Link Control Words, which come down in the OCF of telemetry
frames.  A ground station reads them and sends no frame outside a window behind those that have been acknowledged, as
often and in whichever order it likes.  The links keep the order of what they carry, but lose of it what they like and
may bring the same thing again, with a flipped bit in each codeblock and with other CLTUs in between.

**Main results:**

- `clcw_reads`: a CLCW gives back the state of sequence control.
- `Cop1.Inv.step`: what holds between the profile, the ground station and all that is on its way.
- `cop1_acknowledges`: nothing is acknowledged that has not been delivered, and everything can be.
- `cop1_window_iff`: the profile can be locked out exactly if the window is half the COP-1 window or more.
-/

namespace ZephyrCcsds.Tc

open Callback

/-! ## Control words -/

/-- `CCSDS_CLCW_CONTROL_WORD_TYPE` -/
def clcwControlWordType : UInt32 := 0

/-- `CCSDS_CLCW_VERSION_NUMBER` -/
def clcwVersionNumber : UInt32 := 0

/-- `CCSDS_CLCW_STATUS_FIELD` -/
def clcwStatusField : UInt32 := 0

/-- `CCSDS_CLCW_COP_IN_EFFECT` -/
def clcwCopInEffect : UInt32 := 1

/-- `flag ? 1u : 0u` -/
def flagBit (flag : Bool) : UInt32 := if flag then 1 else 0

/-- The word that `ccsds_profile_tc_build_clcw` composes -/
def TcVcState.clcw (state : TcVcState) (acceptedVcid : Nat) : UInt32 :=
  (clcwControlWordType &&& 0x1) <<< 31 |||
    (clcwVersionNumber &&& 0x3) <<< 29 |||
    (clcwStatusField &&& 0x7) <<< 26 |||
    (clcwCopInEffect &&& 0x3) <<< 24 |||
    (UInt32.ofNat acceptedVcid &&& 0x3f) <<< 18 |||
    flagBit state.noRfAvailableFlag <<< 15 |||
    flagBit state.noBitLockFlag <<< 14 |||
    flagBit state.lockoutFlag <<< 13 |||
    flagBit state.waitFlag <<< 12 |||
    flagBit state.retransmitFlag <<< 11 |||
    (state.farmBCounter.toUInt32 &&& 0x3) <<< 9 |||
    state.reportValue.toUInt32

/-- `ccsds_profile_tc_build_clcw`, which `ccsds_profile_tc_clcw_provider` calls -/
def tcBuildClcw [Kconfig] [Sdls.Kconfig] (rx : TcRx) : Except Errno UInt32 :=
  if tcVcCount ≤ rx.acceptedVcid then .error .einval else .ok (rx.vcState.clcw rx.acceptedVcid)

/-- A CLCW as the standard lays it out -/
structure Clcw where
  controlWordType : Nat
  version : Nat
  status : Nat
  copInEffect : Nat
  virtualChannelId : Nat
  noRfAvailable : Bool
  noBitLock : Bool
  lockout : Bool
  wait : Bool
  retransmit : Bool
  farmBCounter : Nat
  reportValue : Nat
  deriving DecidableEq, Repr

/-- What a receiver of telemetry reads in an OCF -/
def Clcw.ofOcf (ocf : Bytes) : Clcw :=
  let word := Bytes.getBe ocf
  { controlWordType := word / 2 ^ 31 % 2
    version := word / 2 ^ 29 % 4
    status := word / 2 ^ 26 % 8
    copInEffect := word / 2 ^ 24 % 4
    virtualChannelId := word / 2 ^ 18 % 64
    noRfAvailable := word / 2 ^ 15 % 2 = 1
    noBitLock := word / 2 ^ 14 % 2 = 1
    lockout := word / 2 ^ 13 % 2 = 1
    wait := word / 2 ^ 12 % 2 = 1
    retransmit := word / 2 ^ 11 % 2 = 1
    farmBCounter := word / 2 ^ 9 % 4
    reportValue := word % 256 }

/-- A field of some width below the others -/
theorem toNat_or_field {above field : UInt32} {low width rest value : Nat}
    (high : above.toNat = 2 ^ (low + width) * rest) (placed : field.toNat = 2 ^ low * value)
    (narrow : value < 2 ^ width) : (above ||| field).toNat = 2 ^ low * (2 ^ width * rest + value) := by
  have inside : 2 ^ low * value < 2 ^ (low + width) := by
    rw [pow_add]
    exact Nat.mul_lt_mul_of_pos_left narrow (Nat.two_pow_pos low)
  rw [UInt32.toNat_or, high, placed, ← Nat.two_pow_add_eq_or_of_lt inside]
  ring

theorem flagBit_toNat (flag : Bool) {bit : Nat} (inside : bit < 32) :
    (flagBit flag <<< UInt32.ofNat bit).toNat = 2 ^ bit * flag.toNat := by
  cases flag with
  | false => simp [flagBit]
  | true =>
    have power : 2 ^ bit < 2 ^ 32 := Nat.pow_lt_pow_right (by decide) inside
    simp only [flagBit, if_true, UInt32.toNat_shiftLeft, UInt32.toNat_ofNat', Bool.toNat_true, mul_one]
    rw [Nat.mod_eq_of_lt (show bit < 2 ^ 32 by omega), Nat.mod_eq_of_lt inside]
    simpa [Nat.shiftLeft_eq] using power

/-- The lowest bits of a value, moved up -/
theorem maskedField_toNat (value : UInt32) {low width : Nat} (fits : low + width ≤ 32) (some : 0 < width) :
    ((value &&& UInt32.ofNat (2 ^ width - 1)) <<< UInt32.ofNat low).toNat = 2 ^ low * (value.toNat % 2 ^ width) := by
  have below : value.toNat % 2 ^ width < 2 ^ width := Nat.mod_lt _ (Nat.two_pow_pos width)
  have power : 2 ^ width ≤ 2 ^ 32 := Nat.pow_le_pow_right (by decide) (by omega)
  have inside : 2 ^ low * (value.toNat % 2 ^ width) < 2 ^ 32 := by
    calc 2 ^ low * (value.toNat % 2 ^ width) < 2 ^ low * 2 ^ width :=
          Nat.mul_lt_mul_of_pos_left below (Nat.two_pow_pos low)
      _ = 2 ^ (low + width) := (pow_add 2 low width).symm
      _ ≤ 2 ^ 32 := Nat.pow_le_pow_right (by decide) fits
  simp only [UInt32.toNat_shiftLeft, UInt32.toNat_and, UInt32.toNat_ofNat']
  rw [Nat.mod_eq_of_lt (show 2 ^ width - 1 < 2 ^ 32 by omega), Nat.mod_eq_of_lt (show low < 2 ^ 32 by omega),
    Nat.mod_eq_of_lt (show low < 32 by omega), Nat.and_two_pow_sub_one_eq_mod, Nat.shiftLeft_eq, mul_comm,
    Nat.mod_eq_of_lt inside]

/-- The state of sequence control in the fields of a CLCW -/
def TcVcState.report (state : TcVcState) (acceptedVcid : Nat) : Clcw where
  controlWordType := 0
  version := 0
  status := 0
  copInEffect := 1
  virtualChannelId := acceptedVcid
  noRfAvailable := state.noRfAvailableFlag
  noBitLock := state.noBitLockFlag
  lockout := state.lockoutFlag
  wait := state.waitFlag
  retransmit := state.retransmitFlag
  farmBCounter := state.farmBCounter.toNat % 4
  reportValue := state.reportValue.toNat

/-- The fields of the word, from the lowest on -/
theorem clcw_toNat (state : TcVcState) {acceptedVcid : Nat} (known : acceptedVcid < tcVcCount) :
    (state.clcw acceptedVcid).toNat = 2 ^ 9 * (2 ^ 2 * (2 * (2 * (2 * (2 * (2 ^ 3 * (2 ^ 6 + acceptedVcid) +
      state.noRfAvailableFlag.toNat) + state.noBitLockFlag.toNat) + state.lockoutFlag.toNat) + state.waitFlag.toNat) +
      state.retransmitFlag.toNat) + state.farmBCounter.toNat % 4) + state.reportValue.toNat := by
  have known : acceptedVcid < 64 := known
  have flag : ∀ flag : Bool, flag.toNat < 2 := fun flag => flag.toNat_lt
  have octet := state.reportValue.toNat_lt
  have cop : ((clcwControlWordType &&& 0x1) <<< 31 ||| (clcwVersionNumber &&& 0x3) <<< 29 |||
      (clcwStatusField &&& 0x7) <<< 26 ||| (clcwCopInEffect &&& 0x3) <<< 24).toNat = 2 ^ (18 + 6) * 1 := by decide
  have vcid : ((UInt32.ofNat acceptedVcid &&& 0x3f) <<< 18).toNat = 2 ^ 18 * acceptedVcid := by
    have field := @maskedField_toNat (UInt32.ofNat acceptedVcid) 18 6 (by decide) (by decide)
    rw [UInt32.toNat_ofNat', Nat.mod_eq_of_lt (show acceptedVcid < 2 ^ 32 by omega),
      Nat.mod_eq_of_lt (show acceptedVcid < 2 ^ 6 from known)] at field
    exact field
  have farmB : ((state.farmBCounter.toUInt32 &&& 0x3) <<< 9).toNat = 2 ^ 9 * (state.farmBCounter.toNat % 4) := by
    have field := @maskedField_toNat state.farmBCounter.toUInt32 9 2 (by decide) (by decide)
    rw [UInt8.toNat_toUInt32] at field
    exact field
  have report : state.reportValue.toUInt32.toNat = 2 ^ 0 * state.reportValue.toNat := by
    rw [UInt8.toNat_toUInt32, pow_zero, one_mul]
  -- From the left, each field lies below those before it.
  have word := toNat_or_field cop vcid known
  have word := @toNat_or_field _ _ 15 3 _ _ word (flagBit_toNat state.noRfAvailableFlag (by decide))
    ((flag _).trans (by decide))
  have word := @toNat_or_field _ _ 14 1 _ _ word (flagBit_toNat state.noBitLockFlag (by decide)) (flag _)
  have word := @toNat_or_field _ _ 13 1 _ _ word (flagBit_toNat state.lockoutFlag (by decide)) (flag _)
  have word := @toNat_or_field _ _ 12 1 _ _ word (flagBit_toNat state.waitFlag (by decide)) (flag _)
  have word := @toNat_or_field _ _ 11 1 _ _ word (flagBit_toNat state.retransmitFlag (by decide)) (flag _)
  have word := @toNat_or_field _ _ 9 2 _ _ word farmB (Nat.mod_lt _ (by decide))
  have word := @toNat_or_field _ _ 0 9 _ _ word report (by omega)
  rw [pow_zero, one_mul] at word
  exact word

theorem decide_bit {bit : Nat} {flag : Bool} (same : bit = flag.toNat) : decide (bit = 1) = flag := by
  subst same
  cases flag <;> rfl

/-- A CLCW gives back the state of sequence control. -/
theorem clcw_reads (state : TcVcState) {acceptedVcid : Nat} (known : acceptedVcid < tcVcCount) :
    Clcw.ofOcf (Bytes.putBe 4 (state.clcw acceptedVcid).toNat) = state.report acceptedVcid := by
  have whole := Bytes.getBe_putBe_of_lt (show (state.clcw acceptedVcid).toNat < 256 ^ 4 from UInt32.toNat_lt _)
  have known : acceptedVcid < 64 := known
  have octet := state.reportValue.toNat_lt
  unfold Clcw.ofOcf TcVcState.report
  rw [whole, clcw_toNat state known]
  obtain ⟨noRf, noBitLock, wait, lockout, retransmit, farmB, reportValue⟩ := state
  dsimp only at octet ⊢
  simp only [Clcw.mk.injEq]
  have flag : ∀ flag : Bool, flag.toNat < 2 := fun flag => flag.toNat_lt
  have := flag noRf
  have := flag noBitLock
  have := flag wait
  have := flag lockout
  have := flag retransmit
  refine ⟨by omega, by omega, by omega, by omega, by omega, ?_, ?_, ?_, ?_, ?_, by omega, by omega⟩
  all_goals
    apply decide_bit
    omega

variable [Kconfig] [Sdls.Kconfig]

/-! ## The loop -/

/-- How many frames a CLCW acknowledges, for a ground station that knows of some already -/
def Clcw.acknowledges (clcw : Clcw) (acked : Nat) : Nat :=
  acked + (serialDistance 256 ((acked : Int) % 256) clcw.reportValue).toNat

/-- The profile with the history of the uplink, the number of frames that the ground station knows to be acknowledged,
and what is on its way, the oldest first: indices of frames, and OCFs -/
structure Cop1 where
  uplink : Uplink
  acked : Nat
  frames : List Nat
  ocfs : List Bytes

def Cop1.start (s : State) : Cop1 where
  uplink := .start s
  acked := 0
  frames := []
  ocfs := []

inductive Cop1Event where
  | send (index : Nat)
  | arrival (arrival : Arrival)
  | report
  | read
  | lose

/-- What the ground station, the links and the profile do.  What has arrived stays at the front of its link, where it
may arrive again, until it is lost. -/
inductive Cop1.Step (ground : Ground) (window : Nat) : Cop1 → Cop1Event → Cop1 → Prop where
  | send {loop : Cop1} {index : Nat} (isSent : index < ground.segments.length) (above : loop.acked ≤ index)
      (below : index < loop.acked + window) :
      Step ground window loop (.send index) { loop with frames := loop.frames ++ [index] }
  | accepted {loop : Cop1} {index : Nat} {rest : List Nat} {segment : UplinkSegment} {errors : Nat → Option (Fin 63)}
      {calls : List PartCall} {s' : State} (front : loop.frames = index :: rest)
      (sent : ground.segments[index]? = some segment)
      (run : (tcCltuDispatch (cltuSent errors (ground.frame index segment).encode)).run.Runs uplinkHandlers
        loop.uplink.profile calls (.ok ()) s') :
      Step ground window loop (.arrival (.frame index errors)) { loop with uplink := loop.uplink.accept index calls s' }
  | refused {loop : Cop1} {index : Nat} {rest : List Nat} {segment : UplinkSegment} {errors : Nat → Option (Fin 63)}
      {calls : List PartCall} {failure : Failure} {s' : State} (front : loop.frames = index :: rest)
      (sent : ground.segments[index]? = some segment)
      (run : (tcCltuDispatch (cltuSent errors (ground.frame index segment).encode)).run.Runs uplinkHandlers
        loop.uplink.profile calls (.error failure) s') :
      Step ground window loop (.arrival (.frame index errors)) { loop with uplink := loop.uplink.pass calls s' }
  | other {loop : Cop1} {cltu : Bytes} {calls : List PartCall} {result : Except Failure Unit} {s' : State}
      (foreign : Foreign loop.uplink.profile cltu)
      (run : (tcCltuDispatch cltu).run.Runs uplinkHandlers loop.uplink.profile calls result s') :
      Step ground window loop (.arrival (.other cltu)) { loop with uplink := loop.uplink.pass calls s' }
  | report {loop : Cop1} {word : UInt32} (built : tcBuildClcw loop.uplink.profile.rx = .ok word) :
      Step ground window loop .report { loop with ocfs := loop.ocfs ++ [Bytes.putBe 4 word.toNat] }
  | read {loop : Cop1} {ocf : Bytes} {rest : List Bytes} (front : loop.ocfs = ocf :: rest) :
      Step ground window loop .read { loop with acked := (Clcw.ofOcf ocf).acknowledges loop.acked }
  | loseFrames {loop : Cop1} {frames : List Nat} (left : frames.Sublist loop.frames) :
      Step ground window loop .lose { loop with frames }
  | loseOcfs {loop : Cop1} {ocfs : List Bytes} (left : ocfs.Sublist loop.ocfs) :
      Step ground window loop .lose { loop with ocfs }

/-- The loop as a sliding window, once the numbers are known that its OCFs report -/
def Cop1.sliding (loop : Cop1) (reports : List Nat) : SlidingWindow where
  taken := loop.uplink.next
  known := loop.acked
  messages := loop.frames
  reports := reports

/-- An OCF that was built when a number of frames had been accepted -/
def Reports (vcid : Nat) (ocf : Bytes) (count : Nat) : Prop :=
  ∃ state : TcVcState, Clcw.ofOcf ocf = state.report vcid ∧ state.reportValue = UInt8.ofNat count ∧
    state.lockoutFlag = false

/-- Where the loop is -/
structure Cop1.Inv (ground : Ground) (window : Nat) (start : State) (sent : List SentPacket) (loop : Cop1) : Prop where
  inOrder : loop.uplink.InOrder ground start sent
  sliding : ∃ reports, List.Forall₂ (Reports ground.vcid) loop.ocfs reports ∧ (loop.sliding reports).Inv window
  exist : ∀ index ∈ loop.frames, index < ground.segments.length

omit [Kconfig] [Sdls.Kconfig] in
/-- A CLCW is read as the number that was reported. -/
theorem Reports.acknowledges {vcid : Nat} {ocf : Bytes} {count : Nat} (reports : Reports vcid ocf count)
    {window : Nat} (narrow : window < 256) {w : SlidingWindow} (inv : w.Inv window) (mem : count ∈ w.reports) :
    (Clcw.ofOcf ocf).acknowledges w.known = count := by
  obtain ⟨state, fields, value, -⟩ := reports
  have octet : ((UInt8.ofNat count).toNat : Int) = (count : Int) % 256 := by
    rw [UInt8.toNat_ofNat']
    exact Int.natCast_emod count 256
  have told := @SlidingWindow.Inv.told _ _ inv 256 (by omega) _ mem
  have above := (inv.counts count mem).1
  have distance : ((256 : Nat) : Int) = 256 := rfl
  rw [distance] at told
  unfold Clcw.acknowledges
  rw [fields, show (state.report vcid).reportValue = state.reportValue.toNat from rfl, value, octet,
    serialDistance_emod]
  omega

/-- The OCF that is built now reports how many frames have been accepted. -/
theorem Uplink.InOrder.reports {ground : Ground} {start : State} {sent : List SentPacket} {link : Uplink}
    (inOrder : link.InOrder ground start sent) (listens : Listens ground start) :
    ∃ word, tcBuildClcw link.profile.rx = .ok word ∧ Reports ground.vcid (Bytes.putBe 4 word.toNat) link.next := by
  have vcid := (inOrder.listens listens).vcid
  have known : link.profile.rx.acceptedVcid < tcVcCount := by
    rw [vcid]
    exact ground.vcid.isLt
  refine ⟨_, if_neg (Nat.not_le.mpr known), _, ?_, inOrder.reportValue, inOrder.unlocked⟩
  rw [clcw_reads _ known, vcid]

omit [Sdls.Kconfig] in
/-- The report values tell the numbers in a window apart. -/
theorem narrow_of_small {window : Nat} (small : window < cop1WindowSize / 2) : window < 256 := by
  have range := Kconfig.cop1WindowSize_range
  omega

namespace Cop1

variable {ground : Ground} {window : Nat} {start : State} {sent : List SentPacket} {loop loop' : Cop1}

theorem Inv.initially (listens : Listens ground start) (zero : start.rx.vcState.reportValue = 0)
    (unlocked : start.rx.vcState.lockoutFlag = false) (inactive : start.rx.reassembly.active = false)
    (carries : Carriage (ground.segments.map (·.segment)) sent) : (Cop1.start start).Inv ground window start sent where
  inOrder := .initially listens zero unlocked inactive carries
  sliding := ⟨[], .nil, SlidingWindow.Inv.start window 0⟩
  exist := by simp [Cop1.start]

/-- A frame that arrives is inside the COP-1 window. -/
theorem Inv.near (inv : loop.Inv ground window start sent) (small : window < cop1WindowSize / 2) {index : Nat}
    (mem : index ∈ loop.frames) : |(index : Int) - loop.uplink.next| < (cop1WindowSize / 2 : Nat) := by
  obtain ⟨reports, -, sliding⟩ := inv.sliding
  have near : |(index : Int) - loop.uplink.next| ≤ window := sliding.near mem
  omega

theorem Inv.report (inv : loop.Inv ground window start sent) (listens : Listens ground start) {word : UInt32}
    (built : tcBuildClcw loop.uplink.profile.rx = .ok word) :
    Cop1.Inv ground window start sent { loop with ocfs := loop.ocfs ++ [Bytes.putBe 4 word.toNat] } := by
  obtain ⟨reports, reported, sliding⟩ := inv.sliding
  obtain ⟨word', built', here⟩ := inv.inOrder.reports listens
  cases built'.symm.trans built
  exact ⟨inv.inOrder, ⟨reports ++ [loop.uplink.next], List.rel_append reported (.cons here .nil), sliding.report⟩,
    inv.exist⟩

theorem Inv.read (inv : loop.Inv ground window start sent) (narrow : window < 256) {ocf : Bytes} {rest : List Bytes}
    (front : loop.ocfs = ocf :: rest) :
    Cop1.Inv ground window start sent { loop with acked := (Clcw.ofOcf ocf).acknowledges loop.acked } := by
  obtain ⟨reports, reported, sliding⟩ := inv.sliding
  have cons := reported
  rw [front] at cons
  cases cons with
  | @cons _ count _ counts here _ =>
    have acknowledged : (Clcw.ofOcf ocf).acknowledges loop.acked = count :=
      here.acknowledges narrow sliding List.mem_cons_self
    rw [acknowledged]
    exact ⟨inv.inOrder, ⟨_, reported, sliding.learn rfl⟩, inv.exist⟩

/-- The step lemma -/
theorem Inv.step (plain : tcRnd = false) (listens : Listens ground start)
    (served : ∀ packet ∈ sent, Served start.rx packet) (small : window < cop1WindowSize / 2)
    (inv : loop.Inv ground window start sent) {event : Cop1Event} (step : Cop1.Step ground window loop event loop') :
    loop'.Inv ground window start sent := by
  obtain ⟨reports, reported, sliding⟩ := inv.sliding
  have narrow := narrow_of_small small
  cases step with
  | send isSent above below =>
    refine ⟨inv.inOrder, ⟨reports, reported, sliding.send above below⟩, fun index mem => ?_⟩
    rcases List.mem_append.mp mem with earlier | new
    · exact inv.exist index earlier
    · rwa [List.mem_singleton.mp new]
  | @accepted index rest segment errors calls s' front isSent run =>
    have near := inv.near small (show index ∈ loop.frames by simp [front])
    -- Sequence control accepts no other frame than the next one.
    obtain ⟨rfl, inOrder⟩ := Fallible.ok_of_runs (inv.inOrder.frame plain listens served isSent near errors) run
    refine ⟨inOrder, ⟨reports, reported, ?_⟩, inv.exist⟩
    have taken := sliding.take front
    have next : (loop.uplink.accept loop.uplink.next calls s').next = loop.uplink.next + 1 := List.length_append
    rwa [show (loop.sliding reports).taken + 1 = (loop.uplink.accept loop.uplink.next calls s').next from next.symm]
      at taken
  | @refused index rest segment errors calls failure s' front isSent run =>
    have near := inv.near small (show index ∈ loop.frames by simp [front])
    obtain ⟨-, inOrder⟩ := Fallible.error_of_runs (inv.inOrder.frame plain listens served isSent near errors) run
    exact ⟨inOrder, ⟨reports, reported, sliding⟩, inv.exist⟩
  | other foreign run =>
    have inOrder := inv.inOrder.arrives plain listens served (.other foreign run)
    exact ⟨inOrder, ⟨reports, reported, sliding⟩, inv.exist⟩
  | report built => exact inv.report listens built
  | read front => exact inv.read narrow front
  | loseFrames left =>
    exact ⟨inv.inOrder, ⟨reports, reported, sliding.step (.loseMessages left)⟩, fun index mem =>
      inv.exist index (left.subset mem)⟩
  | loseOcfs left =>
    obtain ⟨reports', left', reported'⟩ := forall₂_of_sublist left reported
    exact ⟨inv.inOrder, ⟨reports', reported', sliding.step (.loseReports left')⟩, inv.exist⟩

/-! ### Progress -/

/-- A frame at the front of the uplink can arrive. -/
theorem step_of_arrives {index : Nat} {rest : List Nat} {errors : Nat → Option (Fin 63)} {link : Uplink}
    (front : loop.frames = index :: rest) (arrives : Arrives ground loop.uplink (.frame index errors) link) :
    Cop1.Step ground window loop (.arrival (.frame index errors)) { loop with uplink := link } := by
  cases arrives with
  | accepted isSent _ run => exact .accepted front isSent run
  | refused isSent _ run => exact .refused front isSent run

/-- Everything that is on its way is lost, and one CLCW arrives. -/
theorem Inv.settles (listens : Listens ground start) (narrow : window < 256)
    (inv : loop.Inv ground window start sent) : ∃ events, Run (Cop1.Step ground window) loop events
      { loop with acked := loop.uplink.next, frames := [], ocfs := [] } := by
  obtain ⟨reports, -, sliding⟩ := inv.sliding
  obtain ⟨word, built, here⟩ := inv.inOrder.reports listens
  -- The only report on its way is the one that has just been made.
  have tells : (Clcw.ofOcf (Bytes.putBe 4 word.toNat)).acknowledges loop.acked = loop.uplink.next :=
    here.acknowledges narrow sliding.report (List.mem_append_right _ List.mem_cons_self)
  have learnt := @Cop1.Step.read _ _ ground window
    { loop with frames := [], ocfs := [Bytes.putBe 4 word.toNat] } _ [] rfl
  rw [tells] at learnt
  exact ⟨_, .step (.loseFrames (List.nil_sublist _)) (.step (.loseOcfs (List.nil_sublist _))
    (.step (.report built) (.step learnt (.single (.loseOcfs (List.nil_sublist _))))))⟩

/-- The next frame is sent, and arrives. -/
theorem Inv.sends (plain : tcRnd = false) (listens : Listens ground start)
    (served : ∀ packet ∈ sent, Served start.rx packet) (inOrder : loop.uplink.InOrder ground start sent)
    (more : loop.uplink.next < ground.segments.length) (above : loop.acked ≤ loop.uplink.next)
    (below : loop.uplink.next < loop.acked + window) (empty : loop.frames = []) :
    ∃ events link, Run (Cop1.Step ground window) loop events { loop with uplink := link } ∧
      link.next = loop.uplink.next + 1 ∧ link.InOrder ground start sent := by
  obtain ⟨link, arrives⟩ := Uplink.InOrder.canArrive (List.getElem?_eq_getElem more)
    (Uplink.InOrder.near_next loop.uplink.next) fun _ => none
  have next := inOrder.next_accepted plain listens served arrives
  have front : loop.frames ++ [loop.uplink.next] = loop.uplink.next :: [] := by rw [empty, List.nil_append]
  have arrival := @step_of_arrives _ _ ground window { loop with frames := loop.frames ++ [loop.uplink.next] } _ _ _ _
    front arrives
  refine ⟨_, link, .step (.send more above below) (.step arrival (.single (.loseFrames ?_))), next,
    inOrder.arrives plain listens served arrives⟩
  exact List.sublist_append_left _ _

/-- Everything can be acknowledged. -/
theorem Inv.finishes (plain : tcRnd = false) (listens : Listens ground start)
    (served : ∀ packet ∈ sent, Served start.rx packet) (small : window < cop1WindowSize / 2) (some : 0 < window)
    (inv : loop.Inv ground window start sent) : ∃ events loop', Run (Cop1.Step ground window) loop events loop' ∧
      loop'.acked = ground.segments.length := by
  have narrow := narrow_of_small small
  -- Each turn empties the links, has the window begin at the next frame, and sends it.
  obtain ⟨left, isLeft⟩ : ∃ left, left = ground.segments.length - loop.uplink.next := ⟨_, rfl⟩
  have within := inv.inOrder.within
  induction left generalizing loop with
  | zero =>
    obtain ⟨events, run⟩ := inv.settles listens narrow
    exact ⟨events, _, run, show loop.uplink.next = _ by omega⟩
  | succ left ih =>
    obtain ⟨events, settled⟩ := inv.settles listens narrow
    obtain ⟨events', link, run, next, -⟩ := @Inv.sends _ _ ground window start sent
      { loop with acked := loop.uplink.next, frames := [], ocfs := [] } plain listens served inv.inOrder
      (show loop.uplink.next < _ by omega) (Nat.le_refl _) (Nat.lt_add_of_pos_right some) rfl
    have next : link.next = loop.uplink.next + 1 := next
    have run := settled.append run
    have inv' : Cop1.Inv ground window start sent
        { uplink := link, acked := loop.uplink.next, frames := [], ocfs := [] } := by
      apply run.invariant _ inv
      exact fun _ _ _ inv one => Inv.step plain listens served small inv one
    obtain ⟨events'', loop', rest, all⟩ := ih inv' (by show left = _ - link.next; omega)
      (by show link.next ≤ _; omega)
    exact ⟨_, loop', run.append rest, all⟩

end Cop1

/-- With a window of less than half the COP-1 window, over every sequence of sent and lost frames, arrivals, reports and
readings: the frames are accepted in order and the profile is never locked out; the ground station takes no more frames
for acknowledged than have been accepted, and no less than a window, and so it stays whichever CLCW it reads next; the
handlers have been given the packets that the accepted frames complete; and everything can still be acknowledged. -/
theorem cop1_acknowledges (plain : tcRnd = false) {ground : Ground} {window : Nat} {start : State}
    {sent : List SentPacket} (small : window < cop1WindowSize / 2) (listens : Listens ground start)
    (zero : start.rx.vcState.reportValue = 0) (unlocked : start.rx.vcState.lockoutFlag = false)
    (inactive : start.rx.reassembly.active = false) (carries : Carriage (ground.segments.map (·.segment)) sent)
    (served : ∀ packet ∈ sent, Served start.rx packet) {events : List Cop1Event} {loop : Cop1}
    (run : Run (Cop1.Step ground window) (.start start) events loop) :
    loop.uplink.accepted = List.range loop.uplink.next ∧ loop.uplink.profile.rx.vcState.lockoutFlag = false ∧
    loop.acked ≤ loop.uplink.next ∧ loop.uplink.next ≤ loop.acked + window ∧
    (∀ ocf ∈ loop.ocfs, (Clcw.ofOcf ocf).virtualChannelId = ground.vcid ∧ (Clcw.ofOcf ocf).lockout = false ∧
      loop.acked ≤ (Clcw.ofOcf ocf).acknowledges loop.acked ∧
      (Clcw.ofOcf ocf).acknowledges loop.acked ≤ loop.uplink.next) ∧
    (∃ done later, sent = done ++ later ∧ List.Forall₂ (DeliveredTo start.rx) loop.uplink.calls done ∧
      Pending loop.uplink.profile ((ground.segments.map (·.segment)).drop loop.uplink.next) later) ∧
    (loop.acked = ground.segments.length → List.Forall₂ (DeliveredTo start.rx) loop.uplink.calls sent) ∧
    (0 < window → ∃ events' loop', Run (Cop1.Step ground window) loop events' loop' ∧
      loop'.acked = ground.segments.length) := by
  have inv : loop.Inv ground window start sent := by
    apply run.invariant _ (.initially listens zero unlocked inactive carries)
    exact fun _ _ _ inv one => Cop1.Inv.step plain listens served small inv one
  have narrow := narrow_of_small small
  obtain ⟨reports, reported, sliding⟩ := id inv.sliding
  refine ⟨inv.inOrder.accepted, inv.inOrder.unlocked, sliding.known_le, sliding.taken_le, ?_, inv.inOrder.delivered,
    fun all => ?_, fun some => inv.finishes plain listens served small some⟩
  · -- A CLCW on its way was built when some number of frames had been accepted.
    intro ocf mem
    obtain ⟨count, listed, reports⟩ := forall₂_left reported ocf mem
    have acknowledged : (Clcw.ofOcf ocf).acknowledges loop.acked = count :=
      reports.acknowledges narrow sliding listed
    obtain ⟨state, fields, value, open_⟩ := reports
    rw [acknowledged, fields]
    exact ⟨rfl, open_, sliding.counts count listed⟩
  · have known : loop.acked ≤ loop.uplink.next := sliding.known_le
    have within := inv.inOrder.within
    exact (inv.inOrder.complete (by omega)).1

/-! ## The window -/

namespace Uplink.InOrder

variable {ground : Ground} {start : State} {sent : List SentPacket} {link : Uplink}

/-- Behind half the COP-1 window, a frame that arrives again locks the profile out. -/
theorem overrun (plain : tcRnd = false) (hears : Listens ground start) (inOrder : link.InOrder ground start sent)
    {index : Nat} {segment : UplinkSegment} (behind : link.next = index + cop1WindowSize / 2) :
    (tcCltuDispatch (cltuSent (fun _ => none) (ground.frame index segment).encode)).wp uplinkHandlers
      (fun _ _ _ => False) (fun _ _ s' => s'.rx.vcState.lockoutFlag = true) link.profile := by
  obtain ⟨frameBuf, whole, dispatched⟩ := tcCltuDispatch_sent plain (inOrder.listens hears) index segment fun _ => none
  have range := Kconfig.cop1WindowSize_range
  have expects : link.profile.rx.vcState.countFrame.reportValue = UInt8.ofNat link.next := inOrder.reportValue
  have unlocked : link.profile.rx.vcState.countFrame.lockoutFlag = false := inOrder.unlocked
  -- The distance is half the window one way, and at least as much the other.
  have back : ((UInt8.ofNat link.next - UInt8.ofNat index).toNat : Int) = (cop1WindowSize / 2 : Nat) := by
    rw [fsn_sub_toNat, behind, serialDistance_ahead (by omega) (by push_cast; omega)]
    omega
  have ahead : ((UInt8.ofNat index - UInt8.ofNat link.next).toNat : Int) = 256 - (cop1WindowSize / 2 : Nat) := by
    rw [fsn_sub_toNat, behind, serialDistance_behind (by push_cast; omega) (by push_cast; omega)]
    push_cast
    omega
  have differs : ¬ UInt8.ofNat index = UInt8.ofNat link.next := by
    intro same
    rw [same, UInt8.sub_self] at back
    have zero : ((0 : UInt8).toNat : Int) = 0 := rfl
    omega
  have notDuplicate : ¬ UInt8.ofNat link.next - UInt8.ofNat index < tcCop1HalfWindow := by
    rw [UInt8.lt_iff_toNat_lt, tcCop1HalfWindow_toNat]
    omega
  have notJump : ¬ UInt8.ofNat index - UInt8.ofNat link.next < tcCop1HalfWindow := by
    rw [UInt8.lt_iff_toNat_lt, tcCop1HalfWindow_toNat]
    omega
  have verdict : link.profile.rx.vcState.countFrame.updateSequenceState (ground.frame index segment).decoded =
      ({ link.profile.rx.vcState.countFrame with lockoutFlag := true }, .error .eagain) := by
    have number : (ground.frame index segment).decoded.frameSequenceNumber = UInt8.ofNat index := rfl
    have service : ¬ ((ground.frame index segment).decoded.bypass = true ∨
        (ground.frame index segment).decoded.controlCommand = true) := by
      rintro (bypass | control)
      · cases bypass
      · cases control
    unfold TcVcState.updateSequenceState
    simp only [unlocked, number, expects, if_neg service, differs, notDuplicate, notJump, Bool.false_eq_true, if_false]
  have outcome : ∀ {t result s'}, Sequenced (link.profile.withFrameBuf frameBuf) segment.segment
      (ground.frame index segment).decoded t result s' → s'.rx.vcState.lockoutFlag = true ∧ result ≠ .ok () := by
    intro t result s' sequenced
    unfold Sequenced at sequenced
    rw [show (link.profile.withFrameBuf frameBuf).rx.vcState = link.profile.rx.vcState from rfl, verdict] at sequenced
    obtain ⟨⟨beside, -, -⟩, refused⟩ := sequenced
    exact ⟨(congrArg (fun rx : TcRx => rx.vcState.lockoutFlag) beside :), refused⟩
  apply Fallible.wp_mono dispatched
  · exact fun t a s' sequenced => (outcome sequenced).2 rfl
  · exact fun t e s' sequenced => (outcome sequenced).1

end Uplink.InOrder

namespace Cop1

variable {ground : Ground} {window : Nat} {start : State} {sent : List SentPacket}

/-- Without an acknowledgement the ground station can have as many frames accepted as its window has. -/
theorem runs_ahead (plain : tcRnd = false) (listens : Listens ground start)
    (served : ∀ packet ∈ sent, Served start.rx packet) (inOrder : (Uplink.start start).InOrder ground start sent)
    {count : Nat} (within : count ≤ ground.segments.length) (inside : count ≤ window) :
    ∃ events link, Run (Cop1.Step ground window) (.start start) events
        { uplink := link, acked := 0, frames := [], ocfs := [] } ∧
      link.next = count ∧ link.InOrder ground start sent := by
  induction count with
  | zero => exact ⟨[], .start start, .done, rfl, inOrder⟩
  | succ count ih =>
    obtain ⟨events, link, run, next, inOrder'⟩ := ih (by omega) (by omega)
    obtain ⟨events', link', run', next', inOrder''⟩ := @Inv.sends _ _ ground window start sent
      { uplink := link, acked := 0, frames := [], ocfs := [] } plain listens served inOrder'
      (show link.next < _ by omega) (Nat.zero_le _) (show link.next < 0 + window by omega) rfl
    have next' : link'.next = link.next + 1 := next'
    exact ⟨_, link', run.append run', by omega, inOrder''⟩

/-- With a window of half the COP-1 window, a frame that is sent again locks the profile out. -/
theorem locks_out (plain : tcRnd = false) (listens : Listens ground start)
    (served : ∀ packet ∈ sent, Served start.rx packet) (inOrder : (Uplink.start start).InOrder ground start sent)
    (long : cop1WindowSize / 2 ≤ ground.segments.length) (wide : cop1WindowSize / 2 ≤ window) :
    ∃ events loop, Run (Cop1.Step ground window) (.start start) events loop ∧
      loop.uplink.profile.rx.vcState.lockoutFlag = true := by
  have range := Kconfig.cop1WindowSize_range
  obtain ⟨events, link, run, next, inOrder'⟩ := runs_ahead plain listens served inOrder long wide
  have first : 0 < ground.segments.length := by omega
  have locks := @Uplink.InOrder.overrun _ _ ground start sent link plain listens inOrder' 0 ground.segments[0]
    (by omega)
  obtain ⟨calls, result, s', dispatched⟩ := Act.exists_runs uplinkHandlers_answer ((tcCltuDispatch
    (cltuSent (fun _ => none) (ground.frame 0 ground.segments[0]).encode)).run link.profile)
  -- Frame 0 goes out once more, since nothing has been acknowledged.
  have again : Cop1.Step ground window { uplink := link, acked := 0, frames := [], ocfs := [] } (.send 0)
      { uplink := link, acked := 0, frames := [0], ocfs := [] } :=
    .send first (Nat.zero_le _) (show 0 < 0 + window by omega)
  cases result with
  | ok _ => exact (Fallible.ok_of_runs locks dispatched).elim
  | error failure =>
    exact ⟨_, _, run.append (.step again (.single (.refused rfl (List.getElem?_eq_getElem first) dispatched))),
      Fallible.error_of_runs locks dispatched⟩

end Cop1

/-- A ground station with half the COP-1 window of frames or more never locks the profile out, whatever happens on the
links, exactly if its own window is smaller than that half. -/
theorem cop1_window_iff (plain : tcRnd = false) {ground : Ground} {window : Nat} {start : State}
    {sent : List SentPacket} (long : cop1WindowSize / 2 ≤ ground.segments.length) (listens : Listens ground start)
    (zero : start.rx.vcState.reportValue = 0) (unlocked : start.rx.vcState.lockoutFlag = false)
    (inactive : start.rx.reassembly.active = false) (carries : Carriage (ground.segments.map (·.segment)) sent)
    (served : ∀ packet ∈ sent, Served start.rx packet) :
    (∀ events loop, Run (Cop1.Step ground window) (.start start) events loop →
      loop.uplink.profile.rx.vcState.lockoutFlag = false) ↔ window < cop1WindowSize / 2 := by
  constructor
  · intro safe
    by_contra wide
    obtain ⟨events, loop, run, locked⟩ := Cop1.locks_out plain listens served
      (.initially listens zero unlocked inactive carries) long (Nat.not_lt.mp wide)
    rw [safe events loop run] at locked
    cases locked
  · intro small events loop run
    have inv : loop.Inv ground window start sent := by
      apply run.invariant _ (.initially listens zero unlocked inactive carries)
      exact fun _ _ _ inv one => Cop1.Inv.step plain listens served small inv one
    exact inv.inOrder.unlocked

end ZephyrCcsds.Tc

/-! ## A frame that is sent twice -/

namespace ZephyrCcsds.Tc

section Sample

attribute [local instance] defaultKconfig Sdls.defaultKconfig

/-- Frame 1 overtakes nothing: frame 0 has been lost, and goes out again behind it. -/
theorem cop1_acknowledges_sample : ∃ events loop, Run (Cop1.Step uplinkGround 2) (.start uplinkProfile)
    (.send 0 :: .lose :: .send 1 :: events) loop ∧ loop.acked = 3 ∧
    List.Forall₂ (DeliveredTo uplinkProfile.rx) loop.uplink.calls [⟨0, routedEncoded⟩, ⟨0, routedEncoded⟩] := by
  have zero : uplinkProfile.rx.vcState.reportValue = 0 := by decide +kernel
  have unlocked : uplinkProfile.rx.vcState.lockoutFlag = false := by decide +kernel
  have small : 2 < cop1WindowSize / 2 := by decide
  have sent : 2 < uplinkGround.segments.length := by decide
  have front : Run (Cop1.Step uplinkGround 2) (.start uplinkProfile) [.send 0, .lose, .send 1]
      { uplink := .start uplinkProfile, acked := 0, frames := [1], ocfs := [] } :=
    .step (.send (by omega) (Nat.le_refl _) (by decide)) (.step (.loseFrames (List.nil_sublist _))
      (.single (.send (by omega) (Nat.zero_le _) (by decide))))
  have facts := cop1_acknowledges rfl small uplinkProfile_listens zero unlocked routedProfile_inactive
    routedEncoded_carriage uplinkProfile_served front
  obtain ⟨events, loop, run, all⟩ := facts.2.2.2.2.2.2.2 (by decide)
  have done := cop1_acknowledges rfl small uplinkProfile_listens zero unlocked routedProfile_inactive
    routedEncoded_carriage uplinkProfile_served (front.append run)
  exact ⟨events, loop, front.append run, all, done.2.2.2.2.2.2.1 all⟩

/-- As many packets as half the COP-1 window has frames, each in a segment of its own -/
def longGround : Ground where
  vcid := uplinkGround.vcid
  segments := List.replicate 64 ⟨completeOnMap0, completeOnMap0_fits⟩

theorem longGround_carriage :
    Carriage (longGround.segments.map (·.segment)) (List.replicate 64 ⟨0, routedEncoded⟩) := by
  have all : ∀ count, Carriage (List.replicate count completeOnMap0) (List.replicate count ⟨0, routedEncoded⟩) := by
    intro count
    induction count with
    | zero => exact .done
    | succ count ih => exact @Carriage.complete _ 0 [routedEncoded] _ _ (by simp) ih
  rw [longGround, List.map_replicate]
  exact all 64

theorem cop1_window_iff_sample : ∃ events loop, Run (Cop1.Step longGround 64) (.start uplinkProfile) events loop ∧
    loop.uplink.profile.rx.vcState.lockoutFlag = true := by
  have zero : uplinkProfile.rx.vcState.reportValue = 0 := by decide +kernel
  have unlocked : uplinkProfile.rx.vcState.lockoutFlag = false := by decide +kernel
  have served : ∀ packet ∈ List.replicate 64 ⟨0, routedEncoded⟩, Served uplinkProfile.rx packet := by
    intro packet mem
    rw [List.eq_of_mem_replicate mem]
    exact uplinkProfile_served _ List.mem_cons_self
  have threshold := @cop1_window_iff _ _ rfl longGround 64 uplinkProfile _ (le_of_eq List.length_replicate.symm)
    ⟨uplinkProfile_listens.detached, uplinkProfile_listens.vcid, uplinkProfile_listens.buffer⟩ zero unlocked
    routedProfile_inactive longGround_carriage served
  by_contra never
  refine absurd (threshold.mp fun events loop run => ?_) (by decide)
  cases locked : loop.uplink.profile.rx.vcState.lockoutFlag with
  | false => rfl
  | true => exact absurd ⟨events, loop, run, locked⟩ never

end Sample

end ZephyrCcsds.Tc
