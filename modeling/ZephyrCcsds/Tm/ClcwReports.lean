import ZephyrCcsds.Tc.Cop1
import ZephyrCcsds.Tm.FrameCounters

/-! # What telemetry tells of telecommands

The telecommand profile is the CLCW provider of the frame generator.  Whatever arrives on the uplink and whatever the
generator is asked to do in between, a frame without an FSR tells how many frames the profile has accepted.

**Main results:**

- `Turn.Leads.ocf`: the OCF of a frame is the FSR if it is due, else the CLCW of the profile.
- `telemetry_acknowledges`: what a ground station reads in it, in every run of both.
-/

namespace ZephyrCcsds.Tm

open Callback Tc

variable [Kconfig] [Sdls.Kconfig]

/-! ## One frame -/

/-- What `ccsds_profile_tc_clcw_provider` returns -/
def Provides (rx : TcRx) (answer : TmRes .clcw) : Prop :=
  match tcBuildClcw rx with
  | .ok word => answer = (0, word)
  | .error _ => answer.1 ≠ 0

theorem clcwField_of_provides {rx : TcRx} {word : UInt32} (built : tcBuildClcw rx = .ok word) {calls : List Item}
    (provided : ∀ answer, (⟨.clcw, answer⟩ : Item) ∈ calls → Provides rx answer)
    (asked : ∃ answer, (⟨.clcw, answer⟩ : Item) ∈ calls) : clcwField calls = Bytes.putBe tmOcfLen word.toNat := by
  have returned : ∀ answer, (⟨.clcw, answer⟩ : Item) ∈ calls → answer = (0, word) := by
    intro answer called
    have provides := provided answer called
    unfold Provides at provides
    rwa [built] at provides
  have all : ∀ ocf ∈ calls.filterMap clcwOf, ocf = Bytes.putBe tmOcfLen word.toNat := by
    intro ocf mem
    obtain ⟨⟨op, answer⟩, called, found⟩ := List.mem_filterMap.mp mem
    cases op with
    | clcw =>
      rw [returned answer called] at found
      exact (Option.some.inj found).symm
    | _ => cases found
  obtain ⟨answer, called⟩ := asked
  have some : Bytes.putBe tmOcfLen word.toNat ∈ calls.filterMap clcwOf := by
    rw [returned answer called] at called
    exact List.mem_filterMap.mpr ⟨_, called, rfl⟩
  unfold clcwField
  cases clcws : calls.filterMap clcwOf with
  | nil =>
    rw [clcws] at some
    cases some
  | cons ocf _ => exact all ocf (by rw [clcws]; exact List.mem_cons_self)

/-- The calls of a cycle -/
def Turn.calls : Turn → List Item
  | .cycled _ calls _ _ => calls
  | .added _ _ => []
  | .managed _ => []

theorem calls_of_routedFrames {turn : Turn} {routed : RoutedFrame} (mem : routed ∈ routedFrames [turn]) :
    routed.calls = turn.calls := by
  obtain ⟨other, listed, found⟩ := List.mem_filterMap.mp mem
  obtain rfl := List.mem_singleton.mp listed
  cases other with
  | added _ _ => cases found
  | managed _ => cases found
  | cycled before calls cycle after =>
    obtain ⟨frame, -, same⟩ := Option.map_eq_some_iff.mp found
    rw [← same]
    rfl

/-- The OCF of a frame is the FSR if it is due, else the CLCW of the profile. -/
theorem Turn.Leads.ocf {turn : Turn} {s s' : State} (leads : turn.Leads s s') (attached : s.Attached) {rx : TcRx}
    {word : UInt32} (built : tcBuildClcw rx = .ok word)
    (provided : ∀ answer, (⟨.clcw, answer⟩ : Item) ∈ turn.calls → Provides rx answer) {routed : RoutedFrame}
    (mem : routed ∈ routedFrames [turn]) :
    (∀ fsr, routed.before.fsrDue = some fsr →
      routed.frame.slice (routed.before.ocfOffset routed.vcid) tmOcfLen = fsr.encode) ∧
    (routed.before.fsrDue = none → routed.before.clcwProvider = true →
      routed.frame.slice (routed.before.ocfOffset routed.vcid) tmOcfLen = Bytes.putBe tmOcfLen word.toNat) := by
  obtain ⟨k, found⟩ := List.mem_iff_getElem?.mp mem
  have carries := ((Numbering.of_run attached (.single leads)).numbered k routed found).carries
  rw [carries.ocf]
  unfold State.ocfField
  constructor
  · intro fsr due
    rw [due]
  · intro due provider
    have asked := carries.asked due provider
    rw [due]
    rw [calls_of_routedFrames mem] at asked ⊢
    exact clcwField_of_provides built provided asked

/-! ## Runs of both -/

/-- The history of the uplink, and the frame generator -/
structure Spacecraft where
  uplink : Uplink
  tm : State

inductive SpacecraftEvent where
  | arrival (arrival : Arrival)
  | turn (turn : Turn)

/-- A CLTU arrives, or the generator takes a turn in which the profile answers for the CLCW. -/
inductive Spacecraft.Step (ground : Ground) : Spacecraft → SpacecraftEvent → Spacecraft → Prop where
  | arrival {craft : Spacecraft} {arrival : Arrival} {uplink : Uplink}
      (arrives : Arrives ground craft.uplink arrival uplink) :
      Step ground craft (.arrival arrival) { craft with uplink }
  | turn {craft : Spacecraft} {turn : Turn} {tm : State} (leads : turn.Leads craft.tm tm)
      (provided : ∀ answer, (⟨.clcw, answer⟩ : Item) ∈ turn.calls → Provides craft.uplink.profile.rx answer) :
      Step ground craft (.turn turn) { craft with tm }

/-- What holds of a spacecraft throughout -/
structure Spacecraft.Inv (ground : Ground) (start : Tc.State) (sent : List SentPacket) (craft : Spacecraft) : Prop where
  inOrder : craft.uplink.InOrder ground start sent
  attached : craft.tm.Attached

variable {ground : Ground} {start : Tc.State} {sent : List SentPacket} {craft craft' : Spacecraft}

/-- The step lemma -/
theorem Spacecraft.Inv.step (plain : tcRnd = false) (listens : Listens ground start)
    (served : ∀ packet ∈ sent, Served start.rx packet) (inv : craft.Inv ground start sent) {event : SpacecraftEvent}
    (step : Spacecraft.Step ground craft event craft') : craft'.Inv ground start sent := by
  cases step with
  | arrival arrives => exact ⟨inv.inOrder.arrives plain listens served arrives, inv.attached⟩
  | turn leads _ => exact ⟨inv.inOrder, leads.attached inv.attached⟩

/-- In every run of arrivals and turns of the generator, a frame that carries no FSR tells the channel, that the profile
is not locked out, and how many frames it has accepted, modulo 256; and the handlers have been given the packets that
these frames complete. -/
theorem telemetry_acknowledges (plain : tcRnd = false) {ground : Ground} {start : Tc.State} {sent : List SentPacket}
    (listens : Listens ground start) (zero : start.rx.vcState.reportValue = 0)
    (unlocked : start.rx.vcState.lockoutFlag = false) (inactive : start.rx.reassembly.active = false)
    (carries : Carriage (ground.segments.map (·.segment)) sent) (served : ∀ packet ∈ sent, Served start.rx packet)
    {tm : State} (configured : Configured tm) {events : List SpacecraftEvent} {craft craft' : Spacecraft}
    (run : Run (Spacecraft.Step ground) { uplink := .start start, tm } events craft) {turn : Turn}
    (step : Spacecraft.Step ground craft (.turn turn) craft') {routed : RoutedFrame}
    (mem : routed ∈ routedFrames [turn]) :
    (∀ fsr, routed.before.fsrDue = some fsr →
      routed.frame.slice (routed.before.ocfOffset routed.vcid) tmOcfLen = fsr.encode) ∧
    (routed.before.fsrDue = none → routed.before.clcwProvider = true →
      ∃ clcw, Clcw.ofOcf (routed.frame.slice (routed.before.ocfOffset routed.vcid) tmOcfLen) = clcw ∧
        clcw.virtualChannelId = ground.vcid ∧ clcw.lockout = false ∧
        clcw.reportValue = craft.uplink.next % 256) ∧
    craft.uplink.accepted = List.range craft.uplink.next ∧
    ∃ done later, sent = done ++ later ∧ List.Forall₂ (DeliveredTo start.rx) craft.uplink.calls done ∧
      Pending craft.uplink.profile ((ground.segments.map (·.segment)).drop craft.uplink.next) later := by
  have inv : craft.Inv ground start sent := by
    apply run.invariant _ ⟨.initially listens zero unlocked inactive carries, configured.attached⟩
    exact fun _ _ _ inv one => Spacecraft.Inv.step plain listens served inv one
  -- Whatever the cycle asks the provider, it is answered with the CLCW of this moment.
  obtain ⟨word, built, state, fields, value, open_⟩ := inv.inOrder.reports listens
  cases step with
  | turn leads provided =>
    have ocf := leads.ocf inv.attached built provided mem
    refine ⟨ocf.1, fun due provider => ⟨_, rfl, ?_⟩, inv.inOrder.accepted, inv.inOrder.delivered⟩
    have read : Clcw.ofOcf (Bytes.putBe tmOcfLen word.toNat) = state.report ground.vcid := fields
    rw [ocf.2 due provider, read]
    refine ⟨rfl, open_, ?_⟩
    show state.reportValue.toNat = _
    rw [value, UInt8.toNat_ofNat']

end ZephyrCcsds.Tm

/-! ## Three frames and a report -/

namespace ZephyrCcsds.Tm

open Callback Tc

section Play

/-- A frame of the ground station to play, with the bits that are flipped and the answers of the handlers -/
structure PlayedFrame where
  index : Nat
  errors : Nat → Option (Fin 63)
  answers : List ((op : TcOp) × TcRes op)

variable [Kconfig] [Sdls.Kconfig]

/-- A frame arrives. -/
def playFrame (ground : Ground) (link : Uplink) (played : PlayedFrame) : Option Uplink :=
  if |(played.index : Int) - link.next| < (cop1WindowSize / 2 : Nat) then
    ground.segments[played.index]?.bind fun segment =>
      (((tcCltuDispatch (cltuSent played.errors (ground.frame played.index segment).encode)).run link.profile).record
        (fun s op _ => (⟨s.rx.reassembly, op⟩ : PartCall)) played.answers).map fun (calls, result, s') =>
          match result with
          | .ok _ => link.accept played.index calls s'
          | .error _ => link.pass calls s'
  else none

def playFrames (ground : Ground) (link : Uplink) (script : List PlayedFrame) : Option Uplink :=
  script.foldlM (playFrame ground) link

variable {ground : Ground} {link link' : Uplink}

theorem arrives_of_playFrame {frame : PlayedFrame} (zeros : ∀ answer ∈ frame.answers,
      HandlerAnswer (fun code => code = 0) answer.1 answer.2) (played : playFrame ground link frame = some link') :
    Arrives ground link (.frame frame.index frame.errors) link' := by
  unfold playFrame at played
  split_ifs at played with near
  obtain ⟨segment, sent, rest⟩ := Option.bind_eq_some_iff.mp played
  obtain ⟨⟨calls, result, s'⟩, recorded, same⟩ := Option.map_eq_some_iff.mp rest
  have runs : (tcCltuDispatch (cltuSent frame.errors (ground.frame frame.index segment).encode)).run.Runs uplinkHandlers
      link.profile calls result s' := by
    apply Prog.Runs.mono _ (Act.runs_of_record_allowed recorded zeros)
    rintro s op r t s' ⟨answered, rfl, rfl⟩
    exact ⟨rfl, answered, rfl⟩
  cases result with
  | ok _ =>
    cases same
    exact .accepted sent near runs
  | error _ =>
    cases same
    exact .refused sent near runs

theorem run_of_playFrames {tm : State} {script : List PlayedFrame} (zeros : ∀ frame ∈ script, ∀ answer ∈ frame.answers,
      HandlerAnswer (fun code => code = 0) answer.1 answer.2) (played : playFrames ground link script = some link') :
    Run (Spacecraft.Step ground) { uplink := link, tm }
      (script.map fun frame => .arrival (.frame frame.index frame.errors)) { uplink := link', tm } := by
  induction script generalizing link with
  | nil =>
    cases played
    exact .done
  | cons frame script ih =>
    obtain ⟨now, later⟩ := List.forall_mem_cons.mp zeros
    obtain ⟨next, first, rest⟩ := Option.bind_eq_some_iff.mp played
    exact .step (.arrival (arrives_of_playFrame now first)) (ih later rest)

end Play

section Sample

attribute [local instance] defaultKconfig Sdls.defaultKconfig

/-- A generator whose CLCW provider is set -/
def providedGenerator : State := (init fun _ => none).setClcwProvider true

/-- The calls of an idle cycle without routes, with the CLCW of a profile that has accepted three frames -/
def providedCalls : List Item :=
  ((List.finRange tmVcCount).flatMap fun vcid => [⟨.lock vcid .forever, none⟩, ⟨.unlock vcid, ()⟩]) ++
    [⟨.clcw, (0, 0x01000003)⟩]

theorem providedCycle : ∃ cycle s' frame,
    generatorCycle.run.Runs anyKernel providedGenerator providedCalls (.ok cycle) s' ∧ cycle.frame = some frame := by
  have held : ((generatorCycle.run providedGenerator).enact serve providedCalls).any (fun played =>
      (played.1.toOption.bind Cycle.frame).isSome) = true := by
    decide +kernel
  obtain ⟨⟨result, s'⟩, played, emitted⟩ := (Option.any_eq_true _ _).mp held
  cases result with
  | error e => cases emitted
  | ok cycle =>
    obtain ⟨frame, some⟩ := Option.isSome_iff_exists.mp emitted
    exact ⟨cycle, s', frame, runs_of_serve played, some⟩

def takenSample : (op : TcOp) × TcRes op := ⟨.handler 1 routedPacket, (0 : Int)⟩

/-- Frame 1 arrives before frame 0 with a flipped bit in each codeblock, and all three arrive in order behind it. -/
def uplinkScript : List PlayedFrame :=
  [⟨1, fun _ => some 4, []⟩, ⟨0, fun _ => none, [takenSample]⟩, ⟨1, fun _ => none, []⟩,
    ⟨2, fun _ => none, [takenSample]⟩]

theorem uplinkScript_run : ∃ link, Run (Spacecraft.Step uplinkGround)
      { uplink := .start uplinkProfile, tm := providedGenerator }
      (uplinkScript.map fun frame => .arrival (.frame frame.index frame.errors))
      { uplink := link, tm := providedGenerator } ∧
    link.accepted = [0, 1, 2] ∧ tcBuildClcw link.profile.rx = .ok 0x01000003 := by
  have held : (playFrames uplinkGround (.start uplinkProfile) uplinkScript).any (fun link =>
      decide (link.accepted = [0, 1, 2] ∧ tcBuildClcw link.profile.rx = .ok 0x01000003)) = true := by
    decide +kernel
  obtain ⟨link, played, checked⟩ := (Option.any_eq_true _ _).mp held
  obtain ⟨accepted, built⟩ := of_decide_eq_true checked
  have zeros : ∀ frame ∈ uplinkScript, ∀ answer ∈ frame.answers,
      HandlerAnswer (fun code => code = 0) answer.1 answer.2 := by
    simp [uplinkScript, takenSample, HandlerAnswer]
  exact ⟨link, run_of_playFrames zeros played, accepted, built⟩

/-- Three frames have been accepted, and the next telemetry frame tells so. -/
theorem telemetry_acknowledges_sample : ∃ craft craft' turn,
    Run (Spacecraft.Step uplinkGround) { uplink := .start uplinkProfile, tm := providedGenerator }
      (uplinkScript.map fun frame => .arrival (.frame frame.index frame.errors)) craft ∧
    craft.uplink.accepted = [0, 1, 2] ∧ Spacecraft.Step uplinkGround craft (.turn turn) craft' ∧
    ∃ routed ∈ routedFrames [turn],
      (Clcw.ofOcf (routed.frame.slice (routed.before.ocfOffset routed.vcid) tmOcfLen)).reportValue = 3 := by
  have zero : uplinkProfile.rx.vcState.reportValue = 0 := by decide +kernel
  have unlocked : uplinkProfile.rx.vcState.lockoutFlag = false := by decide +kernel
  obtain ⟨link, run, accepted, built⟩ := uplinkScript_run
  obtain ⟨cycle, s', frame, runs, emitted⟩ := providedCycle
  have provided : ∀ answer, (⟨.clcw, answer⟩ : Item) ∈ providedCalls → Provides link.profile.rx answer := by
    intro answer called
    unfold Provides
    rw [built]
    simpa [providedCalls] using called
  have step : Spacecraft.Step uplinkGround { uplink := link, tm := providedGenerator }
      (.turn (.cycled providedGenerator providedCalls cycle s')) { uplink := link, tm := s' } :=
    .turn ⟨rfl, rfl, runs⟩ provided
  have mem : (⟨providedGenerator, providedCalls, cycle.vcid, frame, s'⟩ : RoutedFrame) ∈
      routedFrames [.cycled providedGenerator providedCalls cycle s'] := by
    simp [routedFrames, emitted]
  have told := telemetry_acknowledges rfl uplinkProfile_listens zero unlocked routedProfile_inactive
    routedEncoded_carriage uplinkProfile_served (.setClcwProvider .init) run step mem
  obtain ⟨clcw, read, -, -, count⟩ := told.2.1 rfl rfl
  refine ⟨_, _, _, run, accepted, step, _, mem, ?_⟩
  rw [read, count, Uplink.next, accepted]
  rfl

end Sample

end ZephyrCcsds.Tm
