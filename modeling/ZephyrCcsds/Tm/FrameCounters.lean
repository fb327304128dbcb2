import ZephyrCcsds.Runs
import ZephyrCcsds.Tm.Admission
import ZephyrCcsds.Tm.FrameTrailer
import ZephyrCcsds.Tm.Receiver

/-! # The numbering of routed frames

Runs of admissions, SDLS calls and generator cycles from any configuration of the generator.

* `Meter.tick` is all that a routed frame does to the counters; nothing else moves them.
* `generatorCycle_meters` — one cycle, with or without a frame.
* `routed_frames_are_numbered` — counters, security, OCF and FECF of the frames of a run.
-/

namespace ZephyrCcsds.Tm

open Callback Tc

variable [Kconfig] [Sdls.Kconfig] {psa : (op : Sdls.PsaOp) → Sdls.PsaRes op → Prop} {s s' : State} {vcid : VcId}

/-! ## One cycle -/

/-- The routes of a channel, in the order in which they are called -/
def State.targets (s : State) (vcid : VcId) : List RouteFn := (selectedBits (s.vcs vcid).routeMask).filterMap s.routes

theorem State.SameSettings.targets (same : s.SameSettings s') (vcid : VcId) : s'.targets vcid = s.targets vcid := by
  unfold State.targets
  rw [same.routes, same.routeMask vcid]

theorem selectActiveVc_silent (vcids : List VcId) :
    (selectActiveVc vcids).wp (kernel psa) (fun t _ s' => Silent t ∧ t.filterMap psaOf = [] ∧ s' = s)
      (fun _ _ _ => False) s := by
  induction vcids with
  | nil => exact ⟨⟨rfl, rfl⟩, rfl, rfl⟩
  | cons vcid vcids ih =>
    simp only [selectActiveVc, vcHasPendingBytes, Fallible.wp_bind, wp_lockForever, Fallible.wp_read, wp_unlock,
      Fallible.wp_pure, Fallible.wp_ite]
    have locked : Silent [⟨.lock vcid .forever, none⟩, ⟨.unlock vcid, ()⟩] := ⟨rfl, rfl⟩
    constructor
    · intro _
      exact ⟨locked, rfl, trivial⟩
    · intro _
      apply Fallible.wp_mono ih
      · intro t _ s' found
        obtain ⟨silent, unsecured, same⟩ := found
        exact ⟨locked.append silent, unsecured, same⟩
      · exact fun _ _ _ never => never

theorem routeFrameTo_targets (vcid : VcId) (frame : Bytes) (bits : List (Fin tmRouteCount)) :
    (routeFrameTo vcid frame bits).wp (kernel psa)
      (fun t _ s' => (t.filterMap clcwOf = [] ∧ t.filterMap psaOf = []) ∧
        t.filterMap routeOf = (bits.filterMap s.routes).map (fun fn => (fn, vcid, frame)) ∧ s' = s)
      (fun _ _ _ => False) s := by
  induction bits with
  | nil => exact ⟨⟨rfl, rfl⟩, rfl, rfl⟩
  | cons bit bits ih =>
    simp only [routeFrameTo, Fallible.wp_bind, Fallible.wp_read]
    cases registered : s.routes bit with
    | none =>
      simp only [List.filterMap_cons, registered]
      exact ih
    | some fn =>
      simp only [List.filterMap_cons, registered, Fallible.wp_bind]
      rw [wp_route]
      intro answer
      apply Fallible.wp_mono ih
      · intro t _ s' called
        obtain ⟨quiet, routed, same⟩ := called
        refine ⟨quiet, ?_, same⟩
        show _ :: t.filterMap routeOf = _ :: _
        rw [routed]
      · exact fun _ _ _ never => never

theorem routeFrame_targets (vcid : VcId) (frame : Bytes) :
    (routeFrame vcid frame).wp (kernel psa)
      (fun t _ s' => (t.filterMap clcwOf = [] ∧ t.filterMap psaOf = []) ∧
        t.filterMap routeOf = (s.targets vcid).map (fun fn => (fn, vcid, frame)) ∧ s' = s)
      (fun _ _ _ => False) s := by
  simp only [routeFrame, Fallible.wp_bind, Fallible.wp_read]
  exact routeFrameTo_targets vcid frame _

/-- Only the calls of PSA and of the CLCW provider matter to what a frame carries. -/
theorem Carries.of_calls {calls calls' : List Item} {frame : Bytes} (carries : Carries s vcid calls frame s')
    (same : calls'.filterMap clcwOf = calls.filterMap clcwOf) (secured : calls'.filterMap psaOf = calls.filterMap psaOf)
    (kept : ∀ item ∈ calls, item ∈ calls') : Carries s vcid calls' frame s' := by
  refine { carries with secured := ?_, ocf := ?_, asked := ?_ }
  · intro ctx slot selected
    obtain ⟨firstHeaderPointer, data, out, ctx', applied, rest⟩ := carries.secured ctx slot selected
    obtain ⟨t, st, runs, left, context, called⟩ := applied
    exact ⟨firstHeaderPointer, data, out, ctx', ⟨t, st, runs, left, context, secured.trans called⟩, rest⟩
  · rw [carries.ocf]
    unfold State.ocfField clcwField
    rw [same]
  · intro due provided
    obtain ⟨answer, called⟩ := carries.asked due provided
    exact ⟨answer, kept _ called⟩

/-- Only the counters, the security and the OCF of the state matter. -/
theorem Carries.of_state {calls : List Item} {frame : Bytes} {last : State} (carries : Carries s' vcid calls frame last)
    (sdls : s'.sdls = s.sdls) (provider : s'.clcwProvider = s.clcwProvider) (meter : s'.meter = s.meter)
    (settings : s.SameSettings s') : Carries s vcid calls frame last := by
  have mcfc : s'.mcfc = s.mcfc := congrArg Meter.mcfc meter
  have vcfc : (s'.vcs vcid).vcfc = (s.vcs vcid).vcfc := congrFun (congrArg Meter.vcfc meter) vcid
  have security : s'.security vcid = s.security vcid := by simp only [State.security, sdls, settings.sdlsSpi]
  have dataLen : s'.dataLen vcid = s.dataLen vcid := by
    unfold State.dataLen State.securityOverhead State.securityEnabled
    rw [security]
  have offset : s'.ocfOffset vcid = s.ocfOffset vcid := by
    unfold State.ocfOffset State.securityOverhead State.securityEnabled
    rw [dataLen, security]
  have due : s'.fsrDue = s.fsrDue := by
    unfold State.fsrDue
    rw [sdls]
  have laid : ∀ firstHeaderPointer data,
      layOut s' vcid firstHeaderPointer data = layOut s vcid firstHeaderPointer data := by
    intro firstHeaderPointer data
    unfold layOut buildPrimaryHeader State.securityHeaderLen State.securityEnabled
    rw [mcfc, vcfc, security]
  refine ⟨carries.length, carries.channel, ?_, ?_, ?_, ?_, carries.fecf⟩
  · rw [carries.counters, mcfc, vcfc]
  · intro ctx slot secured
    obtain ⟨firstHeaderPointer, data, out, ctx', applied, same, left⟩ :=
      carries.secured ctx slot (security.trans secured)
    rw [laid, dataLen] at applied
    rw [offset] at same
    exact ⟨firstHeaderPointer, data, out, ctx', applied, same, left⟩
  · rw [← offset, carries.ocf]
    unfold State.ocfField
    rw [due]
  · intro notDue provided
    exact carries.asked (due.trans notDue) (provider.trans provided)

/-- What happens to the queue of a channel moves no counter and no setting. -/
theorem State.updateVc_onlyQueue (s : State) (vcid : VcId) (f : Vc → Vc)
    (only : (s.vcs vcid).OnlyQueue (f (s.vcs vcid))) :
    (s.updateVc vcid f).meter = s.meter ∧ s.SameSettings (s.updateVc vcid f) := by
  have kept : (fun other => ((s.updateVc vcid f).vcs other).vcfc) = fun other => (s.vcs other).vcfc := by
    funext other
    by_cases same : other = vcid
    · rw [same, State.updateVc_same, only]
    · rw [State.updateVc_other _ _ _ same]
  constructor
  · show Meter.mk s.mcfc _ _ = Meter.mk s.mcfc _ _
    rw [kept]
    rfl
  · apply State.updateVc_sameSettings
    rw [only]
    rfl

theorem buildPacketTransferFrame_carries :
    (buildPacketTransferFrame vcid).wp (kernel psa)
      (fun t frame s' => Carries s vcid t frame s' ∧ t.filterMap routeOf = [] ∧ s'.meter = s.meter.tick vcid ∧
        s.SameSettings s')
      (fun t _ s' => t.filterMap routeOf = [] ∧ s'.meter = s.meter ∧ s.SameSettings s') s := by
  obtain ⟨meter, settings⟩ : (s.filled vcid).meter = s.meter ∧ s.SameSettings (s.filled vcid) :=
    s.updateVc_onlyQueue vcid _ ((s.vcs vcid).fill_spec (s.dataLen vcid)).1
  have dataLen : (s.filled vcid).dataLen vcid = s.dataLen vcid := by
    unfold State.dataLen State.securityOverhead State.securityEnabled State.security
    rw [settings.sdlsSpi]
    rfl
  have used := ((s.vcs vcid).fill_spec (s.dataLen vcid)).2
  have fits : (((s.vcs vcid).fill (s.dataLen vcid)).1.finish (s.dataLen vcid)).1.length ≤ (s.filled vcid).dataLen vcid := by
    rw [dataLen, Fill.finish_length _ used]
  have around : ∀ {β : Type} (f : Item → Option β) (t : List Item), f ⟨.lock vcid .forever, none⟩ = none →
      f ⟨.unlock vcid, ()⟩ = none →
      (⟨.lock vcid .forever, none⟩ :: (t ++ [⟨.unlock vcid, ()⟩]) : List Item).filterMap f = t.filterMap f := by
    intro β f t locked unlocked
    rw [List.filterMap_cons, locked, List.filterMap_append, List.filterMap_cons, unlocked, List.filterMap_nil,
      List.append_nil]
  apply wp_buildPacketTransferFrame
  · intro _
    apply Fallible.wp_mono (finishFrame_carries fits)
    · intro t frame s' built
      obtain ⟨carries, unrouted, ticked, same⟩ := built
      refine ⟨?_, ?_, by rw [ticked, meter], settings.trans same⟩
      · have carried : Carries s vcid t frame s' := carries.of_state rfl rfl meter settings
        refine carried.of_calls (around clcwOf t rfl rfl) (around psaOf t rfl rfl) ?_
        intro item called
        exact List.mem_cons_of_mem _ (List.mem_append_left _ called)
      · rw [around routeOf t rfl rfl, unrouted]
    · intro t e s' failed
      obtain ⟨unrouted, unmoved, same⟩ := failed
      refine ⟨?_, unmoved.trans meter, settings.trans same⟩
      rw [around routeOf t rfl rfl, unrouted]
  · exact fun _ => ⟨rfl, meter, settings⟩

/-- What a cycle does: it routes its frame and ticks, or it routes nothing and moves no counter. -/
structure Cycled (s : State) (t : List Item) (cycle : Cycle) (s' : State) : Prop where
  settings : s.SameSettings s'
  failed : cycle.frame = none → t.filterMap routeOf = [] ∧ s'.meter = s.meter
  routed : ∀ frame, cycle.frame = some frame → Carries s cycle.vcid t frame s' ∧
    t.filterMap routeOf = (s.targets cycle.vcid).map (fun fn => (fn, cycle.vcid, codeTransferFrame frame)) ∧
    s'.meter = s.meter.tick cycle.vcid

/-- The end of a cycle, once its frame has been built with the calls `t` -/
theorem emitFrame_cycled {active : Bool} {s₁ : State} {t : List Item} {frame : Bytes} (unrouted : t.filterMap routeOf = [])
    (settings : s.SameSettings s₁) (carries : Carries s vcid t frame s₁) (ticked : s₁.meter = s.meter.tick vcid) :
    (emitFrame vcid active (.ok frame)).wp (kernel psa) (fun u cycle s' => Cycled s (t ++ u) cycle s')
      (fun _ _ _ => False) s₁ := by
  simp only [emitFrame, Fallible.wp_bind]
  apply Fallible.wp_mono (routeFrame_targets vcid (codeTransferFrame frame))
  · intro u _ s₂ routed
    obtain ⟨⟨quiet, unsecured⟩, called, rfl⟩ := routed
    rw [Fallible.wp_pure, List.append_nil]
    refine ⟨settings, ?_, ?_⟩
    · intro none
      cases none
    · intro _ same
      cases same
      refine ⟨carries.of_calls ?_ ?_ fun item called => List.mem_append_left _ called, ?_, ticked⟩
      · rw [List.filterMap_append, quiet, List.append_nil]
      · rw [List.filterMap_append, unsecured, List.append_nil]
      · rw [List.filterMap_append, unrouted, called, settings.targets, List.nil_append]
  · exact fun _ _ _ never => never

/-- The part of a cycle behind the selection, for either builder -/
theorem attempt_emitFrame_cycled {active : Bool} {front : List Item} (silent : Silent front)
    (unsecured : front.filterMap psaOf = []) {builder : TmM Bytes}
    {s₁ : State} (selected : s₁ = { s with generatorLastCycleActive := active, generatorLastVcid := vcid })
    (builds : builder.wp (kernel psa)
      (fun t frame s' => Carries s₁ vcid t frame s' ∧ t.filterMap routeOf = [] ∧ s'.meter = s₁.meter.tick vcid ∧
        s₁.SameSettings s')
      (fun t _ s' => t.filterMap routeOf = [] ∧ s'.meter = s₁.meter ∧ s₁.SameSettings s') s₁) :
    (Fallible.attempt builder >>= emitFrame vcid active).wp (kernel psa)
      (fun u cycle s' => Cycled s (front ++ u) cycle s') (fun _ _ _ => False) s₁ := by
  subst selected
  rw [Fallible.wp_bind, Fallible.wp_attempt]
  apply Fallible.wp_mono builds
  · intro t frame s₂ built
    obtain ⟨carries, unrouted, ticked, settings⟩ := built
    have own : Carries s vcid t frame s₂ := carries.of_state rfl rfl rfl ⟨fun _ => rfl, rfl⟩
    have carried : Carries s vcid (front ++ t) frame s₂ := by
      apply own.of_calls
      · rw [List.filterMap_append, silent.1, List.nil_append]
      · rw [List.filterMap_append, unsecured, List.nil_append]
      · exact fun item called => List.mem_append_right _ called
    have none : (front ++ t).filterMap routeOf = [] := by rw [List.filterMap_append, silent.2, unrouted, List.nil_append]
    have same : s.SameSettings s₂ := ⟨settings.settings, settings.routes⟩
    apply Fallible.wp_mono (emitFrame_cycled none same carried ticked)
    · intro u cycle s' cycled
      rwa [List.append_assoc] at cycled
    · exact fun _ _ _ never => never
  · intro t e s₂ failed
    obtain ⟨unrouted, unmoved, settings⟩ := failed
    refine ⟨⟨settings.settings, settings.routes⟩, fun _ => ⟨?_, unmoved⟩, fun _ some => by cases some⟩
    rw [List.append_nil, List.filterMap_append, silent.2, unrouted, List.nil_append]

theorem generatorCycle_meters :
    generatorCycle.wp (kernel psa) (fun t cycle s' => Cycled s t cycle s') (fun _ _ _ => False) s := by
  rw [generatorCycle, generatorSelectActiveVc, Fallible.wp_bind]
  apply Fallible.wp_mono (selectActiveVc_silent _)
  · intro t selected s₁ found
    obtain ⟨silent, unsecured, same⟩ := found
    subst same
    cases selected with
    | none =>
      dsimp only
      rw [Fallible.wp_bind, Fallible.wp_modify]
      apply attempt_emitFrame_cycled silent unsecured rfl
      simp only [buildIdleTransferFrame, Fallible.wp_bind, Fallible.wp_read]
      exact finishFrame_carries (Nat.zero_le _)
    | some vcid =>
      dsimp only
      rw [Fallible.wp_bind, Fallible.wp_modify]
      exact attempt_emitFrame_cycled silent unsecured rfl buildPacketTransferFrame_carries
  · exact fun _ _ _ never => never

/-! ## Runs -/

/-- The generator after `ccsds_tm_frame_init` and any calls that configure it -/
inductive Configured : State → Prop where
  | init : Configured (init fun _ => none)
  | setSdls {s : State} {ctx : Sdls.Ctx} {slot : Sdls.SaSlot} : Kconfig.sdls = true → Configured s →
      Configured (s.setSdls ctx slot)
  | setVcSdls {s : State} {vcid : VcId} {spi : Option Sdls.SaSlot} : s.sdls.isSome → Configured s →
      Configured (s.setVcSdls vcid spi)
  | fsrSetEnabled {s : State} {enabled : Bool} : Configured s →
      Configured (s.withSdls fun ctx => { ctx with fsrEnabled := enabled })
  | setClcwProvider {s : State} {provided : Bool} : Configured s → Configured (s.setClcwProvider provided)
  | registerRoute {s s' : State} {routeBit : BitVec tmRouteCount} {fn : RouteFn} : Configured s →
      s.registerRoute routeBit fn = .ok s' → Configured s'
  | setVcRoute {s s' : State} {vcid : Nat} {routeMask : BitVec tmRouteCount} : Configured s →
      s.setVcRoute vcid routeMask = .ok s' → Configured s'

/-- An admission, a call on the SDLS context, or a cycle with its calls, from the state before it to the state
after it -/
inductive Turn where
  | added (vcid : Nat) (packet : Bytes)
  | managed (call : Sdls.Call)
  | cycled (before : State) (calls : List Item) (cycle : Cycle) (after : State)

/-- An admission may fail and a cycle may emit no frame.  The calls on the context are all but those that set the
flags of the FSR. -/
def Turn.Leads (s : State) (turn : Turn) (s' : State) : Prop :=
  match turn with
  | .added vcid packet => ∃ timeout calls result, (frameAdd vcid packet timeout).run.Runs anyKernel s calls result s'
  | .managed call => call.keepsReporting = true ∧ ∃ ctx ctx' t result, s.sdls = some ctx ∧
      Sdls.Step ctx ⟨call, t, result⟩ ctx' ∧ s' = { s with sdls := some ctx' }
  | .cycled before calls cycle after => before = s ∧ after = s' ∧
      generatorCycle.run.Runs anyKernel s calls (.ok cycle) s'

/-- A frame with the cycle that has routed it -/
structure RoutedFrame where
  before : State
  calls : List Item
  vcid : VcId
  frame : Bytes
  after : State

/-- The frames of a run, in order -/
def routedFrames (turns : List Turn) : List RoutedFrame :=
  turns.filterMap fun turn =>
    match turn with
    | .added _ _ => none
    | .managed _ => none
    | .cycled before calls cycle after => cycle.frame.map fun frame => ⟨before, calls, cycle.vcid, frame, after⟩

/-- The meter after some frames -/
def Meter.after (meter : Meter) (frames : List RoutedFrame) : Meter :=
  frames.foldl (fun meter routed => meter.tick routed.vcid) meter

/-- A channel with an SPI has a context to protect it. -/
structure State.Attached (s : State) : Prop where
  built : s.sdls.isSome = true → Kconfig.sdls = true
  context : ∀ vcid slot, (s.vcs vcid).sdlsSpi = some slot → s.sdls.isSome = true

/-! ### The meter of a run -/

omit [Kconfig] [Sdls.Kconfig] in
/-- The place of a filtered element in the whole list -/
theorem exists_index_of_filter {α : Type} {p : α → Bool} {a : α} (l : List α) (k : Nat)
    (found : (l.filter p)[k]? = some a) : ∃ j, l[j]? = some a ∧ ((l.take j).filter p).length = k := by
  induction l generalizing k with
  | nil => simp at found
  | cons b l ih =>
    by_cases kept : p b = true
    · rw [List.filter_cons_of_pos kept] at found
      cases k with
      | zero =>
        refine ⟨0, ?_, rfl⟩
        simpa using found
      | succ k =>
        rw [List.getElem?_cons_succ] at found
        obtain ⟨j, at_j, count⟩ := ih k found
        refine ⟨j + 1, at_j, ?_⟩
        rw [List.take_succ_cons, List.filter_cons_of_pos kept, List.length_cons, count]
    · rw [List.filter_cons_of_neg kept] at found
      obtain ⟨j, at_j, count⟩ := ih k found
      refine ⟨j + 1, at_j, ?_⟩
      rw [List.take_succ_cons, List.filter_cons_of_neg kept, count]

theorem Meter.after_append (meter : Meter) (front back : List RoutedFrame) :
    meter.after (front ++ back) = (meter.after front).after back := List.foldl_append ..

theorem Meter.after_mcfc (meter : Meter) (frames : List RoutedFrame) :
    (meter.after frames).mcfc = meter.mcfc + UInt8.ofNat frames.length := by
  induction frames generalizing meter with
  | nil => simp [Meter.after]
  | cons routed frames ih =>
    show ((meter.tick routed.vcid).after frames).mcfc = _
    rw [ih]
    show meter.mcfc + 1 + UInt8.ofNat frames.length = _
    rw [List.length_cons, UInt8.ofNat_add, UInt8.add_assoc, UInt8.add_comm 1]
    rfl

theorem Meter.after_vcfc (meter : Meter) (vcid : VcId) (frames : List RoutedFrame) :
    (meter.after frames).vcfc vcid =
      meter.vcfc vcid + UInt8.ofNat (frames.filter fun routed => routed.vcid = vcid).length := by
  induction frames generalizing meter with
  | nil => simp [Meter.after]
  | cons routed frames ih =>
    show ((meter.tick routed.vcid).after frames).vcfc vcid = _
    rw [ih]
    by_cases own : routed.vcid = vcid
    · rw [List.filter_cons_of_pos (by simpa using own), List.length_cons, UInt8.ofNat_add, ← own]
      show Function.update meter.vcfc routed.vcid _ routed.vcid + _ = _
      rw [Function.update_self, UInt8.add_assoc, UInt8.add_comm 1]
      rfl
    · rw [List.filter_cons_of_neg (by simpa using own)]
      show Function.update meter.vcfc routed.vcid _ vcid + _ = _
      rw [Function.update_of_ne (Ne.symm own)]

/-- The OCF phase alternates from frame to frame. -/
theorem Meter.after_reporting (meter : Meter) (frames : List RoutedFrame) (next : Bool)
    (enabled : meter.reporting = some (true, next)) :
    (meter.after frames).reporting = some (true, xor next (decide (frames.length % 2 = 1))) := by
  induction frames generalizing meter next with
  | nil => simp [Meter.after, enabled]
  | cons routed frames ih =>
    have ticked : (meter.tick routed.vcid).reporting = some (true, !next) := by
      show meter.reporting.map _ = _
      rw [enabled]
      rfl
    show ((meter.tick routed.vcid).after frames).reporting = _
    rw [ih _ _ ticked, List.length_cons]
    rcases Nat.mod_two_eq_zero_or_one frames.length with even | odd
    · have next_odd : (frames.length + 1) % 2 = 1 := by omega
      simp [even, next_odd]
    · have next_even : (frames.length + 1) % 2 = 0 := by omega
      simp [odd, next_even]

theorem routedFrames_append (front back : List Turn) :
    routedFrames (front ++ back) = routedFrames front ++ routedFrames back := List.filterMap_append

/-! ### Invariants -/

theorem State.Attached.of_same (attached : s.Attached) (spis : ∀ vcid, (s'.vcs vcid).sdlsSpi = (s.vcs vcid).sdlsSpi)
    (kept : s'.sdls.isSome = s.sdls.isSome) : s'.Attached := by
  constructor
  · intro present
    exact attached.built (kept.symm.trans present)
  · intro vcid slot selected
    rw [kept]
    exact attached.context vcid slot ((spis vcid).symm.trans selected)

/-- Configuring a generator numbers no frame. -/
theorem Configured.zero (configured : Configured s) : s.mcfc = 0 ∧ ∀ vcid, (s.vcs vcid).vcfc = 0 := by
  have updated : ∀ (s : State) (vcid : VcId) (f : Vc → Vc), (f (s.vcs vcid)).vcfc = (s.vcs vcid).vcfc →
      (∀ vcid, (s.vcs vcid).vcfc = 0) → ∀ other, ((s.updateVc vcid f).vcs other).vcfc = 0 := by
    intro s vcid f kept zero other
    by_cases same : other = vcid
    · rw [same, State.updateVc_same, kept, zero]
    · rw [State.updateVc_other _ _ _ same, zero]
  induction configured with
  | init => exact ⟨rfl, fun _ => rfl⟩
  | setSdls _ _ ih => exact ih
  | @setVcSdls s vcid spi _ _ ih => exact ⟨ih.1, updated s vcid _ rfl ih.2⟩
  | fsrSetEnabled _ ih => exact ih
  | setClcwProvider _ ih => exact ih
  | @registerRoute s s' routeBit fn _ registered ih =>
    unfold State.registerRoute at registered
    split at registered
    · split at registered
      · cases registered
        exact ih
      · cases registered
    · cases registered
  | @setVcRoute s s' vcid routeMask _ set ih =>
    unfold State.setVcRoute at set
    split_ifs at set with bound valid
    cases set
    exact ⟨ih.1, updated s ⟨vcid, bound⟩ _ rfl ih.2⟩

theorem Configured.attached (configured : Configured s) : s.Attached := by
  induction configured with
  | init =>
    constructor
    · intro never
      cases never
    · intro vcid slot never
      cases never
  | setSdls built _ _ => exact ⟨fun _ => built, fun _ _ _ => rfl⟩
  | setVcSdls present _ ih => exact ⟨ih.built, fun _ _ _ => present⟩
  | fsrSetEnabled _ ih => exact ih.of_same (fun _ => rfl) Option.isSome_map
  | setClcwProvider _ ih => exact ih.of_same (fun _ => rfl) rfl
  | @registerRoute s s' routeBit fn _ registered ih =>
    unfold State.registerRoute at registered
    split at registered
    · split at registered
      · cases registered
        exact ih.of_same (fun _ => rfl) rfl
      · cases registered
    · cases registered
  | @setVcRoute s s' vcid routeMask _ set ih =>
    unfold State.setVcRoute at set
    split_ifs at set with bound valid
    cases set
    refine ih.of_same (fun other => ?_) rfl
    by_cases same : other = ⟨vcid, bound⟩
    · rw [same, State.updateVc_same]
    · rw [State.updateVc_other _ _ _ same]

/-- What one step does to the meter and the settings -/
theorem Turn.Leads.meter {turn : Turn} (leads : turn.Leads s s') :
    s'.meter = s.meter.after (routedFrames [turn]) ∧ s.SameSettings s' := by
  cases turn with
  | added vcid packet =>
    obtain ⟨timeout, calls, result, runs⟩ := leads
    have put := fun vc => s.updateVc_onlyQueue vc (·.accept packet) rfl
    show s'.meter = s.meter ∧ _
    cases result with
    | ok _ =>
      obtain ⟨vc, -, -, -, rfl⟩ := Fallible.ok_of_runs (frameAdd_spec vcid packet timeout s) runs
      exact put vc
    | error e =>
      rcases Fallible.error_of_runs (frameAdd_spec vcid packet timeout s) runs with
        ⟨rfl, -⟩ | ⟨vc, -, -, -, rfl⟩
      · exact ⟨rfl, .refl s'⟩
      · exact put vc
  | managed call =>
    obtain ⟨other, ctx, ctx', t, result, attached, step, rfl⟩ := leads
    have flags := step.reporting other
    refine ⟨?_, fun _ => rfl, rfl⟩
    show Meter.mk s.mcfc _ ((some ctx').map _) = Meter.mk s.mcfc _ (s.sdls.map _)
    rw [attached, Option.map_some, Option.map_some, flags]
  | cycled before calls cycle after =>
    obtain ⟨rfl, rfl, runs⟩ := leads
    have cycled := Fallible.ok_of_runs generatorCycle_meters runs
    refine ⟨?_, cycled.settings⟩
    cases emitted : cycle.frame with
    | none =>
      simp only [routedFrames, List.filterMap_cons, emitted, Option.map_none, List.filterMap_nil]
      exact (cycled.failed emitted).2
    | some frame =>
      simp only [routedFrames, List.filterMap_cons, emitted, Option.map_some, List.filterMap_nil]
      exact (cycled.routed frame emitted).2.2

theorem Turn.Leads.attached {turn : Turn} (leads : turn.Leads s s') (attached : s.Attached) : s'.Attached := by
  obtain ⟨meter, settings⟩ := leads.meter
  refine attached.of_same settings.sdlsSpi ?_
  -- A tick keeps the flags of a context where there is one.
  have flags : ∀ frames : List RoutedFrame, (s.meter.after frames).reporting.isSome = s.meter.reporting.isSome := by
    intro frames
    generalize s.meter = start
    induction frames generalizing start with
    | nil => rfl
    | cons routed frames ih =>
      show ((start.tick routed.vcid).after frames).reporting.isSome = _
      rw [ih]
      exact Option.isSome_map
  have same := congrArg (fun meter => meter.reporting.isSome) meter
  rw [flags] at same
  simpa only [State.meter, Option.isSome_map] using same

/-- What is known of a routed frame of a run from `s₀`, after the frames in front of it -/
structure Numbered (s₀ : State) (front : List RoutedFrame) (routed : RoutedFrame) : Prop where
  carries : Carries routed.before routed.vcid routed.calls routed.frame routed.after
  routes : routed.calls.filterMap routeOf = (routed.before.targets routed.vcid).map fun fn =>
    (fn, routed.vcid, codeTransferFrame routed.frame)
  meter : routed.before.meter = s₀.meter.after front
  attached : routed.before.Attached

/-- The state after some steps -/
structure Numbering (s₀ : State) (past : List Turn) (s : State) : Prop where
  meter : s.meter = s₀.meter.after (routedFrames past)
  attached : s.Attached
  numbered : ∀ k routed, (routedFrames past)[k]? = some routed → Numbered s₀ ((routedFrames past).take k) routed

theorem Numbering.leads {s₀ : State} {past : List Turn} {turn : Turn} (numbering : Numbering s₀ past s)
    (leads : turn.Leads s s') : Numbering s₀ (past ++ [turn]) s' := by
  refine ⟨?_, leads.attached numbering.attached, ?_⟩
  · rw [routedFrames_append, Meter.after_append, leads.meter.1, numbering.meter]
  · intro k routed found
    rw [routedFrames_append] at found ⊢
    by_cases old : k < (routedFrames past).length
    · rw [List.getElem?_append_left old] at found
      rw [List.take_append_of_le_length (le_of_lt old)]
      exact numbering.numbered k routed found
    · -- The last frame, if there is one, is that of this step.
      rw [List.getElem?_append_right (Nat.not_lt.mp old)] at found
      cases turn with
      | added vcid packet => cases found
      | managed call => cases found
      | cycled before calls cycle after =>
        obtain ⟨rfl, rfl, runs⟩ := leads
        have cycled := Fallible.ok_of_runs generatorCycle_meters runs
        cases emitted : cycle.frame with
        | none =>
          simp only [routedFrames, List.filterMap_cons, emitted, Option.map_none, List.filterMap_nil] at found
          cases found
        | some frame =>
          obtain ⟨carries, routes, -⟩ := cycled.routed frame emitted
          have single : routedFrames [.cycled before calls cycle after] =
              [⟨before, calls, cycle.vcid, frame, after⟩] := by
            simp only [routedFrames, List.filterMap_cons, emitted, Option.map_some, List.filterMap_nil]
          rw [single] at found ⊢
          rw [List.getElem?_singleton] at found
          split_ifs at found with last
          cases found
          have next : k = (routedFrames past).length := by omega
          rw [next, List.take_left]
          exact ⟨carries, routes, numbering.meter, numbering.attached⟩

theorem Numbering.of_run {s₀ : State} {turns : List Turn} (attached : s₀.Attached) (run : Run Turn.Leads s₀ turns s) :
    Numbering s₀ turns s := by
  have start : Numbering s₀ [] s₀ := ⟨rfl, attached, fun k routed never => by cases never⟩
  have reached := run.invariant_history (fun past s turn s' => Numbering.leads) start
  rwa [List.nil_append] at reached

/-! ## The frames of a run -/

/-- The output of security that a frame of a channel with an SPI consists of up to its OCF: of the one call that its
cycle made, in the context before the cycle, and but for the OCF phase the context that it left is the one after. -/
def RoutedFrame.Protected (routed : RoutedFrame) (slot : Sdls.SaSlot) : Prop :=
  ∃ ctx firstHeaderPointer data out ctx', routed.before.sdls = some ctx ∧
    Applied ctx slot (routed.before.dataLen routed.vcid) routed.calls
      (layOut routed.before routed.vcid firstHeaderPointer data) out ctx' ∧
    routed.frame.slice 0 (routed.before.ocfOffset routed.vcid) = out.slice 0 (routed.before.ocfOffset routed.vcid) ∧
    routed.after.sdls = ({ routed.before with sdls := some ctx' } : State).completeOcf.sdls

/-- The OCF of a frame that is the FSR, or the CLCW -/
def RoutedFrame.Reports (routed : RoutedFrame) (fsr : Bool) : Prop :=
  ∃ ctx, routed.before.sdls = some ctx ∧
    routed.frame.slice (routed.before.ocfOffset routed.vcid) tmOcfLen =
      (if fsr then ctx.fsr.encode else clcwField routed.calls) ∧
    (fsr = false → routed.before.clcwProvider = true → ∃ answer, (⟨.clcw, answer⟩ : Item) ∈ routed.calls)

theorem Carries.octets {calls : List Item} {frame : Bytes} (carries : Carries s vcid calls frame s') :
    frame.getD 2 0 = s.mcfc ∧ frame.getD 3 0 = (s.vcs vcid).vcfc := by
  have field := carries.counters
  have inside : ∀ i < 2, frame.getD (2 + i) 0 = (Bytes.slice frame 2 2).getD i 0 := by
    intro i low
    simp only [Bytes.slice, List.getD_eq_getElem?_getD, List.getElem?_take, low, if_true, List.getElem?_drop]
  rw [field] at inside
  exact ⟨inside 0 (by decide), inside 1 (by decide)⟩

theorem Numbered.protected {s₀ : State} {front : List RoutedFrame} {routed : RoutedFrame}
    (numbered : Numbered s₀ front routed) {slot : Sdls.SaSlot}
    (selected : (routed.before.vcs routed.vcid).sdlsSpi = some slot) : routed.Protected slot := by
  have present := numbered.attached.context routed.vcid slot selected
  have built := numbered.attached.built present
  obtain ⟨ctx, attached⟩ := Option.isSome_iff_exists.mp present
  have security : routed.before.security routed.vcid = some (ctx, slot) := by
    simp only [State.security, attached, selected, built, if_true]
  obtain ⟨firstHeaderPointer, data, out, ctx', rest⟩ := numbered.carries.secured ctx slot security
  exact ⟨ctx, firstHeaderPointer, data, out, ctx', attached, rest⟩

theorem Numbered.reports {s₀ : State} {front : List RoutedFrame} {routed : RoutedFrame}
    (numbered : Numbered s₀ front routed) {ctx₀ : Sdls.Ctx} (attached : s₀.sdls = some ctx₀)
    (enabled : ctx₀.fsrEnabled = true) (first : ctx₀.fsrNext = false) :
    routed.Reports (decide (front.length % 2 = 1)) := by
  have start : s₀.meter.reporting = some (true, false) := by
    simp only [State.meter, attached, Option.map_some, Sdls.Ctx.reporting, enabled, first]
  have flags := congrArg Meter.reporting numbered.meter
  rw [s₀.meter.after_reporting front false start, Bool.false_xor] at flags
  obtain ⟨ctx, present, reporting⟩ := Option.map_eq_some_iff.mp flags
  have on : ctx.fsrEnabled = true := congrArg Prod.fst reporting
  have next : ctx.fsrNext = decide (front.length % 2 = 1) := congrArg Prod.snd reporting
  have due : routed.before.fsrDue = if front.length % 2 = 1 then some ctx.fsr else none := by
    simp only [State.fsrDue, present, Option.filter, on, next, Bool.true_and, decide_eq_true_eq]
    split <;> rfl
  refine ⟨ctx, present, ?_, ?_⟩
  · rw [numbered.carries.ocf]
    unfold State.ocfField
    rw [due]
    by_cases odd : front.length % 2 = 1 <;> simp [odd]
  · intro even provided
    apply numbered.carries.asked _ provided
    rw [due, if_neg (of_decide_eq_false even)]

/-- In every run from a configured generator the `k`-th frame carries the master counter `k` and the `k`-th frame of
a channel its counter `k`, both modulo 256; every frame has its length, its FECF and its security; if FSR reporting was
enabled from the start, CLCW and FSR alternate; and a cycle without a frame routes nothing and leaves the counters and
the OCF phase as they are. -/
theorem routed_frames_are_numbered (s₀ s : State) (turns : List Turn) (configured : Configured s₀)
    (run : Run Turn.Leads s₀ turns s) :
    (∀ k routed, (routedFrames turns)[k]? = some routed →
      (routed.frame.getD 2 0).toNat = k % 256 ∧ frameVcid routed.frame = routed.vcid.val ∧
        routed.frame.length = tmFrameLen ∧ (tmFecf = true → FecfVerifies routed.frame) ∧
        (∀ slot, (routed.before.vcs routed.vcid).sdlsSpi = some slot → routed.Protected slot) ∧
        (∀ ctx, s₀.sdls = some ctx → ctx.fsrEnabled = true → ctx.fsrNext = false →
          routed.Reports (decide (k % 2 = 1))) ∧
        routed.calls.filterMap routeOf = (routed.before.targets routed.vcid).map fun fn =>
          (fn, routed.vcid, codeTransferFrame routed.frame)) ∧
    (∀ vcid k routed, ((routedFrames turns).filter fun routed => routed.vcid = vcid)[k]? = some routed →
      (routed.frame.getD 3 0).toNat = k % 256) ∧
    (∀ calls result s', generatorCycle.run.Runs anyKernel s calls result s' → ∃ cycle, result = .ok cycle ∧
      (cycle.frame = none → calls.filterMap routeOf = [] ∧ s'.meter = s.meter)) := by
  have numbering := Numbering.of_run configured.attached run
  obtain ⟨mcfc, vcfc⟩ := configured.zero
  have within : ∀ k routed, (routedFrames turns)[k]? = some routed → k < (routedFrames turns).length := by
    intro k routed found
    exact (List.getElem?_eq_some_iff.mp found).1
  refine ⟨?_, ?_, ?_⟩
  · intro k routed found
    have numbered := numbering.numbered k routed found
    -- `numbered` counts the frames in front of the `k`-th, which are `k`
    have size : ((routedFrames turns).take k).length = k := List.length_take_of_le (le_of_lt (within k routed found))
    refine ⟨?_, numbered.carries.channel, numbered.carries.length, numbered.carries.fecf,
      fun slot selected => numbered.protected selected, ?_, numbered.routes⟩
    · have counter := congrArg Meter.mcfc numbered.meter
      rw [Meter.after_mcfc, size] at counter
      have counter : routed.before.mcfc = s₀.mcfc + UInt8.ofNat k := counter
      rw [numbered.carries.octets.1, counter, mcfc, UInt8.zero_add, UInt8.toNat_ofNat']
    · intro ctx attached enabled first
      have reports := numbered.reports attached enabled first
      rwa [size] at reports
  · intro vcid k routed found
    -- the `k`-th frame of the channel is the `j`-th of all; `k` frames of the channel are in front of it
    obtain ⟨j, found_j, count⟩ := exists_index_of_filter _ k found
    have own : routed.vcid = vcid := by
      have kept := List.mem_of_getElem? found
      simpa using (List.mem_filter.mp kept).2
    have numbered := numbering.numbered j routed found_j
    have counter := congrFun (congrArg Meter.vcfc numbered.meter) vcid
    rw [Meter.after_vcfc, count] at counter
    have counter : (routed.before.vcs vcid).vcfc = (s₀.vcs vcid).vcfc + UInt8.ofNat k := counter
    rw [numbered.carries.octets.2, own, counter, vcfc vcid, UInt8.zero_add, UInt8.toNat_ofNat']
  · intro calls result s' runs
    cases result with
    | error e => exact (Fallible.error_of_runs generatorCycle_meters runs).elim
    | ok cycle =>
      have cycled := Fallible.ok_of_runs generatorCycle_meters runs
      exact ⟨cycle, rfl, cycled.failed⟩

end ZephyrCcsds.Tm

namespace ZephyrCcsds.Tm

open Callback Tc

section Sample

attribute [local instance] sampleKconfig Sdls.defaultKconfig

/-- A generator that protects all channels and reports FSRs -/
def reportingState : State := securedGenerator.withSdls fun ctx => { ctx with fsrEnabled := true }

theorem reportingState_configured : Configured reportingState := .fsrSetEnabled (.setSdls rfl .init)

/-- The calls of a cycle that sends the small packet in front of an idle packet -/
def packetCalls : List Item :=
  [⟨.lock sampleVc .forever, none⟩, ⟨.unlock sampleVc, ()⟩, ⟨.lock sampleVc .forever, none⟩,
    encryption 0 (List.replicate 12 0) (smallPacket ++ [0x07, 0xff, 0xc0, 0x00, 0x00, 0x0a] ++ List.replicate 11 0),
    ⟨.unlock sampleVc, ()⟩]

/-- The calls of an idle cycle -/
def idleCalls : List Item :=
  ((List.finRange tmVcCount).flatMap fun vcid => [⟨.lock vcid .forever, none⟩, ⟨.unlock vcid, ()⟩]) ++
    [encryption 7 secondNonce (List.replicate 24 0)]

/-- A packet is sent in a protected frame, and an idle frame follows, which is protected too. -/
theorem twoProtectedFrames : ∃ turns s, Run Turn.Leads reportingState turns s ∧ ∃ one two,
    routedFrames turns = [one, two] ∧ (one.before.vcs one.vcid).sdlsSpi = some Sdls.transmitSlot ∧
      (two.before.vcs two.vcid).sdlsSpi = some Sdls.transmitSlot := by
  have held : ((((frameAdd 0 smallPacket .noWait).run reportingState).enact serve (addCalls smallPacket)).bind fun added =>
      ((generatorCycle.run added.2).enact (serveSecured Sdls.sampleScheme Sdls.sampleKeys) packetCalls).bind fun first =>
      ((generatorCycle.run first.2).enact (serveSecured Sdls.sampleScheme Sdls.sampleKeys) idleCalls).map fun second =>
        (added, first, second)).any (fun all =>
          decide ((all.2.1.1.toOption.bind Cycle.frame).isSome ∧ (all.2.2.1.toOption.bind Cycle.frame).isSome ∧
            all.2.1.1.toOption.all (fun cycle => (all.1.2.vcs cycle.vcid).sdlsSpi = some Sdls.transmitSlot) ∧
            all.2.2.1.toOption.all (fun cycle => (all.2.1.2.vcs cycle.vcid).sdlsSpi = some Sdls.transmitSlot))) =
      true := by
    decide +kernel
  obtain ⟨⟨⟨added, s₁⟩, ⟨one, s₂⟩, ⟨two, s₃⟩⟩, played, checked⟩ := (Option.any_eq_true _ _).mp held
  obtain ⟨⟨_, _⟩, admits, rest⟩ := Option.bind_eq_some_iff.mp played
  obtain ⟨⟨_, _⟩, first, rest⟩ := Option.bind_eq_some_iff.mp rest
  obtain ⟨⟨_, _⟩, second, same⟩ := Option.map_eq_some_iff.mp rest
  cases same
  obtain ⟨someOne, someTwo, selectedOne, selectedTwo⟩ := of_decide_eq_true checked
  cases one with
  | error e => cases someOne
  | ok one =>
    cases two with
    | error e => cases someTwo
    | ok two =>
      obtain ⟨frameOne, emittedOne⟩ := Option.isSome_iff_exists.mp someOne
      obtain ⟨frameTwo, emittedTwo⟩ := Option.isSome_iff_exists.mp someTwo
      have emittedOne : one.frame = some frameOne := emittedOne
      have emittedTwo : two.frame = some frameTwo := emittedTwo
      have encrypts : ∀ key nonce aad plaintext, (fun _ _ => True : (op : Sdls.PsaOp) → Sdls.PsaRes op → Prop)
          (.aeadEncrypt key nonce aad plaintext)
          (.success, Sdls.sampleScheme.encrypt (Sdls.sampleKeys key) nonce aad plaintext) := fun _ _ _ _ => trivial
      refine ⟨[.added 0 smallPacket, .cycled s₁ packetCalls one s₂, .cycled s₂ idleCalls two s₃], s₃,
        .step ⟨.noWait, _, _, runs_of_serve admits⟩ (.step ⟨rfl, rfl, runs_of_serveSecured encrypts first⟩
          (.single ⟨rfl, rfl, runs_of_serveSecured encrypts second⟩)),
        ⟨s₁, packetCalls, one.vcid, frameOne, s₂⟩, ⟨s₂, idleCalls, two.vcid, frameTwo, s₃⟩, ?_,
        of_decide_eq_true selectedOne, of_decide_eq_true selectedTwo⟩
      simp only [routedFrames, List.filterMap_cons, emittedOne, emittedTwo, Option.map_some, List.filterMap_nil]

/-- Both frames are protected; the second is numbered one and carries the FSR. -/
theorem routed_frames_are_numbered_protected : ∃ turns s, Run Turn.Leads reportingState turns s ∧
    ∃ one two, routedFrames turns = [one, two] ∧ one.Protected Sdls.transmitSlot ∧ two.Protected Sdls.transmitSlot ∧
      (two.frame.getD 2 0).toNat = 1 ∧ two.Reports true := by
  obtain ⟨turns, s, run, one, two, both, selectedOne, selectedTwo⟩ := twoProtectedFrames
  obtain ⟨frames, -, -⟩ := routed_frames_are_numbered reportingState s turns reportingState_configured run
  obtain ⟨-, -, -, -, securedOne, -, -⟩ := frames 0 one (by rw [both]; rfl)
  obtain ⟨counter, -, -, -, securedTwo, reports, -⟩ := frames 1 two (by rw [both]; rfl)
  exact ⟨turns, s, run, one, two, both, securedOne _ selectedOne, securedTwo _ selectedTwo, counter,
    reports _ rfl rfl rfl⟩

end Sample

end ZephyrCcsds.Tm
