import ZephyrCcsds.Sdls.Reporting
import ZephyrCcsds.Sdls.RoundTrip
import ZephyrCcsds.Tm.Crc
import ZephyrCcsds.Tm.Draining

/-! # What every frame carries

Both builders end with security, the OCF and the FECF, whatever lies in the queues and whatever PSA
answers.

* `Vc.fill_spec` — the loop fills no more than the data field and leaves the settings of a channel alone.
* `Carries` — counters, security, OCF and FECF of a frame; `finishFrame_carries` gives it.
-/

namespace ZephyrCcsds.Tm

open Callback Tc

variable [Kconfig] [Sdls.Kconfig]

/-! ## The FECF -/

/-- What a receiver checks of the FECF: the field, or the CRC of the whole frame -/
structure FecfVerifies (frame : Bytes) : Prop where
  field : frame.slice (tmFrameLen - tmFecfLen) tmFecfLen =
    Bytes.putBe 2 (crc16Compute (frame.take (tmFrameLen - tmFecfLen))).toNat
  whole : crc16Compute frame = 0

omit [Sdls.Kconfig] in
/-- The FECF is the CRC of what lies in front of it, so that the CRC of the whole frame is zero. -/
theorem appendFecf_verifies {frame : Bytes} (enabled : tmFecf = true) (length : frame.length = tmFrameLen)
    (room : tmFecfLen ≤ tmFrameLen) : FecfVerifies (appendFecf frame) := by
  have two : tmFecfLen = 2 := by simp [tmFecfLen, fecfLenOf, enabled, crc16Len]
  have behind : frame.drop (tmFrameLen - tmFecfLen + 2) = [] := by
    apply List.drop_eq_nil_of_le
    omega
  have front : (frame.take (tmFrameLen - tmFecfLen)).length = tmFrameLen - tmFecfLen := by
    rw [List.length_take]
    omega
  have coded : appendFecf frame = frame.take (tmFrameLen - tmFecfLen) ++
      Bytes.putBe 2 (crc16Compute (frame.take (tmFrameLen - tmFecfLen))).toNat := by
    simp only [appendFecf, enabled, if_true, Bytes.overwrite, Bytes.putBe_length, behind, List.append_nil]
  rw [coded]
  generalize frame.take (tmFrameLen - tmFecfLen) = octets at front
  constructor
  · rw [← front, List.take_left, Bytes.slice_append_right _ (le_refl _), Nat.sub_self, two]
    exact List.take_of_length_le (by simp)
  · unfold crc16Compute
    rw [crc16Update_append, crc16Update_own]

/-! ## The data field -/

/-- Only the queue of a channel has changed. -/
def Vc.OnlyQueue (vc vc' : Vc) : Prop :=
  vc' = { vc with pending := vc'.pending, pendingLen := vc'.pendingLen, packetRem := vc'.packetRem }

theorem Vc.OnlyQueue.trans {vc vc' vc'' : Vc} (first : vc.OnlyQueue vc') (second : vc'.OnlyQueue vc'') :
    vc.OnlyQueue vc'' := by
  unfold Vc.OnlyQueue at *
  rw [second, first]

variable {vc : Vc} {fill : Fill} {dataLen : Nat}

theorem Vc.readPendingFrom_spec (fuel missing : Nat) (buf : Bytes) (vc : Vc) :
    vc.OnlyQueue (Vc.readPendingFrom fuel missing buf vc).1 ∧
      ∀ octets, (Vc.readPendingFrom fuel missing buf vc).2 = .ok octets → octets.length ≤ buf.length + missing := by
  induction fuel generalizing missing buf vc with
  | zero =>
    refine ⟨rfl, ?_⟩
    intro octets read
    cases read
    omega
  | succ fuel ih =>
    unfold Vc.readPendingFrom
    by_cases nothing : missing = 0
    · simp only [nothing, if_true]
      refine ⟨rfl, ?_⟩
      intro octets read
      cases read
      omega
    · simp only [nothing, if_false]
      cases taken : kPipeRead vc.pending missing with
      | error e => exact ⟨rfl, fun _ never => by cases never⟩
      | ok read =>
        dsimp only
        by_cases none : read.1.length = 0
        · simp only [none, if_true]
          exact ⟨rfl, fun _ never => by cases never⟩
        · simp only [none, if_false]
          obtain ⟨-, front, -⟩ := kPipeRead_ok taken
          have short : read.1.length ≤ missing := by
            rw [front, List.length_take]
            omega
          have first : vc.OnlyQueue { vc with pending := read.2, pendingLen := vc.pendingLen - read.1.length } := rfl
          obtain ⟨only, bounded⟩ := ih (missing - read.1.length) (buf ++ read.1) _
          refine ⟨first.trans only, ?_⟩
          intro octets finished
          have reached := bounded octets finished
          rw [List.length_append] at reached
          omega

theorem Vc.readPendingBytes_spec (vc : Vc) (len : Nat) : vc.OnlyQueue (vc.readPendingBytes len).1 ∧
    ∀ octets, (vc.readPendingBytes len).2 = .ok octets → octets.length ≤ len := by
  obtain ⟨only, bounded⟩ := Vc.readPendingFrom_spec len len [] vc
  refine ⟨only, ?_⟩
  intro octets read
  have reached := bounded octets read
  rw [List.length_nil] at reached
  omega

/-- A turn of the loop stays inside the data field. -/
theorem Fill.turn_spec (more : fill.More dataLen) : fill.vc.OnlyQueue (fill.turn dataLen).1.vc ∧
    (fill.turn dataLen).1.used ≤ dataLen := by
  obtain ⟨room, -, header⟩ := more
  unfold Fill.turn
  by_cases opened : 0 < fill.vc.packetRem
  · simp only [opened, if_true, Fill.continuePacket]
    obtain ⟨only, bounded⟩ := fill.vc.readPendingBytes_spec (min fill.vc.packetRem (dataLen - fill.used))
    generalize fill.vc.readPendingBytes (min fill.vc.packetRem (dataLen - fill.used)) = read at only bounded ⊢
    obtain ⟨vc, result⟩ := read
    cases result with
    | error e => exact ⟨only, le_of_lt room⟩
    | ok octets =>
      refine ⟨Vc.OnlyQueue.trans only rfl, ?_⟩
      have short := bounded octets rfl
      show (fill.data ++ octets).length ≤ dataLen
      rw [List.length_append]
      unfold Fill.used at room short
      omega
  · simp only [opened, if_false, Fill.startPacket]
    by_cases few : fill.vc.pendingLen < spacePacketPrimaryHdrLen
    · simp only [few, if_true]
      exact ⟨rfl, le_of_lt room⟩
    · simp only [few, if_false]
      obtain ⟨only, bounded⟩ := fill.vc.readPendingBytes_spec spacePacketPrimaryHdrLen
      generalize fill.vc.readPendingBytes spacePacketPrimaryHdrLen = read at only bounded ⊢
      obtain ⟨vc, result⟩ := read
      cases result with
      | error e => exact ⟨only, le_of_lt room⟩
      | ok octets =>
        refine ⟨Vc.OnlyQueue.trans only rfl, ?_⟩
        have short := bounded octets rfl
        show (fill.data ++ octets).length ≤ dataLen
        rw [List.length_append]
        unfold Fill.used at room header
        omega

theorem Fill.loop_spec (fuel : Nat) (fits : fill.used ≤ dataLen) :
    fill.vc.OnlyQueue (Fill.loop dataLen fuel fill).1.vc ∧ (Fill.loop dataLen fuel fill).1.used ≤ dataLen := by
  induction fuel generalizing fill with
  | zero => exact ⟨rfl, fits⟩
  | succ fuel ih =>
    unfold Fill.loop
    by_cases more : fill.More dataLen
    · simp only [more, if_true]
      obtain ⟨only, inside⟩ := Fill.turn_spec more
      generalize fill.turn dataLen = turned at only inside ⊢
      obtain ⟨after, result⟩ := turned
      cases result with
      | error e => exact ⟨only, inside⟩
      | ok _ =>
        obtain ⟨rest, bounded⟩ := ih inside
        exact ⟨only.trans rest, bounded⟩
    · simp only [more, if_false]
      exact ⟨rfl, fits⟩

theorem Vc.fill_spec (vc : Vc) (dataLen : Nat) :
    vc.OnlyQueue (vc.fill dataLen).1.vc ∧ (vc.fill dataLen).1.used ≤ dataLen :=
  @Fill.loop_spec _ _ { vc, data := [], firstHeaderPointer := tmNoFirstHeaderPointer } dataLen dataLen (Nat.zero_le _)

/-! ## Security -/

omit [Kconfig] in
/-- Whatever PSA answers, a transmission writes its span and nothing else. -/
theorem applySecurity_writes {role : Sdls.SaRole} {slot : Sdls.SaSlot} (auth : Sdls.AuthHeader)
    {data : Sdls.DataPointer} {outOffset : Nat} {st : Sdls.State} (fits : data.Fits st.out outOffset) :
    (Sdls.applySecurity role slot auth data outOffset).wp Sdls.anyPsa
      (fun _ _ st' => ∃ span : Bytes, span.length = (data.read st.out).length + Sdls.protectedOverhead ∧
        st'.out = st.out.overwrite outOffset span)
      (fun _ _ _ => True) st := by
  have room := fits.room
  unfold Sdls.protectedOverhead at room
  cases operational : st.ctx.operationalKey slot role true with
  | error e =>
    simp only [Sdls.applySecurity, operational, Fallible.wp_bind, Fallible.wp_read]
    exact trivial
  | ok key =>
    have framed : (Sdls.securityHeaderEncode { spi := slot.spi, iv := st.ctx.nextIv key }).length =
        Sdls.securityHeaderLen := Sdls.securityHeaderEncode_length (Sdls.constructIv_length _ _)
    simp only [Sdls.applySecurity, operational, Fallible.wp_bind, Fallible.wp_read, Fallible.wp_ofExcept,
      Fallible.wp_modify, Sdls.wp_psaAeadEncrypt, Fallible.wp_failIf, Except.ok.injEq, forall_eq', implies_true,
      and_true, true_and]
    intro answer
    rw [not_or, not_not, not_not]
    intro accepted
    obtain ⟨-, sized⟩ := accepted
    cases gcm : decide (st.ctx.saModes slot = .gcm) with
    | true =>
      simp only [gcm, if_true] at sized ⊢
      simp only [Fallible.wp_bind, Fallible.wp_modify, Sdls.State.write_out, Sdls.State.withCtx_out]
      have taken : (answer.2.take (data.read st.out).length).length = (data.read st.out).length := by
        rw [List.length_take]
        omega
      nth_rewrite 3 [← taken]
      rw [← framed, Bytes.overwrite_three (by omega)]
      refine ⟨_, ?_, rfl⟩
      simp only [List.length_append, List.length_take, List.length_drop, framed, Sdls.protectedOverhead]
      omega
    | false =>
      simp only [gcm, Bool.false_eq_true, if_false] at sized ⊢
      simp only [Fallible.wp_bind, Fallible.wp_modify, Sdls.State.write_out, Sdls.State.withCtx_out]
      rw [fits.read_behind framed, ← framed, Bytes.overwrite_three (by omega)]
      refine ⟨_, ?_, rfl⟩
      simp only [List.length_append, framed, sized, Sdls.protectedOverhead]
      omega

/-! ## Counters -/

/-- The frame counters, and the flags of FSR reporting -/
structure Meter where
  mcfc : UInt8
  vcfc : VcId → UInt8
  reporting : Option (Bool × Bool)

def State.meter (s : State) : Meter where
  mcfc := s.mcfc
  vcfc vcid := (s.vcs vcid).vcfc
  reporting := s.sdls.map Sdls.Ctx.reporting

/-- A frame of a channel is complete. -/
def Meter.tick (meter : Meter) (vcid : VcId) : Meter where
  mcfc := meter.mcfc + 1
  vcfc := Function.update meter.vcfc vcid (meter.vcfc vcid + 1)
  reporting := meter.reporting.map fun flags => (flags.1, if flags.1 then !flags.2 else flags.2)

def Vc.settings (vc : Vc) : BitVec tmRouteCount × Option Sdls.SaSlot := (vc.routeMask, vc.sdlsSpi)

/-- The configuration of the channels and the routes is the same. -/
structure State.SameSettings (s s' : State) : Prop where
  settings : ∀ vcid, (s'.vcs vcid).settings = (s.vcs vcid).settings
  routes : s'.routes = s.routes

theorem State.SameSettings.refl (s : State) : s.SameSettings s := ⟨fun _ => rfl, rfl⟩

theorem State.SameSettings.trans {s s' s'' : State} (first : s.SameSettings s') (second : s'.SameSettings s'') :
    s.SameSettings s'' :=
  ⟨fun vcid => (second.settings vcid).trans (first.settings vcid), second.routes.trans first.routes⟩

theorem State.SameSettings.sdlsSpi {s s' : State} (same : s.SameSettings s') (vcid : VcId) :
    (s'.vcs vcid).sdlsSpi = (s.vcs vcid).sdlsSpi := congrArg Prod.snd (same.settings vcid)

theorem State.SameSettings.routeMask {s s' : State} (same : s.SameSettings s') (vcid : VcId) :
    (s'.vcs vcid).routeMask = (s.vcs vcid).routeMask := congrArg Prod.fst (same.settings vcid)

/-- An update that keeps the settings of a channel keeps those of all. -/
theorem State.updateVc_sameSettings (s : State) (vcid : VcId) (f : Vc → Vc)
    (kept : (f (s.vcs vcid)).settings = (s.vcs vcid).settings) : s.SameSettings (s.updateVc vcid f) := by
  refine ⟨fun other => ?_, rfl⟩
  by_cases same : other = vcid
  · subst same
    rw [State.updateVc_same]
    exact kept
  · rw [State.updateVc_other _ _ _ same]

theorem State.completed_meter (s : State) (vcid : VcId) :
    (s.completeOcf.incrementFrameCounters vcid).meter = s.meter.tick vcid := by
  have own : (fun other => ((s.completeOcf.incrementFrameCounters vcid).vcs other).vcfc) =
      Function.update s.meter.vcfc vcid (s.meter.vcfc vcid + 1) := by
    funext other
    by_cases same : other = vcid
    · subst same
      rw [Function.update_self]
      show ((s.completeOcf.updateVc other fun vc => { vc with vcfc := vc.vcfc + 1 }).vcs other).vcfc = _
      rw [State.updateVc_same]
      rfl
    · rw [Function.update_of_ne same]
      show ((s.completeOcf.updateVc vcid fun vc => { vc with vcfc := vc.vcfc + 1 }).vcs other).vcfc = _
      rw [State.updateVc_other _ _ _ same]
      rfl
  have flags : (s.completeOcf.incrementFrameCounters vcid).sdls.map Sdls.Ctx.reporting =
      (s.meter.tick vcid).reporting := by
    show (s.sdls.map _).map Sdls.Ctx.reporting = (s.sdls.map Sdls.Ctx.reporting).map _
    cases s.sdls with
    | none => rfl
    | some ctx =>
      simp only [Option.map_some, Sdls.Ctx.reporting]
      split <;> rename_i enabled <;> simp [enabled]
  show Meter.mk (s.mcfc + 1) _ _ = Meter.mk (s.mcfc + 1) _ _
  rw [own, flags]
  rfl

theorem State.completed_sameSettings (s : State) (vcid : VcId) :
    s.SameSettings (s.completeOcf.incrementFrameCounters vcid) := by
  have counted := s.updateVc_sameSettings vcid (fun vc => { vc with vcfc := vc.vcfc + 1 }) rfl
  exact ⟨counted.settings, rfl⟩

/-! ## The end of both builders -/

/-- The CLCW that a provider has returned -/
def clcwOf : Item → Option Bytes
  | ⟨.clcw, answer⟩ => if answer.1 = 0 then some (Bytes.putBe tmOcfLen answer.2.toNat) else none
  | _ => none

/-- The arguments of a call of a route -/
def routeOf : Item → Option (RouteFn × VcId × Bytes)
  | ⟨.route fn vcid frame, _⟩ => some (fn, vcid, frame)
  | _ => none

/-- The call of PSA that an item is -/
def psaOf : Item → Option ((op : Sdls.PsaOp) × Sdls.PsaRes op)
  | ⟨.psa op, answer⟩ => some ⟨op, answer⟩
  | _ => none

/-- The OCF of a frame without an FSR: zeros, unless the provider has returned a CLCW -/
def clcwField (calls : List Item) : Bytes := (calls.filterMap clcwOf).headD (List.replicate tmOcfLen 0)

/-- The OCF of a frame: the FSR if it is due, else the CLCW -/
def State.ocfField (s : State) (calls : List Item) : Bytes :=
  match s.fsrDue with
  | some fsr => fsr.encode
  | none => clcwField calls

/-- `ccsds_sdls_apply_security` has returned `0` for the frame `clear` and left `out` in its buffer and `ctx'` as
its context.  Its calls of PSA are those among `calls`. -/
def Applied (ctx : Sdls.Ctx) (slot : Sdls.SaSlot) (dataLen : Nat) (calls : List Item) (clear out : Bytes)
    (ctx' : Sdls.Ctx) : Prop :=
  ∃ t st, (Sdls.applySecurity .operationalTmTx slot (tmAuthHeader clear)
    (.within (tmPrimaryHdrLen + Sdls.securityHeaderLen) dataLen) tmPrimaryHdrLen).run.Runs Sdls.anyPsa
      { ctx, out := clear, outLen := 0 } t (.ok ()) st ∧ st.out = out ∧ st.ctx = ctx' ∧
    calls.filterMap psaOf = t.map Sdls.Item.call

/-- What a frame of a channel carries that is built from the state `s` to the state `s'` with some calls -/
structure Carries (s : State) (vcid : VcId) (calls : List Item) (frame : Bytes) (s' : State) : Prop where
  length : frame.length = tmFrameLen
  channel : frameVcid frame = vcid.val
  counters : frame.slice 2 2 = [s.mcfc, (s.vcs vcid).vcfc]
  secured : ∀ ctx slot, s.security vcid = some (ctx, slot) → ∃ firstHeaderPointer data out ctx',
    Applied ctx slot (s.dataLen vcid) calls (layOut s vcid firstHeaderPointer data) out ctx' ∧
      frame.slice 0 (s.ocfOffset vcid) = out.slice 0 (s.ocfOffset vcid) ∧
      s'.sdls = ({ s with sdls := some ctx' } : State).completeOcf.sdls
  ocf : frame.slice (s.ocfOffset vcid) tmOcfLen = s.ocfField calls
  asked : s.fsrDue = none → s.clcwProvider = true → ∃ answer, (⟨.clcw, answer⟩ : Item) ∈ calls
  fecf : tmFecf = true → FecfVerifies frame

/-- What security leaves of a frame that has been laid out, and the state behind it -/
structure Secures (s : State) (vcid : VcId) (calls : List Item) (clear out : Bytes) (s' : State) : Prop where
  length : out.length = clear.length
  header : out.slice 0 tmPrimaryHdrLen = clear.slice 0 tmPrimaryHdrLen
  trailer : ∀ len, out.slice (s.ocfOffset vcid) len = clear.slice (s.ocfOffset vcid) len
  applied : ∀ ctx slot, s.security vcid = some (ctx, slot) → ∃ ctx',
    Applied ctx slot (s.dataLen vcid) calls clear out ctx' ∧ s'.sdls = some ctx'

/-- What finishing a frame needs to know of the state is left alone by security. -/
structure State.Securing (s s' : State) : Prop where
  meter : s'.meter = s.meter
  settings : s.SameSettings s'
  fsrDue : s'.fsrDue = s.fsrDue
  clcwProvider : s'.clcwProvider = s.clcwProvider

/-- Calls of PSA and of the mutexes -/
def Silent (calls : List Item) : Prop := calls.filterMap clcwOf = [] ∧ calls.filterMap routeOf = []

variable {psa : (op : Sdls.PsaOp) → Sdls.PsaRes op → Prop} {s : State} {vcid : VcId} {firstHeaderPointer : Nat}
  {data : Bytes}

omit [Kconfig] [Sdls.Kconfig] in
theorem Silent.append {front back : List Item} (first : Silent front) (second : Silent back) : Silent (front ++ back) := by
  unfold Silent
  simp only [List.filterMap_append, first.1, first.2, second.1, second.2, List.append_nil, and_self]

omit [Kconfig] in
theorem silent_psa (calls : List Sdls.Item) :
    Silent (calls.map fun item => (⟨.psa item.op, item.result⟩ : Item)) := by
  induction calls with
  | nil => exact ⟨rfl, rfl⟩
  | cons item calls ih => exact ih

omit [Kconfig] in
theorem psaOf_psa (calls : List Sdls.Item) :
    (calls.map fun item => (⟨.psa item.op, item.result⟩ : Item)).filterMap psaOf = calls.map Sdls.Item.call := by
  induction calls with
  | nil => rfl
  | cons item calls ih => exact congrArg (item.call :: ·) ih

theorem securing_of_consumed {ctx : Sdls.Ctx} (attached : s.sdls = some ctx) {st : Sdls.State}
    (consumed : st.ctx = ctx ∨ ∃ key, st.ctx = ctx.consumeIv key) : s.Securing (sdlsPart.store st s) := by
  have same : st.ctx.reporting = ctx.reporting ∧ st.ctx.fsr = ctx.fsr := by
    rcases consumed with same | ⟨key, same⟩
    · rw [same]
      exact ⟨rfl, rfl⟩
    · rw [same]
      exact ⟨rfl, rfl⟩
  obtain ⟨flags, fsr⟩ := same
  have enabled : st.ctx.fsrEnabled = ctx.fsrEnabled := congrArg Prod.fst flags
  have next : st.ctx.fsrNext = ctx.fsrNext := congrArg Prod.snd flags
  refine ⟨?_, ⟨fun _ => rfl, rfl⟩, ?_, rfl⟩
  · show Meter.mk s.mcfc _ ((some st.ctx).map _) = Meter.mk s.mcfc _ (s.sdls.map _)
    rw [attached, Option.map_some, Option.map_some, flags]
    rfl
  · show ((some st.ctx).filter _).map _ = (s.sdls.filter _).map _
    rw [attached]
    simp only [Option.filter, enabled, next]
    split <;> simp [fsr]

theorem applySecurity_secures (fits : data.length ≤ s.dataLen vcid) :
    (applySecurity vcid (layOut s vcid firstHeaderPointer data)).wp (kernel psa)
      (fun t out s' => Silent t ∧ Secures s vcid t (layOut s vcid firstHeaderPointer data) out s' ∧ s.Securing s')
      (fun t _ s' => Silent t ∧ s.Securing s') s := by
  have length := @layOut_length _ _ s vcid firstHeaderPointer data fits
  simp only [applySecurity, Fallible.wp_bind, Fallible.wp_read]
  cases security : s.security vcid with
  -- a clear channel: `apply_security` returns the frame as it is
  | none =>
    refine ⟨⟨rfl, rfl⟩, ⟨rfl, rfl, fun _ => rfl, ?_⟩, rfl, .refl s, rfl, rfl⟩
    intro ctx slot secured
    rw [security] at secured
    cases secured
  | some pair =>
    obtain ⟨ctx, slot⟩ := pair
    obtain ⟨enabled, attached⟩ := State.security_enabled security
    have long := tmFrameLen_secured enabled
    have overhead : s.securityOverhead vcid = Sdls.protectedOverhead := by
      simp only [State.securityOverhead, State.securityEnabled, security, Option.isSome_some, if_true]
    have dataLen : s.dataLen vcid = tmFrameLen - tmPrimaryHdrLen - Sdls.protectedOverhead - tmOcfLen - tmFecfLen := by
      rw [State.dataLen, overhead]
    have ocfOffset : s.ocfOffset vcid = tmPrimaryHdrLen + (s.dataLen vcid + Sdls.protectedOverhead) := by
      rw [State.ocfOffset, overhead]
      omega
    have room : tmPrimaryHdrLen + (s.dataLen vcid + Sdls.protectedOverhead) ≤ tmFrameLen := by omega
    -- the data field is read behind the place of the Security Header, in the buffer that is written
    have pointer : (Sdls.DataPointer.within (tmPrimaryHdrLen + Sdls.securityHeaderLen) (s.dataLen vcid)).Fits
        (layOut s vcid firstHeaderPointer data) tmPrimaryHdrLen := by
      refine .within ?_ (Nat.le_refl _) ?_
      · rw [length]
        omega
      · rw [length]
        unfold Sdls.protectedOverhead at room
        omega
    simp only [Fallible.wp_bind, Fallible.wp_attempt, wp_embedSdls, protectFrame, Fallible.wp_read, Fallible.wp_pure,
      Except.mapError, ← dataLen]
    have spec := Sdls.applySecurity_spec .operationalTmTx slot (tmAuthHeader (layOut s vcid firstHeaderPointer data))
      (.within (tmPrimaryHdrLen + Sdls.securityHeaderLen) (s.dataLen vcid)) tmPrimaryHdrLen
      { ctx, out := layOut s vcid firstHeaderPointer data, outLen := 0 }
    apply Fallible.wp_iff_runs.mpr
    constructor
    -- only `[tmPrimaryHdrLen, ocfOffset)` is overwritten, so the header and the OCF stay as laid out
    · intro t _ st runs
      rw [Fallible.wp_ofExcept_ok]
      obtain ⟨key, protects⟩ := Fallible.ok_of_runs spec runs.unrestricted
      obtain ⟨span, spanLength, put⟩ := Fallible.ok_of_runs (applySecurity_writes _ pointer) runs.unrestricted
      have put : st.out = (layOut s vcid firstHeaderPointer data).overwrite tmPrimaryHdrLen span := put
      have spanLength : span.length = s.dataLen vcid + Sdls.protectedOverhead := by
        rw [spanLength, Sdls.DataPointer.read, Bytes.slice_length_of_le]
        show _ ≤ (layOut ..).length
        unfold Sdls.protectedOverhead at room
        omega
      have written := silent_psa t
      refine ⟨by simpa only [List.nil_append, List.append_nil] using written, ⟨?_, ?_, ?_, ?_⟩,
        securing_of_consumed attached (.inr ⟨key, protects.consumed⟩)⟩
      · rw [put, Bytes.overwrite_length (by omega)]
      · rw [put]
        exact Bytes.slice_overwrite_before (by omega) (by omega)
      · intro len
        rw [put]
        exact Bytes.slice_overwrite_behind len (by omega) (by omega)
      · intro ctx' slot' secured
        cases security.symm.trans secured
        refine ⟨st.ctx, ⟨t, st, runs.unrestricted, rfl, rfl, ?_⟩, rfl⟩
        simpa only [List.nil_append, List.append_nil] using psaOf_psa t
    -- a failed attempt may have taken an IV, and no more
    · intro t e st runs
      rw [Fallible.wp_ofExcept_error]
      have written := silent_psa t
      refine ⟨by simpa only [List.nil_append, List.append_nil] using written, securing_of_consumed attached ?_⟩
      rcases Fallible.error_of_runs spec runs.unrestricted with early | ⟨key, protects, _⟩
      · rw [early.2]
        exact .inl rfl
      · exact .inr ⟨key, protects.consumed⟩

theorem layOut_ocf (fits : data.length ≤ s.dataLen vcid) :
    (layOut s vcid firstHeaderPointer data).slice (s.ocfOffset vcid) tmOcfLen = List.replicate tmOcfLen 0 := by
  have inside := s.dataLen_fits vcid
  have all := s.ocfOffset_add vcid
  have cleared := clearedFrame_length
  have buffer := @layOut_buffer _ _ s vcid data fits
  have header := buildPrimaryHeader_length s vcid firstHeaderPointer
  rw [layOut, Bytes.slice_overwrite_behind _ (by omega) (by omega), Bytes.slice_overwrite_behind _ (by omega) (by omega),
    clearedFrame, Bytes.slice, List.drop_replicate, List.take_replicate]
  congr 1
  omega

omit [Sdls.Kconfig] in
theorem appendFecf_length {frame : Bytes} (length : frame.length = tmFrameLen) (room : tmFecfLen ≤ tmFrameLen) :
    (appendFecf frame).length = tmFrameLen := by
  unfold appendFecf
  split
  · rename_i enabled
    have two : tmFecfLen = 2 := by simp [tmFecfLen, fecfLenOf, enabled, crc16Len]
    rw [Bytes.overwrite_length (by rw [Bytes.putBe_length]; omega), length]
  · exact length

omit [Sdls.Kconfig] in
/-- The FECF leaves alone what lies in front of it. -/
theorem appendFecf_slice {frame : Bytes} (length : frame.length = tmFrameLen) {offset len : Nat}
    (before : offset + len + tmFecfLen ≤ tmFrameLen) : (appendFecf frame).slice offset len = frame.slice offset len := by
  unfold appendFecf
  split
  · exact Bytes.slice_overwrite_before (by omega) (by omega)
  · rfl

/-- The calls in front of those that matter do not change the OCF. -/
theorem Silent.ocfField {front back : List Item} (silent : Silent front) :
    s.ocfField (front ++ back) = s.ocfField back := by
  unfold State.ocfField clcwField
  rw [List.filterMap_append, silent.1, List.nil_append]

/-- What `append_ocf` does to a frame, with zeros in the place of the OCF -/
theorem appendOcf_fills {frame : Bytes} {offset : Nat} (room : offset + tmOcfLen ≤ frame.length)
    (clear : frame.slice offset tmOcfLen = List.replicate tmOcfLen 0) :
    (appendOcf offset frame).wp (kernel psa)
      (fun t frame' s' => s' = s ∧ t.filterMap routeOf = [] ∧ t.filterMap psaOf = [] ∧
        frame'.length = frame.length ∧
        (∀ start len, start + len ≤ offset → frame'.slice start len = frame.slice start len) ∧
        frame'.slice offset tmOcfLen = s.ocfField t ∧
        (s.fsrDue = none → s.clcwProvider = true → ∃ answer, (⟨.clcw, answer⟩ : Item) ∈ t))
      (fun _ _ _ => False) s := by
  have put : ∀ ocf : Bytes, ocf.length = tmOcfLen → (frame.overwrite offset ocf).length = frame.length ∧
      (∀ start len, start + len ≤ offset → (frame.overwrite offset ocf).slice start len = frame.slice start len) ∧
      (frame.overwrite offset ocf).slice offset tmOcfLen = ocf := by
    intro ocf whole
    refine ⟨Bytes.overwrite_length (by omega), fun start len before => ?_, ?_⟩
    · exact Bytes.slice_overwrite_before (by omega) before
    · rw [← whole]
      exact Bytes.slice_overwrite (by omega)
  simp only [appendOcf, Fallible.wp_bind, Fallible.wp_read, State.ocfField, clcwField]
  cases due : s.fsrDue with
  | some fsr =>
    obtain ⟨length, front, field⟩ := put fsr.encode (by simp [Sdls.Fsr.encode, tmOcfLen])
    -- an FSR that is due takes the place of the CLCW, and the provider is not asked
    exact ⟨rfl, rfl, rfl, length, front, field, fun never => by cases never⟩
  | none =>
    by_cases provided : s.clcwProvider
    · simp only [provided, if_true, Fallible.wp_bind]
      rw [wp_clcw]
      intro answer
      rw [Fallible.wp_ite]
      have asked : ∃ answer', (⟨.clcw, answer'⟩ : Item) ∈ [(⟨.clcw, answer⟩ : Item)] := ⟨answer, List.mem_singleton.mpr rfl⟩
      constructor
      -- a provider that fails leaves the zeros of the layout in the OCF
      · intro refused
        refine ⟨rfl, rfl, rfl, rfl, fun _ _ _ => rfl, ?_, fun _ _ => asked⟩
        rw [clear]
        simp [clcwOf, refused]
      · intro answered
        obtain ⟨length, front, field⟩ := put (Bytes.putBe 4 answer.2.toNat) (Bytes.putBe_length _ _)
        refine ⟨rfl, rfl, rfl, length, front, ?_, fun _ _ => asked⟩
        rw [field]
        simp [clcwOf, not_not.mp answered, tmOcfLen]
    · have absent : s.clcwProvider = false := by simpa using provided
      simp only [absent, Bool.false_eq_true, if_false]
      exact ⟨rfl, rfl, rfl, rfl, fun _ _ _ => rfl, clear, fun _ never => by cases never⟩

/-- What both builders end with: a frame that succeeds carries what it should, under the header laid out, and ticks
the meter of its channel; one that fails has routed nothing and moved no counter. -/
theorem finishFrame_header (fits : data.length ≤ s.dataLen vcid) :
    (finishFrame vcid (layOut s vcid firstHeaderPointer data)).wp (kernel psa)
      (fun t frame s' => (Carries s vcid t frame s' ∧ t.filterMap routeOf = [] ∧ s'.meter = s.meter.tick vcid ∧
        s.SameSettings s') ∧ frame.slice 0 tmPrimaryHdrLen = buildPrimaryHeader s vcid firstHeaderPointer)
      (fun t _ s' => t.filterMap routeOf = [] ∧ s'.meter = s.meter ∧ s.SameSettings s') s := by
  have all := s.ocfOffset_add vcid
  have header := @layOut_header _ _ s vcid firstHeaderPointer data
  have ocfClear := @layOut_ocf _ _ s vcid firstHeaderPointer data fits
  have laid := @layOut_length _ _ s vcid firstHeaderPointer data fits
  have offset : tmPrimaryHdrLen ≤ s.ocfOffset vcid := by
    have inside := s.dataLen_fits vcid
    omega
  simp only [finishFrame, Fallible.wp_bind, Fallible.wp_read]
  apply Fallible.wp_mono (applySecurity_secures fits)
  · intro t out s₁ secured
    obtain ⟨silent, secures, securing⟩ := secured
    have length : out.length = tmFrameLen := secures.length.trans laid
    have zeros : out.slice (s.ocfOffset vcid) tmOcfLen = List.replicate tmOcfLen 0 :=
      (secures.trailer tmOcfLen).trans ocfClear
    apply Fallible.wp_mono (appendOcf_fills (by omega) zeros)
    · intro u frame s₂ filled
      obtain ⟨rfl, unrouted, unsecured, same, front, field, asked⟩ := filled
      have whole : frame.length = tmFrameLen := same.trans length
      -- security, the OCF and the FECF each write behind the Primary Header
      have start : (appendFecf frame).slice 0 tmPrimaryHdrLen = buildPrimaryHeader s vcid firstHeaderPointer := by
        rw [appendFecf_slice whole (by omega), front 0 _ (by omega), secures.header, header]
      simp only [Fallible.wp_modify, Fallible.wp_pure, List.nil_append, List.append_nil]
      refine ⟨⟨⟨appendFecf_length whole (by omega), frameVcid_of_header start, ?_, ?_, ?_, ?_, ?_⟩, ?_, ?_, ?_⟩, start⟩
      · have inner := Bytes.slice_drop (appendFecf frame) 0 tmPrimaryHdrLen 2 2 (by decide)
        rw [start] at inner
        rw [Nat.zero_add] at inner
        rw [← inner]
        rfl
      · intro ctx slot secured
        obtain ⟨ctx', ⟨v, st, runs, left, kept, called⟩, present⟩ := secures.applied ctx slot secured
        refine ⟨firstHeaderPointer, data, out, ctx', ⟨v, st, runs, left, kept, ?_⟩, ?_, ?_⟩
        · rw [List.filterMap_append, called, unsecured, List.append_nil]
        · rw [appendFecf_slice whole (by omega), front 0 _ (by omega)]
        · show s₂.sdls.map _ = (some ctx').map _
          rw [present]
          rfl
      -- securing does not touch the phase of the FSR, so the OCF is that of the state before
      · rw [appendFecf_slice whole (by omega), field, silent.ocfField]
        unfold State.ocfField
        rw [securing.fsrDue]
      · intro due provided
        obtain ⟨answer, called⟩ := asked (securing.fsrDue.trans due) (securing.clcwProvider.trans provided)
        exact ⟨answer, List.mem_append_right _ called⟩
      · intro enabled
        exact appendFecf_verifies enabled whole (by omega)
      · rw [List.filterMap_append, silent.2, unrouted, List.append_nil]
      · rw [State.completed_meter, securing.meter]
      · exact securing.settings.trans (State.completed_sameSettings _ vcid)
    · intro u e s₂ never
      exact never.elim
  · intro t e s₁ failed
    obtain ⟨silent, securing⟩ := failed
    exact ⟨silent.2, securing.meter, securing.settings⟩

theorem finishFrame_carries (fits : data.length ≤ s.dataLen vcid) :
    (finishFrame vcid (layOut s vcid firstHeaderPointer data)).wp (kernel psa)
      (fun t frame s' => Carries s vcid t frame s' ∧ t.filterMap routeOf = [] ∧ s'.meter = s.meter.tick vcid ∧
        s.SameSettings s')
      (fun t _ s' => t.filterMap routeOf = [] ∧ s'.meter = s.meter ∧ s.SameSettings s') s :=
  Fallible.wp_mono (finishFrame_header fits) (fun _ _ _ finished => finished.1) fun _ _ _ failed => failed

end ZephyrCcsds.Tm
