import ZephyrCcsds.Sdls.RoundTrip
import ZephyrCcsds.Tm.Kernel

/-! # What an emitted frame shows

The fields of a transfer frame as a receiver reads them, and that both builders put the data field
and the First Header Pointer there, on clear and on protected channels.

* `Protection.clearField` — the data field of a frame once its protection has been removed.
* `State.SameQueues`, `State.SameProtection` — what finishing a frame leaves alone.
* `finishFrame_emits` — a finished frame shows the header and the data that were laid out.
-/

namespace ZephyrCcsds.Tm

open Callback Tc

variable [Kconfig] [Sdls.Kconfig] {K : Type}

/-! ## Fields -/

/-- The Virtual Channel ID of a frame -/
def frameVcid (frame : Bytes) : Nat := Bytes.getBe (frame.slice 0 2) / 2 % 8

/-- The First Header Pointer of a frame -/
def frameFirstHeaderPointer (frame : Bytes) : Nat := Bytes.getBe (frame.slice 4 2) % 2048

/-- What a receiver knows about a channel: whether it is protected, with which key and in which mode -/
inductive Protection (K : Type) where
  | clear
  | secured (key : K) (gcm : Bool)

/-- The data field of a frame, if its protection can be removed -/
def Protection.clearField (scheme : Sdls.Aead K) (dataLen : Nat) (frame : Bytes) : Protection K → Option Bytes
  | clear => some (frame.slice tmPrimaryHdrLen dataLen)
  | secured key gcm =>
    let span := frame.slice tmPrimaryHdrLen (dataLen + Sdls.protectedOverhead)
    let data := Sdls.dataField span
    let aad := Sdls.buildAuthData (tmAuthHeader frame) (Sdls.spiField span) (if gcm then [] else data)
    if gcm then scheme.decrypt key (Sdls.ivField span) aad (data ++ Sdls.tagField span)
    else (scheme.decrypt key (Sdls.ivField span) aad (Sdls.tagField span)).map fun _ => data

/-- The key that an SA refers to -/
def saKey (ctx : Sdls.Ctx) (slot : Sdls.SaSlot) : Sdls.PsaKeyId :=
  if bound : (ctx.sas slot).keySlot < Sdls.maxKeys then (ctx.keys ⟨(ctx.sas slot).keySlot, bound⟩).psaKeyId
  else Sdls.psaKeyIdNull

/-- The protection of a channel, with the keys that PSA stores -/
def State.protection (stored : Sdls.PsaKeyId → K) (s : State) (vcid : VcId) : Protection K :=
  match s.security vcid with
  | none => .clear
  | some (ctx, slot) => .secured (stored (saKey ctx slot)) (decide (ctx.saModes slot = .gcm))

/-! ## What a cycle leaves alone -/

/-- The queue of a channel and the packet that is open -/
structure SameQueue (vc vc' : Vc) : Prop where
  pending : vc'.pending = vc.pending
  pendingLen : vc'.pendingLen = vc.pendingLen
  packetRem : vc'.packetRem = vc.packetRem

def State.SameQueues (s s' : State) : Prop := ∀ vcid, SameQueue (s.vcs vcid) (s'.vcs vcid)

/-- The keys, modes and SAs of a context -/
structure SameKeys (ctx ctx' : Sdls.Ctx) : Prop where
  sas : ctx'.sas = ctx.sas
  saModes : ctx'.saModes = ctx.saModes
  psaKeyId : ∀ key, (ctx'.keys key).psaKeyId = (ctx.keys key).psaKeyId

structure State.SameProtection (s s' : State) : Prop where
  sdlsSpi : ∀ vcid, (s'.vcs vcid).sdlsSpi = (s.vcs vcid).sdlsSpi
  sdls : Option.Rel SameKeys s.sdls s'.sdls

theorem SameQueue.refl (vc : Vc) : SameQueue vc vc := ⟨rfl, rfl, rfl⟩

theorem SameQueue.trans {vc vc' vc'' : Vc} (first : SameQueue vc vc') (second : SameQueue vc' vc'') :
    SameQueue vc vc'' :=
  ⟨second.pending.trans first.pending, second.pendingLen.trans first.pendingLen,
    second.packetRem.trans first.packetRem⟩

omit [Kconfig] in
theorem SameKeys.refl (ctx : Sdls.Ctx) : SameKeys ctx ctx := ⟨rfl, rfl, fun _ => rfl⟩

omit [Kconfig] in
theorem SameKeys.trans {ctx ctx' ctx'' : Sdls.Ctx} (first : SameKeys ctx ctx') (second : SameKeys ctx' ctx'') :
    SameKeys ctx ctx'' :=
  ⟨second.sas.trans first.sas, second.saModes.trans first.saModes,
    fun key => (second.psaKeyId key).trans (first.psaKeyId key)⟩

omit [Kconfig] in
theorem SameKeys.saKey {ctx ctx' : Sdls.Ctx} (same : SameKeys ctx ctx') (slot : Sdls.SaSlot) :
    saKey ctx' slot = saKey ctx slot := by
  simp only [Tm.saKey, same.sas, same.psaKeyId]

omit [Kconfig] in
theorem SameKeys.consumeIv (ctx : Sdls.Ctx) (key : Sdls.KeySlot) : SameKeys ctx (ctx.consumeIv key) := by
  refine ⟨rfl, rfl, fun i => ?_⟩
  by_cases same : i = key
  · rw [same, Sdls.Ctx.consumeIv_same]
  · rw [Sdls.Ctx.consumeIv_other ctx same]

omit [Kconfig] in
theorem sameKeys_option_refl (ctx : Option Sdls.Ctx) : Option.Rel SameKeys ctx ctx := by
  cases ctx with
  | none => exact .none
  | some ctx => exact .some (.refl ctx)

theorem State.SameProtection.refl (s : State) : s.SameProtection s := ⟨fun _ => rfl, sameKeys_option_refl _⟩

theorem State.SameProtection.trans {s s' s'' : State} (first : s.SameProtection s') (second : s'.SameProtection s'') :
    s.SameProtection s'' := by
  refine ⟨fun vcid => (second.sdlsSpi vcid).trans (first.sdlsSpi vcid), ?_⟩
  have front := first.sdls
  have back := second.sdls
  revert front back
  generalize s.sdls = ctx
  generalize s'.sdls = ctx'
  generalize s''.sdls = ctx''
  intro front back
  cases front with
  | none =>
    cases back with
    | none => exact .none
  | some front =>
    cases back with
    | some back => exact .some (front.trans back)

theorem State.SameProtection.security {s s' : State} (same : s.SameProtection s') (vcid : VcId) :
    (s.security vcid = none ∧ s'.security vcid = none) ∨
      ∃ ctx ctx' slot, s.security vcid = some (ctx, slot) ∧ s'.security vcid = some (ctx', slot) ∧ SameKeys ctx ctx' := by
  have spi := same.sdlsSpi vcid
  have keys := same.sdls
  unfold State.security
  rw [spi]
  revert keys
  generalize s.sdls = ctx
  generalize s'.sdls = ctx'
  intro keys
  cases keys with
  | none => exact .inl ⟨rfl, rfl⟩
  | @some ctx ctx' keys =>
    cases (s.vcs vcid).sdlsSpi with
    | none => exact .inl ⟨rfl, rfl⟩
    | some slot =>
      by_cases enabled : Kconfig.sdls = true
      · simp only [enabled, if_true]
        exact .inr ⟨ctx, ctx', slot, rfl, rfl, keys⟩
      · simp only [enabled]
        exact .inl ⟨rfl, rfl⟩

theorem State.SameProtection.securityEnabled {s s' : State} (same : s.SameProtection s') (vcid : VcId) :
    s'.securityEnabled vcid = s.securityEnabled vcid := by
  unfold State.securityEnabled
  obtain ⟨before, after⟩ | ⟨ctx, ctx', slot, before, after, _⟩ := same.security vcid
  · rw [before, after]
  · rw [before, after]
    rfl

theorem State.SameProtection.dataLen {s s' : State} (same : s.SameProtection s') (vcid : VcId) :
    s'.dataLen vcid = s.dataLen vcid := by
  simp only [State.dataLen, State.securityOverhead, same.securityEnabled vcid]

theorem State.SameProtection.protection {s s' : State} (same : s.SameProtection s') (stored : Sdls.PsaKeyId → K)
    (vcid : VcId) : s'.protection stored vcid = s.protection stored vcid := by
  unfold State.protection
  obtain ⟨before, after⟩ | ⟨ctx, ctx', slot, before, after, keys⟩ := same.security vcid
  · rw [before, after]
  · rw [before, after]
    simp only [keys.saKey, keys.saModes]

/-! ## The layout -/

omit [Sdls.Kconfig] in
theorem tmFrameLen_clear : tmPrimaryHdrLen + tmOcfLen + tmFecfLen < tmFrameLen := Kconfig.overhead_lt

omit [Sdls.Kconfig] in
theorem tmFrameLen_secured (enabled : Kconfig.sdls = true) :
    tmPrimaryHdrLen + Sdls.protectedOverhead + tmOcfLen + tmFecfLen < tmFrameLen :=
  Kconfig.securedOverhead_lt enabled

theorem State.security_enabled {s : State} {vcid : VcId} {ctx : Sdls.Ctx} {slot : Sdls.SaSlot}
    (secured : s.security vcid = some (ctx, slot)) : Kconfig.sdls = true ∧ s.sdls = some ctx := by
  unfold State.security at secured
  split at secured
  · split_ifs at secured with enabled
    cases secured
    rename_i attached _
    exact ⟨enabled, attached⟩
  · cases secured

/-- The parts of a frame fill it exactly. -/
theorem State.ocfOffset_add (s : State) (vcid : VcId) : s.ocfOffset vcid + tmOcfLen + tmFecfLen = tmFrameLen := by
  have clear := tmFrameLen_clear
  unfold State.ocfOffset State.dataLen State.securityOverhead
  cases secured : s.security vcid with
  | none =>
    simp only [State.securityEnabled, secured, Option.isSome_none, Bool.false_eq_true, if_false]
    omega
  | some pair =>
    obtain ⟨ctx, slot⟩ := pair
    have long := tmFrameLen_secured (State.security_enabled secured).1
    simp only [State.securityEnabled, secured, Option.isSome_some, if_true]
    omega

omit [Sdls.Kconfig] in
theorem clearedFrame_length : clearedFrame.length = tmFrameLen := List.length_replicate

theorem buildPrimaryHeader_length (s : State) (vcid : VcId) (firstHeaderPointer : Nat) :
    (buildPrimaryHeader s vcid firstHeaderPointer).length = tmPrimaryHdrLen := by
  simp [buildPrimaryHeader, tmPrimaryHdrLen]

/-- The data of a frame lies between the headers and the trailers. -/
theorem State.dataLen_fits (s : State) (vcid : VcId) :
    tmPrimaryHdrLen + s.securityHeaderLen vcid + s.dataLen vcid ≤ s.ocfOffset vcid := by
  have short : s.securityHeaderLen vcid ≤ s.securityOverhead vcid := by
    unfold State.securityHeaderLen State.securityOverhead
    split
    · decide
    · exact Nat.le_refl _
  unfold State.ocfOffset
  omega

section LayOut

variable {s : State} {vcid : VcId} {firstHeaderPointer : Nat} {data : Bytes}

theorem layOut_buffer (fits : data.length ≤ s.dataLen vcid) :
    (clearedFrame.overwrite (tmPrimaryHdrLen + s.securityHeaderLen vcid) data).length = tmFrameLen := by
  have inside := s.dataLen_fits vcid
  have all := s.ocfOffset_add vcid
  rw [Bytes.overwrite_length (by rw [clearedFrame_length]; omega), clearedFrame_length]

theorem layOut_length (fits : data.length ≤ s.dataLen vcid) :
    (layOut s vcid firstHeaderPointer data).length = tmFrameLen := by
  have buffer := @layOut_buffer _ _ s vcid data fits
  have long := tmFrameLen_clear
  rw [layOut, Bytes.overwrite_length, buffer]
  rw [buildPrimaryHeader_length, buffer]
  omega

theorem layOut_header :
    (layOut s vcid firstHeaderPointer data).slice 0 tmPrimaryHdrLen = buildPrimaryHeader s vcid firstHeaderPointer := by
  rw [layOut, ← buildPrimaryHeader_length s vcid firstHeaderPointer]
  exact Bytes.slice_overwrite (Nat.zero_le _)

theorem layOut_data (whole : data.length = s.dataLen vcid) :
    (layOut s vcid firstHeaderPointer data).slice (tmPrimaryHdrLen + s.securityHeaderLen vcid) (s.dataLen vcid) =
      data := by
  have inside := s.dataLen_fits vcid
  have all := s.ocfOffset_add vcid
  rw [layOut, Bytes.slice_overwrite_behind _ (Nat.zero_le _) (by rw [buildPrimaryHeader_length]; omega), ← whole]
  apply Bytes.slice_overwrite
  rw [clearedFrame_length]
  omega

end LayOut

/-! ## The fields of a header -/

theorem frameVcid_of_header {frame : Bytes} {s : State} {vcid : VcId} {firstHeaderPointer : Nat}
    (header : frame.slice 0 tmPrimaryHdrLen = buildPrimaryHeader s vcid firstHeaderPointer) :
    frameVcid frame = vcid.val := by
  have word : frame.slice 0 2 = (frame.slice 0 tmPrimaryHdrLen).slice 0 2 :=
    (Bytes.slice_drop frame 0 tmPrimaryHdrLen 0 2 (by decide)).symm
  have bound : vcid.val < 8 := vcid.isLt
  rw [frameVcid, word, header, buildPrimaryHeader, List.append_assoc]
  have first : (Bytes.putBe 2 (spacecraftId % 1024 * 16 + vcid.val * 2 + 1) ++
      ([s.mcfc, (s.vcs vcid).vcfc] ++ Bytes.putBe 2 (tmSegmentLengthId * 2048 + firstHeaderPointer % 2048))).slice 0 2 =
        Bytes.putBe 2 (spacecraftId % 1024 * 16 + vcid.val * 2 + 1) := Bytes.slice_append_left _ _
  rw [first, Bytes.getBe_putBe_of_lt (by omega)]
  omega

theorem frameFirstHeaderPointer_of_header {frame : Bytes} {s : State} {vcid : VcId} {firstHeaderPointer : Nat}
    (header : frame.slice 0 tmPrimaryHdrLen = buildPrimaryHeader s vcid firstHeaderPointer) :
    frameFirstHeaderPointer frame = firstHeaderPointer % 2048 := by
  have word : frame.slice 4 2 = (frame.slice 0 tmPrimaryHdrLen).slice 4 2 :=
    (Bytes.slice_drop frame 0 tmPrimaryHdrLen 4 2 (by decide)).symm
  rw [frameFirstHeaderPointer, word, header, buildPrimaryHeader, Bytes.slice_append_right _ (by simp)]
  have last : ∀ value, (Bytes.putBe 2 value).slice 0 2 = Bytes.putBe 2 value := fun _ => List.take_of_length_le (by simp)
  simp only [List.length_append, Bytes.putBe_length, List.length_cons, List.length_nil, Nat.reduceAdd, Nat.sub_self, last]
  rw [Bytes.getBe_putBe_of_lt (by unfold tmSegmentLengthId; omega)]
  unfold tmSegmentLengthId
  omega

/-! ## Security -/

/-- What a frame shows to a receiver that knows the protection of its channel -/
structure Shows (scheme : Sdls.Aead K) (stored : Sdls.PsaKeyId → K) (s : State) (vcid : VcId)
    (firstHeaderPointer : Nat) (data frame : Bytes) : Prop where
  length : frame.length = tmFrameLen
  header : frame.slice 0 tmPrimaryHdrLen = buildPrimaryHeader s vcid firstHeaderPointer
  field : (s.protection stored vcid).clearField scheme (s.dataLen vcid) frame = some data

omit [Kconfig] [Sdls.Kconfig] in
theorem tmAuthHeader_data {frame : Bytes} (long : tmPrimaryHdrLen ≤ frame.length) :
    (tmAuthHeader frame).data = frame.slice 0 tmPrimaryHdrLen := by
  apply List.ext_getElem
  · rw [Bytes.slice_length_of_le (by omega)]
    exact List.length_ofFn
  · intro i inside outside
    have bound : i < tmPrimaryHdrLen := by
      rw [Bytes.slice_length_of_le (by omega)] at outside
      exact outside
    simp only [tmAuthHeader, List.getElem_ofFn, Bytes.slice, List.getElem_take, List.getElem_drop, Nat.zero_add]
    rw [List.getD_eq_getElem?_getD, List.getElem?_eq_getElem (by omega), Option.getD_some]

omit [Kconfig] [Sdls.Kconfig] in
theorem tmAuthHeader_congr {frame frame' : Bytes} (long : tmPrimaryHdrLen ≤ frame.length)
    (long' : tmPrimaryHdrLen ≤ frame'.length)
    (same : frame.slice 0 tmPrimaryHdrLen = frame'.slice 0 tmPrimaryHdrLen) :
    tmAuthHeader frame = tmAuthHeader frame' := by
  have data : (tmAuthHeader frame).data = (tmAuthHeader frame').data := by
    rw [tmAuthHeader_data long, tmAuthHeader_data long', same]
  unfold tmAuthHeader at data ⊢
  simp only [Sdls.AuthHeader.mk.injEq, and_true]
  exact data

omit [Kconfig] [Sdls.Kconfig] in
/-- The header and the span that a receiver reads tell the clear field. -/
theorem Protection.clearField_congr {scheme : Sdls.Aead K} {protection : Protection K} {dataLen : Nat}
    {frame frame' : Bytes} (long : tmPrimaryHdrLen ≤ frame.length) (long' : tmPrimaryHdrLen ≤ frame'.length)
    (header : frame.slice 0 tmPrimaryHdrLen = frame'.slice 0 tmPrimaryHdrLen)
    (span : ∀ len, len = dataLen ∨ protection ≠ .clear ∧ len = dataLen + Sdls.protectedOverhead →
      frame.slice tmPrimaryHdrLen len = frame'.slice tmPrimaryHdrLen len) :
    protection.clearField scheme dataLen frame = protection.clearField scheme dataLen frame' := by
  cases protection with
  | clear => simp only [Protection.clearField, span dataLen (.inl rfl)]
  | secured key gcm =>
    have same := span (dataLen + Sdls.protectedOverhead) (.inr ⟨(fun clear => by cases clear), rfl⟩)
    simp only [Protection.clearField, same, tmAuthHeader_congr long long' header]

/-- What is written behind the data and the Security Trailer shows nothing else. -/
theorem Shows.overwrite {scheme : Sdls.Aead K} {stored : Sdls.PsaKeyId → K} {s : State} {vcid : VcId}
    {firstHeaderPointer : Nat} {data frame : Bytes} (shows : Shows scheme stored s vcid firstHeaderPointer data frame)
    {offset : Nat} {bytes : Bytes} (behind : s.ocfOffset vcid ≤ offset) (fits : offset + bytes.length ≤ tmFrameLen) :
    Shows scheme stored s vcid firstHeaderPointer data (frame.overwrite offset bytes) := by
  have length := shows.length
  have all := s.ocfOffset_add vcid
  have reach : tmPrimaryHdrLen + s.securityOverhead vcid + s.dataLen vcid ≤ offset := behind
  have length' : (frame.overwrite offset bytes).length = tmFrameLen := by
    rw [Bytes.overwrite_length (by omega), length]
  have front : (frame.overwrite offset bytes).slice 0 tmPrimaryHdrLen = frame.slice 0 tmPrimaryHdrLen :=
    Bytes.slice_overwrite_before (by omega) (by omega)
  have long := tmFrameLen_clear
  refine ⟨length', front.trans shows.header, ?_⟩
  rw [← shows.field]
  refine Protection.clearField_congr (by omega) (by omega) front fun len read => ?_
  apply Bytes.slice_overwrite_before (by omega)
  rcases read with plain | ⟨secured, protectedSpan⟩
  · omega
  · -- The trailer of a protected channel lies in front of the OCF as well.
    have overhead : s.securityOverhead vcid = Sdls.protectedOverhead := by
      unfold State.protection at secured
      unfold State.securityOverhead State.securityEnabled
      cases security : s.security vcid with
      | none => simp [security] at secured
      | some pair => rfl
    omega

/-! ## Protected spans -/

omit [Kconfig] [Sdls.Kconfig] in
/-- A receiver with the key opens what `ccsds_sdls_apply_security` puts out under a scheme. -/
theorem clearField_protectedSpan {scheme : Sdls.Aead K} {key : K} {gcm : Bool} {header : Sdls.SecurityHeader}
    {data frame : Bytes} (framed : header.iv.length = Sdls.ivLen) (spi : header.spi < 65536)
    (span : frame.slice tmPrimaryHdrLen (data.length + Sdls.protectedOverhead) =
      Sdls.protectedSpan scheme key gcm (tmAuthHeader frame) header data) :
    (Protection.secured key gcm).clearField scheme data.length frame = some data := by
  have dataPart := @Sdls.dataField_protectedSpan _ scheme key gcm (tmAuthHeader frame) header data framed
  have tagPart := @Sdls.tagField_protectedSpan _ scheme key gcm (tmAuthHeader frame) header data framed
  have front : ∀ len, 2 ≤ len → (Sdls.protectedSpan scheme key gcm (tmAuthHeader frame) header data).slice 0 2 =
      Bytes.putBe 2 header.spi := by
    intro _ _
    rw [Sdls.protectedSpan, Sdls.securityHeaderEncode, List.append_assoc]
    exact Bytes.slice_append_left _ _
  have spiPart : Sdls.spiField (Sdls.protectedSpan scheme key gcm (tmAuthHeader frame) header data) = header.spi := by
    rw [Sdls.spiField, front 2 (by omega), Bytes.getBe_putBe_of_lt (by omega)]
  have ivPart : Sdls.ivField (Sdls.protectedSpan scheme key gcm (tmAuthHeader frame) header data) = header.iv := by
    rw [Sdls.ivField, Sdls.protectedSpan, Sdls.securityHeaderEncode, List.append_assoc,
      Bytes.slice_append_right _ (by simp), Bytes.putBe_length, Nat.sub_self, ← framed]
    exact Bytes.slice_append_left _ _
  simp only [Protection.clearField, span, dataPart, tagPart, spiPart, ivPart]
  cases gcm with
  | true => simp only [Sdls.protectedParts, if_true, List.take_append_drop, scheme.decrypt_encrypt]
  | false => simp [Sdls.protectedParts, scheme.decrypt_encrypt]

omit [Kconfig] in
/-- Both specifications of a transmission together -/
theorem applySecurity_outcome (scheme : Sdls.Aead K) (stored : Sdls.PsaKeyId → K) {role : Sdls.SaRole}
    {slot : Sdls.SaSlot} (auth : Sdls.AuthHeader) {data : Sdls.DataPointer} {outOffset : Nat} {st : Sdls.State}
    (fits : data.Fits st.out outOffset) :
    (Sdls.applySecurity role slot auth data outOffset).wp (scheme.psa stored)
      (fun _ _ st' => ∃ key, st.ctx.operationalKey slot role true = .ok key ∧ SameKeys st.ctx st'.ctx ∧
        st'.out = st.out.overwrite outOffset (Sdls.protectedSpan scheme (stored (st.ctx.keys key).psaKeyId)
          (decide (st.ctx.saModes slot = .gcm)) auth { spi := slot.spi, iv := st.ctx.nextIv key } (data.read st.out)))
      (fun _ _ st' => SameKeys st.ctx st'.ctx) st := by
  have spec := Sdls.applySecurity_spec role slot auth data outOffset st
  apply Fallible.wp_iff_runs.mpr
  constructor
  · intro t _ st' runs
    obtain ⟨key, transmits⟩ := Fallible.ok_of_runs spec runs.unrestricted
    have put := Fallible.ok_of_runs (Sdls.applySecurity_protects scheme stored auth transmits.operational fits) runs
    refine ⟨key, transmits.operational, ?_, put⟩
    rw [transmits.consumed]
    exact .consumeIv st.ctx key
  · intro t e st' runs
    rcases Fallible.error_of_runs spec runs.unrestricted with early | ⟨key, transmits, _⟩
    · rw [early.2]
      exact .refl _
    · rw [transmits.consumed]
      exact .consumeIv st.ctx key

/-! ## Finishing a frame -/

variable {scheme : Sdls.Aead K} {stored : Sdls.PsaKeyId → K} {s : State} {vcid : VcId} {firstHeaderPointer : Nat}
  {data : Bytes}

omit [Kconfig] in
theorem saKey_of_operational {ctx : Sdls.Ctx} {slot : Sdls.SaSlot} {role : Sdls.SaRole} {key : Sdls.KeySlot}
    (operational : ctx.operationalKey slot role true = .ok key) : saKey ctx slot = (ctx.keys key).psaKeyId := by
  have keySlot := (Sdls.Ctx.operationalKey_ok operational).keySlot
  have bound : (ctx.sas slot).keySlot < Sdls.maxKeys := by
    rw [keySlot]
    exact key.isLt
  have same : (⟨(ctx.sas slot).keySlot, bound⟩ : Sdls.KeySlot) = key := Fin.ext keySlot
  simp only [saKey, dif_pos bound, same]

/-- Security in place keeps what the frame shows. -/
theorem applySecurity_shows (whole : data.length = s.dataLen vcid) :
    (applySecurity vcid (layOut s vcid firstHeaderPointer data)).wp (kernel (scheme.Answers stored))
      (fun _ frame s' => Shows scheme stored s vcid firstHeaderPointer data frame ∧ s.SameProtection s' ∧
        s'.vcs = s.vcs)
      (fun _ _ s' => s.SameProtection s' ∧ s'.vcs = s.vcs) s := by
  have length := @layOut_length _ _ s vcid firstHeaderPointer data (le_of_eq whole)
  have header := @layOut_header _ _ s vcid firstHeaderPointer data
  have laid := @layOut_data _ _ s vcid firstHeaderPointer data whole
  simp only [applySecurity, Fallible.wp_bind, Fallible.wp_read]
  cases security : s.security vcid with
  | none =>
    refine ⟨⟨length, header, ?_⟩, .refl s, rfl⟩
    have protection : s.protection stored vcid = .clear := by simp only [State.protection, security]
    have near : s.securityHeaderLen vcid = 0 := by
      simp only [State.securityHeaderLen, State.securityEnabled, security, Option.isSome_none, Bool.false_eq_true, if_false]
    rw [near] at laid
    rw [protection, Protection.clearField]
    exact congrArg some laid
  | some pair =>
    obtain ⟨ctx, slot⟩ := pair
    obtain ⟨enabled, attached⟩ := State.security_enabled security
    have long := tmFrameLen_secured enabled
    have far : s.securityHeaderLen vcid = Sdls.securityHeaderLen := by
      simp only [State.securityHeaderLen, State.securityEnabled, security, Option.isSome_some, if_true]
    have dataLen : s.dataLen vcid = tmFrameLen - tmPrimaryHdrLen - Sdls.protectedOverhead - tmOcfLen - tmFecfLen := by
      simp only [State.dataLen, State.securityOverhead, State.securityEnabled, security, Option.isSome_some, if_true]
    have protection : s.protection stored vcid =
        .secured (stored (saKey ctx slot)) (decide (ctx.saModes slot = .gcm)) := by
      simp only [State.protection, security]
    rw [far] at laid
    have room : tmPrimaryHdrLen + (data.length + Sdls.protectedOverhead) ≤ tmFrameLen := by omega
    have fits : (Sdls.DataPointer.within (tmPrimaryHdrLen + Sdls.securityHeaderLen) (s.dataLen vcid)).Fits
        (layOut s vcid firstHeaderPointer data) tmPrimaryHdrLen := by
      refine .within ?_ (Nat.le_refl _) ?_
      · rw [length]
        omega
      · rw [length]
        unfold Sdls.protectedOverhead at room
        omega
    have outcome := @applySecurity_outcome _ _ scheme stored .operationalTmTx slot
      (tmAuthHeader (layOut s vcid firstHeaderPointer data)) _ _
      { ctx, out := layOut s vcid firstHeaderPointer data, outLen := 0 } fits
    have kept : ∀ st : Sdls.State, SameKeys ctx st.ctx → s.SameProtection (sdlsPart.store st s) := by
      intro st keys
      refine ⟨fun _ => rfl, ?_⟩
      rw [attached]
      exact .some keys
    simp only [Fallible.wp_bind, Fallible.wp_attempt, wp_embedSdls, protectFrame, Fallible.wp_read, Fallible.wp_pure,
      Except.mapError, ← dataLen]
    apply Fallible.wp_mono outcome
    · rintro t _ st ⟨key, operational, keys, put⟩
      rw [Fallible.wp_ofExcept_ok]
      refine ⟨?_, kept st keys, rfl⟩
      have read : (Sdls.DataPointer.within (tmPrimaryHdrLen + Sdls.securityHeaderLen) (s.dataLen vcid)).read
          (layOut s vcid firstHeaderPointer data) = data := laid
      have framed := Sdls.constructIv_length ctx.txIv (ctx.keys key).txArsn
      rw [read] at put
      have spanLength := @Sdls.protectedSpan_length _ scheme (stored (ctx.keys key).psaKeyId)
        (decide (ctx.saModes slot = .gcm)) (tmAuthHeader (layOut s vcid firstHeaderPointer data))
        { spi := slot.spi, iv := ctx.nextIv key } data framed
      have length' : st.out.length = tmFrameLen := by
        rw [put, Bytes.overwrite_length (by rw [spanLength]; show _ ≤ (layOut ..).length; omega)]
        exact length
      have front : st.out.slice 0 tmPrimaryHdrLen =
          (layOut s vcid firstHeaderPointer data).slice 0 tmPrimaryHdrLen := by
        rw [put]
        exact Bytes.slice_overwrite_before (by show _ ≤ (layOut ..).length; omega) (by omega)
      have auth := tmAuthHeader_congr (by omega) (by omega) front.symm
      have span : st.out.slice tmPrimaryHdrLen (data.length + Sdls.protectedOverhead) =
          Sdls.protectedSpan scheme (stored (ctx.keys key).psaKeyId) (decide (ctx.saModes slot = .gcm))
            (tmAuthHeader st.out) { spi := slot.spi, iv := ctx.nextIv key } data := by
        rw [← auth, put, ← spanLength]
        exact Bytes.slice_overwrite (by show _ ≤ (layOut ..).length; omega)
      have spi : slot.spi < 65536 := by
        have bound := slot.isLt
        have range := Sdls.Kconfig.maxSa_range
        unfold Sdls.SaSlot.spi
        have same : Sdls.maxSa = Sdls.Kconfig.maxSa := rfl
        omega
      refine ⟨length', front.trans header, ?_⟩
      rw [protection, saKey_of_operational operational, ← whole]
      exact clearField_protectedSpan framed spi span
    · intro t e st keys
      rw [Fallible.wp_ofExcept_error]
      exact ⟨kept st keys, rfl⟩

/-- The OCF is written behind the data, or left as zeros. -/
theorem appendOcf_writes {ocfOffset : Nat} {frame : Bytes} {psa : (op : Sdls.PsaOp) → Sdls.PsaRes op → Prop} :
    (appendOcf ocfOffset frame).wp (kernel psa)
      (fun _ frame' s' => s' = s ∧
        (frame' = frame ∨ ∃ ocf : Bytes, ocf.length = tmOcfLen ∧ frame' = frame.overwrite ocfOffset ocf))
      (fun _ _ _ => False) s := by
  simp only [appendOcf, Fallible.wp_bind, Fallible.wp_read]
  cases s.fsrDue with
  | some fsr => exact ⟨rfl, .inr ⟨fsr.encode, by simp [Sdls.Fsr.encode, tmOcfLen], rfl⟩⟩
  | none =>
    by_cases provided : s.clcwProvider
    · simp only [provided, if_true, Fallible.wp_bind]
      rw [wp_clcw]
      intro answer
      rw [Fallible.wp_ite]
      exact ⟨fun _ => ⟨rfl, .inl rfl⟩, fun _ => ⟨rfl, .inr ⟨_, Bytes.putBe_length _ _, rfl⟩⟩⟩
    · simp only [provided]
      exact ⟨rfl, .inl rfl⟩

theorem State.completeOcf_sameProtection (s : State) : s.SameProtection s.completeOcf := by
  refine ⟨fun _ => rfl, ?_⟩
  show Option.Rel SameKeys s.sdls (s.sdls.map _)
  cases s.sdls with
  | none => exact .none
  | some ctx =>
    refine .some ?_
    by_cases enabled : ctx.fsrEnabled
    · simp only [enabled, if_true]
      exact ⟨rfl, rfl, fun _ => rfl⟩
    · simp only [enabled]
      exact .refl ctx

theorem State.incrementFrameCounters_sameProtection (s : State) (vcid : VcId) :
    s.SameProtection (s.incrementFrameCounters vcid) := by
  refine ⟨fun other => ?_, sameKeys_option_refl _⟩
  by_cases same : other = vcid
  · subst same
    simp [State.incrementFrameCounters, State.updateVc]
  · simp [State.incrementFrameCounters, State.updateVc, same]

theorem State.incrementFrameCounters_sameQueues (s : State) (vcid : VcId) :
    s.SameQueues (s.incrementFrameCounters vcid) := by
  intro other
  by_cases same : other = vcid
  · subst same
    simp only [State.incrementFrameCounters, State.updateVc, Function.update_self]
    exact ⟨rfl, rfl, rfl⟩
  · simp only [State.incrementFrameCounters, State.updateVc, Function.update_of_ne same]
    exact .refl _

theorem Shows.appendFecf {frame : Bytes} (shows : Shows scheme stored s vcid firstHeaderPointer data frame) :
    Shows scheme stored s vcid firstHeaderPointer data (appendFecf frame) := by
  have all := s.ocfOffset_add vcid
  by_cases fecf : tmFecf
  · simp only [Tm.appendFecf, fecf, if_true]
    have two : tmFecfLen = 2 := by
      show (if tmFecf = true then _ else _) = _
      rw [if_pos fecf]
      rfl
    apply shows.overwrite
    · omega
    · rw [Bytes.putBe_length]
      omega
  · simp only [Tm.appendFecf, fecf]
    exact shows

/-- A finished frame shows what was laid out. -/
theorem finishFrame_emits (whole : data.length = s.dataLen vcid) :
    (finishFrame vcid (layOut s vcid firstHeaderPointer data)).wp (kernel (scheme.Answers stored))
      (fun _ frame s' => Shows scheme stored s vcid firstHeaderPointer data frame ∧ s.SameProtection s' ∧
        s.SameQueues s')
      (fun _ _ s' => s.SameProtection s' ∧ s.SameQueues s') s := by
  have all := s.ocfOffset_add vcid
  simp only [finishFrame, Fallible.wp_bind, Fallible.wp_read]
  apply Fallible.wp_mono (applySecurity_shows whole)
  · rintro t frame s₁ ⟨shows, protection, queues⟩
    apply Fallible.wp_mono appendOcf_writes
    · rintro u frame' s₂ ⟨rfl, ocf⟩
      have shows' : Shows scheme stored s vcid firstHeaderPointer data frame' := by
        rcases ocf with same | ⟨ocf, length, written⟩
        · rw [same]
          exact shows
        · rw [written]
          apply shows.overwrite (Nat.le_refl _)
          omega
      refine ⟨shows'.appendFecf, ?_, ?_⟩
      · exact (protection.trans s₂.completeOcf_sameProtection).trans
          (s₂.completeOcf.incrementFrameCounters_sameProtection vcid)
      · intro other
        have counted := s₂.completeOcf.incrementFrameCounters_sameQueues vcid other
        have same : s₂.completeOcf.vcs other = s.vcs other := congrFun queues other
        rw [same] at counted
        exact counted
    · intro u e s₂ never
      exact never.elim
  · rintro t e s₁ ⟨protection, queues⟩
    exact ⟨protection, fun other => by rw [queues]; exact .refl _⟩

/-- An idle frame has a data field of zeros. -/
theorem layOut_nil (s : State) (vcid : VcId) (firstHeaderPointer : Nat) :
    layOut s vcid firstHeaderPointer [] = layOut s vcid firstHeaderPointer (List.replicate (s.dataLen vcid) 0) := by
  have inside := s.dataLen_fits vcid
  have all := s.ocfOffset_add vcid
  unfold layOut
  congr 1
  apply List.ext_getElem
  · rw [Bytes.overwrite_length (by rw [clearedFrame_length, List.length_nil]; omega),
      Bytes.overwrite_length (by rw [clearedFrame_length, List.length_replicate]; omega)]
  · intro i _ _
    simp [Bytes.overwrite, clearedFrame, List.take_replicate, List.drop_replicate]

end ZephyrCcsds.Tm
