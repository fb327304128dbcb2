import ZephyrCcsds.Sdls.Runs

/-! # The association that carries a command

`ccsds_sdls_ep_process_pdu` knows the SA of the frame that carried a PDU.  Only the start of
a clear SA looks at it: every other command that passes the checks of its recipient is
carried out on the carrying SA as on any other.
-/

namespace ZephyrCcsds.Sdls

open Callback

variable [Kconfig]

/-! ## Commands that change an association -/

/-- The SPI that a command names, for the procedures that change an SA -/
def targetSpi (procedure : Procedure) (encoded : Bytes) : Option Nat :=
  match procedure with
  | .startSa => (epStartSaDecode encoded).toOption.map (·.spi)
  | .stopSa => (epSaCommandDecode .stopSa encoded).toOption
  | .expireSa => (epSaCommandDecode .expireSa encoded).toOption
  | .rekeySa => (epRekeySaDecode encoded).toOption.map (·.spi)
  | .setArsn => (epSetArsnDecode encoded).toOption.map (·.spi)
  | .setArsnWindow => (epSetArsnWindowDecode encoded).toOption.map (·.spi)
  | _ => none

/-- A key that an SA may take, as far as the key table tells -/
structure KeyReady (ctx : Ctx) (slot : SaSlot) (keyId : Nat) (sessionOnly : Bool) : Prop where
  traffic : keyId ≠ 0
  session : sessionOnly = true → sessionKeyBase ≤ keyId
  active : ∃ key : KeySlot, key.val = keyId ∧ (ctx.keys key).state = .active ∧ (ctx.keys key).psaKeyId ≠ psaKeyIdNull
  compatible : ctx.keyCompatible slot keyId

/-- A command on an SA passes the checks of its recipient, apart from the answer of PSA about the key. -/
def PassesChecks (ctx : Ctx) (encoded : Bytes) (slot : SaSlot) : Procedure → Prop
  | .startSa => (ctx.sas slot).state = .stopped ∧ ctx.saModes slot ≠ .clear ∧
      KeyReady ctx slot (ctx.sas slot).keySlot false
  | .stopSa => (ctx.sas slot).state = .operational
  | .expireSa => (ctx.sas slot).state = .stopped
  | .rekeySa => ∃ command, epRekeySaDecode encoded = .ok command ∧ (ctx.sas slot).state = .expired ∧
      ctx.saModes slot ≠ .clear ∧ (ctx.saRoles slot).isRx = command.rxArsn.isSome ∧
      KeyReady ctx slot command.keyId true
  | .setArsn => ∃ command, epSetArsnDecode encoded = .ok command ∧ MutableRx ctx slot ∧
      ((ctx.sas slot).rxArsnInitialized = true → (ctx.sas slot).rxArsn ≤ command.value)
  | .setArsnWindow => ∃ command, epSetArsnWindowDecode encoded = .ok command ∧ MutableRx ctx slot ∧
      command.value ≠ 0 ∧ command.value ≤ arsnWindow
  | _ => False

/-- The command changes a configured SA of its target SPI. -/
def Admissible (ctx : Ctx) (encoded : Bytes) (procedure : Procedure) (spi : Nat) : Prop :=
  ∃ slot : SaSlot, slot.spi = spi ∧ (ctx.sas slot).configured = true ∧ PassesChecks ctx encoded slot procedure

/-! ## Commands that are carried out pass the checks -/

theorem UsableKey.ready {ctx : Ctx} {slot : SaSlot} {keyId : Nat} {sessionOnly : Bool} {t : List Item}
    (usable : UsableKey ctx slot keyId sessionOnly t) : KeyReady ctx slot keyId sessionOnly := by
  obtain ⟨key, same, active, present, _⟩ := usable.active
  exact ⟨usable.traffic, usable.session, ⟨key, same, active, present⟩, usable.compatible⟩

omit [Kconfig] in
theorem spi_of_decoded {α : Type} {decoded : Except SdlsError α} {command : α} (spi : α → Nat)
    {target : Nat} (named : decoded.toOption.map spi = some target) (decodes : decoded = .ok command) :
    spi command = target := by
  subst decodes
  simpa [Except.toOption] using named

theorem Effect.admissible {encoded : Bytes} {ctx ctx' : Ctx} {procedure : Procedure} {t : List Item} {spi : Nat}
    (effect : Effect encoded ctx procedure t ctx') (named : targetSpi procedure encoded = some spi)
    (carrier : ctx.authenticatedRx.spi = spi) : Admissible ctx encoded procedure spi := by
  cases effect with
  | @startSa _ command slot decoded same configured stopped allowed =>
    have target := @spi_of_decoded EpStartSa _ command (·.spi) spi named decoded
    refine ⟨slot, same.trans target, configured, stopped, ?_⟩
    by_cases isClear : ctx.saModes slot = .clear
    · -- the carrier check, the only one there is
      rw [StartAllowed, if_pos isClear] at allowed
      exact absurd (carrier.trans (same.trans target).symm) allowed.2
    · rw [StartAllowed, if_neg isClear] at allowed
      exact ⟨isClear, allowed.ready⟩
  | @stopSa _ slot decoded configured operational =>
    have target := spi_of_decoded id (by simpa [targetSpi] using named) decoded
    exact ⟨slot, target, configured, operational⟩
  | @expireSa _ slot decoded configured stopped =>
    have target := spi_of_decoded id (by simpa [targetSpi] using named) decoded
    exact ⟨slot, target, configured, stopped⟩
  | @rekeySa _ command slot decoded same configured expired secured shape usable =>
    have target := @spi_of_decoded EpRekeySa _ command (·.spi) spi named decoded
    exact ⟨slot, same.trans target, configured, command, decoded, expired, secured, shape, usable.ready⟩
  | @setArsn _ command slot decoded same mutableRx forward =>
    have target := @spi_of_decoded EpSetU32 _ command (·.spi) spi named decoded
    exact ⟨slot, same.trans target, mutableRx.configured, command, decoded, mutableRx, forward⟩
  | @setArsnWindow _ command slot decoded same mutableRx some bounded =>
    have target := @spi_of_decoded EpSetU32 _ command (·.spi) spi named decoded
    exact ⟨slot, same.trans target, mutableRx.configured, command, decoded, mutableRx, some, bounded⟩
  | reported listed =>
    simp only [List.mem_cons, List.not_mem_nil, or_false] at listed
    rcases listed with rfl | rfl | rfl | rfl | rfl <;> cases named
  | _ => cases named

/-! ## Commands that pass the checks are carried out -/

/-- A key as every SA may use it -/
def capableKey : PsaKeyAttributes where
  type := .aes
  bits := aesKeyBits
  algorithm := .gcm
  usage := .both
  lifetime := .volatile

/-- PSA reports every key as capable, and answers everything else in any way. -/
def CapableAnswer : (op : PsaOp) → PsaRes op → Prop
  | .getKeyAttributes _, answer => answer = (.success, capableKey)
  | _, _ => True

def capablePsa : Environment PsaOp PsaRes State Item :=
  answering CapableAnswer fun s op r => ⟨s.ctx, op, r⟩

omit [Kconfig] in
theorem capableAnswer_exists (op : PsaOp) : ∃ r, CapableAnswer op r := by
  cases op with
  | getKeyAttributes => exact ⟨_, rfl⟩
  | _ => exact ⟨(PsaRes.inhabited _).default, trivial⟩

theorem Ctx.managedSa_spi {ctx : Ctx} {slot : SaSlot} (configured : (ctx.sas slot).configured = true) :
    ctx.managedSa slot.spi = .ok slot := by
  have range := Kconfig.maxSa_range
  have bound := slot.isLt
  unfold Ctx.managedSa
  rw [if_neg, Ctx.saLookup_spi configured]
  unfold SaSlot.spi uint16Max
  omega

theorem MutableRx.found {ctx : Ctx} {slot : SaSlot} (mutableRx : MutableRx ctx slot) :
    ctx.mutableRxSa slot.spi = .ok slot := by
  unfold Ctx.mutableRxSa
  simp [Ctx.managedSa_spi mutableRx.configured, mutableRx.receives, mutableRx.secured, mutableRx.live]

theorem validateKey_capable (keyId : PsaKeyId) (role : SaRole) (s : State) :
    (validateKey keyId role.keyUsage).wp capablePsa (fun _ _ s' => s' = s) (fun _ _ _ => False) s := by
  have fits : capableKey.fits role.keyUsage = true := by cases role <;> decide
  simp only [validateKey, psaGetKeyAttributes, Fallible.wp_bind, capablePsa, Fallible.wp_call_answering,
    Fallible.wp_failIf]
  rintro answer rfl
  simp [fits]

theorem validateSaKey_capable {slot : SaSlot} {keyId : Nat} {sessionOnly : Bool} {s : State}
    (ready : KeyReady s.ctx slot keyId sessionOnly) :
    (validateSaKey slot keyId sessionOnly).wp capablePsa (fun _ _ s' => s' = s) (fun _ _ _ => False) s := by
  obtain ⟨traffic, session, ⟨key, rfl, active, present⟩, compatible⟩ := ready
  have found : s.ctx.keyLookup key.val = some key := by
    unfold Ctx.keyLookup
    rw [dif_pos key.isLt, if_neg present]
  have inRange : ¬ (key.val = 0 ∨ key.val ≥ maxKeys ∨ (sessionOnly = true ∧ key.val < sessionKeyBase)) := by
    rintro (zero | beyond | ⟨only, master⟩)
    · exact traffic zero
    · exact absurd key.isLt (by omega)
    · exact absurd (session only) (by omega)
  simp only [validateSaKey, Fallible.wp_bind, Fallible.wp_read, if_neg inRange, found, Fallible.wp_failIf]
  refine ⟨fun other => other active, fun _ => ?_⟩
  apply Fallible.wp_mono (validateKey_capable _ _ s)
  · rintro t _ s' rfl
    exact ⟨fun other => other compatible, fun _ => rfl⟩
  · exact fun _ _ _ impossible => impossible

/-- A recipient that succeeds, whatever its result -/
abbrev Succeeds {α : Type} (p : Recipient α) (s : State) : Prop :=
  p.wp capablePsa (fun _ _ _ => True) (fun _ _ _ => False) s

theorem Succeeds.silently {p : Recipient Unit} {s : State} (succeeds : Succeeds p s) : Succeeds (silently p) s := by
  simp only [Succeeds, Sdls.silently, Fallible.wp_bind, Fallible.wp_pure]
  exact succeeds

omit [Kconfig] in
theorem decoded_of_some {α : Type} {decoded : Except SdlsError α} (spi : α → Nat) {target : Nat}
    (named : decoded.toOption.map spi = some target) : ∃ command, decoded = .ok command ∧ spi command = target := by
  cases decoded with
  | error e => simp [Except.toOption] at named
  | ok command => exact ⟨command, rfl, by simpa [Except.toOption] using named⟩

variable {encoded : Bytes} {s : State} {slot : SaSlot}

theorem processStartSa_succeeds (named : (epStartSaDecode encoded).toOption.map (·.spi) = some slot.spi)
    (configured : (s.ctx.sas slot).configured = true) (passes : PassesChecks s.ctx encoded slot .startSa) :
    Succeeds (processStartSa encoded) s := by
  obtain ⟨command, decoded, target⟩ := decoded_of_some _ named
  obtain ⟨stopped, secured, ready⟩ := passes
  simp only [Succeeds, processStartSa, Fallible.wp_bind, decoded, Fallible.wp_ofExcept_ok, Fallible.wp_read, target,
    Ctx.managedSa_spi configured, Fallible.wp_failIf, if_neg secured]
  refine ⟨fun other => other stopped, fun _ => ?_⟩
  apply Fallible.wp_mono (validateSaKey_capable ready)
  · intro t _ s' _
    simp
  · exact fun _ _ _ impossible => impossible

theorem processSaTransition_succeeds {procedure : Procedure} {source target : SaState}
    (named : (epSaCommandDecode procedure encoded).toOption = some slot.spi)
    (configured : (s.ctx.sas slot).configured = true) (state : (s.ctx.sas slot).state = source) :
    Succeeds (processSaTransition procedure source target encoded) s := by
  obtain ⟨spi, decoded, target⟩ := decoded_of_some id (by simpa using named)
  have target : spi = slot.spi := target
  simp only [Succeeds, processSaTransition, Fallible.wp_bind, decoded, Fallible.wp_ofExcept_ok, Fallible.wp_read, target,
    Ctx.managedSa_spi configured, Fallible.wp_failIf, Fallible.wp_modify]
  exact ⟨fun other => other state, fun _ => trivial⟩

theorem processRekeySa_succeeds (named : (epRekeySaDecode encoded).toOption.map (·.spi) = some slot.spi)
    (configured : (s.ctx.sas slot).configured = true) (passes : PassesChecks s.ctx encoded slot .rekeySa) :
    Succeeds (processRekeySa encoded) s := by
  obtain ⟨command, decoded, target⟩ := decoded_of_some _ named
  obtain ⟨command', decoded', expired, secured, shape, ready⟩ := passes
  rw [decoded] at decoded'
  cases decoded'
  simp only [Succeeds, processRekeySa, Fallible.wp_bind, decoded, Fallible.wp_ofExcept_ok, Fallible.wp_read, target,
    Ctx.managedSa_spi configured, Fallible.wp_failIf]
  refine ⟨fun other => other expired, fun _ => ⟨fun isClear => secured isClear, fun _ => ⟨fun other => other shape,
    fun _ => ?_⟩⟩⟩
  apply Fallible.wp_mono (validateSaKey_capable ready)
  · intro t _ s' _
    simp
  · exact fun _ _ _ impossible => impossible

theorem processSetArsn_succeeds (named : (epSetArsnDecode encoded).toOption.map (·.spi) = some slot.spi)
    (passes : PassesChecks s.ctx encoded slot .setArsn) : Succeeds (processSetArsn encoded) s := by
  obtain ⟨command, decoded, target⟩ := decoded_of_some _ named
  obtain ⟨command', decoded', mutableRx, forward⟩ := passes
  rw [decoded] at decoded'
  cases decoded'
  simp only [Succeeds, processSetArsn, Fallible.wp_bind, decoded, Fallible.wp_ofExcept_ok, Fallible.wp_read, target,
    mutableRx.found, Fallible.wp_failIf, Fallible.wp_modify]
  constructor
  · intro refused
    exact absurd (forward refused.1) (UInt32.not_le.mpr refused.2)
  · intro _
    trivial

theorem processSetArsnWindow_succeeds
    (named : (epSetArsnWindowDecode encoded).toOption.map (·.spi) = some slot.spi)
    (passes : PassesChecks s.ctx encoded slot .setArsnWindow) : Succeeds (processSetArsnWindow encoded) s := by
  obtain ⟨command, decoded, target⟩ := decoded_of_some _ named
  obtain ⟨command', decoded', mutableRx, some, bounded⟩ := passes
  rw [decoded] at decoded'
  cases decoded'
  simp only [Succeeds, processSetArsnWindow, Fallible.wp_bind, decoded, Fallible.wp_ofExcept_ok, Fallible.wp_read,
    target, mutableRx.found, Fallible.wp_failIf, Fallible.wp_modify]
  refine ⟨fun refused => ?_, fun _ => trivial⟩
  rcases refused with zero | beyond
  · exact some zero
  · exact absurd bounded (UInt32.not_le.mpr beyond)

/-- An admissible command is carried out when PSA is content with the key. -/
theorem recipient_succeeds {pdu : EpPdu} {spi : Nat} (named : targetSpi pdu.procedure encoded = some spi)
    (admissible : Admissible s.ctx encoded pdu.procedure spi) : Succeeds (recipient pdu encoded) s := by
  obtain ⟨slot, rfl, configured, passes⟩ := admissible
  unfold recipient
  cases procedure : pdu.procedure with
  | startSa =>
    rw [procedure] at named passes
    exact (processStartSa_succeeds named configured passes).silently
  | stopSa =>
    rw [procedure] at named passes
    exact (processSaTransition_succeeds named configured passes).silently
  | expireSa =>
    rw [procedure] at named passes
    exact (processSaTransition_succeeds named configured passes).silently
  | rekeySa =>
    rw [procedure] at named passes
    exact (processRekeySa_succeeds named configured passes).silently
  | setArsn =>
    rw [procedure] at named passes
    exact (processSetArsn_succeeds named passes).silently
  | setArsnWindow =>
    rw [procedure] at named passes
    exact (processSetArsnWindow_succeeds named passes).silently
  | _ =>
    rw [procedure] at named
    cases named

/-! ## The carrier rule -/

/-- A command on the SA of its own carrying frame is refused, and the SA stays as it is, exactly when the
recipient's own checks refuse it: outside the start of a clear SA the carrier makes no difference. -/
theorem carrier_rule_iff {pdu : EpPdu} {spi : Nat} (decoded : epPduDecode encoded = .ok pdu)
    (named : targetSpi pdu.procedure encoded = some spi)
    (carrier : s.ctx.authenticatedRx.spi = spi) :
    (∀ t result s', (processPdu encoded).Runs anyPsa s t result s' →
      (∃ e, result = .error e) ∧ ∀ slot : SaSlot, slot.spi = spi → s'.ctx.sas slot = s.ctx.sas slot) ↔
    ¬ Admissible s.ctx encoded pdu.procedure spi := by
  constructor
  · intro refused admissible
    have carriedOut : (processPdu encoded).wp capablePsa (fun _ result _ => result = .ok ()) s := by
      simp only [processPdu, runPdu, decoded, Prog.wp_bind, Prog.wp_read]
      apply Prog.wp_mono (recipient_succeeds named admissible)
      intro t result s' reached
      cases result with
      | error e => exact reached.elim
      | ok len => simp
    have answers : ∀ (s : State) (op : PsaOp), ∃ r t s', capablePsa s op r t s' := by
      intro s op
      obtain ⟨r, capable⟩ := capableAnswer_exists op
      exact ⟨r, _, s, capable, rfl, rfl⟩
    obtain ⟨t, result, s', runs⟩ := Act.exists_runs answers (processPdu encoded s)
    obtain ⟨e, failed⟩ := (refused t result s' (Act.Runs.unrestricted runs)).1
    rw [Prog.wp_of_runs carriedOut runs] at failed
    cases failed
  · intro inadmissible t result s' runs
    have reached := Prog.wp_of_runs (processPdu_spec encoded s) runs
    cases result with
    | ok _ =>
      obtain ⟨pdu', ctx, decoded', effect, _⟩ := reached
      rw [decoded] at decoded'
      cases decoded'
      exact absurd (effect.admissible named carrier) inadmissible
    | error e =>
      obtain ⟨_, rfl⟩ := reached
      have tables := (Ctx.recordFailure_sameTables s.ctx s.ctx.authenticatedRx encoded
        (epPduDecode encoded).toOption e).trans (Ctx.endTransaction_sameTables _)
      exact ⟨⟨e, rfl⟩, fun slot _ => congrFun tables.sas slot⟩

end ZephyrCcsds.Sdls

namespace ZephyrCcsds.Sdls

open Callback

section Sample

attribute [local instance] defaultKconfig

/-- Stop SA of SPI 1 -/
def stopOfCarrier : Bytes := [0x1e, 0, 16, 0, 1]

/-- A context in which a packet handler looks at a frame that was accepted under SPI 1 -/
def carriedContext : Ctx :=
  { init sampleConfiguration with authenticatedRx := { valid := true, spi := 1, arsn := 5, dispatching := true } }

def carriedState : State := { ctx := carriedContext, out := [], outLen := 0 }

def stopPdu : EpPdu where
  data := [0, 1]
  procedure := .stopSa
  type := .command

theorem stopOfCarrier_decoded : epPduDecode stopOfCarrier = .ok stopPdu ∧
    targetSpi stopPdu.procedure stopOfCarrier = some 1 := by
  decide +kernel

/-- The frame's own SA is stopped by the command it carries. -/
theorem carrier_stopped : ¬ ∀ (s s' : State) (encoded : Bytes) (pdu : EpPdu) (spi : Nat) (t : List Item)
    (result : Except SdlsError Unit), epPduDecode encoded = .ok pdu →
    targetSpi pdu.procedure encoded = some spi → s.ctx.authenticatedRx.valid = true →
    s.ctx.authenticatedRx.spi = spi → (processPdu encoded).Runs anyPsa s t result s' →
    (∃ e, result = .error e) ∧ ∀ slot : SaSlot, slot.spi = spi → s'.ctx.sas slot = s.ctx.sas slot := by
  intro claim
  have held : ((processPdu stopOfCarrier carriedState).record (fun s op r => (⟨s.ctx, op, r⟩ : Item)) []).any
      (fun played => decide (played.2.1 = .ok ())) = true := by
    decide +kernel
  obtain ⟨⟨t, result, s'⟩, played, carriedOut⟩ := (Option.any_eq_true _ _).mp held
  have carriedOut : result = .ok () := of_decide_eq_true carriedOut
  obtain ⟨⟨e, failed⟩, _⟩ := claim carriedState s' stopOfCarrier stopPdu 1 t result stopOfCarrier_decoded.1
    stopOfCarrier_decoded.2 rfl rfl (Act.runs_of_record played)
  rw [carriedOut] at failed
  cases failed

theorem carrier_rule_iff_sample :
    (∀ t result s', (processPdu stopOfCarrier).Runs anyPsa carriedState t result s' →
      (∃ e, result = .error e) ∧ ∀ slot : SaSlot, slot.spi = 1 → s'.ctx.sas slot = carriedState.ctx.sas slot) ↔
    ¬ Admissible carriedState.ctx stopOfCarrier stopPdu.procedure 1 :=
  carrier_rule_iff stopOfCarrier_decoded.1 stopOfCarrier_decoded.2 rfl

end Sample

end ZephyrCcsds.Sdls
