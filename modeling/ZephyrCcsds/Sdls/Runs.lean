import ZephyrCcsds.Callback.Script
import ZephyrCcsds.Runs
import ZephyrCcsds.Sdls.Effects

/-! # Runs of one SDLS context

The calls that reach a context, whoever makes them: frames in both directions, packet
service PDUs, the recipients on their own and the assignments of the TC profile around a
dispatch.  `Moves` says once what a step can do; every invariant is read off it.
-/

namespace ZephyrCcsds.Sdls

open Callback

variable [Kconfig]

inductive Call where
  | applySecurity (expectedRole : SaRole) (slot : SaSlot) (auth : AuthHeader) (data : DataPointer)
      (outOffset : Nat)
  | processSecurity (expectedRole : SaRole) (auth : AuthHeader) (protectedData : Bytes)
  | processPdu (encoded : Bytes)
  | recipient (pdu : EpPdu) (encoded : Bytes)
  | setSelfTest (present : Bool)
  | fsrSetEnabled (enabled : Bool)
  | fsrAlternate
  | beginDispatch
  | endDispatch

/-- The calls that only set a flag -/
def Call.assigns : Call → Option (Ctx → Ctx)
  | setSelfTest present => some fun ctx => { ctx with selfTest := present }
  | fsrSetEnabled enabled => some fun ctx => { ctx with fsrEnabled := enabled }
  | fsrAlternate => some fun ctx => { ctx with fsrNext := !ctx.fsrNext }
  | beginDispatch => some fun ctx =>
    { ctx with authenticatedRx := { ctx.authenticatedRx with dispatching := true } }
  | endDispatch => some Ctx.clearAuthenticatedRx
  | _ => none

def Call.body : Call → SdlsM (Except SdlsError Unit)
  | applySecurity expectedRole slot auth data outOffset =>
    (Sdls.applySecurity expectedRole slot auth data outOffset).run
  | processSecurity expectedRole auth protectedData => (Sdls.processSecurity expectedRole auth protectedData).run
  | processPdu encoded => Sdls.processPdu encoded
  | recipient pdu encoded => (do
      let _ ← Sdls.recipient pdu encoded
      pure () : Recipient Unit).run
  | call => do
    Prog.modify fun s => s.withCtx fun ctx => (call.assigns.getD id) ctx
    pure (.ok ())

/-- The SPI of the SA that a call protects or processes a frame with -/
def Call.frameSpi : Call → Option Nat
  | applySecurity _ slot _ _ _ => some slot.spi
  | processSecurity _ _ protectedData => some (spiField protectedData)
  | _ => none

def Call.isProtection : Call → Bool
  | applySecurity .. => true
  | _ => false

/-- The procedure that a call carries out, with its PDU -/
def Call.command : Call → Option (Procedure × Bytes)
  | processPdu encoded => (epPduDecode encoded).toOption.map fun pdu => (pdu.procedure, encoded)
  | recipient pdu encoded => some (pdu.procedure, encoded)
  | _ => none

/-- A call with the PSA calls made in it and what it returns. -/
structure Label where
  call : Call
  trace : List Item
  result : Except SdlsError Unit

/-- One call, with any output buffer, whatever PSA answers -/
def Step (ctx : Ctx) (label : Label) (ctx' : Ctx) : Prop :=
  ∃ s s' : State, s.ctx = ctx ∧ s'.ctx = ctx' ∧
    label.call.body.Runs anyPsa s label.trace label.result s'

/-- What one call does to the context -/
inductive Moves (ctx : Ctx) : Label → Ctx → Prop where
  | protects {role : SaRole} {slot : SaSlot} {auth : AuthHeader} {data : DataPointer} {outOffset : Nat}
      {key : KeySlot} {t : List Item} {result : Except SdlsError Unit} {ctx' : Ctx} :
      Protects ctx role slot key t ctx' →
      Moves ctx ⟨.applySecurity role slot auth data outOffset, t, result⟩ ctx'
  | accepts {role : SaRole} {auth : AuthHeader} {protectedData : Bytes} {header : SecurityHeader}
      {slot : SaSlot} {key : KeySlot} {t : List Item} {ctx' : Ctx} :
      Accepts ctx role protectedData header slot key t ctx' →
      Moves ctx ⟨.processSecurity role auth protectedData, t, .ok ()⟩ ctx'
  | effect {call : Call} {procedure : Procedure} {encoded : Bytes} {t : List Item} {ctx₁ ctx' : Ctx} :
      call.command = some (procedure, encoded) → Effect encoded ctx procedure t ctx₁ →
      ctx₁.SameTables ctx' → Moves ctx ⟨call, t, .ok ()⟩ ctx'
  | refuses {call : Call} {t : List Item} {error : SdlsError} {ctx' : Ctx} : ctx.SameTables ctx' →
      (call.isProtection = true → t = []) → Moves ctx ⟨call, t, .error error⟩ ctx'
  | assigns {call : Call} {f : Ctx → Ctx} : call.assigns = some f → ctx.SameTables (f ctx) →
      Moves ctx ⟨call, [], .ok ()⟩ (f ctx)

theorem Call.not_protection {call : Call} {procedure : Procedure} {encoded : Bytes}
    (named : call.command = some (procedure, encoded)) : call.isProtection = false := by
  cases call with
  | applySecurity => cases named
  | _ => rfl

theorem Call.assigns_sameTables {call : Call} {f : Ctx → Ctx} (assigned : call.assigns = some f) (ctx : Ctx) :
    ctx.SameTables (f ctx) := by
  cases call <;> cases assigned <;> exact ⟨rfl, rfl, rfl, rfl, rfl⟩

/-- A recipient on its own moves the context. -/
theorem Recipient.Meets.moves {α : Type} {p : Recipient α} {call : Call} {procedure : Procedure}
    {encoded : Bytes} {s s' : State} {t : List Item} {result : Except SdlsError Unit}
    (meets : p.Meets encoded procedure s) (named : call.command = some (procedure, encoded))
    (runs : (do
      let _ ← p
      pure () : Recipient Unit).run.Runs anyPsa s t result s') : Moves s.ctx ⟨call, t, result⟩ s'.ctx := by
  have post : (do
      let _ ← p
      pure () : Recipient Unit).wp anyPsa
      (fun t _ s' => Effect encoded s.ctx procedure t s'.ctx ∧ s'.outLen = s.outLen) (Failed s) s := by
    simp only [Fallible.wp_bind, Fallible.wp_pure, List.append_nil]
    exact meets
  cases result with
  | ok _ => exact .effect named (Fallible.ok_of_runs post runs).1 (.refl _)
  | error e =>
    obtain ⟨rfl, _⟩ := Fallible.error_of_runs post runs
    refine .refuses (.refl _) fun protection => ?_
    rw [Call.not_protection named] at protection
    cases protection

theorem Step.moves {ctx ctx' : Ctx} {label : Label} (step : Step ctx label ctx') : Moves ctx label ctx' := by
  obtain ⟨call, t, result⟩ := label
  obtain ⟨s, s', rfl, rfl, runs⟩ := step
  have assigned : ∀ f, call.assigns = some f → call.body = (do
      Prog.modify fun s => s.withCtx fun ctx => (call.assigns.getD id) ctx
      pure (.ok ())) → Moves s.ctx ⟨call, t, result⟩ s'.ctx := by
    intro f found body
    simp only [body, found, Option.getD_some] at runs
    obtain ⟨rfl, rfl, rfl⟩ := runs
    exact .assigns found (Call.assigns_sameTables found _)
  cases call with
  | applySecurity role slot auth data outOffset =>
    cases result with
    | ok _ =>
      obtain ⟨key, protects⟩ := Fallible.ok_of_runs (applySecurity_spec role slot auth data outOffset s) runs
      exact .protects protects
    | error e =>
      rcases Fallible.error_of_runs (applySecurity_spec role slot auth data outOffset s) runs with
        ⟨rfl, rfl⟩ | ⟨key, protects, _⟩
      · exact .refuses (.refl _) fun _ => rfl
      · exact .protects protects
  | processSecurity role auth protectedData =>
    cases result with
    | ok _ =>
      obtain ⟨header, slot, key, accepts⟩ :=
        Fallible.ok_of_runs (processSecurity_spec role auth protectedData s) runs
      exact .accepts accepts
    | error e =>
      refine .refuses
        (Fallible.error_of_runs (processSecurity_spec role auth protectedData s) runs).tables ?_
      exact fun protection => by cases protection
  | processPdu encoded =>
    have reached := Prog.wp_of_runs (processPdu_spec encoded s) runs
    cases result with
    | ok _ =>
      obtain ⟨pdu, ctx₁, decoded, effect, committed⟩ := reached
      refine .effect ?_ effect ?_
      · rw [Call.command, decoded]
        rfl
      · exact committed ▸ ctx₁.endTransaction_sameTables
    | error e =>
      obtain ⟨_, rfl⟩ := reached
      refine .refuses
        ((Ctx.recordFailure_sameTables _ _ _ _ _).trans (Ctx.endTransaction_sameTables _)) ?_
      exact fun protection => by cases protection
  | recipient pdu encoded => exact (recipient_meets pdu encoded s).moves rfl runs
  | setSelfTest present => exact assigned _ rfl rfl
  | fsrSetEnabled enabled => exact assigned _ rfl rfl
  | fsrAlternate => exact assigned _ rfl rfl
  | beginDispatch => exact assigned _ rfl rfl
  | endDispatch => exact assigned _ rfl rfl

/-- The AEAD calls of frame protection and frame processing use Active keys. -/
theorem Step.frame_usesActiveKey {ctx ctx' : Ctx} {label : Label} (step : Step ctx label ctx')
    {spi : Nat} (frame : label.call.frameSpi = some spi) :
    ∀ item ∈ label.trace, item.UsesActiveKey spi := by
  obtain ⟨call, t, result⟩ := label
  obtain ⟨s, s', rfl, rfl, runs⟩ := step
  cases call with
  | applySecurity role slot auth data outOffset =>
    cases frame
    cases result with
    | ok _ =>
      obtain ⟨key, protects⟩ := Fallible.ok_of_runs (applySecurity_spec role slot auth data outOffset s) runs
      exact protects.usesActiveKey
    | error e =>
      rcases Fallible.error_of_runs (applySecurity_spec role slot auth data outOffset s) runs with
        ⟨rfl, rfl⟩ | ⟨key, protects, _⟩
      · simp
      · exact protects.usesActiveKey
  | processSecurity role auth protectedData =>
    cases frame
    cases result with
    | ok _ =>
      obtain ⟨header, slot, key, accepts⟩ :=
        Fallible.ok_of_runs (processSecurity_spec role auth protectedData s) runs
      exact accepts.usesActiveKey
    | error e => exact (Fallible.error_of_runs (processSecurity_spec role auth protectedData s) runs).keyed
  | _ => cases frame

/-! ## Initialization -/

/-- A part of the context that no configured key and no configured SA is about is zero. -/
theorem init_unchanged {β : Type} {part : Ctx → β} (ofKey : ∀ ctx key, part (Ctx.configureKey ctx key) = part ctx)
    (ofSa : ∀ ctx sa, part (Ctx.configureSa ctx sa) = part ctx) (configuration : Configuration) :
    part (init configuration) = part .zero := by
  have keys : ∀ (keys : List KeyInit) (ctx : Ctx), part (keys.foldl Ctx.configureKey ctx) = part ctx := by
    intro keys
    induction keys with
    | nil => exact fun _ => rfl
    | cons key keys ih => exact fun ctx => (ih (ctx.configureKey key)).trans (ofKey ctx key)
  have sas : ∀ (sas : List SaInit) (ctx : Ctx), part (sas.foldl Ctx.configureSa ctx) = part ctx := by
    intro sas
    induction sas with
    | nil => exact fun _ => rfl
    | cons sa sas ih => exact fun ctx => (ih (ctx.configureSa sa)).trans (ofSa ctx sa)
  rw [init, sas, keys]

/-! ## Played runs -/

/-- A call with the answers PSA is to give -/
abbrev ScriptedCall : Type := Call × List ((op : PsaOp) × PsaRes op)

def playCall (ctx : Ctx) (scripted : ScriptedCall) : Option (Label × Ctx) :=
  ((scripted.1.body { ctx, out := [], outLen := 0 }).record (fun s op r => (⟨s.ctx, op, r⟩ : Item))
    scripted.2).map fun played => (⟨scripted.1, played.1, played.2.1⟩, played.2.2.ctx)

theorem step_of_playCall {ctx ctx' : Ctx} {scripted : ScriptedCall} {label : Label}
    (played : playCall ctx scripted = some (label, ctx')) : Step ctx label ctx' := by
  obtain ⟨⟨t, result, s'⟩, recorded, same⟩ := Option.map_eq_some_iff.mp played
  cases same
  exact ⟨_, s', rfl, rfl, Act.runs_of_record recorded⟩

theorem playCall_call {ctx ctx' : Ctx} {scripted : ScriptedCall} {label : Label}
    (played : playCall ctx scripted = some (label, ctx')) : label.call = scripted.1 := by
  obtain ⟨_, _, same⟩ := Option.map_eq_some_iff.mp played
  cases same
  rfl

def playCalls (ctx : Ctx) : List ScriptedCall → Option (List Label × Ctx)
  | [] => some ([], ctx)
  | scripted :: rest =>
    (playCall ctx scripted).bind fun first =>
      (playCalls first.2 rest).map fun played => (first.1 :: played.1, played.2)

theorem playCalls_calls {ctx ctx' : Ctx} {calls : List ScriptedCall} {labels : List Label}
    (played : playCalls ctx calls = some (labels, ctx')) : labels.map (·.call) = calls.map (·.1) := by
  induction calls generalizing ctx labels with
  | nil =>
    cases played
    rfl
  | cons scripted rest ih =>
    obtain ⟨⟨label, ctx₁⟩, first, later⟩ := Option.bind_eq_some_iff.mp played
    obtain ⟨⟨labels', ctx''⟩, others, same⟩ := Option.map_eq_some_iff.mp later
    cases same
    rw [List.map_cons, List.map_cons, playCall_call first, ih others]

theorem run_of_playCalls {ctx ctx' : Ctx} {calls : List ScriptedCall} {labels : List Label}
    (played : playCalls ctx calls = some (labels, ctx')) : Run Step ctx labels ctx' := by
  induction calls generalizing ctx labels with
  | nil =>
    cases played
    exact .done
  | cons scripted rest ih =>
    obtain ⟨⟨label, ctx₁⟩, first, later⟩ := Option.bind_eq_some_iff.mp played
    obtain ⟨⟨labels', ctx''⟩, others, same⟩ := Option.map_eq_some_iff.mp later
    cases same
    exact .step (step_of_playCall first) (ih others)

end ZephyrCcsds.Sdls

namespace ZephyrCcsds.Sdls

/-! ## A small configuration

One receive SA with GMAC and one transmit SA with GCM, both Operational, for the runs on
fixed inputs of the other modules.
-/

section Sample

attribute [local instance] defaultKconfig

def receiveSlot : SaSlot := ⟨0, by decide⟩

def transmitSlot : SaSlot := ⟨1, by decide⟩

/-- A frame header of no octets -/
def noHeader : AuthHeader where
  data := []
  mask := []
  mask_le := le_refl 0

def sampleConfiguration : Configuration where
  sas := [
    { slot := receiveSlot, key := some (4 : Fin 8), rxArsn := 0, role := .operationalTcRx, mode := .gmac,
      state := .operational, rxArsnInitialized := false, rx_of_initialized := by decide,
      uninitialized_zero := by decide, clear_keyless := by decide, clear_operational := by decide,
      clear_uninitialized := by decide, traffic_key := by decide },
    { slot := transmitSlot, key := some (5 : Fin 8), rxArsn := 0, role := .operationalTmTx, mode := .gcm,
      state := .operational, rxArsnInitialized := false, rx_of_initialized := by decide,
      uninitialized_zero := by decide, clear_keyless := by decide, clear_operational := by decide,
      clear_uninitialized := by decide, traffic_key := by decide }]
  keys := [
    { psaKeyId := 11, keyId := (1 : Fin 8), state := .active, present := by decide },
    { psaKeyId := 14, keyId := (4 : Fin 8), state := .active, present := by decide },
    { psaKeyId := 15, keyId := (5 : Fin 8), state := .active, present := by decide }]
  sas_distinct := by decide
  keys_distinct := by decide

/-- A GMAC frame for SPI 1 with ARSN 5 and one octet of data, in an empty header -/
def sampleFrame : Bytes := [0, 1, 0, 0, 0, 0, 0, 0, 0, 0, 0, 0, 0, 5, 0xab] ++ List.replicate tagLen 0

def receiveSample : ScriptedCall :=
  (.processSecurity .operationalTcRx noHeader sampleFrame,
    [⟨.aeadDecrypt 14 (sampleFrame.slice 2 ivLen) ([0, 1] ++ List.replicate ivLen 0 ++ [0xab])
      (List.replicate tagLen 0), (.success, [])⟩])

/-- The other end of SPI 2 -/
def receiverConfiguration : Configuration where
  sas := [
    { slot := transmitSlot, key := some (5 : Fin 8), rxArsn := 0, role := .operationalTcRx, mode := .gcm,
      state := .operational, rxArsnInitialized := false, rx_of_initialized := by decide,
      uninitialized_zero := by decide, clear_keyless := by decide, clear_operational := by decide,
      clear_uninitialized := by decide, traffic_key := by decide }]
  keys := [{ psaKeyId := 15, keyId := (5 : Fin 8), state := .active, present := by decide }]
  sas_distinct := by decide
  keys_distinct := by decide

def gcmKey (usage : PsaKeyUsage) : PsaKeyAttributes where
  type := .aes
  bits := 256
  algorithm := .gcm
  usage := usage
  lifetime := .persistent

/-- An OTAR command with two key blocks under master key 1 -/
def otarSample : Bytes := [0x01, 0x03, 0x10, 0, 1] ++ List.replicate (ivLen + 2 * epOtarBlockLen + tagLen) 0

/-- The answers of PSA up to the first import: the key blocks are for slots 6 and 7. -/
def otarDecryption : List ((op : PsaOp) × PsaRes op) :=
  [⟨.getKeyAttributes 11, (.success, gcmKey .decryptOnly)⟩,
    ⟨.aeadDecrypt 11 (List.replicate ivLen 0) [0x01, 0x03, 0x10, 0, 1]
      (List.replicate (2 * epOtarBlockLen + tagLen) 0),
      (.success, [0, 6] ++ List.replicate epKeyLen 0 ++ [0, 7] ++ List.replicate epKeyLen 0)⟩]

end Sample

end ZephyrCcsds.Sdls
