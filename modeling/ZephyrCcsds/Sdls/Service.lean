import ZephyrCcsds.Sdls.SaManagement

/-! # Monitoring recipients and the packet service

The monitoring procedures and `ccsds_sdls_ep_process_pdu`, which runs the recipient that a
PDU names, records one event for a failure and invalidates the provenance.
-/

namespace ZephyrCcsds.Sdls

open Callback

variable [Kconfig]

/-! ## Monitoring -/

/-- Copy a reply to the caller and return its length. -/
def writeReply (reply : Bytes) : Recipient Nat := do
  Fallible.modify fun s => s.write 0 reply
  pure reply.length

/-- The ring after Erase Log -/
def Ctx.eraseLog (ctx : Ctx) : Ctx := { ctx with log := .zero }

/-- The event of a Self Test that is not OK -/
def Ctx.recordSelfTest (ctx : Ctx) (encoded : Bytes) : Ctx :=
  if ctx.authenticatedRx.valid then
    ctx.eventRecord (encoded.headD 0) .selfTest ctx.authenticatedRx.spi ctx.authenticatedRx.arsn
  else
    ctx.eventRecord eventTagLocal .selfTest 0 0

/-- The result of the self-test callback, not OK where there is none or it fails -/
def selfTestResult : Recipient UInt8 := do
  let s ← Fallible.read
  if s.ctx.selfTest then
    let answer ← selfTestCallback
    if answer.1 ≠ 0 then
      pure selfTestNotOk
    else
      Fallible.failIf (answer.2 ≠ selfTestOk ∧ answer.2 ≠ selfTestNotOk) .format
      pure answer.2
  else
    pure selfTestNotOk

/-- The case of `CCSDS_SDLS_EP_SELF_TEST` -/
def processSelfTest (encoded : Bytes) : Recipient Nat := do
  let s ← Fallible.read
  Fallible.failIf (s.out.length < epHeaderLen + 1) .capacity
  let result ← selfTestResult
  let len ← writeReply (encodeHeader .reply .selfTest 1 ++ [result])
  if result = selfTestNotOk then
    Fallible.modify fun s => s.withCtx (·.recordSelfTest encoded)
  else
    pure ()
  pure len

def Ctx.alarmFlagReset (ctx : Ctx) : Ctx :=
  { ctx with
    fsr := { ctx.fsr with alarm := false, badSequence := false, badMac := false, badSa := false } }

/-- `ccsds_sdls_ep_process_alarm_flag_reset` -/
def processAlarmFlagReset (encoded : Bytes) : Recipient Unit := do
  Fallible.ofExcept (decodeEmptyMonitoringCommand .alarmFlagReset encoded)
  Fallible.modify fun s => s.withCtx Ctx.alarmFlagReset

/-- `process_monitoring` -/
def processMonitoring (pdu : EpPdu) (encoded : Bytes) : Recipient Nat := do
  Fallible.failIf (pdu.type ≠ .command) .unsupported
  Fallible.ofExcept (decodeEmptyMonitoringCommand pdu.procedure encoded)
  let s ← Fallible.read
  match pdu.procedure with
  | .ping =>
    Fallible.failIf (s.out.length < epHeaderLen) .capacity
    writeReply (encodeHeader .reply .ping 0)
  | .logStatus =>
    Fallible.failIf (s.out.length < epHeaderLen + 4) .capacity
    writeReply (encodeLogSummary .logStatus s.ctx.log.count (eventLogCapacity - s.ctx.log.count))
  | .dumpLog =>
    let reply ← Fallible.ofExcept (epDumpLogReplyEncode s.ctx s.out.length)
    writeReply reply
  | .eraseLog =>
    Fallible.failIf (s.out.length < epHeaderLen + 4) .capacity
    Fallible.modify fun s => s.withCtx Ctx.eraseLog
    writeReply (encodeLogSummary .eraseLog 0 eventLogCapacity)
  | .selfTest => processSelfTest encoded
  | .alarmFlagReset => do
    processAlarmFlagReset encoded
    pure 0
  | _ => Fallible.fail .unsupported

/-! ## The packet service -/

/-- A recipient without a reply -/
def silently (recipient : Recipient Unit) : Recipient Nat := do
  recipient
  pure 0

/-- The reply length that `ccsds_sdls_ep_process_pdu` computes for a verification -/
def verificationReplyLen (pdu : EpPdu) : Nat :=
  epHeaderLen + pdu.data.length / epVerifyCommandEntryLen * epVerifyReplyEntryLen

/-- The recipient that a PDU names, with the length of the reply it commits -/
def recipient (pdu : EpPdu) (encoded : Bytes) : Recipient Nat :=
  match pdu.procedure with
  | .otar => silently (processOtar encoded)
  | .keyActivation => silently (processKeyActivation encoded)
  | .keyDeactivation => silently (processKeyDeactivation encoded)
  | .keyVerification => do
    processKeyVerification encoded
    pure (verificationReplyLen pdu)
  | .keyInventory => processKeyInventory encoded
  | .startSa => silently (processStartSa encoded)
  | .stopSa => silently (processStopSa encoded)
  | .rekeySa => silently (processRekeySa encoded)
  | .expireSa => silently (processExpireSa encoded)
  | .setArsn => silently (processSetArsn encoded)
  | .setArsnWindow => silently (processSetArsnWindow encoded)
  | .readArsn => processReadArsn encoded
  | .saStatus => processSaStatus encoded
  | .ping | .logStatus | .dumpLog | .eraseLog | .selfTest | .alarmFlagReset =>
    processMonitoring pdu encoded

/-- `event_code_from_error` -/
def eventCodeFromError : SdlsError → EventCode
  | .format => .format
  | .authentication => .authentication
  | .replay => .staleArsn
  | .unknownSa => .unknownSa
  | .saState => .saState
  | .key => .keyId
  | .keyState => .keyState
  | .psa => .psa
  | .unsupported => .unsupported
  | .capacity => .capacity

/-- `ep_event_code`; a PDU that is not valid is `none`. -/
def epEventCode (pdu : Option EpPdu) (error : SdlsError) : EventCode :=
  match pdu with
  | none => eventCodeFromError error
  | some pdu =>
    if pdu.procedure = .otar ∧ error = .authentication then .otarAuthentication
    else if pdu.procedure = .keyActivation ∨ pdu.procedure = .keyDeactivation then .keyTransition
    else if pdu.procedure.serviceGroup = .saManagement then .saTransition
    else if pdu.procedure = .selfTest then .selfTest
    else eventCodeFromError error

/-- The tag of the event of a failure -/
def eventTag (carrier : AuthenticatedRx) (encoded : Bytes) : UInt8 :=
  if carrier.valid = true ∧ encoded.length ≠ 0 then encoded.headD 0 else eventTagLocal

/-- The record of a failure, made unless a valid PDU fails for want of capacity -/
def Ctx.recordFailure (ctx : Ctx) (carrier : AuthenticatedRx) (encoded : Bytes) (pdu : Option EpPdu)
    (error : SdlsError) : Ctx :=
  if pdu.isSome ∧ error = .capacity then ctx
  else
    ctx.eventRecord (eventTag carrier encoded) (epEventCode pdu error)
      (if carrier.valid then carrier.spi else 0) (if carrier.valid then carrier.arsn else 0)

/-- The invalidation of the provenance outside a dispatch -/
def Ctx.endTransaction (ctx : Ctx) : Ctx :=
  if ctx.authenticatedRx.dispatching then ctx
  else { ctx with authenticatedRx := { ctx.authenticatedRx with spi := 0, arsn := 0, valid := false } }

/-- The recipient's part of `ccsds_sdls_ep_process_pdu`: what stands before label `out` -/
def runPdu (encoded : Bytes) : Option EpPdu × Recipient Nat :=
  match epPduDecode encoded with
  | .error e => (none, Fallible.fail e)
  | .ok pdu => (some pdu, recipient pdu encoded)

/-- `ccsds_sdls_ep_process_pdu` -/
def processPdu (encoded : Bytes) : SdlsM (Except SdlsError Unit) := do
  let s ← Prog.read
  let carrier := s.ctx.authenticatedRx
  let ret ← (runPdu encoded).2.run
  match ret with
  | .error error =>
    Prog.modify fun s => s.withCtx (·.recordFailure carrier encoded (runPdu encoded).1 error)
    Prog.modify fun s => s.withCtx Ctx.endTransaction
    pure (.error error)
  | .ok committedReplyLen =>
    Prog.modify fun s => s.withOutLen committedReplyLen
    Prog.modify fun s => s.withCtx Ctx.endTransaction
    pure (.ok ())

end ZephyrCcsds.Sdls
