import ZephyrCcsds.Sdls.EpExact
import ZephyrCcsds.Sdls.Service

/-! # The length limit of the Extended Procedure PDUs

`ccsds_sdls_ep_pdu_decode` refuses what is longer than both the longest reply and the longest OTAR command.
Of the encoders only the one of Start SA grows with a configuration symbol that is in neither length, so
that the limit is wide enough exactly for the configurations whose longest Start SA command fits
(`accepts_encoded_iff`).
-/

namespace ZephyrCcsds.Sdls

open Bytes Records

variable [Kconfig]

/-! ## What the encoders produce -/

/-- `ccsds_sdls_ep_alarm_flag_reset_encode` -/
def epAlarmFlagResetEncode : Bytes := encodeHeader .command .alarmFlagReset 0

/-- `ccsds_sdls_ep_monitoring_command_encode` -/
def epMonitoringCommandEncode (procedure : Procedure) : Bytes := encodeHeader .command procedure 0

/-- The ring holds no more events than it has room for. -/
def EventLog.Within (log : EventLog) : Prop := log.count ≤ eventLogCapacity

/-- A PDU that some encoder of the module produces, from a value that the encoder asserts or checks -/
inductive EpEncoded : Bytes → Prop where
  | otar (otar : EpOtar) (valid : otar.Valid) : EpEncoded (epOtarEncode otar)
  | keyCommand (procedure : Procedure) (keyIds : List Nat)
      (kind : procedure = .keyActivation ∨ procedure = .keyDeactivation)
      (rows : Rows (fun keyId => keyId < 65536) keyIds) : EpEncoded (epKeyCommandEncode procedure keyIds)
  | keyInventoryCommand (command : EpKeyInventoryCommand) (valid : command.Valid) :
      EpEncoded (epKeyInventoryCommandEncode command)
  | keyInventoryReply (entries : List EpKeyInventoryEntry) (outCapacity : Nat) (encoded : Bytes)
      (made : epKeyInventoryReplyEncode entries outCapacity = .ok encoded) : EpEncoded encoded
  | verifyCommand (entries : List EpVerifyCommandEntry) (rows : Rows EpVerifyCommandEntry.Valid entries) :
      EpEncoded (epVerifyCommandEncode entries)
  | verifyReply (entries : List EpVerifyReplyEntry) (rows : Rows EpVerifyReplyEntry.Valid entries) :
      EpEncoded (epVerifyReplyEncode entries)
  | startSa (command : EpStartSa) (valid : command.Valid) : EpEncoded (epStartSaEncode command)
  | saCommand (procedure : Procedure) (spi : Nat)
      (kind : procedure = .stopSa ∨ procedure = .expireSa ∨ procedure = .readArsn ∨ procedure = .saStatus) :
      EpEncoded (epSaCommandEncode procedure spi)
  | rekeySa (command : EpRekeySa) : EpEncoded (epRekeySaEncode command)
  | setArsn (command : EpSetU32) : EpEncoded (epSetArsnEncode command)
  | setArsnWindow (command : EpSetU32) : EpEncoded (epSetArsnWindowEncode command)
  | readArsnReply (spi : Nat) (arsn : UInt32) : EpEncoded (epReadArsnReplyEncode spi arsn)
  | saStatusReply (spi : Nat) (lastProcedure : UInt8) : EpEncoded (epSaStatusReplyEncode spi lastProcedure)
  | alarmFlagReset : EpEncoded epAlarmFlagResetEncode
  | monitoringCommand (procedure : Procedure) (kind : procedure.serviceGroup = .securityMonitoring)
      (other : procedure ≠ .alarmFlagReset) : EpEncoded (epMonitoringCommandEncode procedure)
  | pingReply : EpEncoded (encodeHeader .reply .ping 0)
  | logSummary (procedure : Procedure) (retained remaining : Nat)
      (kind : procedure = .logStatus ∨ procedure = .eraseLog) :
      EpEncoded (encodeLogSummary procedure retained remaining)
  | dumpLogReply (ctx : Ctx) (outCapacity : Nat) (encoded : Bytes) (within : ctx.log.Within)
      (made : epDumpLogReplyEncode ctx outCapacity = .ok encoded) : EpEncoded encoded
  | selfTestReply (result : UInt8) : EpEncoded (encodeHeader .reply .selfTest 1 ++ [result])

/-! ## Lengths -/

omit [Kconfig] in
theorem Event.encode_length (event : Event) : event.encode.length = eventWireLen := by
  simp [Event.encode, putBe_length, eventWireLen, eventValueLen]

/-- The header of a supported PDU with its data field -/
structure EpFramed (encoded : Bytes) (dataLen : Nat) : Prop where
  framed : ∃ type procedure data, encoded = encodeHeader type procedure dataLen ++ data ∧
    data.length = dataLen ∧ procedureSupported type procedure = true
  small : dataLen * 8 < 65536

omit [Kconfig] in
theorem EpFramed.intro {type : EpType} {procedure : Procedure} {data : Bytes} {dataLen : Nat}
    (length : data.length = dataLen) (supported : procedureSupported type procedure = true)
    (small : dataLen * 8 < 65536) : EpFramed (encodeHeader type procedure dataLen ++ data) dataLen :=
  ⟨⟨type, procedure, data, rfl, length, supported⟩, small⟩

omit [Kconfig] in
theorem EpFramed.length {encoded : Bytes} {dataLen : Nat} (framed : EpFramed encoded dataLen) :
    encoded.length = epHeaderLen + dataLen := by
  obtain ⟨type, procedure, data, rfl, length, _⟩ := framed.framed
  rw [List.length_append, encodeHeader_length, length]

/-- The decoder accepts what is framed unless it is too long. -/
theorem EpFramed.decoded {encoded : Bytes} {dataLen : Nat} (framed : EpFramed encoded dataLen) :
    (∃ pdu, epPduDecode encoded = .ok pdu) ↔ epHeaderLen + dataLen ≤ epPduMax := by
  have whole := framed.length
  have small := framed.small
  obtain ⟨type, procedure, data, rfl, length, supported⟩ := framed.framed
  subst length
  constructor
  · intro accepted
    obtain ⟨pdu, decoded⟩ := accepted
    have fits := (@encodeHeader_of_epDataDecode _ pdu.type pdu.procedure _ pdu.data
      (by rw [epDataDecode, decoded]; simp)).2.2.2
    omega
  · intro fits
    have decoded := epDataDecode_encodeHeader data supported small (by omega)
    cases accepted : epPduDecode (encodeHeader type procedure data.length ++ data) with
    | error e =>
      rw [epDataDecode, accepted] at decoded
      cases decoded
    | ok pdu => exact ⟨pdu, rfl⟩

/-- The limit is at least as long as the longest of each of its three kinds. -/
theorem epPduMax_bounds : 3 + 46 * maxKeys ≤ epPduMax ∧ 3 + 10 * eventLogCapacity ≤ epPduMax ∧
    3 + (30 + 34 * epMaxOtarKeys) ≤ epPduMax := by
  have verify : epVerifyReplyPduMax = 3 + 46 * maxKeys := rfl
  have dump : epDumpLogPduMax = 3 + eventLogCapacity * 10 := rfl
  have otar : epOtarPduMax = 3 + (2 + 12 + epMaxOtarKeys * 34 + 16) := rfl
  unfold epPduMax epReplyPduMax
  omega

/-- Every PDU is framed, and but for Start SA its data field fits. -/
theorem EpEncoded.lengths {encoded : Bytes} (produced : EpEncoded encoded) :
    ∃ dataLen, EpFramed encoded dataLen ∧ (epHeaderLen + dataLen ≤ epPduMax ∨
      ∃ command : EpStartSa, command.Valid ∧ dataLen = 2 + 4 * command.associations.length) := by
  obtain ⟨keysLimit, logLimit, otarLimit⟩ := epPduMax_bounds
  have keysRange := Kconfig.maxKeys_range
  have keysFit := Kconfig.verify_fits
  have logRange := Kconfig.eventLogCapacity_range
  have header : epHeaderLen = 3 := rfl
  have recipients : epMaxRecipients = maxKeys := rfl
  cases produced with
  | otar otar valid =>
    have otarFits := Kconfig.otar_fits
    have keys : epMaxOtarKeys = maxKeys - sessionKeyBase := rfl
    have count := valid.count
    have blocks := valid.blocks
    have iv := valid.iv
    have tag := valid.tag
    have size : otar.keyCount * epOtarBlockLen = otar.keyCount * 34 := rfl
    have ivOctets : ivLen = 12 := rfl
    have tagOctets : tagLen = 16 := rfl
    refine ⟨2 + ivLen + otar.keyCount * epOtarBlockLen + tagLen, ?_, .inl (by omega)⟩
    rw [epOtarEncode]
    simp only [List.append_assoc]
    apply EpFramed.intro _ rfl (by omega)
    simp only [List.length_append, putBe_length, List.length_take]
    omega
  | keyCommand procedure keyIds kind rows =>
    have count := rows.count
    refine ⟨keyIds.length * 2, ?_, .inl (by omega)⟩
    apply EpFramed.intro _ _ (by omega)
    · exact flatMap_length keyIds fun keyId _ => putBe_length 2 keyId
    · cases kind with
      | inl activation => rw [activation]; rfl
      | inr deactivation => rw [deactivation]; rfl
  | keyInventoryCommand command valid =>
    refine ⟨4, ?_, .inl (by omega)⟩
    rw [epKeyInventoryCommandEncode, List.append_assoc]
    show EpFramed (encodeHeader .command .keyInventory 4 ++ _) 4
    exact EpFramed.intro (by simp [putBe_length]) rfl (by decide)
  | keyInventoryReply entries outCapacity _ made =>
    unfold epKeyInventoryReplyEncode at made
    dsimp only at made
    split_ifs at made with long narrow descending
    cases made
    have size : entries.length * epKeyInventoryEntryLen = entries.length * 3 := rfl
    refine ⟨2 + entries.length * epKeyInventoryEntryLen, ?_, .inl (by omega)⟩
    rw [List.append_assoc]
    apply EpFramed.intro _ rfl (by omega)
    have records := flatMap_length entries fun entry _ => entry.put_length
    unfold EpKeyInventoryEntry.put at records
    rw [List.length_append, putBe_length, records]
  | verifyCommand entries rows =>
    have count := rows.count
    have size : entries.length * epVerifyCommandEntryLen = entries.length * 18 := rfl
    refine ⟨entries.length * epVerifyCommandEntryLen, ?_, .inl (by omega)⟩
    apply EpFramed.intro _ rfl (by omega)
    apply flatMap_length entries
    intro entry member
    rw [List.length_append, putBe_length, (rows.each entry member).challenge]
    rfl
  | verifyReply entries rows =>
    have count := rows.count
    have size : entries.length * epVerifyReplyEntryLen = entries.length * 46 := rfl
    refine ⟨entries.length * epVerifyReplyEntryLen, ?_, .inl (by omega)⟩
    apply EpFramed.intro _ rfl (by omega)
    apply flatMap_length entries
    intro entry member
    have valid := rows.each entry member
    simp only [List.length_append, putBe_length, valid.iv, valid.challenge, valid.tag]
    rfl
  | startSa command valid =>
    have saRange := Kconfig.maxSa_range
    have count : command.associations.length ≤ maxSa := valid.count
    refine ⟨2 + 4 * command.associations.length, ?_, .inr ⟨command, valid, rfl⟩⟩
    rw [epStartSaEncode, List.append_assoc]
    apply EpFramed.intro _ rfl (by omega)
    rw [List.length_append, putBe_length, flatMap_length command.associations fun association _ =>
      putBe_length 4 association.toNat]
    omega
  | saCommand procedure spi kind =>
    refine ⟨2, ?_, .inl (by omega)⟩
    apply EpFramed.intro (putBe_length 2 spi) rfl (by decide)
  | rekeySa command =>
    cases arsn : command.rxArsn with
    | none =>
      refine ⟨4, ?_, .inl (by omega)⟩
      rw [epRekeySaEncode, arsn, List.append_assoc, List.append_assoc]
      show EpFramed (encodeHeader .command .rekeySa 4 ++ _) 4
      exact EpFramed.intro (by simp [putBe_length]) rfl (by decide)
    | some rxArsn =>
      refine ⟨8, ?_, .inl (by omega)⟩
      rw [epRekeySaEncode, arsn, List.append_assoc, List.append_assoc]
      show EpFramed (encodeHeader .command .rekeySa 8 ++ _) 8
      exact EpFramed.intro (by simp [putBe_length]) rfl (by decide)
  | setArsn command =>
    refine ⟨6, ?_, .inl (by omega)⟩
    rw [epSetArsnEncode, setU32Encode, List.append_assoc]
    exact EpFramed.intro (by simp [putBe_length]) rfl (by decide)
  | setArsnWindow command =>
    refine ⟨6, ?_, .inl (by omega)⟩
    rw [epSetArsnWindowEncode, setU32Encode, List.append_assoc]
    exact EpFramed.intro (by simp [putBe_length]) rfl (by decide)
  | readArsnReply spi arsn =>
    refine ⟨6, ?_, .inl (by omega)⟩
    rw [epReadArsnReplyEncode, List.append_assoc]
    exact EpFramed.intro (by simp [putBe_length]) rfl (by decide)
  | saStatusReply spi lastProcedure =>
    refine ⟨3, ?_, .inl (by omega)⟩
    rw [epSaStatusReplyEncode, List.append_assoc]
    exact EpFramed.intro (by simp [putBe_length]) rfl (by decide)
  | alarmFlagReset =>
    refine ⟨0, ?_, .inl (by omega)⟩
    exact @EpFramed.intro .command _ [] 0 rfl rfl (by decide)
  | monitoringCommand procedure kind other =>
    refine ⟨0, ?_, .inl (by omega)⟩
    exact @EpFramed.intro .command _ [] 0 rfl rfl (by decide)
  | pingReply =>
    refine ⟨0, ?_, .inl (by omega)⟩
    exact @EpFramed.intro .reply _ [] 0 rfl rfl (by decide)
  | logSummary procedure retained remaining kind =>
    refine ⟨4, ?_, .inl (by omega)⟩
    rw [encodeLogSummary, List.append_assoc]
    apply EpFramed.intro (by simp [putBe_length]) _ (by decide)
    cases kind with
    | inl status => rw [status]; rfl
    | inr erase => rw [erase]; rfl
  | dumpLogReply ctx outCapacity _ within made =>
    unfold epDumpLogReplyEncode at made
    dsimp only at made
    split_ifs at made with narrow
    cases made
    have count : ctx.log.count ≤ eventLogCapacity := within
    have size : ctx.log.count * eventWireLen = ctx.log.count * 10 := rfl
    refine ⟨ctx.log.count * eventWireLen, ?_, .inl (by omega)⟩
    apply EpFramed.intro _ rfl (by omega)
    have records := flatMap_length (List.range ctx.log.count) fun i _ =>
      (ctx.log.events (logIndex (ctx.log.readIndex.val + i))).encode_length
    rw [List.length_range] at records
    exact records
  | selfTestReply result =>
    refine ⟨1, ?_, .inl (by omega)⟩
    exact EpFramed.intro rfl rfl (by decide)

/-! ## The limit -/

/-- The decoder accepts whatever the encoders produce. -/
def AcceptsEncoded : Prop := ∀ encoded, EpEncoded encoded → ∃ pdu, epPduDecode encoded = .ok pdu

/-- A Start SA command with as many associations as there are SAs -/
def longestStartSa : EpStartSa where
  spi := 1
  associations := List.replicate maxSa 0

/-- The encoders keep to the decoder's limit exactly when the longest Start SA command does. -/
theorem accepts_encoded_iff : AcceptsEncoded ↔ epHeaderLen + 2 + 4 * maxSa ≤ epPduMax := by
  constructor
  · intro accepts
    have valid : longestStartSa.Valid := by
      constructor
      · show (List.replicate maxSa (0 : UInt32)).length ≤ maxSa
        rw [List.length_replicate]
      · show 1 < 65536
        decide
    have produced := EpEncoded.startSa longestStartSa valid
    have saRange := Kconfig.maxSa_range
    have count : longestStartSa.associations.length = maxSa := List.length_replicate
    have framed : EpFramed (epStartSaEncode longestStartSa) (2 + 4 * maxSa) := by
      rw [epStartSaEncode, List.append_assoc, count]
      apply EpFramed.intro _ rfl (by omega)
      rw [List.length_append, putBe_length, flatMap_length longestStartSa.associations fun association _ =>
        putBe_length 4 association.toNat, count]
      omega
    have fits := framed.decoded.mp (accepts _ produced)
    omega
  · intro fits encoded produced
    obtain ⟨dataLen, framed, short⟩ := produced.lengths
    rw [framed.decoded]
    cases short with
    | inl short => exact short
    | inr start =>
      obtain ⟨command, valid, length⟩ := start
      have count : command.associations.length ≤ maxSa := valid.count
      omega

end ZephyrCcsds.Sdls

namespace ZephyrCcsds.Sdls

/-- As many SAs as the build allows, next to two keys and one event -/
@[reducible] def manySaKconfig : Kconfig where
  maxSa := 255
  maxKeys := 2
  sessionKeyBase := 1
  arsnWindow := 1024
  eventLogCapacity := 1
  ivSeedHigh := 0
  ivSeedLow := 0
  maxSa_range := by decide
  maxKeys_range := by decide
  sessionKeyBase_range := by decide
  arsnWindow_range := defaultKconfig.arsnWindow_range
  eventLogCapacity_range := by decide
  otar_fits := by decide
  verify_fits := by decide

attribute [local instance] manySaKconfig

/-- A Start SA command with twenty-three associations is over the limit of this build. -/
theorem start_sa_over_limit : ¬ AcceptsEncoded := by
  intro accepts
  have produced := EpEncoded.startSa { spi := 1, associations := List.replicate 23 0 } ⟨by decide, by decide⟩
  obtain ⟨pdu, decoded⟩ := accepts _ produced
  have refused : (epPduDecode (epStartSaEncode { spi := 1, associations := List.replicate 23 0 })) =
      .error .capacity := by
    decide +kernel
  rw [refused] at decoded
  cases decoded

end ZephyrCcsds.Sdls
