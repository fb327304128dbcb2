import ZephyrCcsds.Sdls.Context

/-! # Extended Procedure PDUs

The decoders of the commands and the encoders of the replies in `ccsds_sdls_ep.c`.  A tag
has the reply flag in bit 7, the user flag in bit 6, the service group in bits 5 and 4 and
the procedure in the low four bits; the length that follows it counts bits.
-/

namespace ZephyrCcsds.Sdls

variable [Kconfig]

/-- `struct ccsds_sdls_ep_pdu`; the service group goes with the procedure. -/
structure EpPdu where
  data : Bytes
  procedure : Procedure
  type : EpType
  deriving DecidableEq, Repr

def getU16 (bytes : Bytes) (offset : Nat) : Nat := Bytes.getBe (bytes.slice offset 2)

def pduSize (dataLen : Nat) : Nat := epHeaderLen + dataLen

/-- `ccsds_sdls_ep_pdu_decode` -/
def epPduDecode (encoded : Bytes) : Except SdlsError EpPdu :=
  if encoded.length < epHeaderLen then .error .format
  else
    let tag := (encoded.headD 0).toNat
    if tag / 64 % 2 = 1 then .error .unsupported
    else
      let type : EpType := if tag / 128 % 2 = 1 then .reply else .command
      match procedureOf (tag / 16 % 4) (tag % 16) with
      | none => .error .unsupported
      | some procedure =>
        if procedureSupported type procedure = false then .error .unsupported
        else
          let bitLen := getU16 encoded 1
          if bitLen % 8 ≠ 0 then .error .format
          else if encoded.length ≠ pduSize (bitLen / 8) then .error .format
          else if encoded.length > epReplyPduMax ∧ encoded.length > epOtarPduMax then .error .capacity
          else .ok { data := encoded.drop epHeaderLen, procedure, type }

/-- The data field of a PDU that is to be a given procedure, where the decoders start. -/
def epDataDecode (type : EpType) (procedure : Procedure) (encoded : Bytes) : Except SdlsError Bytes :=
  match epPduDecode encoded with
  | .error e => .error e
  | .ok pdu =>
    if pdu.type ≠ type ∨ pdu.procedure ≠ procedure then .error .unsupported else .ok pdu.data

/-! ## Key management commands -/

/-- `struct ccsds_sdls_ep_otar` -/
structure EpOtar where
  encryptedKeyBlocks : Bytes
  iv : Bytes
  tag : Bytes
  masterKeyId : Nat
  keyCount : Nat
  deriving DecidableEq, Repr

/-- `ccsds_sdls_ep_otar_decode` -/
def epOtarDecode (encoded : Bytes) : Except SdlsError EpOtar :=
  match epDataDecode .command .otar encoded with
  | .error e => .error e
  | .ok data =>
    if data.length < 2 + ivLen + tagLen + epOtarBlockLen then .error .format
    else
      let encryptedLen := data.length - 2 - ivLen - tagLen
      if encryptedLen % epOtarBlockLen ≠ 0 then .error .format
      else if encryptedLen / epOtarBlockLen > epMaxOtarKeys then .error .capacity
      else .ok {
        masterKeyId := getU16 data 0
        iv := data.slice 2 ivLen
        encryptedKeyBlocks := data.slice (2 + ivLen) encryptedLen
        tag := data.slice (2 + ivLen + encryptedLen) tagLen
        keyCount := encryptedLen / epOtarBlockLen }

/-- `ccsds_sdls_ep_key_command_decode`: the key IDs of an activation or deactivation -/
def epKeyCommandDecode (procedure : Procedure) (encoded : Bytes) : Except SdlsError (List Nat) :=
  match epDataDecode .command procedure encoded with
  | .error e => .error e
  | .ok data =>
    if data.length = 0 ∨ data.length % 2 ≠ 0 then .error .format
    else if data.length / 2 > epMaxRecipients then .error .capacity
    else .ok ((List.range (data.length / 2)).map fun i => getU16 data (i * 2))

/-- `struct ccsds_sdls_ep_key_inventory_command` -/
structure EpKeyInventoryCommand where
  firstKeyId : Nat
  lastKeyId : Nat
  deriving DecidableEq, Repr

/-- `ccsds_sdls_ep_key_inventory_command_decode` -/
def epKeyInventoryCommandDecode (encoded : Bytes) : Except SdlsError EpKeyInventoryCommand :=
  match epDataDecode .command .keyInventory encoded with
  | .error e => .error e
  | .ok data =>
    if data.length ≠ epKeyInventoryCommandDataLen then .error .format
    else if getU16 data 0 > getU16 data 2 then .error .key
    else .ok { firstKeyId := getU16 data 0, lastKeyId := getU16 data 2 }

/-- `struct ccsds_sdls_ep_verify_command_entry` -/
structure EpVerifyCommandEntry where
  challenge : Bytes
  keyId : Nat
  deriving DecidableEq, Repr

/-- `ccsds_sdls_ep_verify_command_decode` -/
def epVerifyCommandDecode (encoded : Bytes) : Except SdlsError (List EpVerifyCommandEntry) :=
  match epDataDecode .command .keyVerification encoded with
  | .error e => .error e
  | .ok data =>
    if data.length = 0 ∨ data.length % epVerifyCommandEntryLen ≠ 0 then .error .format
    else if data.length / epVerifyCommandEntryLen > epMaxRecipients then .error .capacity
    else .ok ((List.range (data.length / epVerifyCommandEntryLen)).map fun i =>
      { keyId := getU16 data (i * epVerifyCommandEntryLen)
        challenge := data.slice (i * epVerifyCommandEntryLen + 2) epChallengeLen })

/-! ## SA management commands -/

/-- `struct ccsds_sdls_ep_start_sa` -/
structure EpStartSa where
  associations : List UInt32
  spi : Nat
  deriving DecidableEq, Repr

/-- `ccsds_sdls_ep_start_sa_decode` -/
def epStartSaDecode (encoded : Bytes) : Except SdlsError EpStartSa :=
  match epDataDecode .command .startSa encoded with
  | .error e => .error e
  | .ok data =>
    if data.length < 2 ∨ (data.length - 2) % 4 ≠ 0 then .error .format
    else if (data.length - 2) / 4 > epMaxAssociations then .error .capacity
    else .ok {
      spi := getU16 data 0
      associations := (List.range ((data.length - 2) / 4)).map fun i => getU32 data (2 + i * 4) }

/-- `decode_sa_pdu` of a command -/
def decodeSaPdu (procedure : Procedure) (dataLen : Nat) (encoded : Bytes) : Except SdlsError Bytes :=
  match epDataDecode .command procedure encoded with
  | .error e => .error e
  | .ok data => if data.length = dataLen then .ok data else .error .format

/-- `ccsds_sdls_ep_sa_command_decode`: the SPI -/
def epSaCommandDecode (procedure : Procedure) (encoded : Bytes) : Except SdlsError Nat :=
  match decodeSaPdu procedure 2 encoded with
  | .error e => .error e
  | .ok data => .ok (getU16 data 0)

/-- `struct ccsds_sdls_ep_rekey_sa`; an absent ARSN is `has_rx_arsn == false`. -/
structure EpRekeySa where
  rxArsn : Option UInt32
  spi : Nat
  keyId : Nat
  deriving DecidableEq, Repr

/-- `ccsds_sdls_ep_rekey_sa_decode` -/
def epRekeySaDecode (encoded : Bytes) : Except SdlsError EpRekeySa :=
  match epDataDecode .command .rekeySa encoded with
  | .error e => .error e
  | .ok data =>
    if data.length ≠ 4 ∧ data.length ≠ 8 then .error .format
    else .ok {
      spi := getU16 data 0
      keyId := getU16 data 2
      rxArsn := if data.length = 8 then some (getU32 data 4) else none }

/-- An SPI with a 32-bit value: `struct ccsds_sdls_ep_set_arsn` and
`struct ccsds_sdls_ep_set_arsn_window` -/
structure EpSetU32 where
  value : UInt32
  spi : Nat
  deriving DecidableEq, Repr

def epSetU32Decode (procedure : Procedure) (encoded : Bytes) : Except SdlsError EpSetU32 :=
  match decodeSaPdu procedure 6 encoded with
  | .error e => .error e
  | .ok data => .ok { spi := getU16 data 0, value := getU32 data 2 }

/-- `ccsds_sdls_ep_set_arsn_decode` -/
def epSetArsnDecode (encoded : Bytes) : Except SdlsError EpSetU32 := epSetU32Decode .setArsn encoded

/-- `ccsds_sdls_ep_set_arsn_window_decode` -/
def epSetArsnWindowDecode (encoded : Bytes) : Except SdlsError EpSetU32 :=
  epSetU32Decode .setArsnWindow encoded

/-! ## Monitoring commands -/

/-- `decode_empty_monitoring_command` -/
def decodeEmptyMonitoringCommand (procedure : Procedure) (encoded : Bytes) : Except SdlsError Unit :=
  match epDataDecode .command procedure encoded with
  | .error e => .error e
  | .ok data => if data.length = 0 then .ok () else .error .format

/-! ## Replies -/

/-- `encode_header` -/
def encodeHeader (type : EpType) (procedure : Procedure) (dataLen : Nat) : Bytes :=
  let tag := (if type = .reply then 128 else 0) + 16 * procedure.serviceGroup.code + procedure.code
  UInt8.ofNat tag :: Bytes.putBe 2 (dataLen * 8)

/-- `struct ccsds_sdls_ep_key_inventory_entry` -/
structure EpKeyInventoryEntry where
  keyId : Nat
  state : KeyState
  deriving DecidableEq, Repr

/-- The check of `ccsds_sdls_ep_key_inventory_reply_encode` that key IDs ascend -/
def ascending : List EpKeyInventoryEntry → Bool
  | first :: second :: rest => decide (first.keyId < second.keyId) && ascending (second :: rest)
  | _ => true

/-- `ccsds_sdls_ep_key_inventory_reply_encode` -/
def epKeyInventoryReplyEncode (entries : List EpKeyInventoryEntry) (outCapacity : Nat) :
    Except SdlsError Bytes :=
  let dataLen := 2 + entries.length * epKeyInventoryEntryLen
  if entries.length > epMaxRecipients then .error .capacity
  else if outCapacity < pduSize dataLen then .error .capacity
  else if ascending entries = false then .error .format
  else .ok (encodeHeader .reply .keyInventory dataLen ++ Bytes.putBe 2 entries.length ++
    entries.flatMap fun entry => Bytes.putBe 2 entry.keyId ++ [entry.state.code])

/-- `struct ccsds_sdls_ep_verify_reply_entry` -/
structure EpVerifyReplyEntry where
  iv : Bytes
  encryptedChallenge : Bytes
  tag : Bytes
  keyId : Nat
  deriving DecidableEq, Repr

/-- `ccsds_sdls_ep_verify_reply_encode` -/
def epVerifyReplyEncode (entries : List EpVerifyReplyEntry) : Bytes :=
  encodeHeader .reply .keyVerification (entries.length * epVerifyReplyEntryLen) ++
    entries.flatMap fun entry =>
      Bytes.putBe 2 entry.keyId ++ entry.iv ++ entry.encryptedChallenge ++ entry.tag

/-- `ccsds_sdls_ep_read_arsn_reply_encode` -/
def epReadArsnReplyEncode (spi : Nat) (arsn : UInt32) : Bytes :=
  encodeHeader .reply .readArsn 6 ++ Bytes.putBe 2 spi ++ Bytes.putBe 4 arsn.toNat

/-- `ccsds_sdls_ep_sa_status_reply_encode` -/
def epSaStatusReplyEncode (spi : Nat) (lastProcedure : UInt8) : Bytes :=
  encodeHeader .reply .saStatus 3 ++ Bytes.putBe 2 spi ++ [lastProcedure]

/-- `encode_log_summary` -/
def encodeLogSummary (procedure : Procedure) (retained remaining : Nat) : Bytes :=
  encodeHeader .reply procedure 4 ++ Bytes.putBe 2 retained ++ Bytes.putBe 2 remaining

/-- One event of a Dump Log reply -/
def Event.encode (event : Event) : Bytes :=
  event.pduOrEventTag :: Bytes.putBe 2 eventValueLen ++
    (UInt8.ofNat event.eventCode :: Bytes.putBe 2 event.spi ++ Bytes.putBe 4 event.arsn.toNat)

/-- `ccsds_sdls_ep_dump_log_reply_encode` -/
def epDumpLogReplyEncode (ctx : Ctx) (outCapacity : Nat) : Except SdlsError Bytes :=
  let dataLen := ctx.log.count * eventWireLen
  if outCapacity < pduSize dataLen then .error .capacity
  else .ok (encodeHeader .reply .dumpLog dataLen ++
    (List.range ctx.log.count).flatMap fun i =>
      (ctx.log.events (logIndex (ctx.log.readIndex.val + i))).encode)

end ZephyrCcsds.Sdls
