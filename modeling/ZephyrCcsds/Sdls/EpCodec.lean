import ZephyrCcsds.Records
import ZephyrCcsds.Sdls.EpPdu

/-! # The codec of the Extended Procedure PDUs

The encoders of the commands and the decoders of the replies, which the module itself does not call, and
each encoder against its decoder.  A format is exact when the decoder returns what was encoded and accepts
nothing but encodings.  The header decides most of it once for all formats: what is left for a format is
its data field.
-/

namespace ZephyrCcsds.Sdls

open Bytes Records

variable [Kconfig]

/-! ## Encoders of the commands -/

/-- `ccsds_sdls_ep_otar_encode` -/
def epOtarEncode (otar : EpOtar) : Bytes :=
  let clearLen := otar.keyCount * epOtarBlockLen
  let dataLen := 2 + ivLen + clearLen + tagLen
  encodeHeader .command .otar dataLen ++ putBe 2 otar.masterKeyId ++ otar.iv ++
    otar.encryptedKeyBlocks.take clearLen ++ otar.tag

/-- `ccsds_sdls_ep_key_command_encode` -/
def epKeyCommandEncode (procedure : Procedure) (keyIds : List Nat) : Bytes :=
  encodeHeader .command procedure (keyIds.length * 2) ++ keyIds.flatMap (putBe 2)

/-- `ccsds_sdls_ep_key_inventory_command_encode` -/
def epKeyInventoryCommandEncode (command : EpKeyInventoryCommand) : Bytes :=
  encodeHeader .command .keyInventory epKeyInventoryCommandDataLen ++ putBe 2 command.firstKeyId ++
    putBe 2 command.lastKeyId

/-- `ccsds_sdls_ep_verify_command_encode` -/
def epVerifyCommandEncode (entries : List EpVerifyCommandEntry) : Bytes :=
  encodeHeader .command .keyVerification (entries.length * epVerifyCommandEntryLen) ++
    entries.flatMap fun entry => putBe 2 entry.keyId ++ entry.challenge

/-- `ccsds_sdls_ep_start_sa_encode` -/
def epStartSaEncode (command : EpStartSa) : Bytes :=
  encodeHeader .command .startSa (2 + 4 * command.associations.length) ++ putBe 2 command.spi ++
    command.associations.flatMap fun association => putBe 4 association.toNat

/-- `ccsds_sdls_ep_sa_command_encode` -/
def epSaCommandEncode (procedure : Procedure) (spi : Nat) : Bytes :=
  encodeHeader .command procedure 2 ++ putBe 2 spi

/-- `ccsds_sdls_ep_rekey_sa_encode` -/
def epRekeySaEncode (command : EpRekeySa) : Bytes :=
  let dataLen := if command.rxArsn.isSome then 8 else 4
  encodeHeader .command .rekeySa dataLen ++ putBe 2 command.spi ++ putBe 2 command.keyId ++
    match command.rxArsn with
    | some rxArsn => putBe 4 rxArsn.toNat
    | none => []

/-- `set_u32_encode` -/
def setU32Encode (procedure : Procedure) (spi : Nat) (value : UInt32) : Bytes :=
  encodeHeader .command procedure 6 ++ putBe 2 spi ++ putBe 4 value.toNat

/-- `ccsds_sdls_ep_set_arsn_encode` -/
def epSetArsnEncode (command : EpSetU32) : Bytes := setU32Encode .setArsn command.spi command.value

/-- `ccsds_sdls_ep_set_arsn_window_encode` -/
def epSetArsnWindowEncode (command : EpSetU32) : Bytes := setU32Encode .setArsnWindow command.spi command.value

/-! ## Decoders of the replies -/

/-- The key states that the inventory decoder lets through -/
def KeyState.ofCode (code : UInt8) : Option KeyState :=
  if code = 0 then some .preActive
  else if code = 1 then some .active
  else if code = 2 then some .deactivated
  else none

/-- The loop of `ccsds_sdls_ep_key_inventory_reply_decode` from one entry on, with the key ID before it -/
def inventoryEntries (data : Bytes) : (remaining i : Nat) → (previous : Option Nat) →
    Except SdlsError (List EpKeyInventoryEntry)
  | 0, _, _ => .ok []
  | remaining + 1, i, previous =>
    let offset := 2 + i * epKeyInventoryEntryLen
    let keyId := getU16 data offset
    match KeyState.ofCode (data.getD (offset + 2) 0) with
    | none => .error .format
    | some state =>
      if previous.any (fun before => decide (keyId ≤ before)) then .error .format
      else
        match inventoryEntries data remaining (i + 1) (some keyId) with
        | .error e => .error e
        | .ok entries => .ok ({ keyId, state } :: entries)

/-- `ccsds_sdls_ep_key_inventory_reply_decode` -/
def epKeyInventoryReplyDecode (encoded : Bytes) : Except SdlsError (List EpKeyInventoryEntry) :=
  match epDataDecode .reply .keyInventory encoded with
  | .error e => .error e
  | .ok data =>
    if data.length < 2 then .error .format
    else
      let keyCount := getU16 data 0
      if keyCount > epMaxRecipients then .error .capacity
      else if data.length ≠ 2 + keyCount * epKeyInventoryEntryLen then .error .format
      else inventoryEntries data keyCount 0 none

/-- `ccsds_sdls_ep_verify_reply_decode` -/
def epVerifyReplyDecode (encoded : Bytes) : Except SdlsError (List EpVerifyReplyEntry) :=
  match epDataDecode .reply .keyVerification encoded with
  | .error e => .error e
  | .ok data =>
    if data.length = 0 ∨ data.length % epVerifyReplyEntryLen ≠ 0 then .error .format
    else if data.length / epVerifyReplyEntryLen > epMaxRecipients then .error .capacity
    else .ok ((List.range (data.length / epVerifyReplyEntryLen)).map fun i =>
      let offset := i * epVerifyReplyEntryLen
      { keyId := getU16 data offset
        iv := data.slice (offset + 2) ivLen
        encryptedChallenge := data.slice (offset + 2 + ivLen) epChallengeLen
        tag := data.slice (offset + 2 + ivLen + epChallengeLen) tagLen })

/-- `decode_sa_pdu` of a reply -/
def decodeSaReply (procedure : Procedure) (dataLen : Nat) (encoded : Bytes) : Except SdlsError Bytes :=
  match epDataDecode .reply procedure encoded with
  | .error e => .error e
  | .ok data => if data.length = dataLen then .ok data else .error .format

/-- `struct ccsds_sdls_ep_read_arsn_reply` -/
structure EpReadArsnReply where
  arsn : UInt32
  spi : Nat
  deriving DecidableEq, Repr

/-- `ccsds_sdls_ep_read_arsn_reply_decode` -/
def epReadArsnReplyDecode (encoded : Bytes) : Except SdlsError EpReadArsnReply :=
  match decodeSaReply .readArsn 6 encoded with
  | .error e => .error e
  | .ok data => .ok { spi := getU16 data 0, arsn := getU32 data 2 }

/-- `struct ccsds_sdls_ep_sa_status_reply` -/
structure EpSaStatusReply where
  spi : Nat
  lastProcedure : UInt8
  deriving DecidableEq, Repr

/-- `ccsds_sdls_ep_sa_status_reply_decode` -/
def epSaStatusReplyDecode (encoded : Bytes) : Except SdlsError EpSaStatusReply :=
  match decodeSaReply .saStatus 3 encoded with
  | .error e => .error e
  | .ok data => .ok { spi := getU16 data 0, lastProcedure := data.getD 2 0 }

/-! ## Formats -/

/-- A kind of PDU: what an encoder makes of a value that it accepts, and the decoder -/
structure EpFormat (α : Type) where
  type : EpType
  procedure : Procedure
  Encodes : α → Bytes → Prop
  decode : Bytes → Except SdlsError α

/-- The length that `ccsds_sdls_ep_pdu_decode` lets through -/
def epPduMax : Nat := max epReplyPduMax epOtarPduMax

/-- The decoder refuses the octets. -/
def EpFormat.Refuses {α : Type} (format : EpFormat α) (encoded : Bytes) : Prop :=
  ∃ e, format.decode encoded = .error e

/-- The decoder undoes the encoder and accepts nothing else. -/
structure EpFormat.Exact {α : Type} (format : EpFormat α) : Prop where
  decodes : ∀ value encoded, format.Encodes value encoded → encoded.length ≤ epPduMax →
    format.decode encoded = .ok value
  encodes : ∀ encoded value, format.decode encoded = .ok value → format.Encodes value encoded
  truncated : ∀ value encoded, format.Encodes value encoded → ∀ n < encoded.length,
    format.Refuses (encoded.take n)
  extended : ∀ value encoded, format.Encodes value encoded → ∀ extra ≠ [], format.Refuses (encoded ++ extra)
  nonOctet : ∀ encoded : Bytes, getU16 encoded 1 % 8 ≠ 0 → format.Refuses encoded
  userTagged : ∀ encoded : Bytes, (encoded.headD 0).toNat / 64 % 2 = 1 → format.Refuses encoded
  otherProcedure : ∀ encoded : Bytes,
    encoded.headD 0 ≠ (encodeHeader format.type format.procedure 0).headD 0 → format.Refuses encoded

/-! ### The header -/

section Header

variable {type : EpType} {procedure : Procedure}

omit [Kconfig] in
theorem encodeHeader_length (type : EpType) (procedure : Procedure) (dataLen : Nat) : (encodeHeader type procedure dataLen).length = epHeaderLen := by
  simp [encodeHeader, epHeaderLen]

omit [Kconfig] in
theorem tag_fields (type : EpType) (procedure : Procedure) :
    let tag := ((encodeHeader type procedure 0).headD 0).toNat
    tag / 64 % 2 = 0 ∧ (tag / 128 % 2 = 1 ↔ type = .reply) ∧
      procedureOf (tag / 16 % 4) (tag % 16) = some procedure := by
  cases type <;> cases procedure <;> decide

omit [Kconfig] in
/-- A tag that the header parser takes apart is the tag of what it finds. -/
theorem tag_of_fields (tag : UInt8) (user : tag.toNat / 64 % 2 ≠ 1)
    (known : procedureOf (tag.toNat / 16 % 4) (tag.toNat % 16) = some procedure) :
    tag = (encodeHeader (if tag.toNat / 128 % 2 = 1 then .reply else .command) procedure 0).headD 0 := by
  have all : ∀ code < 256, code / 64 % 2 ≠ 1 →
      (procedureOf (code / 16 % 4) (code % 16)).all (fun procedure => decide (UInt8.ofNat code =
        (encodeHeader (if code / 128 % 2 = 1 then .reply else .command) procedure 0).headD 0)) = true := by
    decide +kernel
  have found := all tag.toNat tag.toNat_lt user
  rw [known, UInt8.ofNat_toNat] at found
  exact of_decide_eq_true found

omit [Kconfig] in
theorem tag_of_len (dataLen : Nat) (rest : Bytes) :
    (encodeHeader type procedure dataLen ++ rest).headD 0 = (encodeHeader type procedure 0).headD 0 := rfl

omit [Kconfig] in
theorem bitLen_of_len (dataLen : Nat) (rest : Bytes) (small : dataLen * 8 < 65536) :
    getU16 (encodeHeader type procedure dataLen ++ rest) 1 = dataLen * 8 := by
  have field : getU16 (encodeHeader type procedure dataLen ++ rest) 1 = getBe (putBe 2 (dataLen * 8)) := rfl
  rw [field, getBe_putBe_of_lt small]

/-- The header parser takes off what `encode_header` has put on. -/
theorem epDataDecode_encodeHeader (data : Bytes) (supported : procedureSupported type procedure = true)
    (small : data.length * 8 < 65536)
    (fits : (encodeHeader type procedure data.length ++ data).length ≤ epPduMax) :
    epDataDecode type procedure (encodeHeader type procedure data.length ++ data) = .ok data := by
  obtain ⟨user, reply, known⟩ := tag_fields type procedure
  rw [← tag_of_len data.length data] at user reply known
  have length : (encodeHeader type procedure data.length ++ data).length = epHeaderLen + data.length := by
    rw [List.length_append, encodeHeader_length]
  have behind : (encodeHeader type procedure data.length ++ data).drop epHeaderLen = data := by
    have header := encodeHeader_length type procedure data.length
    rw [← header]
    exact List.drop_left
  have decoded : epPduDecode (encodeHeader type procedure data.length ++ data) =
      .ok { data, procedure, type } := by
    have kind : (if ((encodeHeader type procedure data.length ++ data).headD 0).toNat / 128 % 2 = 1 then
        EpType.reply else .command) = type := by
      cases type with
      | command => rw [if_neg (by rw [reply]; simp)]
      | reply => rw [if_pos (reply.mpr rfl)]
    have room : ¬ (epHeaderLen + data.length > epReplyPduMax ∧ epHeaderLen + data.length > epOtarPduMax) := by
      rw [length, epPduMax] at fits
      omega
    unfold epPduDecode
    simp only [bitLen_of_len _ _ small, length, behind, known, user, Nat.mul_mod_left,
      Nat.mul_div_cancel _ (show 0 < 8 by decide), pduSize, room, Nat.zero_ne_one, ne_eq, not_true_eq_false,
      if_false]
    rw [if_neg (by omega), kind, if_neg (by rw [supported]; simp)]
  rw [epDataDecode, decoded]
  simp

/-- What the header parser has let through is a header with a data field. -/
theorem encodeHeader_of_epDataDecode {encoded data : Bytes} (decoded : epDataDecode type procedure encoded = .ok data) :
    encoded = encodeHeader type procedure data.length ++ data ∧ data.length * 8 < 65536 ∧
      procedureSupported type procedure = true ∧ encoded.length ≤ epPduMax := by
  unfold epDataDecode at decoded
  cases parsed : epPduDecode encoded with
  | error e =>
    rw [parsed] at decoded
    cases decoded
  | ok pdu =>
    simp only [parsed] at decoded
    split_ifs at decoded with other
    rw [not_or, not_not, not_not] at other
    obtain ⟨rfl, rfl⟩ := other
    cases decoded
    unfold epPduDecode at parsed
    by_cases short : encoded.length < epHeaderLen
    · rw [if_pos short] at parsed
      cases parsed
    rw [if_neg short] at parsed
    dsimp only at parsed
    by_cases user : (encoded.headD 0).toNat / 64 % 2 = 1
    · rw [if_pos user] at parsed
      cases parsed
    rw [if_neg user] at parsed
    cases known : procedureOf ((encoded.headD 0).toNat / 16 % 4) ((encoded.headD 0).toNat % 16) with
    | none =>
      rw [known] at parsed
      cases parsed
    | some found =>
      simp only [known] at parsed
      have tag := tag_of_fields (encoded.headD 0) user known
      generalize (if (encoded.headD 0).toNat / 128 % 2 = 1 then EpType.reply else .command) = type at parsed tag
      split_ifs at parsed with unsupported octets length long
      cases parsed
      rw [not_not] at octets length
      dsimp only
      have field : (slice encoded 1 2).length = 2 := by
        apply slice_length_of_le
        unfold epHeaderLen at short
        omega
      have bound := getBe_lt (slice encoded 1 2)
      have back := putBe_getBe (slice encoded 1 2)
      rw [field] at bound back
      have size : (encoded.drop epHeaderLen).length * 8 = getU16 encoded 1 := by
        rw [List.length_drop, length, pduSize]
        omega
      have whole : encoded = encoded.headD 0 :: (slice encoded 1 2 ++ encoded.drop epHeaderLen) := by
        cases encoded with
        | nil => exact absurd (Nat.zero_lt_succ 2) short
        | cons first rest =>
          show first :: rest = first :: (rest.take 2 ++ rest.drop 2)
          rw [List.take_append_drop]
      refine ⟨?_, ?_, Bool.eq_true_of_not_eq_false unsupported, ?_⟩
      · rw [encodeHeader, size]
        have front : putBe 2 (getU16 encoded 1) = slice encoded 1 2 := back
        have first : UInt8.ofNat ((if type = .reply then 128 else 0) + 16 * found.serviceGroup.code +
            found.code) = encoded.headD 0 := tag.symm
        rw [front, first]
        exact whole
      · rw [size]
        exact bound
      · rw [epPduMax]
        omega

/-- The header parser lets nothing through that is not a whole number of octets, is meant for a user, or
names another procedure. -/
theorem epDataDecode_header {encoded data : Bytes} (decoded : epDataDecode type procedure encoded = .ok data) :
    getU16 encoded 1 = data.length * 8 ∧ (encoded.headD 0).toNat / 64 % 2 = 0 ∧
      encoded.headD 0 = (encodeHeader type procedure 0).headD 0 := by
  obtain ⟨whole, small, -⟩ := encodeHeader_of_epDataDecode decoded
  rw [whole]
  exact ⟨bitLen_of_len _ _ small, (tag_fields type procedure).1, rfl⟩

end Header

/-! ### From the data field to the format -/

section Data

variable {α : Type} {format : EpFormat α}

/-- What is left to say of a format: its encodings are a header with certain data, and its decoder looks at the
data behind the header. -/
structure EpFormat.DataField (format : EpFormat α) (EncodesData : α → Bytes → Prop)
    (decodeData : Bytes → Except SdlsError α) : Prop where
  supported : procedureSupported format.type format.procedure = true
  encodes_iff : ∀ value encoded, format.Encodes value encoded ↔ ∃ data, EncodesData value data ∧
    encoded = encodeHeader format.type format.procedure data.length ++ data
  small : ∀ value data, EncodesData value data → data.length * 8 < 65536
  decode_eq : ∀ encoded, format.decode encoded =
    (epDataDecode format.type format.procedure encoded).bind decodeData
  decodesData : ∀ value data, EncodesData value data → decodeData data = .ok value
  encodesData : ∀ value data, decodeData data = .ok value → EncodesData value data

variable {EncodesData : α → Bytes → Prop} {decodeData : Bytes → Except SdlsError α}

/-- What the decoder accepts has passed the header parser. -/
theorem EpFormat.DataField.accepted (field : format.DataField EncodesData decodeData) {encoded : Bytes}
    {value : α} (decoded : format.decode encoded = .ok value) :
    ∃ data, epDataDecode format.type format.procedure encoded = .ok data ∧ decodeData data = .ok value := by
  rw [field.decode_eq] at decoded
  cases parsed : epDataDecode format.type format.procedure encoded with
  | error e =>
    rw [parsed] at decoded
    cases decoded
  | ok data =>
    rw [parsed] at decoded
    exact ⟨data, rfl, decoded⟩

/-- Octets are refused when they would have to be an encoding that they are not. -/
theorem EpFormat.DataField.refuses (field : format.DataField EncodesData decodeData) {encoded : Bytes}
    (wrong : ∀ data, epDataDecode format.type format.procedure encoded ≠ .ok data) : format.Refuses encoded := by
  cases decoded : format.decode encoded with
  | error e => exact ⟨e, decoded⟩
  | ok value =>
    obtain ⟨data, parsed, -⟩ := field.accepted decoded
    exact absurd parsed (wrong data)

/-- The length in the header says how long the encoding is. -/
theorem EpFormat.DataField.length_eq (field : format.DataField EncodesData decodeData) {value : α}
    {encoded octets data : Bytes} (encodes : format.Encodes value encoded)
    (same : getU16 octets 1 = getU16 encoded 1)
    (parsed : epDataDecode format.type format.procedure octets = .ok data) : octets.length = encoded.length := by
  obtain ⟨data', encodesData, rfl⟩ := (field.encodes_iff value encoded).mp encodes
  obtain ⟨whole, -⟩ := encodeHeader_of_epDataDecode parsed
  have bits := (epDataDecode_header parsed).1
  rw [same, bitLen_of_len _ _ (field.small value data' encodesData)] at bits
  have total := congrArg List.length whole
  rw [List.length_append, encodeHeader_length] at total ⊢
  omega

omit [Kconfig] in
theorem getU16_take (octets : Bytes) (n : Nat) (inside : 3 ≤ n) : getU16 (octets.take n) 1 = getU16 octets 1 := by
  rw [getU16, getU16, slice, slice, List.drop_take, List.take_take, Nat.min_eq_left (by omega)]

omit [Kconfig] in
theorem getU16_append (octets rest : Bytes) (inside : 3 ≤ octets.length) :
    getU16 (octets ++ rest) 1 = getU16 octets 1 := by
  rw [getU16, getU16, slice, slice, List.drop_append_of_le_length (by omega),
    List.take_append_of_le_length (by rw [List.length_drop]; omega)]

theorem EpFormat.DataField.exact (field : format.DataField EncodesData decodeData) : format.Exact := by
  have long : ∀ {value encoded}, format.Encodes value encoded → epHeaderLen ≤ encoded.length := by
    intro value encoded encodes
    obtain ⟨data, -, rfl⟩ := (field.encodes_iff value encoded).mp encodes
    rw [List.length_append, encodeHeader_length]
    exact Nat.le_add_right _ _
  constructor
  case decodes =>
    intro value encoded encodes fits
    obtain ⟨data, encodesData, rfl⟩ := (field.encodes_iff value encoded).mp encodes
    rw [field.decode_eq, epDataDecode_encodeHeader data field.supported (field.small value data encodesData) fits]
    exact field.decodesData value data encodesData
  case encodes =>
    intro encoded value decoded
    obtain ⟨data, parsed, decodedData⟩ := field.accepted decoded
    obtain ⟨whole, -⟩ := encodeHeader_of_epDataDecode parsed
    exact (field.encodes_iff value encoded).mpr ⟨data, field.encodesData value data decodedData, whole⟩
  case truncated =>
    intro value encoded encodes n shorter
    apply field.refuses
    intro data parsed
    have header := (encodeHeader_of_epDataDecode parsed).1
    have room := congrArg List.length header
    rw [List.length_take, List.length_append, encodeHeader_length, epHeaderLen] at room
    have same := field.length_eq encodes (getU16_take encoded n (by omega)) parsed
    rw [List.length_take] at same
    omega
  case extended =>
    intro value encoded encodes extra some
    apply field.refuses
    intro data parsed
    have same := field.length_eq encodes (getU16_append encoded extra (long encodes)) parsed
    have positive := List.length_pos_of_ne_nil some
    rw [List.length_append] at same
    omega
  case nonOctet =>
    intro encoded odd
    apply field.refuses
    intro data parsed
    apply odd
    rw [(epDataDecode_header parsed).1, Nat.mul_mod_left]
  case userTagged =>
    intro encoded user
    apply field.refuses
    intro data parsed
    rw [(epDataDecode_header parsed).2.1] at user
    cases user
  case otherProcedure =>
    intro encoded other
    apply field.refuses
    intro data parsed
    exact other (epDataDecode_header parsed).2.2

end Data

end ZephyrCcsds.Sdls
