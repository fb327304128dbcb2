import ZephyrCcsds.Sdls.EpCodec

/-! # Every format is exact

The data fields of the fifteen Extended Procedure PDUs, each against its decoder.  A field that is written
is read back, and the fields that are read make up the data again.
-/

namespace ZephyrCcsds.Sdls

open Bytes Records

/-! ## Fields -/

section Fields

variable {data : Bytes} {offset : Nat}

theorem putBe_getU16 (inside : offset + 2 ≤ data.length) : putBe 2 (getU16 data offset) = slice data offset 2 := by
  have back := putBe_getBe (slice data offset 2)
  rwa [slice_length_of_le inside] at back

theorem putBe_getU32 (inside : offset + 4 ≤ data.length) :
    putBe 4 (getU32 data offset).toNat = slice data offset 4 := by
  have back := putBe_getBe (slice data offset 4)
  have bound := getBe_lt (slice data offset 4)
  rw [slice_length_of_le inside] at back bound
  rw [getU32, UInt32.toNat_ofNat_of_lt' bound, back]

theorem getU32_putBe (value : UInt32) : UInt32.ofNat (getBe (putBe 4 value.toNat)) = value := by
  rw [getBe_putBe_of_lt value.toNat_lt, UInt32.ofNat_toNat]

theorem getU16_lt (data : Bytes) (offset : Nat) : getU16 data offset < 65536 := by
  have bound := getBe_lt (slice data offset 2)
  have width := slice_length data offset 2
  have power : 256 ^ (slice data offset 2).length ≤ 256 ^ 2 := Nat.pow_le_pow_right (by decide) (by omega)
  exact lt_of_lt_of_le bound power

/-- Two fields, one behind the other, are one. -/
theorem slice_join (data : Bytes) (offset first second : Nat) :
    slice data offset first ++ slice data (offset + first) second = slice data offset (first + second) := by
  rw [slice, slice, slice, ← List.drop_drop, List.take_add]

/-- A field between others -/
theorem slice_field (front field back : Bytes) :
    slice (front ++ (field ++ back)) front.length field.length = field := by
  rw [slice_append_right _ (Nat.le_refl _), Nat.sub_self, slice_append_left]

/-- A field at the end -/
theorem slice_last (front field : Bytes) : slice (front ++ field) front.length field.length = field := by
  have found := slice_field front field []
  rwa [List.append_nil] at found

theorem getU16_first {value : Nat} (bound : value < 65536) (rest : Bytes) :
    getU16 (putBe 2 value ++ rest) 0 = value := by
  have field : getU16 (putBe 2 value ++ rest) 0 = getBe (putBe 2 value) := rfl
  rw [field, getBe_putBe_of_lt bound]

theorem slice_of_drop (data : Bytes) (front offset len : Nat) :
    slice (data.drop front) offset len = slice data (front + offset) len := by
  rw [slice, slice, List.drop_drop]

theorem slice_all (data : Bytes) : slice data 0 data.length = data := by
  rw [slice, List.drop_zero, List.take_length]

end Fields

variable [Kconfig]

/-- A format whose encoder is a total function on the values that it accepts -/
def EpFormat.total {α : Type} (type : EpType) (procedure : Procedure) (Valid : α → Prop) (encode : α → Bytes)
    (decode : Bytes → Except SdlsError α) : EpFormat α where
  type
  procedure
  Encodes value encoded := Valid value ∧ encoded = encode value
  decode

/-- The rest of the proof that a format is exact, once its data field is known -/
theorem EpFormat.total_exact {α : Type} {type : EpType} {procedure : Procedure} {Valid : α → Prop}
    {encode : α → Bytes} {decode : Bytes → Except SdlsError α} (put : α → Bytes)
    (decodeData : Bytes → Except SdlsError α) (supported : procedureSupported type procedure = true)
    (split : ∀ value, Valid value → encode value = encodeHeader type procedure (put value).length ++ put value)
    (small : ∀ value, Valid value → (put value).length * 8 < 65536)
    (decode_eq : ∀ encoded, decode encoded = (epDataDecode type procedure encoded).bind decodeData)
    (decodes : ∀ value, Valid value → decodeData (put value) = .ok value)
    (encodes : ∀ value data, decodeData data = .ok value → Valid value ∧ data = put value) :
    (EpFormat.total type procedure Valid encode decode).Exact := by
  apply @EpFormat.DataField.exact _ _ _ (fun value data => Valid value ∧ data = put value) decodeData
  constructor
  case supported => exact supported
  case encodes_iff =>
    intro value encoded
    constructor
    · intro encodes
      exact ⟨put value, ⟨encodes.1, rfl⟩, encodes.2.trans (split value encodes.1)⟩
    · intro found
      obtain ⟨data, ⟨valid, rfl⟩, whole⟩ := found
      exact ⟨valid, whole.trans (split value valid).symm⟩
  case small =>
    intro value data encodes
    rw [encodes.2]
    exact small value encodes.1
  case decode_eq => exact decode_eq
  case decodesData =>
    intro value data encodes
    rw [encodes.2]
    exact decodes value encodes.1
  case encodesData => exact encodes

/-- A list that fills the data field with records of one size -/
structure Rows {α : Type} (ValidRow : α → Prop) (rows : List α) : Prop where
  some : 0 < rows.length
  count : rows.length ≤ epMaxRecipients
  each : ∀ row ∈ rows, ValidRow row

/-- The formats that are rows of records: it is enough to look at one record. -/
theorem EpFormat.rows_exact {α : Type} {type : EpType} {procedure : Procedure} {ValidRow : α → Prop}
    {encode : List α → Bytes} {decode : Bytes → Except SdlsError (List α)} (put : α → Bytes) (get : Bytes → α)
    (size : Nat) (positive : 0 < size) (narrow : size ≤ epVerifyReplyEntryLen)
    (supported : procedureSupported type procedure = true)
    (encode_eq : ∀ rows, encode rows = encodeHeader type procedure (rows.length * size) ++ rows.flatMap put)
    (decode_eq : ∀ encoded, decode encoded = (epDataDecode type procedure encoded).bind fun data =>
      if data.length = 0 ∨ data.length % size ≠ 0 then .error .format
      else if data.length / size > epMaxRecipients then .error .capacity
      else .ok ((List.range (data.length / size)).map fun i => get (slice data (i * size) size)))
    (width : ∀ row, ValidRow row → (put row).length = size)
    (back : ∀ row, ValidRow row → get (put row) = row)
    (forth : ∀ record : Bytes, record.length = size → ValidRow (get record) ∧ put (get record) = record) :
    (EpFormat.total type procedure (Rows ValidRow) encode decode).Exact := by
  have limit := Kconfig.verify_fits
  have sized : ∀ rows : List α, Rows ValidRow rows → (rows.flatMap put).length = rows.length * size := by
    intro rows valid
    exact flatMap_length rows fun row member => width row (valid.each row member)
  apply EpFormat.total_exact (fun rows : List α => rows.flatMap put) _ supported ?split ?small decode_eq
  case split =>
    intro rows valid
    rw [encode_eq, sized rows valid]
  case small =>
    intro rows valid
    have most : rows.length * size ≤ maxKeys * 46 := Nat.mul_le_mul valid.count narrow
    rw [sized rows valid]
    omega
  case decodes =>
    intro rows valid
    have read := @read_written _ put get size rows (fun row member => width row (valid.each row member))
      (fun row member => back row (valid.each row member))
    have atLeast : size ≤ rows.length * size := Nat.le_mul_of_pos_left _ valid.some
    have count := valid.count
    rw [sized rows valid, if_neg (by rw [Nat.mul_mod_left]; omega), Nat.mul_div_cancel _ positive,
      if_neg (by omega), read]
  case encodes =>
    intro rows data decoded
    split_ifs at decoded with ragged many
    rw [not_or, not_not] at ragged
    have whole := Nat.div_mul_cancel (Nat.dvd_of_mod_eq_zero ragged.2)
    have some : 0 < data.length / size := by
      apply Nat.pos_of_ne_zero
      intro none
      rw [none, Nat.zero_mul] at whole
      omega
    cases decoded
    constructor
    · constructor
      case some => rwa [List.length_map, List.length_range]
      case count =>
        rw [List.length_map, List.length_range]
        exact not_lt.mp many
      case each =>
        intro row member
        obtain ⟨i, inside, rfl⟩ := List.mem_map.mp member
        rw [List.mem_range] at inside
        have room : (i + 1) * size ≤ data.length := by
          rw [← whole]
          exact Nat.mul_le_mul_right _ inside
        rw [Nat.add_mul, Nat.one_mul] at room
        exact (forth _ (slice_length_of_le room)).1
    · have written := @written_read _ put get size data (data.length / size) whole.symm
        (fun record length => (forth record length).2)
      exact written.symm

/-! ## Key management -/

/-- What the encoder asserts, and the sizes of the arrays -/
structure EpOtar.Valid (otar : EpOtar) : Prop where
  some : 0 < otar.keyCount
  count : otar.keyCount ≤ epMaxOtarKeys
  blocks : otar.encryptedKeyBlocks.length = otar.keyCount * epOtarBlockLen
  iv : otar.iv.length = ivLen
  tag : otar.tag.length = tagLen
  master : otar.masterKeyId < 65536

def otarFormat : EpFormat EpOtar := .total .command .otar EpOtar.Valid epOtarEncode epOtarDecode

theorem otarFormat_exact : otarFormat.Exact := by
  have limit := Kconfig.otar_fits
  apply EpFormat.total_exact (fun otar : EpOtar => putBe 2 otar.masterKeyId ++ (otar.iv ++
      (otar.encryptedKeyBlocks ++ otar.tag)))
    (fun data =>
      if data.length < 2 + ivLen + tagLen + epOtarBlockLen then .error .format
      else
        let encryptedLen := data.length - 2 - ivLen - tagLen
        if encryptedLen % epOtarBlockLen ≠ 0 then .error .format
        else if encryptedLen / epOtarBlockLen > epMaxOtarKeys then .error .capacity
        else .ok {
          masterKeyId := getU16 data 0
          iv := data.slice 2 ivLen
          encryptedKeyBlocks := data.slice (2 + ivLen) encryptedLen
          tag := data.slice (2 + ivLen + encryptedLen) tagLen
          keyCount := encryptedLen / epOtarBlockLen }) rfl
  case split =>
    intro otar valid
    rw [epOtarEncode, ← valid.blocks, List.take_length]
    simp only [List.length_append, putBe_length, valid.iv, valid.tag, List.append_assoc, Nat.add_assoc]
  case small =>
    intro otar valid
    have count := valid.count
    simp only [List.length_append, putBe_length, valid.iv, valid.tag, valid.blocks]
    unfold epMaxOtarKeys at count
    unfold ivLen tagLen epOtarBlockLen epKeyLen
    omega
  case decode_eq =>
    intro encoded
    unfold epOtarDecode
    cases epDataDecode .command .otar encoded <;> rfl
  case decodes =>
    intro otar valid
    obtain ⟨some, count, blocks, iv, tag, master⟩ := valid
    have key := getU16_first master (otar.iv ++ (otar.encryptedKeyBlocks ++ otar.tag))
    have ivField := slice_field (putBe 2 otar.masterKeyId) otar.iv (otar.encryptedKeyBlocks ++ otar.tag)
    have blocksField := slice_field (putBe 2 otar.masterKeyId ++ otar.iv) otar.encryptedKeyBlocks otar.tag
    have tagField := slice_last (putBe 2 otar.masterKeyId ++ otar.iv ++ otar.encryptedKeyBlocks) otar.tag
    simp only [List.length_append, putBe_length, List.append_assoc, iv, tag, blocks] at ivField blocksField tagField
    rw [← Nat.add_assoc] at tagField
    have total : (putBe 2 otar.masterKeyId ++ (otar.iv ++ (otar.encryptedKeyBlocks ++ otar.tag))).length =
        2 + ivLen + otar.keyCount * epOtarBlockLen + tagLen := by
      simp only [List.length_append, putBe_length, iv, tag, blocks]
      omega
    have encrypted : 2 + ivLen + otar.keyCount * epOtarBlockLen + tagLen - 2 - ivLen - tagLen =
        otar.keyCount * epOtarBlockLen := by omega
    have positive : 0 < epOtarBlockLen := by decide
    have atLeast : epOtarBlockLen ≤ otar.keyCount * epOtarBlockLen := Nat.le_mul_of_pos_left _ some
    dsimp only
    rw [total, encrypted, if_neg (by omega), if_neg (by rw [Nat.mul_mod_left]; decide),
      Nat.mul_div_cancel _ positive, if_neg (by omega), key, ivField, blocksField, tagField]
  case encodes =>
    intro otar data decoded
    dsimp only at decoded
    split_ifs at decoded with short ragged many
    rw [not_not] at ragged
    have positive : 0 < epOtarBlockLen := by decide
    have count := Nat.div_mul_cancel (Nat.dvd_of_mod_eq_zero ragged)
    have atLeast : epOtarBlockLen ≤ data.length - 2 - ivLen - tagLen := by omega
    cases decoded
    constructor
    · constructor
      case some => exact Nat.div_pos atLeast positive
      case count => exact not_lt.mp many
      case blocks =>
        dsimp only
        rw [count]
        exact slice_length_of_le (by omega)
      case iv => exact slice_length_of_le (by omega)
      case tag => exact slice_length_of_le (by omega)
      case master => exact getU16_lt _ _
    · dsimp only
      rw [putBe_getU16 (by omega), ← List.append_assoc, ← List.append_assoc]
      have front := slice_join data 0 2 ivLen
      have middle := slice_join data 0 (2 + ivLen) (data.length - 2 - ivLen - tagLen)
      have back := slice_join data 0 (2 + ivLen + (data.length - 2 - ivLen - tagLen)) tagLen
      have whole : 2 + ivLen + (data.length - 2 - ivLen - tagLen) + tagLen = data.length := by omega
      rw [Nat.zero_add] at front middle back
      rw [front, middle, back, whole, slice_all]

/-- Key Activation and Key Deactivation -/
def keyCommandFormat (procedure : Procedure) : EpFormat (List Nat) :=
  .total .command procedure (Rows fun keyId => keyId < 65536) (epKeyCommandEncode procedure)
    (epKeyCommandDecode procedure)

theorem keyCommandFormat_exact (procedure : Procedure) : (keyCommandFormat procedure).Exact := by
  apply EpFormat.rows_exact (putBe 2) getBe 2 (by decide) (by decide) rfl
  case encode_eq =>
    intro keyIds
    rfl
  case decode_eq =>
    intro encoded
    unfold epKeyCommandDecode
    cases epDataDecode .command procedure encoded <;> rfl
  case width =>
    intro keyId _
    exact putBe_length 2 keyId
  case back =>
    intro keyId bound
    exact getBe_putBe_of_lt bound
  case forth =>
    intro record length
    have bound := getBe_lt record
    have back := putBe_getBe record
    rw [length] at bound back
    exact ⟨bound, back⟩

structure EpKeyInventoryCommand.Valid (command : EpKeyInventoryCommand) : Prop where
  ordered : command.firstKeyId ≤ command.lastKeyId
  bounded : command.lastKeyId < 65536

def keyInventoryCommandFormat : EpFormat EpKeyInventoryCommand :=
  .total .command .keyInventory EpKeyInventoryCommand.Valid epKeyInventoryCommandEncode
    epKeyInventoryCommandDecode

theorem keyInventoryCommandFormat_exact : keyInventoryCommandFormat.Exact := by
  apply EpFormat.total_exact (fun command : EpKeyInventoryCommand => putBe 2 command.firstKeyId ++
      putBe 2 command.lastKeyId)
    (fun data =>
      if data.length ≠ epKeyInventoryCommandDataLen then .error .format
      else if getU16 data 0 > getU16 data 2 then .error .key
      else .ok { firstKeyId := getU16 data 0, lastKeyId := getU16 data 2 }) rfl
  case split =>
    intro command _
    rw [epKeyInventoryCommandEncode, List.append_assoc]
    rfl
  case small =>
    intro command _
    simp
  case decode_eq =>
    intro encoded
    unfold epKeyInventoryCommandDecode
    cases epDataDecode .command .keyInventory encoded <;> rfl
  case decodes =>
    intro command valid
    obtain ⟨ordered, bounded⟩ := valid
    have first := getU16_first (lt_of_le_of_lt ordered bounded) (putBe 2 command.lastKeyId)
    have last : getU16 (putBe 2 command.firstKeyId ++ putBe 2 command.lastKeyId) 2 = command.lastKeyId :=
      getU16_first bounded []
    have length : (putBe 2 command.firstKeyId ++ putBe 2 command.lastKeyId).length =
        epKeyInventoryCommandDataLen := by
      rw [List.length_append, putBe_length, putBe_length]
      rfl
    rw [first, last, if_neg (not_not.mpr length), if_neg (by omega)]
  case encodes =>
    intro command data decoded
    split_ifs at decoded with length disordered
    rw [not_not, epKeyInventoryCommandDataLen] at length
    cases decoded
    constructor
    · exact ⟨not_lt.mp disordered, getU16_lt _ _⟩
    · dsimp only
      rw [putBe_getU16 (by omega), putBe_getU16 (by omega)]
      have join := slice_join data 0 2 2
      have all := slice_all data
      rw [length] at all
      exact (join.trans all).symm

/-- What the encoder checks, and the width of the key IDs -/
def keyInventoryReplyFormat : EpFormat (List EpKeyInventoryEntry) where
  type := .reply
  procedure := .keyInventory
  Encodes entries encoded := (∀ entry ∈ entries, entry.keyId < 65536) ∧
    ∃ outCapacity, epKeyInventoryReplyEncode entries outCapacity = .ok encoded
  decode := epKeyInventoryReplyDecode

def EpKeyInventoryEntry.put (entry : EpKeyInventoryEntry) : Bytes := putBe 2 entry.keyId ++ [entry.state.code]

omit [Kconfig] in
theorem EpKeyInventoryEntry.put_length (entry : EpKeyInventoryEntry) :
    entry.put.length = epKeyInventoryEntryLen := by
  rw [EpKeyInventoryEntry.put, List.length_append, putBe_length]
  rfl

omit [Kconfig] in
theorem KeyState.ofCode_code (state : KeyState) : KeyState.ofCode state.code = some state := by
  cases state <;> rfl

omit [Kconfig] in
theorem KeyState.code_of_ofCode {code : UInt8} {state : KeyState} (found : KeyState.ofCode code = some state) :
    state.code = code := by
  unfold KeyState.ofCode at found
  split_ifs at found with preActive active deactivated
  · cases found
    exact preActive.symm
  · cases found
    exact active.symm
  · cases found
    exact deactivated.symm

/-- The key IDs go up from the one before. -/
def above (previous : Option Nat) : List EpKeyInventoryEntry → Prop
  | [] => True
  | first :: _ => previous.any (fun before => decide (first.keyId ≤ before)) = false

omit [Kconfig] in
theorem ascending_cons (entry : EpKeyInventoryEntry) (entries : List EpKeyInventoryEntry) :
    ascending (entry :: entries) = true ↔ above (some entry.keyId) entries ∧ ascending entries = true := by
  cases entries with
  | nil => simp [ascending, above]
  | cons second rest => simp [ascending, above]

omit [Kconfig] in
/-- The loop reads the entries that were written, from any index on. -/
theorem inventoryEntries_written (front : List EpKeyInventoryEntry) (entries : List EpKeyInventoryEntry)
    (previous : Option Nat) (count : Bytes) (two : count.length = 2)
    (bounded : ∀ entry ∈ entries, entry.keyId < 65536) (up : above previous entries)
    (sorted : ascending entries = true) :
    inventoryEntries (count ++ (front ++ entries).flatMap EpKeyInventoryEntry.put) entries.length front.length
      previous = .ok entries := by
  induction entries generalizing front previous with
  | nil => rfl
  | cons entry entries ih =>
    obtain ⟨next, sorted⟩ := (ascending_cons entry entries).mp sorted
    have length : (front.flatMap EpKeyInventoryEntry.put).length = front.length * epKeyInventoryEntryLen :=
      flatMap_length front fun entry _ => entry.put_length
    -- The octets of this entry stand behind those of the entries in front.
    have whole : count ++ (front ++ entry :: entries).flatMap EpKeyInventoryEntry.put =
        (count ++ front.flatMap EpKeyInventoryEntry.put) ++
          (putBe 2 entry.keyId ++ ([entry.state.code] ++ entries.flatMap EpKeyInventoryEntry.put)) := by
      rw [List.flatMap_append, List.flatMap_cons, EpKeyInventoryEntry.put]
      simp only [List.append_assoc]
    have start : (count ++ front.flatMap EpKeyInventoryEntry.put).length =
        2 + front.length * epKeyInventoryEntryLen := by
      rw [List.length_append, two, length]
    have key : getU16 (count ++ (front ++ entry :: entries).flatMap EpKeyInventoryEntry.put)
        (2 + front.length * epKeyInventoryEntryLen) = entry.keyId := by
      have field := slice_field (count ++ front.flatMap EpKeyInventoryEntry.put) (putBe 2 entry.keyId)
        ([entry.state.code] ++ entries.flatMap EpKeyInventoryEntry.put)
      rw [start, putBe_length] at field
      rw [getU16, whole, field, getBe_putBe_of_lt (bounded entry List.mem_cons_self)]
    have state : (count ++ (front ++ entry :: entries).flatMap EpKeyInventoryEntry.put).getD
        (2 + front.length * epKeyInventoryEntryLen + 2) 0 = entry.state.code := by
      rw [whole, ← start, List.getD_eq_getElem?_getD, List.getElem?_append_right (by omega), Nat.add_sub_cancel_left]
      rfl
    have rest := ih (front ++ [entry]) (some entry.keyId)
      (fun other member => bounded other (List.mem_cons_of_mem _ member)) next sorted
    rw [List.append_assoc, List.singleton_append, List.length_append, List.length_singleton] at rest
    rw [List.length_cons, inventoryEntries]
    rw [key, state, KeyState.ofCode_code]
    dsimp only
    rw [if_neg (by rw [up]; simp), rest]

omit [Kconfig] in
/-- The entries that the loop has read are the octets that it has read them from. -/
theorem written_inventoryEntries (data : Bytes) (remaining i : Nat) (previous : Option Nat)
    (entries : List EpKeyInventoryEntry)
    (fits : 2 + (i + remaining) * epKeyInventoryEntryLen ≤ data.length)
    (read : inventoryEntries data remaining i previous = .ok entries) :
    entries.flatMap EpKeyInventoryEntry.put =
        slice data (2 + i * epKeyInventoryEntryLen) (remaining * epKeyInventoryEntryLen) ∧
      entries.length = remaining ∧ (∀ entry ∈ entries, entry.keyId < 65536) ∧ above previous entries ∧
      ascending entries = true := by
  induction remaining generalizing i previous entries with
  | zero =>
    cases read
    simp [slice, above, ascending]
  | succ remaining ih =>
    rw [inventoryEntries] at read
    cases known : KeyState.ofCode (data.getD (2 + i * epKeyInventoryEntryLen + 2) 0) with
    | none =>
      rw [known] at read
      cases read
    | some state =>
      rw [known] at read
      dsimp only at read
      by_cases low : previous.any (fun before =>
          decide (getU16 data (2 + i * epKeyInventoryEntryLen) ≤ before)) = true
      · rw [if_pos low] at read
        cases read
      rw [if_neg low] at read
      cases rest : inventoryEntries data remaining (i + 1)
          (some (getU16 data (2 + i * epKeyInventoryEntryLen))) with
      | error e =>
        rw [rest] at read
        cases read
      | ok others =>
        rw [rest] at read
        cases read
        obtain ⟨written, length, bounded, up, sorted⟩ := ih (i + 1) _ others
          (by rw [show i + 1 + remaining = i + (remaining + 1) by omega]; exact fits) rest
        have size : epKeyInventoryEntryLen = 3 := rfl
        rw [size] at fits
        have inside : 2 + i * epKeyInventoryEntryLen + 2 < data.length := by
          rw [size]
          omega
        have code : [data.getD (2 + i * epKeyInventoryEntryLen + 2) 0] =
            slice data (2 + i * epKeyInventoryEntryLen + 2) 1 := by
          rw [slice, List.getD_eq_getElem?_getD, List.getElem?_eq_getElem inside, List.drop_eq_getElem_cons inside]
          rfl
        have step : 2 + (i + 1) * epKeyInventoryEntryLen = 2 + i * epKeyInventoryEntryLen + 3 := by
          rw [size]
          omega
        have more : (remaining + 1) * epKeyInventoryEntryLen = 3 + remaining * epKeyInventoryEntryLen := by
          rw [size]
          omega
        refine ⟨?_, ?_, ?_, ?_, ?_⟩
        · rw [List.flatMap_cons, written, EpKeyInventoryEntry.put]
          dsimp only
          rw [putBe_getU16 (by omega), KeyState.code_of_ofCode known, code, slice_join, step, slice_join, more]
        · rw [List.length_cons, length]
        · intro entry member
          cases List.mem_cons.mp member with
          | inl same =>
            rw [same]
            exact getU16_lt _ _
          | inr other => exact bounded entry other
        · exact Bool.eq_false_iff.mpr low
        · exact (ascending_cons _ others).mpr ⟨up, sorted⟩

theorem keyInventoryReplyFormat_exact : keyInventoryReplyFormat.Exact := by
  have limit := Kconfig.verify_fits
  have sized : ∀ entries : List EpKeyInventoryEntry,
      (putBe 2 entries.length ++ entries.flatMap EpKeyInventoryEntry.put).length =
        2 + entries.length * epKeyInventoryEntryLen := by
    intro entries
    rw [List.length_append, putBe_length, flatMap_length entries fun entry _ => entry.put_length]
  apply @EpFormat.DataField.exact _ _ _
    (fun entries data => ((∀ entry ∈ entries, entry.keyId < 65536) ∧ entries.length ≤ epMaxRecipients ∧
      ascending entries = true) ∧ data = putBe 2 entries.length ++ entries.flatMap EpKeyInventoryEntry.put)
    (fun data =>
      if data.length < 2 then .error .format
      else if getU16 data 0 > epMaxRecipients then .error .capacity
      else if data.length ≠ 2 + getU16 data 0 * epKeyInventoryEntryLen then .error .format
      else inventoryEntries data (getU16 data 0) 0 none)
  constructor
  case supported => rfl
  case encodes_iff =>
    intro entries encoded
    constructor
    · intro encodes
      obtain ⟨bounded, outCapacity, encodes⟩ := encodes
      unfold epKeyInventoryReplyEncode at encodes
      dsimp only at encodes
      split_ifs at encodes with many full sorted
      cases encodes
      refine ⟨_, ⟨⟨bounded, not_lt.mp many, Bool.eq_true_of_not_eq_false sorted⟩, rfl⟩, ?_⟩
      rw [sized, List.append_assoc]
      rfl
    · intro found
      obtain ⟨data, valid, rfl⟩ := found
      obtain ⟨⟨bounded, count, sorted⟩, rfl⟩ := valid
      refine ⟨bounded, pduSize (2 + entries.length * epKeyInventoryEntryLen), ?_⟩
      unfold epKeyInventoryReplyEncode
      dsimp only
      rw [if_neg (by omega), if_neg (Nat.lt_irrefl _), if_neg (by rw [sorted]; simp), sized, List.append_assoc]
      rfl
  case small =>
    intro entries data valid
    obtain ⟨⟨-, count, -⟩, rfl⟩ := valid
    unfold epMaxRecipients at count
    rw [sized]
    unfold epKeyInventoryEntryLen
    omega
  case decode_eq =>
    intro encoded
    show epKeyInventoryReplyDecode encoded = _
    unfold epKeyInventoryReplyDecode
    show _ = (epDataDecode .reply .keyInventory encoded).bind _
    cases epDataDecode .reply .keyInventory encoded <;> rfl
  case decodesData =>
    intro entries data valid
    obtain ⟨⟨bounded, count, sorted⟩, rfl⟩ := valid
    have few : entries.length < 65536 := by
      unfold epMaxRecipients at count
      omega
    have read := inventoryEntries_written [] entries none (putBe 2 entries.length) (putBe_length 2 _) bounded
      (by cases entries <;> simp [above]) sorted
    rw [getU16_first few, sized, if_neg (by omega), if_neg (by omega), if_neg (by simp)]
    exact read
  case encodesData =>
    intro entries data decoded
    split_ifs at decoded with short many length
    rw [not_not] at length
    obtain ⟨written, count, bounded, -, sorted⟩ := written_inventoryEntries data _ 0 none entries
      (by rw [Nat.zero_add, length]) decoded
    refine ⟨⟨bounded, by omega, sorted⟩, ?_⟩
    rw [count, written, putBe_getU16 (by omega)]
    have join := slice_join data 0 2 (getU16 data 0 * epKeyInventoryEntryLen)
    have all := slice_all data
    rw [length] at all
    rw [Nat.zero_mul, Nat.add_zero]
    exact (join.trans all).symm

/-- A challenge as the verification command has it -/
structure EpVerifyCommandEntry.Valid (entry : EpVerifyCommandEntry) : Prop where
  keyId : entry.keyId < 65536
  challenge : entry.challenge.length = epChallengeLen

def verifyCommandFormat : EpFormat (List EpVerifyCommandEntry) :=
  .total .command .keyVerification (Rows EpVerifyCommandEntry.Valid) epVerifyCommandEncode epVerifyCommandDecode

theorem verifyCommandFormat_exact : verifyCommandFormat.Exact := by
  apply EpFormat.rows_exact (fun entry : EpVerifyCommandEntry => putBe 2 entry.keyId ++ entry.challenge)
    (fun record => { keyId := getU16 record 0, challenge := slice record 2 epChallengeLen })
    epVerifyCommandEntryLen (by decide) (by decide) rfl
  case encode_eq =>
    intro entries
    rfl
  case decode_eq =>
    intro encoded
    have read : ∀ (data : Bytes) (i : Nat),
        getU16 (slice data (i * epVerifyCommandEntryLen) epVerifyCommandEntryLen) 0 =
          getU16 data (i * epVerifyCommandEntryLen) ∧
        slice (slice data (i * epVerifyCommandEntryLen) epVerifyCommandEntryLen) 2 epChallengeLen =
          slice data (i * epVerifyCommandEntryLen + 2) epChallengeLen := by
      intro data i
      rw [getU16, slice_drop _ _ _ _ _ (by decide), slice_drop _ _ _ _ _ (by decide)]
      exact ⟨rfl, rfl⟩
    unfold epVerifyCommandDecode
    simp only [read]
    cases epDataDecode .command .keyVerification encoded <;> rfl
  case width =>
    intro entry valid
    rw [List.length_append, putBe_length, valid.challenge]
    rfl
  case back =>
    intro entry valid
    have field := slice_last (putBe 2 entry.keyId) entry.challenge
    rw [putBe_length, valid.challenge] at field
    rw [getU16_first valid.keyId, field]
  case forth =>
    intro record length
    have size : epVerifyCommandEntryLen = 2 + epChallengeLen := rfl
    have join := slice_join record 0 2 epChallengeLen
    have all := slice_all record
    rw [length, size] at all
    constructor
    · exact ⟨getU16_lt _ _, slice_length_of_le (by omega)⟩
    · rw [putBe_getU16 (by omega)]
      exact join.trans all

/-- An answer as the verification reply has it -/
structure EpVerifyReplyEntry.Valid (entry : EpVerifyReplyEntry) : Prop where
  keyId : entry.keyId < 65536
  iv : entry.iv.length = ivLen
  challenge : entry.encryptedChallenge.length = epChallengeLen
  tag : entry.tag.length = tagLen

def verifyReplyFormat : EpFormat (List EpVerifyReplyEntry) :=
  .total .reply .keyVerification (Rows EpVerifyReplyEntry.Valid) epVerifyReplyEncode epVerifyReplyDecode

theorem verifyReplyFormat_exact : verifyReplyFormat.Exact := by
  apply EpFormat.rows_exact
    (fun entry : EpVerifyReplyEntry => putBe 2 entry.keyId ++ entry.iv ++ entry.encryptedChallenge ++ entry.tag)
    (fun record => {
      keyId := getU16 record 0
      iv := slice record 2 ivLen
      encryptedChallenge := slice record (2 + ivLen) epChallengeLen
      tag := slice record (2 + ivLen + epChallengeLen) tagLen })
    epVerifyReplyEntryLen (by decide) (Nat.le_refl _) rfl
  case encode_eq =>
    intro entries
    rfl
  case decode_eq =>
    intro encoded
    have read : ∀ (data : Bytes) (i : Nat),
        getU16 (slice data (i * epVerifyReplyEntryLen) epVerifyReplyEntryLen) 0 =
          getU16 data (i * epVerifyReplyEntryLen) ∧
        slice (slice data (i * epVerifyReplyEntryLen) epVerifyReplyEntryLen) 2 ivLen =
          slice data (i * epVerifyReplyEntryLen + 2) ivLen ∧
        slice (slice data (i * epVerifyReplyEntryLen) epVerifyReplyEntryLen) (2 + ivLen) epChallengeLen =
          slice data (i * epVerifyReplyEntryLen + 2 + ivLen) epChallengeLen ∧
        slice (slice data (i * epVerifyReplyEntryLen) epVerifyReplyEntryLen) (2 + ivLen + epChallengeLen) tagLen =
          slice data (i * epVerifyReplyEntryLen + 2 + ivLen + epChallengeLen) tagLen := by
      intro data i
      rw [getU16, slice_drop _ _ _ _ _ (by decide), slice_drop _ _ _ _ _ (by decide),
        slice_drop _ _ _ _ _ (by decide), slice_drop _ _ _ _ _ (by decide)]
      exact ⟨rfl, rfl, rfl, rfl⟩
    unfold epVerifyReplyDecode
    simp only [read]
    cases epDataDecode .reply .keyVerification encoded <;> rfl
  case width =>
    intro entry valid
    simp only [List.length_append, putBe_length, valid.iv, valid.challenge, valid.tag]
    rfl
  case back =>
    intro entry valid
    have ivField := slice_field (putBe 2 entry.keyId) entry.iv (entry.encryptedChallenge ++ entry.tag)
    have challengeField := slice_field (putBe 2 entry.keyId ++ entry.iv) entry.encryptedChallenge entry.tag
    have tagField := slice_last (putBe 2 entry.keyId ++ entry.iv ++ entry.encryptedChallenge) entry.tag
    have key := getU16_first valid.keyId (entry.iv ++ (entry.encryptedChallenge ++ entry.tag))
    simp only [List.length_append, putBe_length, List.append_assoc, valid.iv, valid.challenge, valid.tag]
      at ivField challengeField tagField key
    rw [← Nat.add_assoc] at tagField
    simp only [List.append_assoc]
    rw [key, ivField, challengeField, tagField]
  case forth =>
    intro record length
    have size : epVerifyReplyEntryLen = 2 + ivLen + epChallengeLen + tagLen := rfl
    have all := slice_all record
    rw [length, size] at all
    constructor
    · exact ⟨getU16_lt _ _, slice_length_of_le (by omega), slice_length_of_le (by omega),
        slice_length_of_le (by omega)⟩
    · have front := slice_join record 0 2 ivLen
      have middle := slice_join record 0 (2 + ivLen) epChallengeLen
      have back := slice_join record 0 (2 + ivLen + epChallengeLen) tagLen
      rw [Nat.zero_add] at front middle back
      dsimp only
      rw [putBe_getU16 (by omega), front, middle, back, all]

/-! ## SA management -/

/-- What the encoder asserts, and the width of an SPI -/
structure EpStartSa.Valid (command : EpStartSa) : Prop where
  count : command.associations.length ≤ epMaxAssociations
  spi : command.spi < 65536

def startSaFormat : EpFormat EpStartSa := .total .command .startSa EpStartSa.Valid epStartSaEncode epStartSaDecode

theorem startSaFormat_exact : startSaFormat.Exact := by
  have limit := Kconfig.maxSa_range
  have sized : ∀ associations : List UInt32,
      (associations.flatMap fun association => putBe 4 association.toNat).length = associations.length * 4 := by
    intro associations
    exact flatMap_length associations fun association _ => putBe_length 4 association.toNat
  apply EpFormat.total_exact (fun command : EpStartSa => putBe 2 command.spi ++
      command.associations.flatMap fun association => putBe 4 association.toNat)
    (fun data =>
      if data.length < 2 ∨ (data.length - 2) % 4 ≠ 0 then .error .format
      else if (data.length - 2) / 4 > epMaxAssociations then .error .capacity
      else .ok {
        spi := getU16 data 0
        associations := (List.range ((data.length - 2) / 4)).map fun i => getU32 data (2 + i * 4) }) rfl
  case split =>
    intro command _
    rw [epStartSaEncode, List.append_assoc, List.length_append, putBe_length, sized, Nat.mul_comm 4]
  case small =>
    intro command valid
    have count := valid.count
    unfold epMaxAssociations at count
    rw [List.length_append, putBe_length, sized]
    omega
  case decode_eq =>
    intro encoded
    unfold epStartSaDecode
    cases epDataDecode .command .startSa encoded <;> rfl
  case decodes =>
    intro command valid
    have count := valid.count
    have read := @read_written _ (fun association : UInt32 => putBe 4 association.toNat)
      (fun record => UInt32.ofNat (getBe record)) 4 command.associations
      (fun association _ => putBe_length 4 association.toNat) (fun association _ => getU32_putBe association)
    have behind : ∀ i, slice (command.associations.flatMap fun association => putBe 4 association.toNat) (i * 4) 4 =
        slice (putBe 2 command.spi ++ command.associations.flatMap fun association => putBe 4 association.toNat)
          (2 + i * 4) 4 := by
      intro i
      rw [slice_append_right _ (by rw [putBe_length]; omega), putBe_length, Nat.add_sub_cancel_left]
    simp only [behind] at read
    rw [List.length_append, putBe_length, sized, Nat.add_sub_cancel_left, if_neg (by omega),
      Nat.mul_div_cancel _ (by decide), if_neg (by omega), getU16_first valid.spi]
    exact congrArg (fun associations => Except.ok { associations, spi := command.spi : EpStartSa }) read
  case encodes =>
    intro command data decoded
    split_ifs at decoded with ragged many
    cases decoded
    constructor
    · constructor
      case count =>
        rw [List.length_map, List.length_range]
        exact not_lt.mp many
      case spi => exact getU16_lt _ _
    · have written := @written_read _ (fun association : UInt32 => putBe 4 association.toNat)
        (fun record => UInt32.ofNat (getBe record)) 4 (data.drop 2) ((data.length - 2) / 4)
        (by rw [List.length_drop]; omega)
        (by
          intro record length
          have whole := putBe_getU32 (by rw [length] : 0 + 4 ≤ record.length)
          have all := slice_all record
          rw [length] at all
          rw [getU32, all] at whole
          exact whole)
      simp only [slice_of_drop] at written
      have front := putBe_getU16 (by omega : 0 + 2 ≤ data.length)
      have back : slice data 0 2 ++ data.drop 2 = data := List.take_append_drop 2 data
      dsimp only
      rw [front]
      exact (congrArg (slice data 0 2 ++ ·) written |>.trans back).symm

/-- Stop SA, Expire SA, Read ARSN and SA Status: the SPI -/
def saCommandFormat (procedure : Procedure) : EpFormat Nat :=
  .total .command procedure (fun spi => spi < 65536) (epSaCommandEncode procedure) (epSaCommandDecode procedure)

theorem saCommandFormat_exact (procedure : Procedure) : (saCommandFormat procedure).Exact := by
  apply EpFormat.total_exact (putBe 2)
    (fun data => if data.length = 2 then .ok (getU16 data 0) else .error .format) rfl
  case split =>
    intro spi _
    rw [putBe_length]
    rfl
  case small =>
    intro spi _
    rw [putBe_length]
    decide
  case decode_eq =>
    intro encoded
    unfold epSaCommandDecode decodeSaPdu
    cases epDataDecode .command procedure encoded with
    | error e => rfl
    | ok data =>
      dsimp only [Except.bind]
      by_cases length : data.length = 2
      · rw [if_pos length, if_pos length]
      · rw [if_neg length, if_neg length]
  case decodes =>
    intro spi bound
    have field := getU16_first bound []
    rw [List.append_nil] at field
    rw [if_pos (putBe_length 2 spi), field]
  case encodes =>
    intro spi data decoded
    split_ifs at decoded with length
    cases decoded
    have all := slice_all data
    rw [length] at all
    exact ⟨getU16_lt _ _, by rw [putBe_getU16 (by omega), all]⟩

/-- The widths of the SPI and the key ID -/
structure EpRekeySa.Valid (command : EpRekeySa) : Prop where
  spi : command.spi < 65536
  keyId : command.keyId < 65536

def rekeySaFormat : EpFormat EpRekeySa := .total .command .rekeySa EpRekeySa.Valid epRekeySaEncode epRekeySaDecode

/-- The ARSN at the end of a Rekey SA, which may be absent -/
def EpRekeySa.arsnField : Option UInt32 → Bytes
  | some rxArsn => putBe 4 rxArsn.toNat
  | none => []

theorem rekeySaFormat_exact : rekeySaFormat.Exact := by
  apply EpFormat.total_exact
    (fun command : EpRekeySa => putBe 2 command.spi ++ (putBe 2 command.keyId ++ EpRekeySa.arsnField command.rxArsn))
    (fun data =>
      if data.length ≠ 4 ∧ data.length ≠ 8 then .error .format
      else .ok {
        spi := getU16 data 0
        keyId := getU16 data 2
        rxArsn := if data.length = 8 then some (getU32 data 4) else none }) rfl
  case split =>
    intro command _
    obtain ⟨rxArsn, spi, keyId⟩ := command
    rw [epRekeySaEncode]
    cases rxArsn <;> simp [EpRekeySa.arsnField]
  case small =>
    intro command _
    obtain ⟨rxArsn, spi, keyId⟩ := command
    cases rxArsn <;> simp [EpRekeySa.arsnField]
  case decode_eq =>
    intro encoded
    unfold epRekeySaDecode
    cases epDataDecode .command .rekeySa encoded <;> rfl
  case decodes =>
    intro command valid
    obtain ⟨rxArsn, spi, keyId⟩ := command
    obtain ⟨spiBound, keyBound⟩ := valid
    dsimp only at spiBound keyBound
    cases rxArsn with
    | none =>
      have key : getU16 (putBe 2 spi ++ (putBe 2 keyId ++ [])) 2 = keyId := getU16_first keyBound []
      dsimp only [EpRekeySa.arsnField]
      rw [getU16_first spiBound, key]
      simp
    | some rxArsn =>
      have key : getU16 (putBe 2 spi ++ (putBe 2 keyId ++ putBe 4 rxArsn.toNat)) 2 = keyId :=
        getU16_first keyBound (putBe 4 rxArsn.toNat)
      have arsn : getU32 (putBe 2 spi ++ (putBe 2 keyId ++ putBe 4 rxArsn.toNat)) 4 = rxArsn :=
        getU32_putBe rxArsn
      dsimp only [EpRekeySa.arsnField]
      rw [getU16_first spiBound, key, arsn]
      simp
  case encodes =>
    intro command data decoded
    split_ifs at decoded with length long
    · cases decoded
      have all := slice_all data
      rw [long] at all
      have front := slice_join data 0 2 2
      have back := slice_join data 0 4 4
      constructor
      · exact ⟨getU16_lt _ _, getU16_lt _ _⟩
      · dsimp only [EpRekeySa.arsnField]
        rw [putBe_getU16 (by omega), putBe_getU16 (by omega), putBe_getU32 (by omega), ← List.append_assoc]
        exact (congrArg (· ++ slice data 4 4) front |>.trans back |>.trans all).symm
    · have short : data.length = 4 := by omega
      cases decoded
      have all := slice_all data
      rw [short] at all
      have front := slice_join data 0 2 2
      constructor
      · exact ⟨getU16_lt _ _, getU16_lt _ _⟩
      · dsimp only [EpRekeySa.arsnField]
        rw [putBe_getU16 (by omega), putBe_getU16 (by omega), List.append_nil]
        exact (front.trans all).symm

/-- An SPI with a 32-bit value -/
def setU32Put (spi : Nat) (value : UInt32) : Bytes := putBe 2 spi ++ putBe 4 value.toNat

omit [Kconfig] in
theorem setU32Put_length (spi : Nat) (value : UInt32) : (setU32Put spi value).length = 6 := by
  rw [setU32Put, List.length_append, putBe_length, putBe_length]

omit [Kconfig] in
theorem setU32Put_get {spi : Nat} (bound : spi < 65536) (value : UInt32) :
    getU16 (setU32Put spi value) 0 = spi ∧ getU32 (setU32Put spi value) 2 = value :=
  ⟨getU16_first bound _, getU32_putBe value⟩

omit [Kconfig] in
theorem setU32Put_of_length {data : Bytes} (length : data.length = 6) :
    setU32Put (getU16 data 0) (getU32 data 2) = data := by
  have join := slice_join data 0 2 4
  have all := slice_all data
  rw [length] at all
  rw [setU32Put, putBe_getU16 (by omega), putBe_getU32 (by omega)]
  exact join.trans all

/-- Set ARSN and Set ARSN Window -/
def setU32Format (procedure : Procedure) : EpFormat EpSetU32 :=
  .total .command procedure (fun command => command.spi < 65536)
    (fun command => setU32Encode procedure command.spi command.value) (epSetU32Decode procedure)

theorem setU32Format_exact (procedure : Procedure) : (setU32Format procedure).Exact := by
  apply EpFormat.total_exact (fun command : EpSetU32 => setU32Put command.spi command.value)
    (fun data => if data.length = 6 then .ok { spi := getU16 data 0, value := getU32 data 2 }
      else .error .format) rfl
  case split =>
    intro command _
    rw [setU32Put_length, setU32Encode, List.append_assoc]
    rfl
  case small =>
    intro command _
    rw [setU32Put_length]
    decide
  case decode_eq =>
    intro encoded
    unfold epSetU32Decode decodeSaPdu
    cases epDataDecode .command procedure encoded with
    | error e => rfl
    | ok data =>
      dsimp only [Except.bind]
      by_cases length : data.length = 6
      · rw [if_pos length, if_pos length]
      · rw [if_neg length, if_neg length]
  case decodes =>
    intro command bound
    obtain ⟨spi, value⟩ := setU32Put_get bound command.value
    rw [if_pos (setU32Put_length _ _), spi, value]
  case encodes =>
    intro command data decoded
    split_ifs at decoded with length
    cases decoded
    exact ⟨getU16_lt _ _, (setU32Put_of_length length).symm⟩

def setArsnFormat : EpFormat EpSetU32 :=
  .total .command .setArsn (fun command => command.spi < 65536) epSetArsnEncode epSetArsnDecode

def setArsnWindowFormat : EpFormat EpSetU32 :=
  .total .command .setArsnWindow (fun command => command.spi < 65536) epSetArsnWindowEncode epSetArsnWindowDecode

def readArsnReplyFormat : EpFormat EpReadArsnReply :=
  .total .reply .readArsn (fun reply => reply.spi < 65536)
    (fun reply => epReadArsnReplyEncode reply.spi reply.arsn) epReadArsnReplyDecode

theorem readArsnReplyFormat_exact : readArsnReplyFormat.Exact := by
  apply EpFormat.total_exact (fun reply : EpReadArsnReply => setU32Put reply.spi reply.arsn)
    (fun data => if data.length = 6 then .ok { spi := getU16 data 0, arsn := getU32 data 2 }
      else .error .format) rfl
  case split =>
    intro reply _
    rw [setU32Put_length, epReadArsnReplyEncode, List.append_assoc]
    rfl
  case small =>
    intro reply _
    rw [setU32Put_length]
    decide
  case decode_eq =>
    intro encoded
    unfold epReadArsnReplyDecode decodeSaReply
    cases epDataDecode .reply .readArsn encoded with
    | error e => rfl
    | ok data =>
      dsimp only [Except.bind]
      by_cases length : data.length = 6
      · rw [if_pos length, if_pos length]
      · rw [if_neg length, if_neg length]
  case decodes =>
    intro reply bound
    obtain ⟨spi, arsn⟩ := setU32Put_get bound reply.arsn
    rw [if_pos (setU32Put_length _ _), spi, arsn]
  case encodes =>
    intro reply data decoded
    split_ifs at decoded with length
    cases decoded
    exact ⟨getU16_lt _ _, (setU32Put_of_length length).symm⟩

def saStatusReplyFormat : EpFormat EpSaStatusReply :=
  .total .reply .saStatus (fun reply => reply.spi < 65536)
    (fun reply => epSaStatusReplyEncode reply.spi reply.lastProcedure) epSaStatusReplyDecode

theorem saStatusReplyFormat_exact : saStatusReplyFormat.Exact := by
  apply EpFormat.total_exact (fun reply : EpSaStatusReply => putBe 2 reply.spi ++ [reply.lastProcedure])
    (fun data => if data.length = 3 then .ok { spi := getU16 data 0, lastProcedure := data.getD 2 0 }
      else .error .format) rfl
  case split =>
    intro reply _
    rw [epSaStatusReplyEncode, List.append_assoc, List.length_append, putBe_length]
    rfl
  case small =>
    intro reply _
    rw [List.length_append, putBe_length, List.length_singleton]
    decide
  case decode_eq =>
    intro encoded
    unfold epSaStatusReplyDecode decodeSaReply
    cases epDataDecode .reply .saStatus encoded with
    | error e => rfl
    | ok data =>
      dsimp only [Except.bind]
      by_cases length : data.length = 3
      · rw [if_pos length, if_pos length]
      · rw [if_neg length, if_neg length]
  case decodes =>
    intro reply bound
    have last : (putBe 2 reply.spi ++ [reply.lastProcedure]).getD 2 0 = reply.lastProcedure := rfl
    have length : (putBe 2 reply.spi ++ [reply.lastProcedure]).length = 3 := by
      rw [List.length_append, putBe_length]
      rfl
    rw [if_pos length, getU16_first bound, last]
  case encodes =>
    intro reply data decoded
    split_ifs at decoded with length
    cases decoded
    have inside : 2 < data.length := by omega
    have last : [data.getD 2 0] = slice data 2 1 := by
      rw [slice, List.getD_eq_getElem?_getD, List.getElem?_eq_getElem inside, List.drop_eq_getElem_cons inside]
      rfl
    have join := slice_join data 0 2 1
    have all := slice_all data
    rw [length] at all
    refine ⟨getU16_lt _ _, ?_⟩
    dsimp only
    rw [putBe_getU16 (by omega), last]
    exact (join.trans all).symm

/-- The codec of the Extended Procedure PDUs: each kind that has an encoder and a decoder, the two key commands
and the four simple SA commands one by one -/
structure EpCodecExact : Prop where
  otar : otarFormat.Exact
  keyActivation : (keyCommandFormat .keyActivation).Exact
  keyDeactivation : (keyCommandFormat .keyDeactivation).Exact
  keyInventoryCommand : keyInventoryCommandFormat.Exact
  keyInventoryReply : keyInventoryReplyFormat.Exact
  verifyCommand : verifyCommandFormat.Exact
  verifyReply : verifyReplyFormat.Exact
  startSa : startSaFormat.Exact
  stopSa : (saCommandFormat .stopSa).Exact
  expireSa : (saCommandFormat .expireSa).Exact
  readArsn : (saCommandFormat .readArsn).Exact
  saStatus : (saCommandFormat .saStatus).Exact
  rekeySa : rekeySaFormat.Exact
  setArsn : setArsnFormat.Exact
  setArsnWindow : setArsnWindowFormat.Exact
  readArsnReply : readArsnReplyFormat.Exact
  saStatusReply : saStatusReplyFormat.Exact

/-- Every decoder undoes its encoder and accepts nothing but encodings. -/
theorem epCodec_exact : EpCodecExact where
  otar := otarFormat_exact
  keyActivation := keyCommandFormat_exact .keyActivation
  keyDeactivation := keyCommandFormat_exact .keyDeactivation
  keyInventoryCommand := keyInventoryCommandFormat_exact
  keyInventoryReply := keyInventoryReplyFormat_exact
  verifyCommand := verifyCommandFormat_exact
  verifyReply := verifyReplyFormat_exact
  startSa := startSaFormat_exact
  stopSa := saCommandFormat_exact .stopSa
  expireSa := saCommandFormat_exact .expireSa
  readArsn := saCommandFormat_exact .readArsn
  saStatus := saCommandFormat_exact .saStatus
  rekeySa := rekeySaFormat_exact
  setArsn := setU32Format_exact .setArsn
  setArsnWindow := setU32Format_exact .setArsnWindow
  readArsnReply := readArsnReplyFormat_exact
  saStatusReply := saStatusReplyFormat_exact

end ZephyrCcsds.Sdls
