import ZephyrCcsds.Cfdp.Pdu

/-! # Incremental file checksums

`ccsds_cfdp_checksum.c`.  The CRC routines are Zephyr's and parameters of the model.
-/

namespace ZephyrCcsds.Cfdp

/-- `crc32_c` and `crc32_ieee_update` of Zephyr. -/
class ZephyrCrc where
  crc32C : UInt32 → Bytes → (first last : Bool) → UInt32
  crc32IeeeUpdate : UInt32 → Bytes → UInt32

structure ChecksumState where
  type : ChecksumType
  value : UInt32
  nextOffset : Nat
  crcStarted : Bool
  deferred : Bool
  deriving DecidableEq, Repr

def crc32cXorOut : UInt32 := 0xffffffff

def updateRangeIsValid (fileOffset len : Nat) : Bool :=
  decide (len ≤ 1) || decide (len - 1 ≤ uint32Max - fileOffset)

def checksumInit (type : ChecksumType) : Except Status ChecksumState :=
  if !type.isSupported then .error .unsupportedChecksum
  else .ok { type, value := 0, nextOffset := 0, crcStarted := false, deferred := false }

/-- Each octet is added in the byte lane of its file offset. -/
def modularUpdate (value : UInt32) : Nat → Bytes → UInt32
  | _, [] => value
  | fileOffset, byte :: data =>
      let shift := (3 - fileOffset % 4) * 8
      modularUpdate (value + (byte.toUInt32 <<< UInt32.ofNat shift)) (fileOffset + 1) data

variable [ZephyrCrc]

def checksumUpdate (state : ChecksumState) (fileOffset : Nat) (data : Bytes) :
    Except Status ChecksumState :=
  if !state.type.isSupported then .error .unsupportedChecksum
  else if data.length = 0 then .ok state
  else if !updateRangeIsValid fileOffset data.length then .error .invalidArgument
  else
    match state.type with
    | .modular => .ok { state with value := modularUpdate state.value fileOffset data }
    | .crc32c =>
        if fileOffset ≠ state.nextOffset then .ok { state with deferred := true }
        else if !state.deferred then .ok
          { state with
            value := ZephyrCrc.crc32C state.value data (!state.crcStarted) false
            nextOffset := (state.nextOffset + data.length) % 2 ^ 32
            crcStarted := true }
        else .ok state
    | .ieee8023Fcs =>
        if fileOffset ≠ state.nextOffset then .ok { state with deferred := true }
        else if !state.deferred then .ok
          { state with
            value := ZephyrCrc.crc32IeeeUpdate state.value data
            nextOffset := (state.nextOffset + data.length) % 2 ^ 32 }
        else .ok state
    | .null => .ok state
    | .other _ => .error .unsupportedChecksum

omit [ZephyrCrc] in
def checksumFinish (state : ChecksumState) : Except Status Nat :=
  if !state.type.isSupported then .error .unsupportedChecksum
  else
    match state.type with
    | .null => .ok 0
    | .crc32c =>
        if state.deferred then .error .invalidArgument
        else .ok (if state.crcStarted then (state.value ^^^ crc32cXorOut).toNat else 0)
    | .ieee8023Fcs =>
        if state.deferred then .error .invalidArgument else .ok state.value.toNat
    | _ => .ok state.value.toNat

/-! ## Updates of a supported checksum -/

omit [ZephyrCrc] in
theorem checksumInit_ok {type : ChecksumType} {state : ChecksumState}
    (init : checksumInit type = .ok state) :
    type.isSupported = true ∧
      state = { type, value := 0, nextOffset := 0, crcStarted := false, deferred := false } := by
  rw [checksumInit] at init
  split_ifs at init with unsupported
  rw [Bool.not_eq_true', Bool.not_eq_false] at unsupported
  exact ⟨unsupported, (Except.ok.inj init).symm⟩

omit [ZephyrCrc] in
theorem checksumInit_of_supported {type : ChecksumType} (supported : type.isSupported = true) :
    checksumInit type =
      .ok { type, value := 0, nextOffset := 0, crcStarted := false, deferred := false } := by
  rw [checksumInit, supported]
  rfl

theorem checksumUpdate_ok_type {state state' : ChecksumState} {fileOffset : Nat} {data : Bytes}
    (updated : checksumUpdate state fileOffset data = .ok state') : state'.type = state.type := by
  obtain ⟨type, value, nextOffset, crcStarted, deferred⟩ := state
  cases type with
  | modular | null =>
    simp only [checksumUpdate] at updated
    split_ifs at updated <;> rw [← Except.ok.inj updated]
  | crc32c | ieee8023Fcs =>
    simp only [checksumUpdate] at updated
    split_ifs at updated <;> rw [← Except.ok.inj updated]
  | other code => cases updated

/-- An update whose octets lie below `2 ^ 32` succeeds. -/
theorem checksumUpdate_succeeds {state : ChecksumState} (supported : state.type.isSupported = true)
    {fileOffset : Nat} {data : Bytes} (bound : fileOffset + data.length ≤ 2 ^ 32) :
    ∃ state', checksumUpdate state fileOffset data = .ok state' := by
  have valid : updateRangeIsValid fileOffset data.length = true := by
    rw [updateRangeIsValid, Bool.or_eq_true, decide_eq_true_eq, decide_eq_true_eq]
    unfold uint32Max
    omega
  obtain ⟨type, value, nextOffset, crcStarted, deferred⟩ := state
  cases type with
  | modular | null | crc32c | ieee8023Fcs =>
    simp only [checksumUpdate, ChecksumType.isSupported, valid, Bool.not_true, Bool.false_eq_true,
      if_false]
    split_ifs <;> exact ⟨_, rfl⟩
  | other code => cases supported

/-! ## The errors -/

omit [ZephyrCrc] in
theorem checksumInit_ne_error_ok (type : ChecksumType) : checksumInit type ≠ .error .ok := by
  unfold checksumInit
  split_ifs <;> simp

theorem checksumUpdate_ne_error_ok (state : ChecksumState) (fileOffset : Nat) (data : Bytes) :
    checksumUpdate state fileOffset data ≠ .error .ok := by
  obtain ⟨type, value, nextOffset, crcStarted, deferred⟩ := state
  cases type <;> simp only [checksumUpdate] <;> split_ifs <;> simp

omit [ZephyrCrc] in
theorem checksumFinish_ne_error_ok (state : ChecksumState) : checksumFinish state ≠ .error .ok := by
  obtain ⟨type, value, nextOffset, crcStarted, deferred⟩ := state
  cases type <;> simp only [checksumFinish] <;> split_ifs <;> simp

end ZephyrCcsds.Cfdp
