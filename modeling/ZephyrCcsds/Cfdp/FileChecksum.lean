import ZephyrCcsds.Cfdp.Checksum

/-! # The checksum of a file

Updates with the parts of a file, in order, lead to one state whatever the parts are: the sender
sums the segments that it sends and the receiver those that it reads back.  The CRC routines are
taken to continue from one block to the next, which is what Zephyr documents them for.
-/

namespace ZephyrCcsds.Cfdp

/-- A CRC over two blocks, the second continued from the first, is the CRC over both. -/
class ZephyrCrc.Streams [ZephyrCrc] : Prop where
  crc32C_append : ∀ value front back first,
    ZephyrCrc.crc32C (ZephyrCrc.crc32C value front first false) back false false =
      ZephyrCrc.crc32C value (front ++ back) first false
  crc32IeeeUpdate_append : ∀ value front back,
    ZephyrCrc.crc32IeeeUpdate (ZephyrCrc.crc32IeeeUpdate value front) back =
      ZephyrCrc.crc32IeeeUpdate value (front ++ back)

theorem modularUpdate_append (value : UInt32) (offset : Nat) (front back : Bytes) :
    modularUpdate value offset (front ++ back) =
      modularUpdate (modularUpdate value offset front) (offset + front.length) back := by
  induction front generalizing value offset with
  | nil => rfl
  | cons byte front ih =>
    simp only [List.cons_append, modularUpdate, ih, List.length_cons]
    congr 1
    omega

variable [ZephyrCrc]

/-- The value of a checksum state after the first octets of a file. -/
def summedValue (type : ChecksumType) (octets : Bytes) : UInt32 :=
  if octets = [] then 0
  else
    match type with
    | .modular => modularUpdate 0 0 octets
    | .crc32c => ZephyrCrc.crc32C 0 octets true false
    | .ieee8023Fcs => ZephyrCrc.crc32IeeeUpdate 0 octets
    | .null | .other _ => 0

/-- A checksum that must be updated in the order of the file. -/
def ChecksumType.ordered : ChecksumType → Bool
  | .crc32c | .ieee8023Fcs => true
  | .modular | .null | .other _ => false

/-- The state after the first octets of a file, given in order. -/
def summedState (type : ChecksumType) (octets : Bytes) : ChecksumState where
  type
  value := summedValue type octets
  nextOffset := if type.ordered then octets.length else 0
  crcStarted :=
    match type with
    | .crc32c => !octets.isEmpty
    | _ => false
  deferred := false

/-- The checksum of a file. -/
def fileChecksum (type : ChecksumType) (file : Bytes) : Nat :=
  match type with
  | .crc32c => if file = [] then 0 else (summedValue .crc32c file ^^^ crc32cXorOut).toNat
  | _ => (summedValue type file).toNat

theorem fileChecksum_le (type : ChecksumType) (file : Bytes) : fileChecksum type file ≤ uint32Max := by
  have small : ∀ value : UInt32, value.toNat ≤ uint32Max := by
    intro value
    have bound := value.toNat_lt
    unfold uint32Max
    omega
  unfold fileChecksum
  split
  · split
    · exact Nat.zero_le _
    · exact small _
  · exact small _

theorem checksumInit_summed {type : ChecksumType} (supported : type.isSupported = true) :
    checksumInit type = .ok (summedState type []) := by
  rw [checksumInit_of_supported supported]
  cases type <;> rfl

theorem checksumFinish_summed {type : ChecksumType} (supported : type.isSupported = true) (file : Bytes) :
    checksumFinish (summedState type file) = .ok (fileChecksum type file) := by
  cases type with
  | other code => cases supported
  | crc32c =>
    by_cases empty : file = []
    · subst empty
      rfl
    · simp [checksumFinish, summedState, fileChecksum, ChecksumType.isSupported, empty]
  | modular | ieee8023Fcs => rfl
  | null =>
    simp [checksumFinish, summedState, fileChecksum, summedValue, ChecksumType.isSupported]

/-- The next part of the file takes the state of the parts before it to the state of them all. -/
theorem checksumUpdate_summed [ZephyrCrc.Streams] {type : ChecksumType} (supported : type.isSupported = true)
    {front data : Bytes} (some : data ≠ []) (fits : front.length + data.length ≤ uint32Max) :
    checksumUpdate (summedState type front) front.length data = .ok (summedState type (front ++ data)) := by
  have nonempty : ¬ data.length = 0 := fun none => some (List.length_eq_zero_iff.mp none)
  have both : front ++ data ≠ [] := fun none => some (List.append_eq_nil_iff.mp none).2
  have valid : updateRangeIsValid front.length data.length = true := by
    rw [updateRangeIsValid, Bool.or_eq_true, decide_eq_true_eq, decide_eq_true_eq]
    omega
  have word : front.length + data.length < 4294967296 := Nat.lt_succ_of_le fits
  cases type with
  | other code => cases supported
  | null =>
    simp [checksumUpdate, summedState, summedValue, ChecksumType.isSupported, ChecksumType.ordered, nonempty,
      valid]
  | modular =>
    have continued : modularUpdate (summedValue .modular front) front.length data =
        summedValue .modular (front ++ data) := by
      by_cases start : front = []
      · subst start
        simp [summedValue, some]
      · simp [summedValue, start, some, modularUpdate_append]
    simp [checksumUpdate, summedState, ChecksumType.isSupported, ChecksumType.ordered, nonempty, valid, continued]
  | crc32c =>
    have continued : ZephyrCrc.crc32C (summedValue .crc32c front) data front.isEmpty false =
        summedValue .crc32c (front ++ data) := by
      by_cases start : front = []
      · subst start
        simp [summedValue, some]
      · have started : front.isEmpty = false := List.isEmpty_eq_false_iff.mpr start
        simp [summedValue, start, started, some, ZephyrCrc.Streams.crc32C_append]
    have started : (front ++ data).isEmpty = false := List.isEmpty_eq_false_iff.mpr both
    simp [checksumUpdate, summedState, ChecksumType.isSupported, ChecksumType.ordered, nonempty, valid, continued,
      word, started]
  | ieee8023Fcs =>
    have continued : ZephyrCrc.crc32IeeeUpdate (summedValue .ieee8023Fcs front) data =
        summedValue .ieee8023Fcs (front ++ data) := by
      by_cases start : front = []
      · subst start
        simp [summedValue, some]
      · simp [summedValue, start, some, ZephyrCrc.Streams.crc32IeeeUpdate_append]
    simp [checksumUpdate, summedState, ChecksumType.isSupported, ChecksumType.ordered, nonempty, valid, continued,
      word]

end ZephyrCcsds.Cfdp
