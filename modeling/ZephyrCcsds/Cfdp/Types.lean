import ZephyrCcsds.Bytes

/-! # CFDP configuration, status codes and field types

The constants of `ccsds_cfdp_config.h` with the ranges of `zephyr/Kconfig`, the status
codes and the enumerations of the PDU fields.  One- and two-bit fields are inductive
types: a value outside the enumeration cannot be built, so the range checks that the
encoders make on them have no branch here.
-/

namespace ZephyrCcsds.Cfdp

/-- The build configuration.  The bounds are the `range` lines of `zephyr/Kconfig`. -/
class Kconfig where
  maxEntityIdLen : Nat
  maxTransSeqLen : Nat
  maxFilenameLen : Nat
  maxPduSize : Nat
  maxSegmentSize : Nat
  maxNakRanges : Nat
  maxNakRounds : Nat
  retryIntervalMs : Nat
  maxEntityIdLen_range : 1 ≤ maxEntityIdLen ∧ maxEntityIdLen ≤ 8
  maxTransSeqLen_range : 1 ≤ maxTransSeqLen ∧ maxTransSeqLen ≤ 8
  maxFilenameLen_range : maxFilenameLen ≤ 255
  maxPduSize_range : 64 ≤ maxPduSize ∧ maxPduSize ≤ 65535
  maxSegmentSize_range : 1 ≤ maxSegmentSize ∧ maxSegmentSize ≤ 65535
  maxNakRanges_range : 1 ≤ maxNakRanges ∧ maxNakRanges ≤ 64
  maxNakRounds_range : 1 ≤ maxNakRounds ∧ maxNakRounds ≤ 255

export Kconfig (maxEntityIdLen maxTransSeqLen maxFilenameLen maxPduSize maxSegmentSize maxNakRanges
  maxNakRounds retryIntervalMs)

/-- The values used when the build does not set them. -/
@[reducible] def defaultKconfig : Kconfig where
  maxEntityIdLen := 4
  maxTransSeqLen := 4
  maxFilenameLen := 64
  maxPduSize := 512
  maxSegmentSize := 384
  maxNakRanges := 4
  maxNakRounds := 4
  retryIntervalMs := 1000
  maxEntityIdLen_range := by decide
  maxTransSeqLen_range := by decide
  maxFilenameLen_range := by decide
  maxPduSize_range := by decide
  maxSegmentSize_range := by decide
  maxNakRanges_range := by decide
  maxNakRounds_range := by decide

def uint16Max : Nat := 65535

def uint32Max : Nat := 4294967295

inductive Status where
  | ok
  | invalidArgument
  | bufferTooSmall
  | malformedPdu
  | unsupported
  | unsupportedChecksum
  | invalidTransmissionMode
  | checksumFailure
  | fileSizeError
  | inactivityDetected
  | nakLimitReached
  | cancelRequest
  | filestoreRejection
  | transactionBusy
  deriving DecidableEq, Repr, Inhabited

/-! ## PDU fields -/

inductive PduType where
  | fileDirective
  | fileData
  deriving DecidableEq, Repr

inductive Direction where
  | towardReceiver
  | towardSender
  deriving DecidableEq, Repr

inductive TransmissionMode where
  | acknowledged
  | unacknowledged
  deriving DecidableEq, Repr

inductive CrcFlag where
  | notPresent
  | present
  deriving DecidableEq, Repr

inductive FileSizeMode where
  | small
  | large
  deriving DecidableEq, Repr

inductive SegmentationControl where
  | recordBoundariesNotPreserved
  | recordBoundariesPreserved
  deriving DecidableEq, Repr

inductive DeliveryCode where
  | dataComplete
  | dataIncomplete
  deriving DecidableEq, Repr

inductive FileStatus where
  | discardedDeliberately
  | discardedFilestoreRejection
  | retained
  | unreported
  deriving DecidableEq, Repr

inductive TransactionStatus where
  | undefined
  | active
  | terminated
  | unrecognized
  deriving DecidableEq, Repr

/-- The checksum types with a name, and every other value of the four-bit field. -/
inductive ChecksumType where
  | modular
  | crc32c
  | ieee8023Fcs
  | null
  | other (code : Nat)
  deriving DecidableEq, Repr

namespace PduType
def code : PduType → Nat | fileDirective => 0 | fileData => 1
def ofCode (bit : Nat) : PduType := if bit = 0 then fileDirective else fileData
@[simp] theorem ofCode_code (t : PduType) : ofCode t.code = t := by cases t <;> rfl
theorem code_lt (t : PduType) : t.code < 2 := by cases t <;> decide
end PduType

namespace Direction
def code : Direction → Nat | towardReceiver => 0 | towardSender => 1
def ofCode (bit : Nat) : Direction := if bit = 0 then towardReceiver else towardSender
@[simp] theorem ofCode_code (d : Direction) : ofCode d.code = d := by cases d <;> rfl
theorem code_lt (d : Direction) : d.code < 2 := by cases d <;> decide
end Direction

namespace TransmissionMode
def code : TransmissionMode → Nat | acknowledged => 0 | unacknowledged => 1
def ofCode (bit : Nat) : TransmissionMode := if bit = 0 then acknowledged else unacknowledged
@[simp] theorem ofCode_code (m : TransmissionMode) : ofCode m.code = m := by cases m <;> rfl
theorem code_lt (m : TransmissionMode) : m.code < 2 := by cases m <;> decide
theorem eq_unacknowledged {m : TransmissionMode} (other : m ≠ acknowledged) : m = unacknowledged := by
  cases m with
  | acknowledged => exact (other rfl).elim
  | unacknowledged => rfl
end TransmissionMode

namespace CrcFlag
def code : CrcFlag → Nat | notPresent => 0 | present => 1
def ofCode (bit : Nat) : CrcFlag := if bit = 0 then notPresent else present
@[simp] theorem ofCode_code (c : CrcFlag) : ofCode c.code = c := by cases c <;> rfl
theorem code_lt (c : CrcFlag) : c.code < 2 := by cases c <;> decide
end CrcFlag

namespace FileSizeMode
def code : FileSizeMode → Nat | small => 0 | large => 1
def ofCode (bit : Nat) : FileSizeMode := if bit = 0 then small else large
end FileSizeMode

namespace SegmentationControl
def code : SegmentationControl → Nat
  | recordBoundariesNotPreserved => 0
  | recordBoundariesPreserved => 1
def ofCode (bit : Nat) : SegmentationControl :=
  if bit = 0 then recordBoundariesNotPreserved else recordBoundariesPreserved
@[simp] theorem ofCode_code (c : SegmentationControl) : ofCode c.code = c := by cases c <;> rfl
theorem code_lt (c : SegmentationControl) : c.code < 2 := by cases c <;> decide
end SegmentationControl

namespace DeliveryCode
def code : DeliveryCode → Nat | dataComplete => 0 | dataIncomplete => 1
def ofCode (bit : Nat) : DeliveryCode := if bit = 0 then dataComplete else dataIncomplete
@[simp] theorem ofCode_code (d : DeliveryCode) : ofCode d.code = d := by cases d <;> rfl
theorem code_lt (d : DeliveryCode) : d.code < 2 := by cases d <;> decide
end DeliveryCode

namespace FileStatus
def code : FileStatus → Nat
  | discardedDeliberately => 0
  | discardedFilestoreRejection => 1
  | retained => 2
  | unreported => 3
def ofCode : Nat → FileStatus
  | 0 => discardedDeliberately
  | 1 => discardedFilestoreRejection
  | 2 => retained
  | _ => unreported
@[simp] theorem ofCode_code (s : FileStatus) : ofCode s.code = s := by cases s <;> rfl
theorem code_lt (s : FileStatus) : s.code < 4 := by cases s <;> decide
end FileStatus

namespace TransactionStatus
def code : TransactionStatus → Nat
  | undefined => 0
  | active => 1
  | terminated => 2
  | unrecognized => 3
def ofCode : Nat → TransactionStatus
  | 0 => undefined
  | 1 => active
  | 2 => terminated
  | _ => unrecognized
@[simp] theorem ofCode_code (s : TransactionStatus) : ofCode s.code = s := by cases s <;> rfl
theorem code_lt (s : TransactionStatus) : s.code < 4 := by cases s <;> decide
end TransactionStatus

namespace ChecksumType
def code : ChecksumType → Nat
  | modular => 0
  | crc32c => 2
  | ieee8023Fcs => 3
  | null => 15
  | other code => code
def ofCode : Nat → ChecksumType
  | 0 => modular
  | 2 => crc32c
  | 3 => ieee8023Fcs
  | 15 => null
  | code => other code
end ChecksumType

def directiveEof : Nat := 0x04
def directiveFinished : Nat := 0x05
def directiveAck : Nat := 0x06
def directiveMetadata : Nat := 0x07
def directiveNak : Nat := 0x08

def conditionNoError : Nat := 0x0
def conditionFilestoreRejection : Nat := 0x4
def conditionFileChecksumFailure : Nat := 0x5
def conditionFileSizeError : Nat := 0x6
def conditionNakLimitReached : Nat := 0x7
def conditionCancelRequestReceived : Nat := 0xF

def ackDirectiveSubtypeOther : Nat := 0
def ackDirectiveSubtypeFinished : Nat := 1

end ZephyrCcsds.Cfdp
