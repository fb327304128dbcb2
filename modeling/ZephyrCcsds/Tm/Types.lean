import ZephyrCcsds.Tc.Types

/-! # Telemetry configuration

The build options of the TM generator with the ranges of `zephyr/Kconfig` and the build assertions
of `ccsds_tm_frame.c`.  The return codes are those of the telecommand side.
-/

namespace ZephyrCcsds.Tm

/-! ## Lengths and limits -/

/-- `CCSDS_TM_VC_COUNT` -/
@[reducible] def tmVcCount : Nat := 8

/-- `CCSDS_TM_ROUTE_COUNT` -/
@[reducible] def tmRouteCount : Nat := 32

/-- `CCSDS_TM_PRIMARY_HDR_LEN` -/
def tmPrimaryHdrLen : Nat := 6

/-- `CCSDS_TM_OCF_LEN` -/
def tmOcfLen : Nat := 4

/-- `CCSDS_SPACE_PACKET_MIN_LEN` -/
def spacePacketMinLen : Nat := Tc.spacePacketPrimaryHdrLen + 1

/-- `CCSDS_TM_IDLE_FIRST_HEADER_POINTER` -/
def tmIdleFirstHeaderPointer : Nat := 0x7fe

/-- `CCSDS_TM_NO_FIRST_HEADER_POINTER` -/
def tmNoFirstHeaderPointer : Nat := 0x7ff

/-- `CCSDS_TM_SEGMENT_LENGTH_ID` -/
def tmSegmentLengthId : Nat := 3

/-- `CCSDS_SEQUENCE_UNSEGMENTED` -/
def sequenceUnsegmented : Nat := 3

/-- `CCSDS_TM_IDLE_APID` -/
def tmIdleApid : Nat := Tc.apidMax

/-- `CCSDS_RS_DATA_LEN` -/
def rsDataLen : Nat := 223

/-- `CCSDS_RS_PARITY_LEN` -/
def rsParityLen : Nat := 32

/-- `CCSDS_CRC16_LEN` -/
def crc16Len : Nat := 2

/-- `CCSDS_TM_FRAME_LEN`, without Reed-Solomon coding or with an interleave depth -/
def frameLenOf (rsInterleaveDepth : Option Nat) (maxFrameLen : Nat) : Nat :=
  match rsInterleaveDepth with
  | none => maxFrameLen
  | some depth => rsDataLen * depth

/-- `CCSDS_TM_FECF_LEN` -/
def fecfLenOf (tmFecf : Bool) : Nat := if tmFecf then crc16Len else 0

/-! ## Build options -/

/-- The build configuration; `sdls` is `CONFIG_CCSDS_SDLS`. -/
class Kconfig extends Tc.Kconfig where
  tmMaxSpacePacketLen : Nat
  tmQueueDepth : Nat
  rsInterleaveDepth : Option Nat
  tmRnd : Bool
  tmFecf : Bool
  sdls : Bool
  tmMaxSpacePacketLen_range : 7 ≤ tmMaxSpacePacketLen ∧ tmMaxSpacePacketLen ≤ 65535
  tmQueueDepth_range : 7 ≤ tmQueueDepth ∧ tmQueueDepth ≤ 65535
  rsInterleaveDepth_range : ∀ depth ∈ rsInterleaveDepth, 1 ≤ depth ∧ depth ≤ 8
  frameLen_le : frameLenOf rsInterleaveDepth maxFrameLen ≤ maxFrameLen
  overhead_lt : tmPrimaryHdrLen + tmOcfLen + fecfLenOf tmFecf < frameLenOf rsInterleaveDepth maxFrameLen
  securedOverhead_lt : sdls = true →
    tmPrimaryHdrLen + Sdls.protectedOverhead + tmOcfLen + fecfLenOf tmFecf <
      frameLenOf rsInterleaveDepth maxFrameLen
  tmMaxSpacePacketLen_le : tmMaxSpacePacketLen ≤ tmQueueDepth

export Kconfig (tmMaxSpacePacketLen tmQueueDepth rsInterleaveDepth tmRnd tmFecf)

theorem defaultTmQueueDepth_range : 7 ≤ 2048 ∧ 2048 ≤ 65535 := by decide

/-- The values used when the build does not set them, with SDLS -/
@[reducible] def defaultKconfig : Kconfig where
  toKconfig := Tc.defaultKconfig
  tmMaxSpacePacketLen := 2048
  tmQueueDepth := 2048
  rsInterleaveDepth := some 5
  tmRnd := false
  tmFecf := false
  sdls := true
  tmMaxSpacePacketLen_range := defaultTmQueueDepth_range
  tmQueueDepth_range := defaultTmQueueDepth_range
  rsInterleaveDepth_range := by
    rintro depth ⟨⟩
    decide
  frameLen_le := by decide
  overhead_lt := by decide
  securedOverhead_lt := by decide
  tmMaxSpacePacketLen_le := by decide

/-- A small build without channel coding -/
@[reducible] def sampleKconfig : Kconfig where
  toKconfig := { Tc.defaultKconfig with maxFrameLen := 64, maxFrameLen_range := by decide }
  tmMaxSpacePacketLen := 32
  tmQueueDepth := 32
  rsInterleaveDepth := none
  tmRnd := false
  tmFecf := false
  sdls := true
  tmMaxSpacePacketLen_range := by decide
  tmQueueDepth_range := by decide
  rsInterleaveDepth_range := nofun
  frameLen_le := by decide
  overhead_lt := by decide
  securedOverhead_lt := by decide
  tmMaxSpacePacketLen_le := by decide

/-- `CCSDS_TM_FRAME_LEN` -/
def tmFrameLen [Kconfig] : Nat := frameLenOf rsInterleaveDepth Tc.maxFrameLen

/-- `CCSDS_TM_FECF_LEN` -/
def tmFecfLen [Kconfig] : Nat := fecfLenOf tmFecf

abbrev VcId : Type := Fin tmVcCount

/-- `CCSDS_TM_IDLE_VC_ID` -/
def tmIdleVcId : VcId := ⟨7, by decide⟩

/-- `k_timeout_t` -/
inductive Timeout where
  | noWait
  | after (ticks : Nat)
  | forever
  deriving DecidableEq, Repr

end ZephyrCcsds.Tm
