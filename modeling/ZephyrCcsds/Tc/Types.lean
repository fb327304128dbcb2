import ZephyrCcsds.Sdls.Types

/-! # Telecommand configuration and error codes

The build options of the frame support with the ranges of `zephyr/Kconfig`, and the codes
that the receive path returns.  A call that returns `0` succeeds; every other return value is
a `Failure`: an `errno` value, an SDLS error or whatever a callback returned.
-/

namespace ZephyrCcsds.Tc

/-- The build configuration. -/
class Kconfig where
  maxCltuLen : Nat
  maxFrameLen : Nat
  tcMaxSpacePacketLen : Nat
  cop1WindowSize : Nat
  spacecraftId : Nat
  routerMaxApids : Nat
  tcRnd : Bool
  maxCltuLen_range : 64 ≤ maxCltuLen ∧ maxCltuLen ≤ 65535
  maxFrameLen_range : 32 ≤ maxFrameLen ∧ maxFrameLen ≤ 65535
  tcMaxSpacePacketLen_range : 7 ≤ tcMaxSpacePacketLen ∧ tcMaxSpacePacketLen ≤ 65535
  cop1WindowSize_range : 4 ≤ cop1WindowSize ∧ cop1WindowSize ≤ 128
  spacecraftId_range : spacecraftId ≤ 1023
  routerMaxApids_range : 1 ≤ routerMaxApids ∧ routerMaxApids ≤ 64

export Kconfig (maxCltuLen maxFrameLen tcMaxSpacePacketLen cop1WindowSize spacecraftId routerMaxApids tcRnd)

theorem defaultMaxCltuLen_range : 64 ≤ 1024 ∧ 1024 ≤ 65535 := by decide

/-- The values used when the build does not set them. -/
@[reducible] def defaultKconfig : Kconfig where
  maxCltuLen := 1024
  maxFrameLen := 1115
  tcMaxSpacePacketLen := 2048
  cop1WindowSize := 128
  spacecraftId := 123
  routerMaxApids := 8
  tcRnd := false
  maxCltuLen_range := defaultMaxCltuLen_range
  maxFrameLen_range := by decide
  tcMaxSpacePacketLen_range := by decide
  cop1WindowSize_range := by decide
  spacecraftId_range := by decide
  routerMaxApids_range := by decide

inductive Errno where
  | eacces
  | eagain
  | ebusy
  | einval
  | eio
  | emsgsize
  | enoent
  | enospc
  | enotsup
  deriving DecidableEq, Repr

/-- A return value other than `0` -/
inductive Failure where
  | errno (code : Errno)
  | sdls (error : Sdls.SdlsError)
  | callback (code : Int)
  deriving DecidableEq, Repr

/-! ## Lengths and limits -/

/-- `CCSDS_BCH_BLOCK_SIZE` -/
def bchBlockSize : Nat := 8

/-- `CCSDS_BCH_DATA_SIZE` -/
def bchDataSize : Nat := 7

/-- `CCSDS_TC_PRIMARY_HDR_LEN` -/
def tcPrimaryHdrLen : Nat := 5

/-- `CCSDS_TC_SEGMENT_HDR_LEN` -/
def tcSegmentHdrLen : Nat := 1

/-- `CCSDS_TC_VC_COUNT` -/
def tcVcCount : Nat := 64

/-- `CCSDS_TC_MAP_ID_MAX` -/
def tcMapIdMax : Nat := 63

/-- `CCSDS_APID_MAX` -/
def apidMax : Nat := 2047

/-- `CCSDS_SPACE_PACKET_PRIMARY_HDR_LEN` -/
def spacePacketPrimaryHdrLen : Nat := 6

/-- `CCSDS_TC_FILL_BYTE` -/
def tcFillByte : UInt8 := 0x55

end ZephyrCcsds.Tc
