import ZephyrCcsds.Bytes

/-! # SDLS configuration, codes and field types

The constants of `ccsds_sdls.h` with the ranges of `zephyr/Kconfig` and the build assertions
of the header.  Enumerations are inductive types and the two tables are indexed by `Fin`: a
state outside an enumeration or a slot outside a table cannot be built, so the checks the
source makes on them have no branch here.
-/

namespace ZephyrCcsds.Sdls

/-- The build configuration. -/
class Kconfig where
  maxSa : Nat
  maxKeys : Nat
  sessionKeyBase : Nat
  arsnWindow : UInt32
  eventLogCapacity : Nat
  ivSeedHigh : UInt32
  ivSeedLow : UInt32
  maxSa_range : 1 ≤ maxSa ∧ maxSa ≤ 255
  maxKeys_range : 2 ≤ maxKeys ∧ maxKeys ≤ 255
  sessionKeyBase_range : 1 ≤ sessionKeyBase ∧ sessionKeyBase < maxKeys
  arsnWindow_range : 1 ≤ arsnWindow ∧ arsnWindow ≤ 2147483647
  eventLogCapacity_range : 1 ≤ eventLogCapacity ∧ eventLogCapacity ≤ 255
  otar_fits : 2 + 12 + (maxKeys - sessionKeyBase) * 34 + 16 ≤ 65535 / 8
  verify_fits : maxKeys * 46 ≤ 65535 / 8

export Kconfig (maxSa maxKeys sessionKeyBase arsnWindow eventLogCapacity ivSeedHigh ivSeedLow)

theorem defaultMaxSa_range : 1 ≤ 4 ∧ 4 ≤ 255 := by decide

/-- The values used when the build does not set them. -/
@[reducible] def defaultKconfig : Kconfig where
  maxSa := 4
  maxKeys := 8
  sessionKeyBase := 4
  arsnWindow := 1024
  eventLogCapacity := 8
  ivSeedHigh := 0
  ivSeedLow := 0
  maxSa_range := defaultMaxSa_range
  maxKeys_range := by decide
  sessionKeyBase_range := by decide
  arsnWindow_range := by decide
  eventLogCapacity_range := by decide
  otar_fits := by decide
  verify_fits := by decide

/-! ## Lengths -/

def aesKeyBits : Nat := 256

def ivLen : Nat := 12

def tagLen : Nat := 16

def securityHeaderLen : Nat := 14

/-- `CCSDS_SDLS_PROTECTED_OVERHEAD`: the Security Header and the Security Trailer. -/
def protectedOverhead : Nat := securityHeaderLen + tagLen

/-- `CCSDS_SDLS_KEY_SLOT_NONE` -/
def keySlotNone : Nat := 255

def uint16Max : Nat := 65535

def epHeaderLen : Nat := 3

def epKeyLen : Nat := 32

def epChallengeLen : Nat := 16

def epOtarBlockLen : Nat := 2 + epKeyLen

def epVerifyCommandEntryLen : Nat := 2 + epChallengeLen

def epVerifyReplyEntryLen : Nat := 2 + ivLen + epChallengeLen + tagLen

def epKeyInventoryCommandDataLen : Nat := 4

def epKeyInventoryEntryLen : Nat := 3

def eventValueLen : Nat := 7

def eventWireLen : Nat := 1 + 2 + eventValueLen

section Limits

variable [Kconfig]

def epMaxOtarKeys : Nat := maxKeys - sessionKeyBase

def epMaxRecipients : Nat := maxKeys

def epMaxAssociations : Nat := maxSa

def epOtarPduMax : Nat := epHeaderLen + (2 + ivLen + epMaxOtarKeys * epOtarBlockLen + tagLen)

def epVerifyReplyPduMax : Nat := epHeaderLen + epVerifyReplyEntryLen * epMaxRecipients

def epKeyInventoryReplyPduMax : Nat := epHeaderLen + 2 + epKeyInventoryEntryLen * epMaxRecipients

def epDumpLogPduMax : Nat := epHeaderLen + eventLogCapacity * eventWireLen

def epReplyPduMax : Nat := max (max epVerifyReplyPduMax epKeyInventoryReplyPduMax) epDumpLogPduMax

/-- The slot of a Security Association; SPI `n` is slot `n - 1`. -/
abbrev SaSlot : Type := Fin maxSa

/-- The slot of a key, which is its key ID. -/
abbrev KeySlot : Type := Fin maxKeys

def SaSlot.spi (slot : SaSlot) : Nat := slot.val + 1

end Limits

/-! ## Codes -/

inductive SdlsError where
  | format
  | authentication
  | replay
  | unknownSa
  | saState
  | key
  | psa
  | unsupported
  | keyState
  | capacity
  deriving DecidableEq, Repr

inductive EventCode where
  | format
  | authentication
  | staleArsn
  | arsnGap
  | unknownSa
  | saState
  | keyId
  | keyState
  | keyTransition
  | saTransition
  | otarAuthentication
  | selfTest
  | psa
  | unsupported
  | capacity
  deriving DecidableEq, Repr

def EventCode.code : EventCode → Nat
  | .format => 1
  | .authentication => 2
  | .staleArsn => 3
  | .arsnGap => 4
  | .unknownSa => 5
  | .saState => 6
  | .keyId => 7
  | .keyState => 8
  | .keyTransition => 9
  | .saTransition => 10
  | .otarAuthentication => 11
  | .selfTest => 12
  | .psa => 13
  | .unsupported => 14
  | .capacity => 15

def eventTagLocal : UInt8 := 0xfe

def eventTagUnauthenticatedFrame : UInt8 := 0xff

def selfTestOk : UInt8 := 0x00

def selfTestNotOk : UInt8 := 0x80

inductive SaState where
  | stopped
  | operational
  | expired
  deriving DecidableEq, Repr

inductive SaRole where
  | epCommandRx
  | epReplyTx
  | operationalTcRx
  | operationalTmTx
  deriving DecidableEq, Repr

/-- `sa_role_is_rx` -/
def SaRole.isRx : SaRole → Bool
  | .epCommandRx => true
  | .epReplyTx => false
  | .operationalTcRx => true
  | .operationalTmTx => false

/-- `sa_role_is_tx` -/
def SaRole.isTx : SaRole → Bool
  | .epCommandRx => false
  | .epReplyTx => true
  | .operationalTcRx => false
  | .operationalTmTx => true

inductive SecurityMode where
  | gmac
  | gcm
  | clear
  deriving DecidableEq, Repr

inductive KeyState where
  | preActive
  | active
  | deactivated
  deriving DecidableEq, Repr

def KeyState.code : KeyState → UInt8
  | .preActive => 0
  | .active => 1
  | .deactivated => 2

/-! ## Extended Procedures -/

inductive EpType where
  | command
  | reply
  deriving DecidableEq, Repr

inductive ServiceGroup where
  | keyManagement
  | saManagement
  | securityMonitoring
  deriving DecidableEq, Repr

/-- The procedures of the three service groups. -/
inductive Procedure where
  | otar
  | keyActivation
  | keyDeactivation
  | keyVerification
  | keyInventory
  | readArsn
  | setArsnWindow
  | rekeySa
  | expireSa
  | setArsn
  | startSa
  | stopSa
  | saStatus
  | ping
  | logStatus
  | dumpLog
  | eraseLog
  | selfTest
  | alarmFlagReset
  deriving DecidableEq, Repr

namespace Procedure

def serviceGroup : Procedure → ServiceGroup
  | otar | keyActivation | keyDeactivation | keyVerification | keyInventory => .keyManagement
  | readArsn | setArsnWindow | rekeySa | expireSa | setArsn | startSa | stopSa | saStatus =>
    .saManagement
  | ping | logStatus | dumpLog | eraseLog | selfTest | alarmFlagReset => .securityMonitoring

/-- The low four bits of the tag. -/
def code : Procedure → Nat
  | otar => 1
  | keyActivation => 2
  | keyDeactivation => 3
  | keyVerification => 4
  | keyInventory => 7
  | readArsn => 0
  | setArsnWindow => 5
  | rekeySa => 6
  | expireSa => 9
  | setArsn => 10
  | startSa => 11
  | stopSa => 14
  | saStatus => 15
  | ping => 1
  | logStatus => 2
  | dumpLog => 3
  | eraseLog => 4
  | selfTest => 5
  | alarmFlagReset => 7

def hasReply : Procedure → Bool
  | keyVerification | keyInventory | readArsn | saStatus => true
  | ping | logStatus | dumpLog | eraseLog | selfTest => true
  | otar | keyActivation | keyDeactivation => false
  | setArsnWindow | rekeySa | expireSa | setArsn | startSa | stopSa => false
  | alarmFlagReset => false

end Procedure

/-- The service group in bits 5 and 4 of the tag, as a number. -/
def ServiceGroup.code : ServiceGroup → Nat
  | .keyManagement => 0
  | .saManagement => 1
  | .securityMonitoring => 3

/-- The procedures that the switch statements of the module know. -/
def procedureOf (serviceGroup procedure : Nat) : Option Procedure :=
  match serviceGroup, procedure with
  | 0, 1 => some .otar
  | 0, 2 => some .keyActivation
  | 0, 3 => some .keyDeactivation
  | 0, 4 => some .keyVerification
  | 0, 7 => some .keyInventory
  | 1, 0 => some .readArsn
  | 1, 5 => some .setArsnWindow
  | 1, 6 => some .rekeySa
  | 1, 9 => some .expireSa
  | 1, 10 => some .setArsn
  | 1, 11 => some .startSa
  | 1, 14 => some .stopSa
  | 1, 15 => some .saStatus
  | 3, 1 => some .ping
  | 3, 2 => some .logStatus
  | 3, 3 => some .dumpLog
  | 3, 4 => some .eraseLog
  | 3, 5 => some .selfTest
  | 3, 7 => some .alarmFlagReset
  | _, _ => none

/-- `procedure_supported`, for a procedure of the tables. -/
def procedureSupported (type : EpType) (procedure : Procedure) : Bool :=
  type = .command || procedure.hasReply

end ZephyrCcsds.Sdls
