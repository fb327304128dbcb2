import ZephyrCcsds.Callback.Fallible
import ZephyrCcsds.Bytes

/-! # The PSA Crypto interface

The calls SDLS makes through the PSA API and the self-test callback.  PSA is outside the
repository: a call is an operation that the environment answers, with any status and any
output.  All AEAD calls use `PSA_ALG_GCM`.
-/

namespace ZephyrCcsds.Sdls

/-- `psa_status_t`, as far as the callers distinguish it. -/
inductive PsaStatus where
  | success
  | invalidSignature
  | failure
  deriving DecidableEq, Repr

abbrev PsaKeyId : Type := Nat

/-- `PSA_KEY_ID_NULL` -/
def psaKeyIdNull : PsaKeyId := 0

inductive PsaKeyType where
  | aes
  | other
  deriving DecidableEq, Repr

inductive PsaAlgorithm where
  | gcm
  | other
  deriving DecidableEq, Repr

inductive PsaKeyLifetime where
  | volatile
  | persistent
  deriving DecidableEq, Repr

structure PsaKeyUsage where
  encrypt : Bool
  decrypt : Bool
  deriving DecidableEq, Repr

namespace PsaKeyUsage

def encryptOnly : PsaKeyUsage := { encrypt := true, decrypt := false }

def decryptOnly : PsaKeyUsage := { encrypt := false, decrypt := true }

def both : PsaKeyUsage := { encrypt := true, decrypt := true }

/-- `(usage & required) == required` -/
def includes (usage required : PsaKeyUsage) : Bool :=
  (!required.encrypt || usage.encrypt) && (!required.decrypt || usage.decrypt)

end PsaKeyUsage

structure PsaKeyAttributes where
  type : PsaKeyType
  bits : Nat
  algorithm : PsaAlgorithm
  usage : PsaKeyUsage
  lifetime : PsaKeyLifetime
  deriving DecidableEq, Repr

inductive PsaOp where
  | getKeyAttributes (key : PsaKeyId)
  | aeadEncrypt (key : PsaKeyId) (nonce additionalData plaintext : Bytes)
  | aeadDecrypt (key : PsaKeyId) (nonce additionalData ciphertext : Bytes)
  | importKey (attributes : PsaKeyAttributes) (data : Bytes)
  | destroyKey (key : PsaKeyId)
  | selfTest
  deriving DecidableEq, Repr

/-- What a call returns: its status and its output parameters.  An AEAD output stands with the
length PSA reports for it; the self test returns its code and the result it leaves. -/
abbrev PsaRes : PsaOp → Type
  | .getKeyAttributes _ => PsaStatus × PsaKeyAttributes
  | .aeadEncrypt .. => PsaStatus × Bytes
  | .aeadDecrypt .. => PsaStatus × Bytes
  | .importKey .. => PsaStatus × PsaKeyId
  | .destroyKey _ => PsaStatus
  | .selfTest => Int × UInt8

/-- Every call has a possible result. -/
instance PsaRes.inhabited (op : PsaOp) : Inhabited (PsaRes op) :=
  match op with
  | .getKeyAttributes _ => ⟨(.failure, {
      type := .other, bits := 0, algorithm := .other, usage := .both, lifetime := .volatile })⟩
  | .aeadEncrypt .. => ⟨(.failure, [])⟩
  | .aeadDecrypt .. => ⟨(.failure, [])⟩
  | .importKey .. => ⟨(.failure, psaKeyIdNull)⟩
  | .destroyKey _ => ⟨.failure⟩
  | .selfTest => ⟨(0, 0)⟩

end ZephyrCcsds.Sdls
