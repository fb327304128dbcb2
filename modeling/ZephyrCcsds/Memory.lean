import ZephyrCcsds.Bytes

/-! # Checked memory accesses

Reads of octet buffers and unsigned subtractions, as computations that stop at the first one that goes wrong.
A pointer into a buffer is an offset.

* `sub` — a subtraction of unsigned numbers, which must not wrap.
* `load`, `loadSpan` — reads, with the octets read.
* `ite_ok` — a branch passes its checks if both sides do.
-/

namespace ZephyrCcsds.Memory

/-- What stops a checked computation. -/
inductive Fault where
  | underflow
  | outside
  deriving DecidableEq, Repr

abbrev Checked (α : Type) : Type := Except Fault α

/-- `a - b` of unsigned numbers -/
def sub (a b : Nat) : Checked Nat := if b ≤ a then .ok (a - b) else .error .underflow

/-- `buf[i]` -/
def load (buf : Bytes) (i : Nat) : Checked UInt8 := if i < buf.length then .ok (buf.getD i 0) else .error .outside

/-- A read of `len` octets from `buf + offset` on -/
def loadSpan (buf : Bytes) (offset len : Nat) : Checked Bytes :=
  if offset + len ≤ buf.length then .ok (buf.slice offset len) else .error .outside

variable {α β : Type}

@[simp] theorem ok_bind (a : α) (f : α → Checked β) : (Except.ok a >>= f) = f a := rfl

@[simp] theorem pure_eq (a : α) : (pure a : Checked α) = .ok a := rfl

theorem sub_ok {a b : Nat} (le : b ≤ a) : sub a b = .ok (a - b) := if_pos le

theorem load_ok {buf : Bytes} {i : Nat} (inside : i < buf.length) : load buf i = .ok (buf.getD i 0) := if_pos inside

theorem loadSpan_ok {buf : Bytes} {offset len : Nat} (inside : offset + len ≤ buf.length) :
    loadSpan buf offset len = .ok (buf.slice offset len) := if_pos inside

/-- The checks of a branch, from those of its sides. -/
theorem ite_ok {c : Prop} [Decidable c] {p q : Checked α} {a b : α} (yes : c → p = .ok a) (no : ¬ c → q = .ok b) :
    (if c then p else q) = .ok (if c then a else b) := by
  by_cases holds : c
  · rw [if_pos holds, if_pos holds, yes holds]
  · rw [if_neg holds, if_neg holds, no holds]

end ZephyrCcsds.Memory
