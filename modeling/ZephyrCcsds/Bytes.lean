import Mathlib.Data.Nat.Bits
import Mathlib.Data.List.Basic
import Mathlib.Tactic.Ring

/-! # Octet strings and big-endian fields

* `putBe`, `getBe` — a number as a fixed number of octets, most significant first.
* `slice` — the octets of a field inside a longer string.
* `overwrite` — a copy into a buffer.

Both directions of the round trip are proved: `getBe_putBe` and `putBe_getBe`.
-/

namespace ZephyrCcsds

abbrev Bytes : Type := List UInt8

namespace Bytes

/-- The lowest `len` octets of `value`, most significant first. -/
def putBe : Nat → Nat → Bytes
  | 0, _ => []
  | len + 1, value => UInt8.ofNat (value / 256 ^ len) :: putBe len value

def getBe (bytes : Bytes) : Nat := bytes.foldl (fun acc byte => acc * 256 + byte.toNat) 0

def slice (bytes : Bytes) (offset len : Nat) : Bytes := (bytes.drop offset).take len

/-- `memcpy(buf + offset, bytes, len)` -/
def overwrite (buf : Bytes) (offset : Nat) (bytes : Bytes) : Bytes :=
  buf.take offset ++ bytes ++ buf.drop (offset + bytes.length)

/-! ## Big-endian numbers -/

@[simp] theorem putBe_length (len value : Nat) : (putBe len value).length = len := by
  induction len with
  | zero => rfl
  | succ len ih => simp only [putBe, List.length_cons, ih]

@[simp] theorem getBe_nil : getBe [] = 0 := rfl

theorem getBe_foldl (bytes : Bytes) (acc : Nat) :
    bytes.foldl (fun acc byte => acc * 256 + byte.toNat) acc =
      acc * 256 ^ bytes.length + getBe bytes := by
  induction bytes generalizing acc with
  | nil => simp only [List.foldl_nil, List.length_nil, pow_zero, mul_one, getBe_nil, add_zero]
  | cons byte bytes ih =>
    simp only [getBe, List.foldl_cons, List.length_cons]
    rw [ih, ih (0 * 256 + byte.toNat)]
    ring

theorem getBe_cons (byte : UInt8) (bytes : Bytes) :
    getBe (byte :: bytes) = byte.toNat * 256 ^ bytes.length + getBe bytes := by
  have step := getBe_foldl bytes (0 * 256 + byte.toNat)
  rw [zero_mul, zero_add] at step
  rw [← step, getBe, List.foldl_cons, zero_mul, zero_add]

theorem getBe_lt (bytes : Bytes) : getBe bytes < 256 ^ bytes.length := by
  induction bytes with
  | nil => exact Nat.one_pos
  | cons byte bytes ih =>
    rw [getBe_cons, List.length_cons, pow_succ]
    have bound : byte.toNat + 1 ≤ 256 := byte.toNat_lt
    calc byte.toNat * 256 ^ bytes.length + getBe bytes
        < byte.toNat * 256 ^ bytes.length + 256 ^ bytes.length := Nat.add_lt_add_left ih _
      _ = (byte.toNat + 1) * 256 ^ bytes.length := by ring
      _ ≤ 256 ^ bytes.length * 256 := by
        rw [Nat.mul_comm (256 ^ bytes.length)]
        exact Nat.mul_le_mul_right _ bound

theorem getBe_putBe (len value : Nat) : getBe (putBe len value) = value % 256 ^ len := by
  induction len with
  | zero => rw [pow_zero, Nat.mod_one]; rfl
  | succ len ih =>
    rw [putBe, getBe_cons, putBe_length, ih, UInt8.toNat_ofNat', pow_succ (256 : Nat), Nat.mod_mul,
      show (2 : Nat) ^ 8 = 256 from rfl]
    ring

theorem getBe_putBe_of_lt {len value : Nat} (bound : value < 256 ^ len) :
    getBe (putBe len value) = value := by
  rw [getBe_putBe, Nat.mod_eq_of_lt bound]

/-- Only the lowest `len` octets of a number are written. -/
theorem putBe_add_mul (len value high : Nat) :
    putBe len (value + high * 256 ^ len) = putBe len value := by
  have grow : ∀ k n, n ≤ len → putBe n (value + k * 256 ^ len) = putBe n value := by
    intro k n
    induction n with
    | zero => intro _; rfl
    | succ n ih =>
      intro bound
      rw [putBe, putBe, ih (Nat.le_of_succ_le bound)]
      obtain ⟨d, rfl⟩ := Nat.exists_eq_add_of_le bound
      have shift : value + k * 256 ^ (n + 1 + d) = value + 256 ^ n * (k * 256 ^ d * 256) := by ring
      rw [shift, Nat.add_mul_div_left _ _ (Nat.pow_pos (by decide))]
      congr 1
      apply UInt8.toNat_inj.mp
      rw [UInt8.toNat_ofNat', UInt8.toNat_ofNat', show (2 : Nat) ^ 8 = 256 from rfl,
        Nat.add_mul_mod_self_right]
  exact grow high len le_rfl

theorem putBe_getBe (bytes : Bytes) : putBe bytes.length (getBe bytes) = bytes := by
  induction bytes with
  | nil => rfl
  | cons byte bytes ih =>
    rw [List.length_cons, putBe, getBe_cons]
    have high : (byte.toNat * 256 ^ bytes.length + getBe bytes) / 256 ^ bytes.length = byte.toNat := by
      rw [Nat.mul_comm, Nat.mul_add_div (Nat.pow_pos (by decide)), Nat.div_eq_of_lt (getBe_lt bytes),
        Nat.add_zero]
    rw [high, UInt8.ofNat_toNat, Nat.add_comm, putBe_add_mul, ih]

/-! ## Fields -/

theorem slice_length (bytes : Bytes) (offset len : Nat) :
    (slice bytes offset len).length = min len (bytes.length - offset) := by
  rw [slice, List.length_take, List.length_drop]

theorem slice_length_of_le {bytes : Bytes} {offset len : Nat} (bound : offset + len ≤ bytes.length) :
    (slice bytes offset len).length = len := by
  rw [slice_length]
  omega

/-- A field that starts behind the first part. -/
theorem slice_append_right {front back : Bytes} {offset : Nat} (len : Nat)
    (start : front.length ≤ offset) :
    slice (front ++ back) offset len = slice back (offset - front.length) len := by
  rw [slice, slice, List.drop_append, List.drop_eq_nil_of_le start, List.nil_append]

/-- A field that is the whole first part. -/
theorem slice_append_left (front back : Bytes) : slice (front ++ back) 0 front.length = front := by
  rw [slice, List.drop_zero, List.take_left]

/-- The octets up to a field, and the field. -/
theorem take_slice (bytes : Bytes) (offset len : Nat) :
    bytes.take offset ++ slice bytes offset len = bytes.take (offset + len) := by
  rw [slice, List.take_add]

/-- A field of which the first `len` octets are skipped. -/
theorem slice_drop (bytes : Bytes) (offset len offset' len' : Nat) (bound : offset' + len' ≤ len) :
    slice (slice bytes offset len) offset' len' = slice bytes (offset + offset') len' := by
  simp only [slice, List.drop_take, List.drop_drop, List.take_take]
  rw [Nat.min_eq_left (by omega)]

/-! ## Copies into a buffer -/

theorem overwrite_length {buf bytes : Bytes} {offset : Nat} (fits : offset + bytes.length ≤ buf.length) :
    (buf.overwrite offset bytes).length = buf.length := by
  simp only [overwrite, List.length_append, List.length_take, List.length_drop]
  omega

/-- An overwrite may run past the end of the buffer, which then grows. -/
theorem overwrite_getElem?_of_start {buf bytes : Bytes} {offset : Nat} (start : offset ≤ buf.length) (i : Nat) :
    (buf.overwrite offset bytes)[i]? =
      if offset ≤ i ∧ i < offset + bytes.length then bytes[i - offset]? else buf[i]? := by
  have front : (buf.take offset).length = offset := List.length_take_of_le start
  rw [overwrite, List.append_assoc]
  by_cases before : i < offset
  · rw [List.getElem?_append_left (by omega), List.getElem?_take_of_lt before, if_neg (by omega)]
  · rw [List.getElem?_append_right (by omega), front]
    by_cases inside : i < offset + bytes.length
    · rw [List.getElem?_append_left (by omega), if_pos (by omega)]
    · rw [List.getElem?_append_right (by omega), List.getElem?_drop, if_neg (by omega)]
      congr 1
      omega

/-- What was copied is read back. -/
theorem slice_overwrite {buf bytes : Bytes} {offset : Nat} (start : offset ≤ buf.length) :
    (buf.overwrite offset bytes).slice offset bytes.length = bytes := by
  have front : (buf.take offset).length = offset := by
    rw [List.length_take]
    omega
  rw [overwrite, List.append_assoc, slice_append_right _ (by omega), front, Nat.sub_self,
    slice_append_left]

/-- The octets behind a copy are the old ones. -/
theorem slice_overwrite_behind {buf bytes : Bytes} {offset i : Nat} (len : Nat)
    (start : offset ≤ buf.length) (behind : offset + bytes.length ≤ i) :
    (buf.overwrite offset bytes).slice i len = buf.slice i len := by
  have front : (buf.take offset ++ bytes).length = offset + bytes.length := by
    rw [List.length_append, List.length_take]
    omega
  rw [overwrite, slice_append_right _ (by omega), front, slice, slice, List.drop_drop]
  congr 2
  omega

/-- The octets in front of a copy are the old ones. -/
theorem slice_overwrite_before {buf bytes : Bytes} {offset i len : Nat} (start : offset ≤ buf.length)
    (before : i + len ≤ offset) : (buf.overwrite offset bytes).slice i len = buf.slice i len := by
  have front : (buf.take offset).length = offset := List.length_take_of_le start
  have reach : i ≤ (buf.take offset).length := by omega
  have inside : len ≤ ((buf.take offset).drop i).length := by
    rw [List.length_drop]
    omega
  rw [overwrite, List.append_assoc, slice, slice, List.drop_append_of_le_length reach,
    List.take_append_of_le_length inside, List.drop_take, List.take_take, Nat.min_eq_left (by omega)]

/-- Two copies, one right behind the other, are one. -/
theorem overwrite_overwrite {buf first second : Bytes} {offset : Nat} (start : offset ≤ buf.length) :
    (buf.overwrite offset first).overwrite (offset + first.length) second =
      buf.overwrite offset (first ++ second) := by
  have front : (buf.take offset ++ first).length = offset + first.length := by
    rw [List.length_append, List.length_take]
    omega
  have behind : (buf.overwrite offset first).drop (offset + first.length + second.length) =
      buf.drop (offset + (first ++ second).length) := by
    rw [overwrite, ← front, ← List.drop_drop, List.drop_left, front, List.drop_drop,
      List.length_append, Nat.add_assoc]
  have before : (buf.overwrite offset first).take (offset + first.length) = buf.take offset ++ first := by
    rw [overwrite, ← front, List.take_left]
  rw [overwrite, before, behind, overwrite]
  simp only [List.append_assoc]

theorem overwrite_three {buf first second third : Bytes} {offset : Nat}
    (fits : offset + first.length ≤ buf.length) :
    ((buf.overwrite offset first).overwrite (offset + first.length) second).overwrite
        (offset + first.length + second.length) third =
      buf.overwrite offset (first ++ (second ++ third)) := by
  rw [overwrite_overwrite (by rw [overwrite_length fits]; exact fits), overwrite_overwrite (by omega)]

end Bytes

end ZephyrCcsds
