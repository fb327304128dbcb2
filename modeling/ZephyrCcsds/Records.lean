import ZephyrCcsds.Bytes

/-! # Records of one size

Octets as a row of records that all have the same size: the record at an index is a field, and reading
every record undoes writing every record, both ways.
-/

namespace ZephyrCcsds.Records

open Bytes

variable {α : Type} {put : α → Bytes} {get : Bytes → α} {size : Nat}

theorem flatMap_length (records : List α) (sized : ∀ record ∈ records, (put record).length = size) :
    (records.flatMap put).length = records.length * size := by
  induction records with
  | nil => simp
  | cons record records ih =>
    rw [List.flatMap_cons, List.length_append, sized record List.mem_cons_self,
      ih fun record member => sized record (List.mem_cons_of_mem _ member), List.length_cons, Nat.add_mul,
      Nat.one_mul, Nat.add_comm]

/-- The record at an index -/
theorem slice_flatMap (records : List α) (sized : ∀ record ∈ records, (put record).length = size) (i : Nat)
    (inside : i < records.length) : slice (records.flatMap put) (i * size) size = put records[i] := by
  induction records generalizing i with
  | nil => cases inside
  | cons record records ih =>
    have first := sized record List.mem_cons_self
    rw [List.flatMap_cons]
    cases i with
    | zero =>
      have whole := slice_append_left (put record) (records.flatMap put)
      rwa [first, ← Nat.zero_mul size] at whole
    | succ i =>
      rw [slice_append_right _ (by rw [first, Nat.succ_mul]; omega), first, Nat.succ_mul, Nat.add_sub_cancel]
      exact ih (fun record member => sized record (List.mem_cons_of_mem _ member)) i
        (Nat.lt_of_succ_lt_succ inside)

/-- Octets are the records that they are cut into. -/
theorem flatMap_slice (octets : Bytes) (size n : Nat) :
    ((List.range n).flatMap fun i => slice octets (i * size) size) = octets.take (n * size) := by
  induction n with
  | zero => simp
  | succ n ih =>
    rw [List.range_succ, List.flatMap_append, ih, List.flatMap_singleton, slice, Nat.add_mul, Nat.one_mul,
      List.take_add]

/-- Every record that is written is read back. -/
theorem read_written (records : List α) (sized : ∀ record ∈ records, (put record).length = size)
    (back : ∀ record ∈ records, get (put record) = record) :
    ((List.range records.length).map fun i => get (slice (records.flatMap put) (i * size) size)) = records := by
  apply List.ext_getElem
  · simp
  intro i bound bound'
  rw [List.getElem_map, List.getElem_range, slice_flatMap records sized i bound', back _ (List.getElem_mem bound')]

/-- Every record that is read is written back. -/
theorem written_read (octets : Bytes) (n : Nat) (length : octets.length = n * size)
    (back : ∀ record : Bytes, record.length = size → put (get record) = record) :
    ((List.range n).map fun i => get (slice octets (i * size) size)).flatMap put = octets := by
  rw [List.flatMap_map]
  have each : ∀ i ∈ List.range n, put (get (slice octets (i * size) size)) = slice octets (i * size) size := by
    intro i inside
    rw [List.mem_range] at inside
    have room : (i + 1) * size ≤ n * size := Nat.mul_le_mul_right _ inside
    rw [Nat.add_mul, Nat.one_mul] at room
    exact back _ (slice_length_of_le (by omega))
  rw [List.flatMap_congr each, flatMap_slice, ← length, List.take_length]

end ZephyrCcsds.Records
