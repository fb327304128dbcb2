import Mathlib.Data.List.DropRight
import Mathlib.Data.List.Nodup
import Mathlib.Logic.Function.Basic

/-! # Circular buffers that overwrite

A buffer of fixed capacity in which a push that finds it full takes the place of the oldest element.

* `Ring.toList` — the elements from the oldest to the newest.
* `Ring.toList_push` — a push keeps the last `capacity` elements.
* `Ring.toList_push_of` — one push after a sequence of them.
-/

namespace ZephyrCcsds

/-- Cells that are in use from `start` on, round the end -/
structure Ring (α : Type) (capacity : Nat) where
  cells : Fin capacity → α
  start : Nat
  count : Nat
  positive : 0 < capacity
  bounded : count ≤ capacity

namespace Ring

variable {α : Type} {capacity : Nat}

/-- The cell that is `i` steps round from the first one -/
def cell (positive : 0 < capacity) (i : Nat) : Fin capacity := ⟨i % capacity, Nat.mod_lt _ positive⟩

theorem cell_congr (positive : 0 < capacity) {i j : Nat} (same : i % capacity = j % capacity) :
    cell positive i = cell positive j :=
  Fin.ext same

/-- Places less than a round apart are different cells. -/
theorem cell_ne (positive : 0 < capacity) {i j : Nat} (before : i < j) (near : j < i + capacity) :
    cell positive i ≠ cell positive j := by
  intro same
  have mods : i % capacity = j % capacity := congrArg Fin.val same
  have divides : capacity ∣ j - i := Nat.dvd_of_mod_eq_zero (Nat.sub_mod_eq_zero_of_mod_eq mods.symm)
  have short := Nat.le_of_dvd (by omega) divides
  omega

def empty (positive : 0 < capacity) (cells : Fin capacity → α) : Ring α capacity where
  cells := cells
  start := 0
  count := 0
  positive := positive
  bounded := Nat.zero_le _

/-- The elements, oldest first -/
def toList (ring : Ring α capacity) : List α :=
  (List.range ring.count).map fun i => ring.cells (cell ring.positive (ring.start + i))

/-- Write behind the newest element, and give up the oldest one if there is no room. -/
def push (ring : Ring α capacity) (x : α) : Ring α capacity :=
  let cells := Function.update ring.cells (cell ring.positive (ring.start + ring.count)) x
  if room : ring.count < capacity then
    { ring with cells, count := ring.count + 1, bounded := room }
  else
    { ring with cells, start := ring.start + 1 }

variable (ring : Ring α capacity) (x : α)

@[simp] theorem toList_empty (positive : 0 < capacity) (cells : Fin capacity → α) :
    (empty positive cells).toList = [] := rfl

@[simp] theorem length_toList : ring.toList.length = ring.count := by simp [toList]

theorem getElem_toList {i : Nat} (bound : i < ring.toList.length) :
    ring.toList[i] = ring.cells (cell ring.positive (ring.start + i)) := by
  simp [toList]

/-- What is in use stays as it is when the next cell is written. -/
theorem update_other {i : Nat} (used : i < ring.count) (notFirst : ring.count < capacity + i) :
    Function.update ring.cells (cell ring.positive (ring.start + ring.count)) x
        (cell ring.positive (ring.start + i)) = ring.cells (cell ring.positive (ring.start + i)) :=
  Function.update_of_ne (cell_ne ring.positive (by omega) (by omega)) ..

theorem push_room (room : ring.count < capacity) : (ring.push x).toList = ring.toList ++ [x] := by
  have pushed : ring.push x =
      { ring with
        cells := Function.update ring.cells (cell ring.positive (ring.start + ring.count)) x
        count := ring.count + 1
        bounded := room } := by
    rw [push, dif_pos room]
  rw [pushed, toList, List.range_succ, List.map_append]
  congr 1
  · apply List.map_congr_left
    intro i used
    exact ring.update_other x (List.mem_range.mp used) (by omega)
  · simp

theorem push_full (full : ring.count = capacity) : (ring.push x).toList = ring.toList.tail ++ [x] := by
  have positive := ring.positive
  have pushed : ring.push x =
      { ring with
        cells := Function.update ring.cells (cell ring.positive (ring.start + ring.count)) x
        start := ring.start + 1 } := by
    rw [push, dif_neg (by omega)]
  have length : (ring.push x).toList.length = ring.count := by rw [length_toList, pushed]
  apply List.ext_getElem
  · simp [length]
    omega
  · intro i inside _
    rw [length] at inside
    rw [getElem_toList, pushed]
    by_cases last : i + 1 < ring.count
    · -- An element that was there before, one place further from the start
      rw [List.getElem_append_left (by simp; omega), List.getElem_tail, getElem_toList, Nat.add_assoc,
        Nat.add_comm 1 i]
      exact ring.update_other x last (by omega)
    · -- The place that has been written
      have here : ring.start + 1 + i = ring.start + ring.count := by omega
      rw [List.getElem_append_right (by simp; omega)]
      simp [here]

/-- A push keeps the last elements. -/
theorem toList_push : (ring.push x).toList = (ring.toList ++ [x]).rtake capacity := by
  have bounded := ring.bounded
  by_cases room : ring.count < capacity
  · have short : (ring.toList ++ [x]).length - capacity = 0 := by simp; omega
    rw [push_room ring x room, List.rtake, short, List.drop_zero]
  · have full : ring.count = capacity := by omega
    have one : (ring.toList ++ [x]).length - capacity = 1 := by simp; omega
    have positive := ring.positive
    rw [push_full ring x full, List.rtake, one, List.drop_append_of_le_length (by simp; omega), List.drop_one]

/-- The last elements of what has been kept are the last elements of all. -/
theorem rtake_concat_rtake (xs : List α) (x : α) (n : Nat) :
    (xs.rtake n ++ [x]).rtake n = (xs ++ [x]).rtake n := by
  cases n with
  | zero => simp
  | succ n =>
    rw [List.rtake_concat_succ, List.rtake_concat_succ, List.rtake, List.rtake, List.rtake, List.drop_drop,
      List.length_drop]
    congr 2
    omega

/-- A ring that holds the last elements of a sequence holds those of the longer one. -/
theorem toList_push_of (xs : List α) (held : ring.toList = xs.rtake capacity) :
    (ring.push x).toList = (xs ++ [x]).rtake capacity := by
  rw [toList_push, held, rtake_concat_rtake]

end Ring

end ZephyrCcsds
