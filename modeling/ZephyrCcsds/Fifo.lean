import Mathlib.Data.List.Basic

/-! # Bounded queues

A first-in first-out queue that never holds more than its capacity.

* `Fifo.put` — as many items as fit, with the number taken.
* `Fifo.get` — at most the given number of items, from the front.
-/

namespace ZephyrCcsds

structure Fifo (α : Type) (capacity : Nat) where
  items : List α
  bounded : items.length ≤ capacity
  deriving DecidableEq

namespace Fifo

variable {α : Type} {capacity : Nat}

def empty : Fifo α capacity where
  items := []
  bounded := Nat.zero_le _

/-- The number of items that still fit -/
def free (queue : Fifo α capacity) : Nat := capacity - queue.items.length

/-- The number of items that a writer gets rid of -/
def room (queue : Fifo α capacity) (items : List α) : Nat := min items.length queue.free

def put (queue : Fifo α capacity) (items : List α) : Fifo α capacity where
  items := queue.items ++ items.take (queue.room items)
  bounded := by
    have bounded := queue.bounded
    rw [List.length_append, List.length_take]
    simp only [room, free]
    omega

def get (queue : Fifo α capacity) (count : Nat) : List α × Fifo α capacity :=
  (queue.items.take count, {
    items := queue.items.drop count
    bounded := by
      have bounded := queue.bounded
      rw [List.length_drop]
      omega })

@[ext] theorem ext {first second : Fifo α capacity} (same : first.items = second.items) : first = second := by
  cases first
  cases second
  cases same
  rfl

@[simp] theorem empty_items : (empty : Fifo α capacity).items = [] := rfl

@[simp] theorem get_fst (queue : Fifo α capacity) (count : Nat) : (queue.get count).1 = queue.items.take count := rfl

@[simp] theorem get_snd_items (queue : Fifo α capacity) (count : Nat) :
    (queue.get count).2.items = queue.items.drop count := rfl

theorem put_items (queue : Fifo α capacity) (items : List α) :
    (queue.put items).items = queue.items ++ items.take (queue.room items) := rfl

theorem room_of_le {queue : Fifo α capacity} {items : List α} (fits : items.length ≤ queue.free) :
    queue.room items = items.length := by
  simp only [room]
  omega

theorem put_items_of_le {queue : Fifo α capacity} {items : List α} (fits : items.length ≤ queue.free) :
    (queue.put items).items = queue.items ++ items := by
  rw [put_items, room_of_le fits, List.take_length]

theorem free_put (queue : Fifo α capacity) (items : List α) :
    (queue.put items).free = queue.free - queue.room items := by
  simp only [free, put_items, List.length_append, List.length_take, room]
  omega

/-- Nothing fits into a full queue. -/
theorem put_of_full {queue : Fifo α capacity} {items : List α} (full : queue.free = 0) : queue.put items = queue := by
  apply ext
  rw [put_items, room, full, Nat.min_zero, List.take_zero, List.append_nil]

end Fifo

end ZephyrCcsds
