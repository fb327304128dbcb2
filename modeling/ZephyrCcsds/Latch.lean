import Mathlib.Data.List.DropRight

/-! # Latches and registers over a history

What a sticky bit and a last-value register say of the observations that have driven them.

* `since` — the observations behind the last reset; `latched` — one of them sets the bit.
* `lastWritten` — the value of the last observation that has one.
* `latched_concat`, `lastWritten_concat` — one more observation, which is how the bit and the register are updated.
-/

namespace ZephyrCcsds

variable {O V : Type}

/-- The observations after the last one that resets -/
def since (reset : O → Bool) (history : List O) : List O := history.rtakeWhile fun o => !reset o

theorem since_concat (reset : O → Bool) (history : List O) (o : O) :
    since reset (history ++ [o]) = if reset o then [] else since reset history ++ [o] := by
  unfold since
  rw [List.rtakeWhile_concat]
  by_cases resets : reset o = true
  · simp [resets]
  · simp [resets]

/-- Since the last reset something has set the bit. -/
def latched (sets reset : O → Bool) (history : List O) : Bool := (since reset history).any sets

@[simp] theorem latched_nil (sets reset : O → Bool) : latched sets reset [] = false := rfl

/-- A reset clears, what sets the bit sets it, and anything else keeps it. -/
theorem latched_concat (sets reset : O → Bool) (history : List O) (o : O) :
    latched sets reset (history ++ [o]) = (!reset o && (latched sets reset history || sets o)) := by
  unfold latched
  rw [since_concat]
  by_cases resets : reset o = true
  · simp [resets]
  · simp [resets]

theorem latched_iff (sets reset : O → Bool) (history : List O) :
    latched sets reset history = true ↔ ∃ o ∈ since reset history, sets o = true := List.any_eq_true

/-- The value written last, or the first one -/
def lastWritten (write : O → Option V) (start : V) (history : List O) : V :=
  (history.filterMap write).getLast?.getD start

@[simp] theorem lastWritten_nil (write : O → Option V) (start : V) : lastWritten write start [] = start := rfl

/-- What writes overwrites, and anything else keeps. -/
theorem lastWritten_concat (write : O → Option V) (start : V) (history : List O) (o : O) :
    lastWritten write start (history ++ [o]) = (write o).getD (lastWritten write start history) := by
  unfold lastWritten
  rw [List.filterMap_append]
  cases written : write o with
  | none => simp [written]
  | some v => simp [written]

end ZephyrCcsds
