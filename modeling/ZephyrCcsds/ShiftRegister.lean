import Mathlib.Data.List.GetD
import Mathlib.Dynamics.PeriodicPts.Defs
import ZephyrCcsds.Bytes

/-! # Shift registers with linear feedback

A register is given by the exponents of its generator polynomial below the degree.  It is kept as the
window of the next bits of its sequence, as many as the degree.  The sequence satisfies the recurrence
of the polynomial (`bit_recurrence`), and with a window of eight bits the windows are the octets of the
sequence (`masks_eq`).
-/

namespace ZephyrCcsds.ShiftRegister

variable (exponents : List Nat)

/-- The bit that follows a window -/
def next (window : List Bool) : Bool :=
  exponents.foldl (fun sum exponent => sum ^^ window.getD exponent false) false

/-- The window one bit later -/
def slide (window : List Bool) : List Bool := window.tail ++ [next exponents window]

def windowAt (seed : List Bool) (n : Nat) : List Bool := (slide exponents)^[n] seed

/-- A bit of the sequence that starts with the seed -/
def bit (seed : List Bool) (n : Nat) : Bool := (windowAt exponents seed n).getD 0 false

variable {exponents} {seed : List Bool}

theorem windowAt_succ (n : Nat) :
    windowAt exponents seed (n + 1) = slide exponents (windowAt exponents seed n) :=
  Function.iterate_succ_apply' ..

theorem windowAt_length (some : seed ≠ []) (n : Nat) : (windowAt exponents seed n).length = seed.length := by
  have positive := List.length_pos_of_ne_nil some
  induction n with
  | zero => rfl
  | succ n ih =>
    rw [windowAt_succ, slide, List.length_append, List.length_tail, ih, List.length_singleton]
    omega

/-- A window holds the next bits of the sequence. -/
theorem windowAt_getD (some : seed ≠ []) (n i : Nat) (inside : i < seed.length) :
    (windowAt exponents seed n).getD i false = bit exponents seed (n + i) := by
  induction i generalizing n with
  | zero => rfl
  | succ i ih =>
    have length : (windowAt exponents seed n).length = seed.length := windowAt_length some n
    have later := ih (n + 1) (by omega)
    rw [windowAt_succ, slide, List.getD_append _ _ _ _ (by rw [List.length_tail]; omega)] at later
    rw [Nat.add_right_comm, Nat.add_assoc] at later
    rw [← later, List.getD_eq_getElem?_getD, List.getD_eq_getElem?_getD, List.getElem?_tail]

/-- The recurrence of the generator polynomial -/
theorem bit_recurrence (some : seed ≠ []) (below : ∀ exponent ∈ exponents, exponent < seed.length) (n : Nat) :
    bit exponents seed (n + seed.length) =
      exponents.foldl (fun sum exponent => sum ^^ bit exponents seed (n + exponent)) false := by
  have positive := List.length_pos_of_ne_nil some
  have length : (windowAt exponents seed n).length = seed.length := windowAt_length some n
  have last : bit exponents seed (n + seed.length) = next exponents (windowAt exponents seed n) := by
    have newest : (windowAt exponents seed (n + 1)).getD (seed.length - 1) false = _ :=
      windowAt_getD some (n + 1) (seed.length - 1) (by omega)
    have place : seed.length - 1 = (windowAt exponents seed n).tail.length := by
      rw [List.length_tail, length]
    have sum : n + 1 + (seed.length - 1) = n + seed.length := by omega
    rw [sum, windowAt_succ, slide, place, List.getD_append_right _ _ _ _ (Nat.le_refl _), Nat.sub_self] at newest
    exact newest.symm
  rw [last, next]
  apply List.foldl_ext
  intro sum exponent found
  rw [windowAt_getD some n exponent (below exponent found)]

/-! ## Octets -/

/-- Eight bits, the leading one first -/
def pack (bits : List Bool) : UInt8 := UInt8.ofNat (bits.foldl (fun sum bit => sum * 2 + bit.toNat) 0)

/-- The octets of a register that is eight bits wide -/
def octet (exponents : List Nat) (seed : List Bool) (k : Nat) : UInt8 :=
  pack (windowAt exponents seed (8 * k))

/-- The first octets of a sequence -/
def masks (exponents : List Nat) : (count : Nat) → (window : List Bool) → Bytes
  | 0, _ => []
  | count + 1, window => pack window :: masks exponents count ((slide exponents)^[8] window)

theorem octet_zero : octet exponents seed 0 = pack seed := rfl

theorem masks_eq (count : Nat) :
    masks exponents count seed = (List.range count).map (octet exponents seed) := by
  induction count generalizing seed with
  | zero => rfl
  | succ count ih =>
    rw [masks, List.range_succ_eq_map, List.map_cons, List.map_map, octet_zero, ih]
    rfl

/-- A sequence that is back at its seed repeats its octets. -/
theorem octet_mod {period : Nat} (back : windowAt exponents seed (8 * period) = seed) (k : Nat) :
    octet exponents seed (k % period) = octet exponents seed k := by
  have periodic : Function.IsPeriodicPt ((slide exponents)^[8]) period seed := by
    rw [Function.IsPeriodicPt, Function.IsFixedPt, ← Function.iterate_mul]
    exact back
  have same := periodic.iterate_mod_apply k
  rw [← Function.iterate_mul, ← Function.iterate_mul] at same
  rw [octet, octet, windowAt, windowAt, same]

/-- Data with the octets of a sequence added -/
def scramble (exponents : List Nat) (seed : List Bool) (data : Bytes) : Bytes :=
  data.mapIdx fun k byte => byte ^^^ octet exponents seed k

end ZephyrCcsds.ShiftRegister
