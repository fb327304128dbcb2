import Mathlib.Data.List.Basic

/-! # Packets that tell their own length

A stream of packets whose first items tell how long they are.

* `Framing` — the length of the header and the total length that it tells.
* `Framing.split` — the complete packets at the front of a stream, and what is left.
* `split_flatten` — whole packets in front of an incomplete one are split off exactly.
-/

namespace ZephyrCcsds

structure Framing (α : Type) where
  header : Nat
  total : List α → Nat
  header_lt : ∀ items, header < total items
  total_append : ∀ front back, header ≤ front.length → total (front ++ back) = total front

namespace Framing

variable {α : Type} (framing : Framing α)

structure IsPacket (packet : List α) : Prop where
  header_le : framing.header ≤ packet.length
  total_eq : framing.total packet = packet.length

/-- Whether the items start with a whole packet -/
def Starts (items : List α) : Prop := framing.header ≤ items.length ∧ framing.total items ≤ items.length

instance (items : List α) : Decidable (framing.Starts items) := inferInstanceAs (Decidable (_ ∧ _))

/-- At most `fuel` packets, and the items behind them -/
def splitFrom : Nat → List α → List (List α) × List α
  | 0, items => ([], items)
  | fuel + 1, items =>
    if framing.Starts items then
      let rest := splitFrom fuel (items.drop (framing.total items))
      (items.take (framing.total items) :: rest.1, rest.2)
    else
      ([], items)

/-- A packet is not empty, so there are no more packets than items. -/
def split (items : List α) : List (List α) × List α := framing.splitFrom items.length items

variable {framing} {packet items rest : List α} {packets : List (List α)}

theorem IsPacket.pos (whole : framing.IsPacket packet) : 0 < packet.length := by
  have total := whole.total_eq
  have := framing.header_lt packet
  omega

theorem IsPacket.starts_append (whole : framing.IsPacket packet) (rest : List α) : framing.Starts (packet ++ rest) := by
  rw [Starts, framing.total_append _ _ whole.header_le, whole.total_eq, List.length_append]
  have := whole.header_le
  omega

/-- A packet of which a part is missing does not start the items. -/
theorem IsPacket.not_starts {missing : List α} (whole : framing.IsPacket (items ++ missing)) (some : missing ≠ []) :
    ¬ framing.Starts items := by
  intro starts
  have total := whole.total_eq
  rw [framing.total_append _ _ starts.1, List.length_append] at total
  have := List.length_pos_iff.mpr some
  have := starts.2
  omega

theorem splitFrom_of_not_starts (incomplete : ¬ framing.Starts items) (fuel : Nat) :
    framing.splitFrom fuel items = ([], items) := by
  cases fuel with
  | zero => rfl
  | succ fuel => rw [splitFrom, if_neg incomplete]

theorem splitFrom_flatten (whole : ∀ packet ∈ packets, framing.IsPacket packet)
    (incomplete : ¬ framing.Starts rest) {fuel : Nat} (enough : packets.length ≤ fuel) :
    framing.splitFrom fuel (packets.flatten ++ rest) = (packets, rest) := by
  induction packets generalizing fuel with
  | nil => exact splitFrom_of_not_starts incomplete fuel
  | cons packet packets ih =>
    obtain ⟨first, others⟩ := List.forall_mem_cons.mp whole
    cases fuel with
    | zero => simp at enough
    | succ fuel =>
      have joined : (packet :: packets).flatten ++ rest = packet ++ (packets.flatten ++ rest) := by simp
      have length : framing.total (packet ++ (packets.flatten ++ rest)) = packet.length := by
        rw [framing.total_append _ _ first.header_le, first.total_eq]
      rw [joined, splitFrom, if_pos (first.starts_append _), length, List.take_left, List.drop_left,
        ih others (by simpa using enough)]

theorem length_le_flatten (whole : ∀ packet ∈ packets, framing.IsPacket packet) :
    packets.length ≤ packets.flatten.length := by
  induction packets with
  | nil => exact Nat.le_refl _
  | cons packet packets ih =>
    obtain ⟨first, others⟩ := List.forall_mem_cons.mp whole
    have := ih others
    have := first.pos
    simp only [List.length_cons, List.flatten_cons, List.length_append]
    omega

/-- Whole packets in front of an incomplete one are split off exactly. -/
theorem split_flatten (whole : ∀ packet ∈ packets, framing.IsPacket packet) (incomplete : ¬ framing.Starts rest) :
    framing.split (packets.flatten ++ rest) = (packets, rest) := by
  apply splitFrom_flatten whole incomplete
  have := length_le_flatten whole
  rw [List.length_append]
  omega

end Framing

end ZephyrCcsds
