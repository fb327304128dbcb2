import Mathlib.Algebra.Order.Group.Int
import Mathlib.Data.List.Forall2
import ZephyrCcsds.Runs
import ZephyrCcsds.Serial

/-! # Sliding windows over links that lose

A sender numbers its messages, and sends those that lie in a window behind the last one of which it knows that it has
been taken.  The receiver takes them in their order, and reports how many it has taken.  Both links keep the order of
what they carry; they lose what they like of it, and bring what is at their front as often as they like before they
lose it.

**Main results:**

- `SlidingWindow.Inv.step`: the sender knows of no more than has been taken, and no less than a window before it.
- `SlidingWindow.Inv.near`: a message that arrives is inside a window on either side of the next one.
- `SlidingWindow.Inv.told`: a report that arrives, read modulo more than a window, is the number that was sent.
-/

namespace ZephyrCcsds

/-- How many messages have been taken, of how many the sender knows, and what is on its way, the oldest first -/
structure SlidingWindow where
  taken : Nat
  known : Nat
  messages : List Nat
  reports : List Nat

namespace SlidingWindow

/-- What the sender, the receiver and the links do -/
inductive Step (window : Nat) : SlidingWindow → SlidingWindow → Prop where
  | send {w : SlidingWindow} {index : Nat} (above : w.known ≤ index) (below : index < w.known + window) :
      Step window w { w with messages := w.messages ++ [index] }
  | report {w : SlidingWindow} : Step window w { w with reports := w.reports ++ [w.taken] }
  | loseMessages {w : SlidingWindow} {messages : List Nat} (left : messages.Sublist w.messages) :
      Step window w { w with messages }
  | loseReports {w : SlidingWindow} {reports : List Nat} (left : reports.Sublist w.reports) :
      Step window w { w with reports }
  | take {w : SlidingWindow} {rest : List Nat} (front : w.messages = w.taken :: rest) :
      Step window w { w with taken := w.taken + 1 }
  | learn {w : SlidingWindow} {count : Nat} {rest : List Nat} (front : w.reports = count :: rest) :
      Step window w { w with known := count }

/-- What holds of everything that is on its way -/
structure Inv (window : Nat) (w : SlidingWindow) : Prop where
  known_le : w.known ≤ w.taken
  taken_le : w.taken ≤ w.known + window
  ahead : ∀ index ∈ w.messages, index < w.known + window
  behind : ∀ index ∈ w.messages, w.taken ≤ index + window
  spread : w.messages.Pairwise fun earlier later => earlier < later + window
  counts : ∀ count ∈ w.reports, w.known ≤ count ∧ count ≤ w.taken
  ascending : w.reports.Pairwise (· ≤ ·)

theorem Inv.start (window start : Nat) :
    Inv window { taken := start, known := start, messages := [], reports := [] } where
  known_le := Nat.le_refl _
  taken_le := Nat.le_add_right _ _
  ahead := by simp
  behind := by simp
  spread := .nil
  counts := by simp
  ascending := .nil

variable {window : Nat} {w w' : SlidingWindow}

/-- A message that arrives is inside a window on either side of the next one. -/
theorem Inv.near (inv : Inv window w) {index : Nat} (mem : index ∈ w.messages) :
    |(index : Int) - w.taken| ≤ window := by
  have known := inv.known_le
  have ahead := inv.ahead index mem
  have behind := inv.behind index mem
  rw [abs_le]
  omega

/-- A report modulo more than a window tells the number, to whoever knows how many messages were taken before. -/
theorem Inv.told (inv : Inv window w) {modulus : Nat} (wide : window < modulus) {count : Nat}
    (mem : count ∈ w.reports) : (count : Int) = w.known + serialDistance modulus w.known count := by
  obtain ⟨above, below⟩ := inv.counts count mem
  have taken := inv.taken_le
  rw [serialDistance_ahead (by omega) (by omega)]
  omega

theorem Inv.send (inv : Inv window w) {index : Nat} (above : w.known ≤ index) (below : index < w.known + window) :
    Inv window { w with messages := w.messages ++ [index] } where
  known_le := inv.known_le
  taken_le := inv.taken_le
  ahead := by
    intro other mem
    rcases List.mem_append.mp mem with earlier | new
    · exact inv.ahead other earlier
    · rwa [List.mem_singleton.mp new]
  behind := by
    intro other mem
    rcases List.mem_append.mp mem with earlier | new
    · exact inv.behind other earlier
    · have taken := inv.taken_le
      have same : other = index := List.mem_singleton.mp new
      show w.taken ≤ other + window
      omega
  spread := by
    -- What is already on its way lies below the end of the window.
    rw [List.pairwise_append]
    refine ⟨inv.spread, List.pairwise_singleton _ _, fun earlier mem later new => ?_⟩
    have ahead := inv.ahead earlier mem
    have same : later = index := List.mem_singleton.mp new
    omega
  counts := inv.counts
  ascending := inv.ascending

theorem Inv.report (inv : Inv window w) : Inv window { w with reports := w.reports ++ [w.taken] } where
  known_le := inv.known_le
  taken_le := inv.taken_le
  ahead := inv.ahead
  behind := inv.behind
  spread := inv.spread
  counts := by
    intro count mem
    rcases List.mem_append.mp mem with earlier | new
    · exact inv.counts count earlier
    · rw [List.mem_singleton.mp new]
      exact ⟨inv.known_le, Nat.le_refl _⟩
  ascending := by
    rw [List.pairwise_append]
    refine ⟨inv.ascending, List.pairwise_singleton _ _, fun earlier mem later new => ?_⟩
    rw [List.mem_singleton.mp new]
    exact (inv.counts earlier mem).2

theorem Inv.take (inv : Inv window w) {rest : List Nat} (front : w.messages = w.taken :: rest) :
    Inv window { w with taken := w.taken + 1 } where
  known_le := by
    have known := inv.known_le
    show w.known ≤ w.taken + 1
    omega
  taken_le := inv.ahead w.taken (by simp [front])
  ahead := inv.ahead
  behind := by
    have spread := inv.spread
    rw [front, List.pairwise_cons] at spread
    intro index mem
    show w.taken + 1 ≤ index + window
    -- The messages behind the first lie less than a window below it.
    have mem : index ∈ w.taken :: rest := by rwa [← front]
    rcases List.mem_cons.mp mem with same | later
    · have known := inv.known_le
      have ahead := inv.ahead w.taken (by simp [front])
      omega
    · exact spread.1 index later
  spread := inv.spread
  counts := by
    intro count mem
    have bounds := inv.counts count mem
    exact ⟨bounds.1, Nat.le_succ_of_le bounds.2⟩
  ascending := inv.ascending

theorem Inv.learn (inv : Inv window w) {count : Nat} {rest : List Nat} (front : w.reports = count :: rest) :
    Inv window { w with known := count } := by
  have mem : count ∈ w.reports := by simp [front]
  obtain ⟨above, below⟩ := inv.counts count mem
  have ascending := inv.ascending
  rw [front, List.pairwise_cons] at ascending
  exact { inv with
    known_le := below
    taken_le := by
      have taken := inv.taken_le
      show w.taken ≤ count + window
      omega
    ahead := by
      intro index mem
      have ahead := inv.ahead index mem
      show index < count + window
      omega
    counts := by
      intro other mem
      refine ⟨?_, (inv.counts other mem).2⟩
      -- The reports behind the first are no older than it.
      have mem : other ∈ count :: rest := by rwa [← front]
      rcases List.mem_cons.mp mem with same | later
      · exact le_of_eq same.symm
      · exact ascending.1 other later }

/-- The step lemma -/
theorem Inv.step (inv : Inv window w) (step : Step window w w') : Inv window w' := by
  cases step with
  | send above below => exact inv.send above below
  | report => exact inv.report
  | loseMessages left =>
    exact { inv with
      ahead := fun index mem => inv.ahead index (left.subset mem)
      behind := fun index mem => inv.behind index (left.subset mem)
      spread := inv.spread.sublist left }
  | loseReports left =>
    exact { inv with
      counts := fun count mem => inv.counts count (left.subset mem)
      ascending := inv.ascending.sublist left }
  | take front => exact inv.take front
  | learn front => exact inv.learn front

end SlidingWindow

/-- Every element corresponds to one. -/
theorem forall₂_left {α β : Type} {corresponds : α → β → Prop} {all : List α} {others : List β}
    (matched : List.Forall₂ corresponds all others) : ∀ a ∈ all, ∃ b ∈ others, corresponds a b := by
  induction matched with
  | nil => simp
  | cons here _ ih =>
    intro a mem
    rcases List.mem_cons.mp mem with same | later
    · exact ⟨_, List.mem_cons_self, same ▸ here⟩
    · obtain ⟨b, listed, there⟩ := ih a later
      exact ⟨b, List.mem_cons_of_mem _ listed, there⟩

/-- What corresponds to a part of a list -/
theorem forall₂_of_sublist {α β : Type} {corresponds : α → β → Prop} {part all : List α} {others : List β}
    (left : part.Sublist all) (matched : List.Forall₂ corresponds all others) :
    ∃ part', part'.Sublist others ∧ List.Forall₂ corresponds part part' := by
  induction left generalizing others with
  | slnil =>
    cases matched
    exact ⟨[], .slnil, .nil⟩
  | cons _ _ ih =>
    cases matched with
    | cons _ rest =>
      obtain ⟨part', left', matched'⟩ := ih rest
      exact ⟨part', .cons _ left', matched'⟩
  | cons_cons _ _ ih =>
    cases matched with
    | cons here rest =>
      obtain ⟨part', left', matched'⟩ := ih rest
      exact ⟨_, .cons_cons _ left', .cons here matched'⟩

end ZephyrCcsds
