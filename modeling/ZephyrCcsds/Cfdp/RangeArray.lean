import Mathlib.Logic.Function.Basic
import ZephyrCcsds.Cfdp.Ranges

/-! # The range list in its array

`ccsds_cfdp_ranges_add` as it works: in place, on an array whose entries from `count` on are not
in use.  Two loops find the entries that the new range meets, and a third one moves the entries
behind them to the right or to the left.

* `add_refines` — the array refines the list of `rangesAdd`.
* `ranges_from_init` — what holds after every sequence of additions.
* `windows_from_init` — what completeness and the missing ranges then report.
-/

namespace ZephyrCcsds.Cfdp

open Spans (Normal cover before reaching absorb gaps Touches)

/-! ## The array -/

/-- `ccsds_cfdp_ranges_t` -/
structure RangeArray where
  count : Nat
  ranges : Nat → Range

namespace RangeArray

/-- `ccsds_cfdp_ranges_init` -/
def init : RangeArray where
  count := 0
  ranges := fun _ => { start := 0, stop := 0 }

/-- The entries in use -/
def live (state : RangeArray) : Ranges := (List.range' 0 state.count).map state.ranges

/-- The loop that looks for `first`, with `remaining` entries in front of it -/
def findFirst (ranges : Nat → Range) (start : Nat) : (remaining first : Nat) → Nat
  | 0, first => first
  | remaining + 1, first =>
    if (ranges first).stop < start then findFirst ranges start remaining (first + 1) else first

/-- The loop that looks for `last`, with the merged range -/
def findLast (ranges : Nat → Range) (stop : Nat) : (remaining last : Nat) → (merged : Range) → Nat × Range
  | 0, last, merged => (last, merged)
  | remaining + 1, last, merged =>
    if (ranges last).start ≤ stop then
      let merged := if (ranges last).start < merged.start then { merged with start := (ranges last).start } else merged
      let merged := if merged.stop < (ranges last).stop then { merged with stop := (ranges last).stop } else merged
      findLast ranges stop remaining (last + 1) merged
    else (last, merged)

/-- `for (i = first + steps; i > first; i--) ranges[i] = ranges[i - 1]` -/
def shiftRight (first : Nat) : (steps : Nat) → (Nat → Range) → (Nat → Range)
  | 0, ranges => ranges
  | steps + 1, ranges =>
    shiftRight first steps (Function.update ranges (first + steps + 1) (ranges (first + steps)))

/-- `for (; i < count; i++) ranges[first + 1 + i - last] = ranges[i]`, with `remaining` turns left -/
def shiftLeft (first last : Nat) : (remaining i : Nat) → (Nat → Range) → (Nat → Range)
  | 0, _, ranges => ranges
  | remaining + 1, i, ranges =>
    shiftLeft first last remaining (i + 1) (Function.update ranges (first + 1 + i - last) (ranges i))

variable [Kconfig]

/-- `ccsds_cfdp_ranges_add` -/
def add (state : RangeArray) (start stop : Nat) : RangeArray × Status :=
  if !rangeIsValid start stop ∨ maxNakRanges < state.count then (state, .invalidArgument)
  else
    let first := findFirst state.ranges start state.count 0
    let found := findLast state.ranges stop (state.count - first) first { start, stop }
    let last := found.1
    let removeCount := last - first
    if removeCount = 0 ∧ state.count = maxNakRanges then (state, .bufferTooSmall)
    else
      let moved : RangeArray :=
        if removeCount = 0 then
          { count := state.count + 1, ranges := shiftRight first (state.count - first) state.ranges }
        else if 1 < removeCount then
          { count := state.count - (removeCount - 1)
            ranges := shiftLeft first last (state.count - last) last state.ranges }
        else state
      ({ moved with ranges := Function.update moved.ranges first found.2 }, .ok)

/-! ## The loops on the list -/

section Loops

omit [Kconfig]

variable {ranges : Nat → Range} {start stop : Nat}

theorem findFirst_spec (remaining first : Nat) :
    ∃ skipped ≤ remaining, findFirst ranges start remaining first = first + skipped ∧
      before start ((List.range' first remaining).map ranges) = (List.range' first skipped).map ranges ∧
      reaching start ((List.range' first remaining).map ranges) =
        (List.range' (first + skipped) (remaining - skipped)).map ranges := by
  induction remaining generalizing first with
  | zero => exact ⟨0, le_rfl, rfl, rfl, rfl⟩
  | succ remaining ih =>
    rw [List.range'_succ, List.map_cons, before, reaching, findFirst]
    by_cases early : (ranges first).stop < start
    · obtain ⟨skipped, bound, stopped, front, back⟩ := ih (first + 1)
      rw [if_pos early, List.takeWhile_cons_of_pos (by simpa using early),
        List.dropWhile_cons_of_pos (by simpa using early)]
      refine ⟨skipped + 1, by omega, by omega, ?_, ?_⟩
      · rw [List.range'_succ, List.map_cons]
        exact congrArg (ranges first :: ·) front
      · rw [show first + (skipped + 1) = first + 1 + skipped by omega,
          show remaining + 1 - (skipped + 1) = remaining - skipped by omega]
        exact back
    · rw [if_neg early, List.takeWhile_cons_of_neg (by simpa using early),
        List.dropWhile_cons_of_neg (by simpa using early)]
      refine ⟨0, by omega, rfl, rfl, ?_⟩
      rw [Nat.sub_zero, List.range'_succ, List.map_cons]
      rfl

theorem findLast_spec (remaining last : Nat) (merged : Range) :
    ∃ absorbed ≤ remaining, (findLast ranges stop remaining last merged).1 = last + absorbed ∧
      absorb stop merged ((List.range' last remaining).map ranges) =
        ((findLast ranges stop remaining last merged).2,
          (List.range' (last + absorbed) (remaining - absorbed)).map ranges) := by
  induction remaining generalizing last merged with
  | zero => exact ⟨0, le_rfl, rfl, rfl⟩
  | succ remaining ih =>
    rw [List.range'_succ, List.map_cons, absorb, findLast]
    by_cases meets : (ranges last).start ≤ stop
    · rw [if_pos meets, if_pos meets]
      -- the two assignments are the minimum and the maximum
      have widened : ∀ merged : Range,
          (let merged := if (ranges last).start < merged.start then { merged with start := (ranges last).start } else merged
            if merged.stop < (ranges last).stop then { merged with stop := (ranges last).stop } else merged) =
          ({ start := min (ranges last).start merged.start, stop := max (ranges last).stop merged.stop } : Range) := by
        intro merged
        by_cases lower : (ranges last).start < merged.start
        · by_cases higher : merged.stop < (ranges last).stop
          · simp [lower, higher, min_eq_left lower.le, max_eq_left higher.le]
          · simp [lower, higher, min_eq_left lower.le, max_eq_right (not_lt.mp higher)]
        · by_cases higher : merged.stop < (ranges last).stop
          · simp [lower, higher, min_eq_right (not_lt.mp lower), max_eq_left higher.le]
          · simp [lower, higher, min_eq_right (not_lt.mp lower), max_eq_right (not_lt.mp higher)]
      obtain ⟨absorbed, bound, stopped, rest⟩ := ih (last + 1)
        { start := min (ranges last).start merged.start, stop := max (ranges last).stop merged.stop }
      simp only [] at widened
      simp only [widened]
      refine ⟨absorbed + 1, by omega, by omega, ?_⟩
      rw [rest, show last + (absorbed + 1) = last + 1 + absorbed by omega,
        show remaining + 1 - (absorbed + 1) = remaining - absorbed by omega]
    · rw [if_neg meets, if_neg meets]
      refine ⟨0, by omega, rfl, ?_⟩
      rw [Nat.sub_zero, List.range'_succ, List.map_cons]
      rfl

theorem shiftRight_apply (first steps k : Nat) :
    shiftRight first steps ranges k = if first < k ∧ k ≤ first + steps then ranges (k - 1) else ranges k := by
  induction steps generalizing ranges with
  | zero => rw [shiftRight, if_neg (by omega)]
  | succ steps ih =>
    rw [shiftRight, ih]
    by_cases here : k = first + steps + 1
    · subst here
      rw [if_neg (by omega), if_pos (by omega), Function.update_self, Nat.add_sub_cancel]
    · by_cases inner : first < k ∧ k ≤ first + steps
      · rw [if_pos inner, if_pos (by omega), Function.update_of_ne (by omega)]
      · rw [if_neg inner, if_neg (by omega), Function.update_of_ne here]

theorem shiftLeft_apply (first last remaining i k : Nat) (behind : first + 1 < last) (from' : last ≤ i) :
    shiftLeft first last remaining i ranges k =
      if first + 1 + i - last ≤ k ∧ k < first + 1 + i - last + remaining then ranges (k + last - (first + 1))
      else ranges k := by
  induction remaining generalizing i ranges with
  | zero => rw [shiftLeft, if_neg (by omega)]
  | succ remaining ih =>
    rw [shiftLeft, ih (i + 1) (by omega)]
    -- a write never reaches an entry that is still to be moved
    by_cases here : k = first + 1 + i - last
    · subst here
      rw [if_neg (by omega), if_pos (by omega), Function.update_self]
      congr 1
      omega
    · by_cases inner : first + 1 + (i + 1) - last ≤ k ∧ k < first + 1 + (i + 1) - last + remaining
      · rw [if_pos inner, if_pos (by omega), Function.update_of_ne (by omega)]
      · rw [if_neg inner, if_neg (by omega), Function.update_of_ne here]

/-- Entries that agree one by one -/
theorem map_range'_congr {ranges' : Nat → Range} {from' from'' len : Nat}
    (same : ∀ i < len, ranges (from' + i) = ranges' (from'' + i)) :
    (List.range' from' len).map ranges = (List.range' from'' len).map ranges' := by
  apply List.ext_getElem
  · simp
  · intro i left right
    simp only [List.length_map, List.length_range'] at left
    simpa using same i left

/-- An array that holds a merged range between two parts of the old one -/
theorem live_of_parts {ranges' : Nat → Range} {first last count count' : Nat} {merged : Range}
    (length : count' = first + 1 + (count - last)) (front : ∀ i < first, ranges' i = ranges i)
    (here : ranges' first = merged) (back : ∀ i < count - last, ranges' (first + 1 + i) = ranges (last + i)) :
    (List.range' 0 count').map ranges' =
      (List.range' 0 first).map ranges ++ merged :: (List.range' last (count - last)).map ranges := by
  rw [length, Nat.add_assoc, Nat.add_comm 1, ← List.range'_append_1, List.map_append, List.range'_succ, List.map_cons]
  congr 1
  · exact map_range'_congr fun i inside => by rw [Nat.zero_add]; exact front i inside
  · rw [Nat.zero_add, here]
    congr 1
    exact map_range'_congr back

end Loops

/-! ## Refinement -/

omit [Kconfig] in
theorem live_length (state : RangeArray) : state.live.length = state.count := by
  rw [live, List.length_map, List.length_range']

/-- The array does what `rangesAdd` does on the entries in use, and a failure leaves it as it is. -/
theorem add_refines (state : RangeArray) (start stop : Nat) :
    (∀ ranges, rangesAdd state.live start stop = .ok ranges →
      (state.add start stop).2 = .ok ∧ (state.add start stop).1.live = ranges) ∧
    (∀ status, rangesAdd state.live start stop = .error status → state.add start stop = (state, status)) := by
  rw [rangesAdd, add, live_length]
  by_cases invalid : (!rangeIsValid start stop) = true ∨ maxNakRanges < state.count
  · rw [if_pos invalid, if_pos invalid]
    constructor
    · intro ranges added
      cases added
    · intro status failed
      cases failed
      rfl
  rw [if_neg invalid, if_neg invalid]
  -- `first` and `last` split the entries as `before` and `absorb` do
  obtain ⟨skipped, skippedLe, first, front, back⟩ := @findFirst_spec state.ranges start state.count 0
  obtain ⟨absorbed, absorbedLe, last, rest⟩ :=
    @findLast_spec state.ranges stop (state.count - skipped) (0 + skipped) { start, stop }
  rw [Nat.zero_add] at first back last rest
  have before_eq : before start state.live = (List.range' 0 skipped).map state.ranges := front
  have absorb_eq : absorb stop { start, stop } (reaching start state.live) =
      ((findLast state.ranges stop (state.count - skipped) skipped { start, stop }).2,
        (List.range' (skipped + absorbed) (state.count - skipped - absorbed)).map state.ranges) :=
    (congrArg (absorb stop { start, stop }) back).trans rest
  simp only [before_eq, absorb_eq, first, last, List.length_map, List.length_range', Nat.add_sub_cancel_left]
  rw [show state.count - skipped - (state.count - skipped - absorbed) = absorbed by omega]
  by_cases full : absorbed = 0 ∧ state.count = maxNakRanges
  · rw [if_pos full, if_pos full]
    constructor
    · intro ranges added
      cases added
    · intro status failed
      cases failed
      rfl
  rw [if_neg full, if_neg full]
  constructor
  case right =>
    intro status failed
    cases failed
  case left =>
    intro ranges added
    refine ⟨rfl, ?_⟩
    rw [← Except.ok.inj added, show state.count - skipped - absorbed = state.count - (skipped + absorbed) by omega]
    dsimp only
    by_cases none : absorbed = 0
    · rw [if_pos none]
      apply live_of_parts
      case length => dsimp only; omega
      case front =>
        intro i inside
        dsimp only
        rw [Function.update_of_ne (by omega), shiftRight_apply, if_neg (by omega)]
      case here => exact Function.update_self ..
      case back =>
        intro i inside
        dsimp only
        rw [Function.update_of_ne (by omega), shiftRight_apply, if_pos (by omega)]
        congr 1
        omega
    · rw [if_neg none]
      by_cases many : 1 < absorbed
      · rw [if_pos many]
        apply live_of_parts
        case length => dsimp only; omega
        case front =>
          intro i inside
          dsimp only
          rw [Function.update_of_ne (by omega), shiftLeft_apply _ _ _ _ _ (by omega) le_rfl, if_neg (by omega)]
        case here => exact Function.update_self ..
        case back =>
          intro i inside
          dsimp only
          rw [Function.update_of_ne (by omega), shiftLeft_apply _ _ _ _ _ (by omega) le_rfl, if_pos (by omega)]
          congr 1
          omega
      · rw [if_neg many]
        apply live_of_parts
        case length => dsimp only; omega
        case front =>
          intro i inside
          dsimp only
          rw [Function.update_of_ne (by omega)]
        case here => exact Function.update_self ..
        case back =>
          intro i inside
          dsimp only
          rw [Function.update_of_ne (by omega)]
          congr 1
          omega

/-! ## Sequences of additions -/

/-- A sequence of additions, whatever they return -/
def addAll : RangeArray → List (Nat × Nat) → RangeArray
  | state, [] => state
  | state, (start, stop) :: adds => addAll (state.add start stop).1 adds

/-- The additions of a sequence that succeed -/
def succeeded : RangeArray → List (Nat × Nat) → List (Nat × Nat)
  | _, [] => []
  | state, (start, stop) :: adds =>
    let rest := succeeded (state.add start stop).1 adds
    if (state.add start stop).2 = .ok then (start, stop) :: rest else rest

omit [Kconfig] in
/-- The offsets of a sequence of ranges -/
def offsets (adds : List (Nat × Nat)) : Set Nat := {x | ∃ add ∈ adds, x ∈ Set.Ico add.1 add.2}

/-- What an array that represents a set of offsets keeps -/
structure WellFormed (state : RangeArray) : Prop where
  normal : Normal state.live
  bounded : state.count ≤ maxNakRanges

/-- The effect of one addition -/
structure AddEffect (state : RangeArray) (start stop : Nat) (state' : RangeArray) (status : Status) : Prop where
  wellFormed : state'.WellFormed
  ok : status = .ok ↔ start < stop ∧ (state.count = maxNakRanges → Touches state.live start stop)
  union : status = .ok → cover state'.live = cover state.live ∪ Set.Ico start stop
  full : status = .bufferTooSmall ↔ start < stop ∧ state.count = maxNakRanges ∧ ¬ Touches state.live start stop
  invalid : status = .invalidArgument ↔ ¬ start < stop
  kept : status ≠ .ok → state' = state

theorem WellFormed.init : init.WellFormed := ⟨.nil, Nat.zero_le _⟩

theorem WellFormed.add_effect {state : RangeArray} (wellFormed : state.WellFormed) (start stop : Nat) :
    AddEffect state start stop (state.add start stop).1 (state.add start stop).2 := by
  have bound : state.live.length ≤ maxNakRanges := (live_length state).trans_le wellFormed.bounded
  obtain ⟨success, failure⟩ := add_refines state start stop
  cases outcome : rangesAdd state.live start stop with
  | ok ranges =>
    obtain ⟨ok, live⟩ := success ranges outcome
    obtain ⟨valid, -, inserted, room⟩ := rangesAdd_ok outcome
    -- In a full array there is room only for a range that is merged with another.
    have touches : state.count = maxNakRanges → Touches state.live start stop := by
      intro full
      by_contra separate
      have grown := Spans.insert_length_of_not_touches wellFormed.normal separate
      rw [← inserted, live_length] at grown
      omega
    rw [ok]
    constructor
    case wellFormed =>
      constructor
      · rw [live, inserted]
        exact wellFormed.normal.insert valid
      · rw [← live_length, live]
        exact room
    case ok => exact ⟨fun _ => ⟨valid, touches⟩, fun _ => rfl⟩
    case union =>
      intro _
      rw [live, inserted, Spans.cover_insert wellFormed.normal valid]
    case full =>
      constructor
      · intro impossible
        cases impossible
      · exact fun full => absurd (touches full.2.1) full.2.2
    case invalid =>
      constructor
      · intro impossible
        cases impossible
      · exact fun invalid => absurd valid invalid
    case kept => exact fun failed => absurd rfl failed
  | error status =>
    rw [failure status outcome]
    by_cases valid : start < stop
    · obtain ⟨small, full, separate⟩ := rangesAdd_error wellFormed.normal valid bound outcome
      subst small
      constructor
      case wellFormed => exact wellFormed
      case ok =>
        constructor
        · intro impossible
          cases impossible
        · exact fun merged => absurd (merged.2 ((live_length state).symm.trans full)) separate
      case union =>
        intro impossible
        cases impossible
      case full => exact ⟨fun _ => ⟨valid, (live_length state).symm.trans full, separate⟩, fun _ => rfl⟩
      case invalid =>
        constructor
        · intro impossible
          cases impossible
        · exact fun invalid => absurd valid invalid
      case kept => exact fun _ => rfl
    · have refused : rangesAdd state.live start stop = .error .invalidArgument := by
        rw [rangesAdd, if_pos (.inl (by simpa [rangeIsValid] using valid))]
      rw [refused, Except.error.injEq] at outcome
      subst outcome
      constructor
      case wellFormed => exact wellFormed
      case ok =>
        constructor
        · intro impossible
          cases impossible
        · exact fun merged => absurd merged.1 valid
      case union =>
        intro impossible
        cases impossible
      case full =>
        constructor
        · intro impossible
          cases impossible
        · exact fun full => absurd full.1 valid
      case invalid => exact ⟨fun _ => valid, fun _ => rfl⟩
      case kept => exact fun _ => rfl

theorem WellFormed.addAll {state : RangeArray} (wellFormed : state.WellFormed) (adds : List (Nat × Nat)) :
    (state.addAll adds).WellFormed ∧
      cover (state.addAll adds).live = cover state.live ∪ offsets (succeeded state adds) := by
  induction adds generalizing state with
  | nil =>
    refine ⟨wellFormed, ?_⟩
    simp [RangeArray.addAll, succeeded, offsets]
  | cons add adds ih =>
    obtain ⟨start, stop⟩ := add
    have effect := wellFormed.add_effect start stop
    obtain ⟨kept, covered⟩ := ih effect.wellFormed
    refine ⟨kept, covered.trans ?_⟩
    rw [succeeded]
    by_cases ok : (state.add start stop).2 = .ok
    · rw [if_pos ok, effect.union ok, Set.union_assoc]
      congr 1
      ext x
      simp [offsets]
    · rw [if_neg ok, effect.kept ok]

/-- Whatever is added from the initial state on: the entries in use are a normal list, every further addition has
its effect, and the entries depend only on the union of the ranges that were added. -/
theorem ranges_from_init (adds : List (Nat × Nat)) :
    Normal (init.addAll adds).live ∧ (init.addAll adds).count ≤ maxNakRanges ∧
    (∀ start stop, AddEffect (init.addAll adds) start stop ((init.addAll adds).add start stop).1
      ((init.addAll adds).add start stop).2) ∧
    ∀ adds', offsets (succeeded init adds) = offsets (succeeded init adds') →
      (init.addAll adds).live = (init.addAll adds').live := by
  obtain ⟨wellFormed, covered⟩ := WellFormed.init.addAll adds
  refine ⟨wellFormed.normal, wellFormed.bounded, wellFormed.add_effect, ?_⟩
  intro adds' same
  obtain ⟨wellFormed', covered'⟩ := WellFormed.init.addAll adds'
  apply Spans.normal_ext wellFormed.normal wellFormed'.normal
  rw [covered, covered', same]

/-! ## Windows -/

/-- `ccsds_cfdp_ranges_missing`, with what it leaves in its output -/
def missingInto (state : RangeArray) (start stop : Nat) (out : Ranges) : Ranges × Status :=
  match rangesMissing state.live start stop with
  | .ok missing => (missing, .ok)
  | .error status => (out, status)

/-- The answers about a window after any sequence of additions -/
theorem windows_from_init (adds : List (Nat × Nat)) {start stop : Nat} (window : start < stop) (out : Ranges) :
    (∃ complete, rangesIsComplete (init.addAll adds).live start stop = .ok complete ∧
      (complete = true ↔ Set.Ico start stop ⊆ cover (init.addAll adds).live)) ∧
    ∃ gaps : Ranges, Normal gaps ∧
      (∀ gap, gap ∈ gaps ↔ Spans.MaximalIn (Set.Ico start stop \ cover (init.addAll adds).live) gap) ∧
      (gaps.length ≤ maxNakRanges → (init.addAll adds).missingInto start stop out = (gaps, .ok)) ∧
      (maxNakRanges < gaps.length → (init.addAll adds).missingInto start stop out = (out, .bufferTooSmall)) := by
  obtain ⟨wellFormed, -⟩ := WellFormed.init.addAll adds
  generalize init.addAll adds = state at wellFormed
  have bound : state.live.length ≤ maxNakRanges := (live_length state).trans_le wellFormed.bounded
  constructor
  · refine ⟨rangesScan start stop state.live, ?_, rangesScan_iff wellFormed.normal window⟩
    rw [rangesIsComplete, if_neg]
    simp only [rangeIsValid, window, decide_true, Bool.not_true, Bool.false_eq_true, false_or, not_lt]
    exact bound
  · have listed := rangesMissing_eq wellFormed.normal bound window
    refine ⟨Spans.gaps stop start state.live, Spans.normal_gaps wellFormed.normal, ?_, ?_, ?_⟩
    · intro gap
      rw [Spans.mem_iff_maximal (Spans.normal_gaps wellFormed.normal), Spans.cover_gaps wellFormed.normal]
    · intro few
      rw [missingInto, listed, if_pos few]
    · intro many
      rw [missingInto, listed, if_neg (not_le.mpr many)]

end RangeArray

end ZephyrCcsds.Cfdp

namespace ZephyrCcsds.Cfdp.RangeArray

section Sample

attribute [local instance] defaultKconfig

/-- A window that starts and ends inside a range and has one gap -/
theorem windows_from_init_sample : 1 < 5 ∧
    ∃ gaps : Ranges, Spans.Normal gaps ∧
      ∀ gap, gap ∈ gaps ↔
        Spans.MaximalIn (Set.Ico 1 5 \ Spans.cover (init.addAll [(0, 2), (4, 6)]).live) gap := by
  obtain ⟨-, gaps, normal, exactly, -⟩ := windows_from_init [(0, 2), (4, 6)] (by decide : 1 < 5) []
  exact ⟨by decide, gaps, normal, exactly⟩

example : (init.addAll [(0, 2), (4, 6)]).missingInto 1 5 [] = ([{ start := 2, stop := 4 }], .ok) := by decide

end Sample

end ZephyrCcsds.Cfdp.RangeArray

