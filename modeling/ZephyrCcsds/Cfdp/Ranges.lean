import ZephyrCcsds.Cfdp.Types
import ZephyrCcsds.Spans

/-! # The bounded list of received ranges

`ccsds_cfdp_ranges.c`.  The state is the list of the first `count` entries of the array;
the entries behind it are never read.  On the lists it can reach, `rangesAdd` is the
insertion of `Spans` under a bound on the count and `rangesMissing` lists the gaps.
-/

namespace ZephyrCcsds.Cfdp

open Spans (Normal cover before reaching absorb gaps Touches)

variable [Kconfig]

abbrev Range : Type := Span Nat

abbrev Ranges : Type := List Range

def rangeIsValid (start stop : Nat) : Bool := decide (start < stop)

def rangesInit : Ranges := []

def rangesAdd (state : Ranges) (start stop : Nat) : Except Status Ranges :=
  if !rangeIsValid start stop ∨ maxNakRanges < state.length then .error .invalidArgument
  else
    -- `first` and `last` of the source are where these three parts of the array meet
    let front := before start state
    let absorbed := absorb stop { start, stop } (reaching start state)
    let removeCount := state.length - front.length - absorbed.2.length
    if removeCount = 0 ∧ state.length = maxNakRanges then .error .bufferTooSmall
    else .ok (front ++ absorbed.1 :: absorbed.2)

def rangesScan (start stop : Nat) : Ranges → Bool
  | [] => false
  | range :: rest =>
      if start < range.start then false
      else if range.start ≤ start ∧ stop ≤ range.stop then true
      else rangesScan start stop rest

def rangesIsComplete (state : Ranges) (start stop : Nat) : Except Status Bool :=
  if !rangeIsValid start stop ∨ maxNakRanges < state.length then .error .invalidArgument
  else .ok (rangesScan start stop state)

/-- The loop of `ccsds_cfdp_ranges_missing`: the cursor and the ranges found so far. -/
def rangesMissingLoop (stop : Nat) : Ranges → Nat → Ranges → Except Status (Nat × Ranges)
  | [], cursor, missing => .ok (cursor, missing)
  | received :: rest, cursor, missing =>
      if cursor < stop then
        if received.stop ≤ cursor then rangesMissingLoop stop rest cursor missing
        else if stop ≤ received.start then .ok (cursor, missing)
        else
          let next := if cursor < received.stop then received.stop else cursor
          if cursor < received.start then
            match rangesAdd missing cursor
                (if received.start < stop then received.start else stop) with
            | .error status => .error status
            | .ok missing => rangesMissingLoop stop rest next missing
          else rangesMissingLoop stop rest next missing
      else .ok (cursor, missing)

def rangesMissing (state : Ranges) (start stop : Nat) : Except Status Ranges :=
  if !rangeIsValid start stop ∨ maxNakRanges < state.length then .error .invalidArgument
  else
    match rangesMissingLoop stop state start rangesInit with
    | .error status => .error status
    | .ok (cursor, missing) =>
      if cursor < stop then rangesAdd missing cursor stop else .ok missing

/-! ## Adding a range -/

section Add

variable {state state' : Ranges} {start stop : Nat}

theorem rangesAdd_of_insert (valid : start < stop) (bound : state.length ≤ maxNakRanges)
    (room : (Spans.insert state start stop).length ≤ maxNakRanges) :
    rangesAdd state start stop = .ok (Spans.insert state start stop) := by
  have fits : ¬ ((!rangeIsValid start stop) = true ∨ maxNakRanges < state.length) := by
    simp only [rangeIsValid, valid, decide_true, Bool.not_true, Bool.false_eq_true, false_or, not_lt]
    exact bound
  have total := congrArg List.length (Spans.before_append_reaching start state)
  have fewer := Spans.absorb_length_le stop { start, stop } (reaching start state)
  simp only [Spans.insert, List.length_append, List.length_cons] at room total
  rw [rangesAdd, if_neg fits]
  refine if_neg ?_
  rintro ⟨none, full⟩
  omega

theorem rangesAdd_full (valid : start < stop) (bound : state.length ≤ maxNakRanges)
    (full : maxNakRanges < (Spans.insert state start stop).length) :
    rangesAdd state start stop = .error .bufferTooSmall := by
  have fits : ¬ ((!rangeIsValid start stop) = true ∨ maxNakRanges < state.length) := by
    simp only [rangeIsValid, valid, decide_true, Bool.not_true, Bool.false_eq_true, false_or, not_lt]
    exact bound
  have total := congrArg List.length (Spans.before_append_reaching start state)
  have fewer := Spans.absorb_length_le stop { start, stop } (reaching start state)
  simp only [Spans.insert, List.length_append, List.length_cons] at full total
  rw [rangesAdd, if_neg fits]
  refine if_pos ?_
  constructor <;> omega

theorem rangesAdd_ok (added : rangesAdd state start stop = .ok state') :
    start < stop ∧ state.length ≤ maxNakRanges ∧ state' = Spans.insert state start stop ∧
      state'.length ≤ maxNakRanges := by
  by_cases valid : start < stop
  · by_cases bound : state.length ≤ maxNakRanges
    · by_cases room : (Spans.insert state start stop).length ≤ maxNakRanges
      · rw [rangesAdd_of_insert valid bound room, Except.ok.injEq] at added
        subst added
        exact ⟨valid, bound, rfl, room⟩
      · rw [rangesAdd_full valid bound (not_le.mp room)] at added
        cases added
    · rw [rangesAdd, if_pos (.inr (not_le.mp bound))] at added
      cases added
  · rw [rangesAdd, if_pos (.inl (by simpa [rangeIsValid] using valid))] at added
    cases added

theorem rangesAdd_error {status : Status} (normal : Normal state) (valid : start < stop)
    (bound : state.length ≤ maxNakRanges) (failed : rangesAdd state start stop = .error status) :
    status = .bufferTooSmall ∧ state.length = maxNakRanges ∧ ¬ Touches state start stop := by
  by_cases room : (Spans.insert state start stop).length ≤ maxNakRanges
  · rw [rangesAdd_of_insert valid bound room] at failed
    cases failed
  · rw [rangesAdd_full valid bound (not_le.mp room), Except.error.injEq] at failed
    have separate : ¬ Touches state start stop := fun touches =>
      room ((Spans.insert_length_of_touches normal touches).trans bound)
    have grown := Spans.insert_length_of_not_touches normal separate
    exact ⟨failed.symm, by omega, separate⟩

end Add

/-! ## Completeness -/

omit [Kconfig] in
theorem rangesScan_iff {state : Ranges} {start stop : Nat} (normal : Normal state)
    (valid : start < stop) :
    rangesScan start stop state = true ↔ Set.Ico start stop ⊆ cover state := by
  induction state with
  | nil =>
    simp only [rangesScan, Bool.false_eq_true, Spans.cover_nil, false_iff]
    exact fun empty => empty ⟨le_rfl, valid⟩
  | cons range rest ih =>
    rw [rangesScan]
    split_ifs with later inside
    · simp only [false_iff]
      intro covered
      exact not_lt.mpr (normal.start_le_of_mem_cover (covered ⟨le_rfl, valid⟩)) later
    · simp only [true_iff, Spans.cover_cons]
      intro x window
      exact .inl ⟨inside.1.trans window.1, lt_of_lt_of_le window.2 inside.2⟩
    · rw [ih normal.tail, Spans.cover_cons]
      have early : range.start ≤ start := not_lt.mp later
      have short : range.stop < stop := not_le.mp fun long => inside ⟨early, long⟩
      constructor
      · exact fun covered => covered.trans Set.subset_union_right
      · intro covered x window
        rcases covered window with first | mem
        · -- the end of the first range is in the window but covered by no range
          exfalso
          have uncovered := normal.stop_notMem_cover
          rw [Spans.cover_cons] at uncovered
          exact uncovered (covered ⟨window.1.trans first.2.le, short⟩)
        · exact mem

omit [Kconfig] in
/-- A complete window is covered, whatever the list. -/
theorem rangesScan_covers {state : Ranges} {start stop : Nat}
    (complete : rangesScan start stop state = true) : Set.Ico start stop ⊆ cover state := by
  induction state with
  | nil => simp only [rangesScan, Bool.false_eq_true] at complete
  | cons range rest ih =>
    rw [rangesScan] at complete
    rw [Spans.cover_cons]
    split_ifs at complete with later inside
    · exact fun x window => .inl ⟨inside.1.trans window.1, lt_of_lt_of_le window.2 inside.2⟩
    · exact (ih complete).trans Set.subset_union_right

theorem rangesIsComplete_ok {state : Ranges} {start stop : Nat} {complete : Bool}
    (reported : rangesIsComplete state start stop = .ok complete) :
    start < stop ∧ state.length ≤ maxNakRanges ∧ complete = rangesScan start stop state := by
  rw [rangesIsComplete] at reported
  split_ifs at reported with invalid
  rw [not_or, Bool.not_eq_true', Bool.not_eq_false, rangeIsValid, decide_eq_true_eq, not_lt] at invalid
  exact ⟨invalid.1, invalid.2, (Except.ok.inj reported).symm⟩

/-! ## Missing ranges -/

/-- Gaps are found in ascending order, so each is added behind those found before. -/
theorem rangesAdd_behind {missing : Ranges} {start stop : Nat} (valid : start < stop)
    (behind : ∀ s ∈ missing, s.stop < start) (room : missing.length < maxNakRanges) :
    rangesAdd missing start stop = .ok (missing ++ [Span.mk start stop]) := by
  have appended : Spans.insert missing start stop = missing ++ [Span.mk start stop] :=
    Spans.insert_eq_append behind
  rw [← appended]
  refine rangesAdd_of_insert valid room.le ?_
  rw [appended, List.length_append, List.length_singleton]
  exact room

theorem rangesAdd_behind_full {missing : Ranges} {start stop : Nat} (valid : start < stop)
    (behind : ∀ s ∈ missing, s.stop < start) (full : missing.length = maxNakRanges) :
    rangesAdd missing start stop = .error .bufferTooSmall := by
  refine rangesAdd_full valid full.le ?_
  rw [Spans.insert_eq_append behind, List.length_append, List.length_singleton]
  omega

/-- What the loop and the final range together find. -/
def rangesMissingFrom (stop : Nat) (state : Ranges) (cursor : Nat) (missing : Ranges) :
    Except Status Ranges :=
  match rangesMissingLoop stop state cursor missing with
  | .error status => .error status
  | .ok (cursor, missing) => if cursor < stop then rangesAdd missing cursor stop else .ok missing

theorem rangesMissingFrom_eq {stop : Nat} {state : Ranges} (normal : Normal state) {cursor : Nat}
    {missing : Ranges} (behind : ∀ s ∈ missing, s.stop < cursor ∨ stop ≤ cursor)
    (bound : missing.length ≤ maxNakRanges) :
    rangesMissingFrom stop state cursor missing =
      if (missing ++ gaps stop cursor state).length ≤ maxNakRanges then
        .ok (missing ++ gaps stop cursor state)
      else .error .bufferTooSmall := by
  have last : ∀ more : cursor < stop, rangesAdd missing cursor stop =
      if (missing ++ [Span.mk cursor stop]).length ≤ maxNakRanges then
        .ok (missing ++ [Span.mk cursor stop])
      else .error .bufferTooSmall := by
    intro more
    have front : ∀ s ∈ missing, s.stop < cursor := fun s mem =>
      (behind s mem).resolve_right (not_le.mpr more)
    rw [List.length_append, List.length_singleton]
    split
    · exact rangesAdd_behind more front ‹_›
    · exact rangesAdd_behind_full more front (by omega)
  induction state generalizing cursor missing with
  | nil =>
    rw [rangesMissingFrom, rangesMissingLoop, gaps]
    by_cases more : cursor < stop
    · simp only [if_pos more]
      exact last more
    · simp only [if_neg more, List.append_nil, if_pos bound]
  | cons received rest ih =>
    rw [rangesMissingFrom, rangesMissingLoop, gaps]
    by_cases more : cursor < stop
    · simp only [if_pos more]
      by_cases early : received.stop ≤ cursor
      · simp only [if_pos early]
        exact ih normal.tail behind bound last
      · simp only [if_neg early]
        by_cases late : stop ≤ received.start
        · simp only [if_pos late, if_pos more]
          exact last more
        · have next : cursor < received.stop := not_le.mp early
          simp only [if_neg late, if_pos next, if_pos (not_le.mp late)]
          have filled := normal.head
          by_cases gap : cursor < received.start
          · simp only [if_pos gap]
            have front : ∀ s ∈ missing, s.stop < cursor := fun s mem =>
              (behind s mem).resolve_right (not_le.mpr more)
            rcases Nat.lt_or_ge missing.length maxNakRanges with room | full
            · rw [rangesAdd_behind gap front room]
              have behind' : ∀ s ∈ missing ++ [Span.mk cursor received.start],
                  s.stop < received.stop ∨ stop ≤ received.stop := by
                intro s mem
                rcases List.mem_append.mp mem with mem | mem
                · exact .inl ((front s mem).trans next)
                · rw [List.mem_singleton.mp mem]
                  exact .inl filled
              have bound' : (missing ++ [Span.mk cursor received.start]).length ≤ maxNakRanges := by
                rw [List.length_append, List.length_singleton]
                exact room
              have rest := ih normal.tail behind' bound' ?_
              · rw [List.append_assoc, List.singleton_append] at rest
                exact rest
              · intro more'
                have front' : ∀ s ∈ missing ++ [Span.mk cursor received.start],
                    s.stop < received.stop := fun s mem =>
                  (behind' s mem).resolve_right (not_le.mpr more')
                have grown : ((missing ++ [Span.mk cursor received.start]) ++
                    [Span.mk received.stop stop]).length =
                    (missing ++ [Span.mk cursor received.start]).length + 1 := by
                  rw [List.length_append, List.length_singleton]
                rw [grown]
                split
                · exact rangesAdd_behind more' front' ‹_›
                · exact rangesAdd_behind_full more' front' (by omega)
            · have exact_full : missing.length = maxNakRanges := le_antisymm bound full
              rw [rangesAdd_behind_full gap front exact_full]
              rw [if_neg]
              simp only [List.length_append, List.length_cons]
              omega
          · simp only [if_neg gap]
            refine ih normal.tail (fun s mem => ?_) bound ?_
            · exact .inl (((behind s mem).resolve_right (not_le.mpr more)).trans next)
            · intro more'
              have front' : ∀ s ∈ missing, s.stop < received.stop := fun s mem =>
                ((behind s mem).resolve_right (not_le.mpr more)).trans next
              rw [List.length_append, List.length_singleton]
              split
              · exact rangesAdd_behind more' front' ‹_›
              · exact rangesAdd_behind_full more' front' (by omega)
    · simp only [if_neg more, List.append_nil, if_pos bound]

/-- The missing ranges are the gaps, when there are not too many of them. -/
theorem rangesMissing_eq {state : Ranges} {start stop : Nat} (normal : Normal state)
    (bound : state.length ≤ maxNakRanges) (valid : start < stop) :
    rangesMissing state start stop =
      if (gaps stop start state).length ≤ maxNakRanges then .ok (gaps stop start state)
      else .error .bufferTooSmall := by
  have fits : ¬ ((!rangeIsValid start stop) = true ∨ maxNakRanges < state.length) := by
    simp only [rangeIsValid, valid, decide_true, Bool.not_true, Bool.false_eq_true, false_or, not_lt]
    exact bound
  rw [rangesMissing, if_neg fits]
  have found : rangesMissingFrom stop state start [] = if ([] ++ gaps stop start state).length ≤ maxNakRanges
      then .ok ([] ++ gaps stop start state) else .error .bufferTooSmall :=
    rangesMissingFrom_eq normal (fun s mem => (List.not_mem_nil mem).elim) (Nat.zero_le _)
  simp only [List.nil_append] at found
  exact found

end ZephyrCcsds.Cfdp
