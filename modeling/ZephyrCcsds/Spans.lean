import Mathlib.Order.Interval.Set.LinearOrder
import Mathlib.Data.List.Pairwise
import Mathlib.Data.List.TakeWhile
import Mathlib.Order.MinMax
import Mathlib.Data.Set.Lattice

/-! # Sorted lists of half-open spans

A finite union of half-open intervals over a linear order, kept as a list of spans that
are nonempty, ascending and neither overlap nor touch (`Normal`).

* `insert` — absorb every span that meets or touches the new one.
* `gaps` — the complement inside a window.
* `cover` — the set a list stands for; `insert` is union and `gaps` is complement.
* `normal_ext` — a normal list is determined by its cover; `mem_iff_maximal` says what its spans are.
-/

namespace ZephyrCcsds

structure Span (α : Type) where
  start : α
  stop : α
  deriving DecidableEq, Repr

namespace Spans

variable {α : Type} [LinearOrder α]

/-- The points of the spans of a list. -/
def cover (spans : List (Span α)) : Set α := {x | ∃ s ∈ spans, s.start ≤ x ∧ x < s.stop}

/-- Nonempty spans in ascending order with a gap between any two. -/
structure Normal (spans : List (Span α)) : Prop where
  nonempty : ∀ s ∈ spans, s.start < s.stop
  apart : spans.Pairwise fun s t => s.stop < t.start

/-- Merge the leading spans that start at or before `stop` into `merged`. -/
def absorb (stop : α) : Span α → List (Span α) → Span α × List (Span α)
  | merged, [] => (merged, [])
  | merged, s :: rest =>
      if s.start ≤ stop then
        absorb stop { start := min s.start merged.start, stop := max s.stop merged.stop } rest
      else (merged, s :: rest)

/-- The spans that end before a point. -/
def before (start : α) (spans : List (Span α)) : List (Span α) :=
  spans.takeWhile fun s => decide (s.stop < start)

/-- The spans from the first one that reaches a point. -/
def reaching (start : α) (spans : List (Span α)) : List (Span α) :=
  spans.dropWhile fun s => decide (s.stop < start)

def insert (spans : List (Span α)) (start stop : α) : List (Span α) :=
  let absorbed := absorb stop { start, stop } (reaching start spans)
  before start spans ++ absorbed.1 :: absorbed.2

/-- The complement of a list between `cursor` and `stop`. -/
def gaps (stop : α) : α → List (Span α) → List (Span α)
  | cursor, [] => if cursor < stop then [{ start := cursor, stop }] else []
  | cursor, s :: rest =>
      if cursor < stop then
        if s.stop ≤ cursor then gaps stop cursor rest
        else if stop ≤ s.start then [{ start := cursor, stop }]
        else if cursor < s.start then { start := cursor, stop := s.start } :: gaps stop s.stop rest
        else gaps stop s.stop rest
      else []

/-! ## Cover -/

theorem mem_cover {spans : List (Span α)} {x : α} :
    x ∈ cover spans ↔ ∃ s ∈ spans, s.start ≤ x ∧ x < s.stop := Iff.rfl

@[simp] theorem cover_nil : cover ([] : List (Span α)) = ∅ := by
  ext x
  simp only [mem_cover, List.not_mem_nil, false_and, exists_false, Set.mem_empty_iff_false]

@[simp] theorem cover_cons (s : Span α) (spans : List (Span α)) :
    cover (s :: spans) = Set.Ico s.start s.stop ∪ cover spans := by
  ext x
  simp only [mem_cover, List.mem_cons, exists_eq_or_imp, Set.mem_union, Set.mem_Ico]

@[simp] theorem cover_append (front back : List (Span α)) :
    cover (front ++ back) = cover front ∪ cover back := by
  induction front with
  | nil => simp only [List.nil_append, cover_nil, Set.empty_union]
  | cons s front ih => rw [List.cons_append, cover_cons, cover_cons, ih, Set.union_assoc]

theorem cover_singleton (s : Span α) : cover [s] = Set.Ico s.start s.stop := by
  rw [cover_cons, cover_nil, Set.union_empty]

/-! ## Normal lists -/

theorem Normal.nil : Normal ([] : List (Span α)) :=
  ⟨fun _ impossible => (List.not_mem_nil impossible).elim, .nil⟩

theorem Normal.tail {s : Span α} {spans : List (Span α)} (normal : Normal (s :: spans)) :
    Normal spans :=
  ⟨fun t mem => normal.nonempty t (List.mem_cons_of_mem s mem), normal.apart.of_cons⟩

theorem Normal.head {s : Span α} {spans : List (Span α)} (normal : Normal (s :: spans)) :
    s.start < s.stop := normal.nonempty s List.mem_cons_self

theorem Normal.head_apart {s t : Span α} {spans : List (Span α)} (normal : Normal (s :: spans))
    (mem : t ∈ spans) : s.stop < t.start := List.rel_of_pairwise_cons normal.apart mem

theorem Normal.cons {s : Span α} {spans : List (Span α)} (nonempty : s.start < s.stop)
    (apart : ∀ t ∈ spans, s.stop < t.start) (normal : Normal spans) : Normal (s :: spans) := by
  refine ⟨fun t mem => ?_, .cons apart normal.apart⟩
  rcases List.mem_cons.mp mem with rfl | mem
  · exact nonempty
  · exact normal.nonempty t mem

theorem Normal.singleton {s : Span α} (nonempty : s.start < s.stop) : Normal [s] :=
  .cons nonempty (fun _ impossible => (List.not_mem_nil impossible).elim) .nil

theorem Normal.append {front back : List (Span α)} (left : Normal front) (right : Normal back)
    (apart : ∀ s ∈ front, ∀ t ∈ back, s.stop < t.start) : Normal (front ++ back) := by
  refine ⟨fun s mem => ?_, List.pairwise_append.mpr ⟨left.apart, right.apart, apart⟩⟩
  rcases List.mem_append.mp mem with mem | mem
  · exact left.nonempty s mem
  · exact right.nonempty s mem

theorem Normal.of_append_right {front back : List (Span α)} (normal : Normal (front ++ back)) :
    Normal back :=
  ⟨fun s mem => normal.nonempty s (List.mem_append_right front mem),
    (List.pairwise_append.mp normal.apart).2.1⟩

theorem Normal.of_append_left {front back : List (Span α)} (normal : Normal (front ++ back)) :
    Normal front :=
  ⟨fun s mem => normal.nonempty s (List.mem_append_left back mem),
    (List.pairwise_append.mp normal.apart).1⟩

theorem Normal.append_apart {front back : List (Span α)} (normal : Normal (front ++ back))
    {s t : Span α} (left : s ∈ front) (right : t ∈ back) : s.stop < t.start :=
  (List.pairwise_append.mp normal.apart).2.2 s left t right

/-- Behind the first span nothing is covered before its end. -/
theorem Normal.lt_of_mem_cover {s : Span α} {spans : List (Span α)} (normal : Normal (s :: spans))
    {x : α} (mem : x ∈ cover spans) : s.stop < x := by
  obtain ⟨t, member, low, _⟩ := mem
  exact lt_of_lt_of_le (normal.head_apart member) low

theorem Normal.start_le_of_mem_cover {s : Span α} {spans : List (Span α)}
    (normal : Normal (s :: spans)) {x : α} (mem : x ∈ cover (s :: spans)) : s.start ≤ x := by
  rw [cover_cons] at mem
  rcases mem with inside | mem
  · exact inside.1
  · exact le_of_lt (normal.head.trans (normal.lt_of_mem_cover mem))

theorem Normal.start_mem_cover {s : Span α} {spans : List (Span α)}
    (normal : Normal (s :: spans)) : s.start ∈ cover (s :: spans) :=
  ⟨s, List.mem_cons_self, le_rfl, normal.head⟩

theorem Normal.stop_notMem_cover {s : Span α} {spans : List (Span α)}
    (normal : Normal (s :: spans)) : s.stop ∉ cover (s :: spans) := by
  rw [cover_cons]
  rintro (inside | mem)
  · exact lt_irrefl _ inside.2
  · exact lt_irrefl _ (normal.lt_of_mem_cover mem)

/-- A normal list is determined by the set it covers. -/
theorem normal_ext {spans spans' : List (Span α)} (normal : Normal spans) (normal' : Normal spans')
    (same : cover spans = cover spans') : spans = spans' := by
  induction spans generalizing spans' with
  | nil =>
    cases spans' with
    | nil => rfl
    | cons t rest =>
      have impossible := normal'.start_mem_cover
      rw [← same, cover_nil] at impossible
      exact impossible.elim
  | cons s spans ih =>
    cases spans' with
    | nil =>
      have impossible := normal.start_mem_cover
      rw [same, cover_nil] at impossible
      exact impossible.elim
    | cons t rest =>
      have starts : s.start = t.start := by
        refine le_antisymm (normal.start_le_of_mem_cover ?_) (normal'.start_le_of_mem_cover ?_)
        · rw [same]
          exact normal'.start_mem_cover
        · rw [← same]
          exact normal.start_mem_cover
      have stop_le : ∀ {a b : Span α} {as bs : List (Span α)}, Normal (a :: as) → Normal (b :: bs) →
          cover (a :: as) = cover (b :: bs) → a.start = b.start → b.stop ≤ a.stop := by
        intro a b as bs normalA normalB same starts
        by_contra later
        apply normalA.stop_notMem_cover
        rw [same]
        refine ⟨b, List.mem_cons_self, ?_, lt_of_not_ge later⟩
        rw [← starts]
        exact le_of_lt normalA.head
      have stops : s.stop = t.stop :=
        le_antisymm (stop_le normal' normal same.symm starts.symm) (stop_le normal normal' same starts)
      have heads : s = t := by
        cases s
        cases t
        simp only [Span.mk.injEq]
        exact ⟨starts, stops⟩
      subst heads
      congr 1
      refine ih normal.tail normal'.tail (Set.ext fun x => ?_)
      have split : x ∈ cover (s :: spans) ↔ x ∈ cover (s :: rest) := by rw [same]
      rw [cover_cons, cover_cons, Set.mem_union, Set.mem_union, Set.mem_Ico] at split
      constructor
      · intro mem
        rcases split.mp (.inr mem) with inside | mem'
        · exact (lt_asymm inside.2 (normal.lt_of_mem_cover mem)).elim
        · exact mem'
      · intro mem
        rcases split.mpr (.inr mem) with inside | mem'
        · exact (lt_asymm inside.2 (normal'.lt_of_mem_cover mem)).elim
        · exact mem'

/-! ## Insertion -/

theorem before_append_reaching (start : α) (spans : List (Span α)) :
    before start spans ++ reaching start spans = spans := List.takeWhile_append_dropWhile

theorem stop_lt_of_mem_before {start : α} {spans : List (Span α)} {s : Span α}
    (mem : s ∈ before start spans) : s.stop < start := by
  simpa only [decide_eq_true_eq] using List.mem_takeWhile_imp mem

theorem le_stop_of_mem_reaching {start : α} {spans : List (Span α)} (normal : Normal spans)
    {s : Span α} (mem : s ∈ reaching start spans) : start ≤ s.stop := by
  induction spans with
  | nil => exact (List.not_mem_nil mem).elim
  | cons t spans ih =>
    by_cases early : t.stop < start
    · rw [reaching, List.dropWhile_cons_of_pos (by simpa using early)] at mem
      exact ih normal.tail mem
    · rw [reaching, List.dropWhile_cons_of_neg (by simpa using early)] at mem
      rcases List.mem_cons.mp mem with rfl | mem
      · exact not_lt.mp early
      · have later := normal.head_apart mem
        have filled := normal.nonempty s (List.mem_cons_of_mem t mem)
        exact (not_lt.mp early).trans (later.trans filled).le

theorem normal_reaching {start : α} {spans : List (Span α)} (normal : Normal spans) :
    Normal (reaching start spans) := by
  rw [← before_append_reaching start spans] at normal
  exact normal.of_append_right

theorem normal_before {start : α} {spans : List (Span α)} (normal : Normal spans) :
    Normal (before start spans) := by
  rw [← before_append_reaching start spans] at normal
  exact normal.of_append_left

/-- The contract of the merging walk: order, lower boundary and union together. -/
theorem absorb_spec (stop : α) (merged : Span α) {spans : List (Span α)} (normal : Normal spans)
    (nonempty : merged.start < merged.stop) (high : stop ≤ merged.stop)
    (reach : ∀ s ∈ spans, merged.start ≤ s.stop)
    (closed : merged.stop ≤ stop ∨ ∀ s ∈ spans, merged.stop < s.start) :
    Normal ((absorb stop merged spans).1 :: (absorb stop merged spans).2) ∧
      cover ((absorb stop merged spans).1 :: (absorb stop merged spans).2) =
        Set.Ico merged.start merged.stop ∪ cover spans ∧
      ∀ x, x < merged.start → (∀ s ∈ spans, x < s.start) →
        x < (absorb stop merged spans).1.start := by
  induction spans generalizing merged with
  | nil =>
    refine ⟨.singleton nonempty, ?_, fun x low _ => low⟩
    rw [absorb, cover_cons]
  | cons s spans ih =>
    by_cases meets : s.start ≤ stop
    · rw [absorb, if_pos meets]
      have filled := normal.head
      have grown := @ih { start := min s.start merged.start, stop := max s.stop merged.stop }
        normal.tail (lt_of_le_of_lt (min_le_left _ _) (lt_of_lt_of_le filled (le_max_left _ _)))
        (le_max_of_le_right high) ?_ ?_
      · refine ⟨grown.1, ?_, fun x low lows => ?_⟩
        · have union := Set.Ico_union_Ico' (a := s.start) (b := s.stop) (c := merged.start)
            (d := merged.stop) (reach s List.mem_cons_self) (meets.trans high)
          rw [grown.2.1, cover_cons, ← union, ← Set.union_assoc,
            Set.union_comm (Set.Ico merged.start merged.stop)]
        · exact grown.2.2 x (lt_min (lows s List.mem_cons_self) low)
            fun t mem => lows t (List.mem_cons_of_mem s mem)
      · intro t mem
        exact (min_le_right _ _).trans (reach t (List.mem_cons_of_mem s mem))
      · rcases le_total s.stop merged.stop with inner | outer
        · rw [max_eq_right inner]
          exact closed.imp_right fun apart t mem => apart t (List.mem_cons_of_mem s mem)
        · rw [max_eq_left outer]
          exact .inr fun t mem => normal.head_apart mem
    · rw [absorb, if_neg meets]
      have apart : ∀ t ∈ s :: spans, merged.stop < t.start := by
        rcases closed with inner | apart
        · intro t mem
          have first : merged.stop < s.start := lt_of_le_of_lt inner (not_le.mp meets)
          rcases List.mem_cons.mp mem with rfl | mem
          · exact first
          · exact first.trans (normal.head.trans (normal.head_apart mem))
        · exact apart
      refine ⟨.cons nonempty apart normal, ?_, fun x low _ => low⟩
      rw [cover_cons]

theorem absorb_of_apart {stop : α} {merged : Span α} {spans : List (Span α)}
    (apart : ∀ s ∈ spans, stop < s.start) : absorb stop merged spans = (merged, spans) := by
  cases spans with
  | nil => rfl
  | cons s spans => rw [absorb, if_neg (not_le.mpr (apart s List.mem_cons_self))]

theorem absorb_length_le (stop : α) (merged : Span α) (spans : List (Span α)) :
    (absorb stop merged spans).2.length ≤ spans.length := by
  induction spans generalizing merged with
  | nil => exact le_rfl
  | cons s spans ih =>
    rw [absorb]
    split
    · exact (ih _).trans (Nat.le_succ _)
    · exact le_rfl

theorem absorb_length_lt {stop : α} (merged : Span α) {s : Span α} {spans : List (Span α)}
    (normal : Normal spans) (mem : s ∈ spans) (meets : s.start ≤ stop) :
    (absorb stop merged spans).2.length < spans.length := by
  cases spans with
  | nil => exact (List.not_mem_nil mem).elim
  | cons t spans =>
    have first : t.start ≤ stop := by
      rcases List.mem_cons.mp mem with rfl | mem
      · exact meets
      · exact ((normal.head.trans (normal.head_apart mem)).le).trans meets
    rw [absorb, if_pos first]
    exact Nat.lt_succ_of_le (absorb_length_le _ _ _)

section Insert

variable {spans : List (Span α)} {start stop : α}

theorem insert_spec (normal : Normal spans) (nonempty : start < stop) :
    Normal (insert spans start stop) ∧ cover (insert spans start stop) = cover spans ∪ Set.Ico start stop := by
  obtain ⟨merged, union, low⟩ := absorb_spec stop { start, stop } (normal_reaching normal)
    nonempty le_rfl (fun s mem => le_stop_of_mem_reaching normal mem) (.inl le_rfl)
  refine ⟨(normal_before normal).append merged fun s left t right => ?_, ?_⟩
  · have behind : s.stop < (absorb stop { start, stop } (reaching start spans)).1.start := by
      refine low s.stop (stop_lt_of_mem_before left) fun t mem => ?_
      rw [← before_append_reaching start spans] at normal
      exact normal.append_apart left mem
    rcases List.mem_cons.mp right with rfl | right
    · exact behind
    · exact behind.trans (merged.head.trans (merged.head_apart right))
  · show cover (before start spans ++ _ :: _) = _
    rw [cover_append, union, Set.union_comm (Set.Ico start stop), ← Set.union_assoc, ← cover_append,
      before_append_reaching]

theorem Normal.insert (normal : Normal spans) (nonempty : start < stop) :
    Normal (Spans.insert spans start stop) := (insert_spec normal nonempty).1

theorem cover_insert (normal : Normal spans) (nonempty : start < stop) :
    cover (insert spans start stop) = cover spans ∪ Set.Ico start stop :=
  (insert_spec normal nonempty).2

/-- Some span overlaps or touches `[start, stop)`. -/
def Touches (spans : List (Span α)) (start stop : α) : Prop :=
  ∃ s ∈ spans, s.start ≤ stop ∧ start ≤ s.stop

theorem mem_reaching {s : Span α} (mem : s ∈ spans) (reach : start ≤ s.stop) :
    s ∈ reaching start spans := by
  rw [← before_append_reaching start spans] at mem
  rcases List.mem_append.mp mem with early | late
  · exact (not_lt.mpr reach (stop_lt_of_mem_before early)).elim
  · exact late

theorem insert_length_of_touches (normal : Normal spans) (touches : Touches spans start stop) :
    (insert spans start stop).length ≤ spans.length := by
  obtain ⟨s, mem, meets, reach⟩ := touches
  have fewer := absorb_length_lt { start, stop } (normal_reaching normal)
    (mem_reaching mem reach) meets
  have total := congrArg List.length (before_append_reaching start spans)
  simp only [insert, List.length_append, List.length_cons] at total ⊢
  omega

theorem insert_of_not_touches (normal : Normal spans) (separate : ¬ Touches spans start stop) :
    insert spans start stop = before start spans ++ { start, stop } :: reaching start spans := by
  have apart : ∀ s ∈ reaching start spans, stop < s.start := by
    intro s mem
    by_contra meets
    refine separate ⟨s, ?_, not_lt.mp meets, le_stop_of_mem_reaching normal mem⟩
    rw [← before_append_reaching start spans]
    exact List.mem_append_right _ mem
  rw [insert, absorb_of_apart apart]

theorem insert_length_of_not_touches (normal : Normal spans) (separate : ¬ Touches spans start stop) :
    (insert spans start stop).length = spans.length + 1 := by
  rw [insert_of_not_touches normal separate]
  have total := congrArg List.length (before_append_reaching start spans)
  simp only [List.length_append, List.length_cons] at total ⊢
  omega

theorem insert_eq_append (behind : ∀ s ∈ spans, s.stop < start) :
    insert spans start stop = spans ++ [Span.mk start stop] := by
  have all : ∀ s ∈ spans, decide (s.stop < start) = true := by simpa using behind
  rw [insert, reaching, before, List.takeWhile_eq_self_iff.mpr all, List.dropWhile_eq_nil_iff.mpr all]
  rfl

end Insert

/-! ## Gaps -/

theorem gaps_bounds {stop cursor : α} {spans : List (Span α)} {s : Span α}
    (mem : s ∈ gaps stop cursor spans) : cursor ≤ s.start ∧ s.stop ≤ stop := by
  induction spans generalizing cursor with
  | nil =>
    rw [gaps] at mem
    split at mem
    · rw [List.mem_singleton.mp mem]
      exact ⟨le_rfl, le_rfl⟩
    · exact (List.not_mem_nil mem).elim
  | cons t spans ih =>
    rw [gaps] at mem
    split_ifs at mem with more early late gap
    · exact ih mem
    · rw [List.mem_singleton.mp mem]
      exact ⟨le_rfl, le_rfl⟩
    · rcases List.mem_cons.mp mem with rfl | mem
      · exact ⟨le_rfl, (not_le.mp late).le⟩
      · exact ⟨(not_le.mp early).le.trans (ih mem).1, (ih mem).2⟩
    · exact ⟨(not_le.mp early).le.trans (ih mem).1, (ih mem).2⟩
    · exact (List.not_mem_nil mem).elim

theorem normal_gaps {stop cursor : α} {spans : List (Span α)} (normal : Normal spans) :
    Normal (gaps stop cursor spans) := by
  induction spans generalizing cursor with
  | nil =>
    rw [gaps]
    split
    · exact .singleton ‹_›
    · exact .nil
  | cons t spans ih =>
    rw [gaps]
    split_ifs with more early late gap
    · exact ih normal.tail
    · exact .singleton more
    · refine .cons gap (fun s mem => ?_) (ih normal.tail)
      exact lt_of_lt_of_le normal.head (gaps_bounds mem).1
    · exact ih normal.tail
    · exact .nil

/-- The gaps cover exactly the points of the window that the list leaves out. -/
theorem cover_gaps {stop cursor : α} {spans : List (Span α)} (normal : Normal spans) :
    cover (gaps stop cursor spans) = Set.Ico cursor stop \ cover spans := by
  induction spans generalizing cursor with
  | nil =>
    rw [gaps, cover_nil, Set.sdiff_empty]
    split
    · rw [cover_singleton]
    · rw [cover_nil, Set.Ico_eq_empty ‹_›]
  | cons t spans ih =>
    have behind : ∀ x ∈ cover spans, t.stop < x := fun x mem => normal.lt_of_mem_cover mem
    have filled := normal.head
    rw [gaps, cover_cons]
    split_ifs with more early late gap
    · rw [ih normal.tail]
      ext x
      simp only [Set.mem_sdiff, Set.mem_Ico, Set.mem_union, not_or]
      constructor
      · rintro ⟨window, outside⟩
        exact ⟨window, fun inside => not_lt.mpr (early.trans window.1) inside.2, outside⟩
      · rintro ⟨window, _, outside⟩
        exact ⟨window, outside⟩
    · rw [cover_singleton]
      ext x
      simp only [Set.mem_sdiff, Set.mem_Ico, Set.mem_union, not_or]
      constructor
      · rintro window
        refine ⟨window, fun inside => not_lt.mpr (late.trans inside.1) window.2, fun mem => ?_⟩
        exact not_lt.mpr (late.trans (filled.trans (behind x mem)).le) window.2
      · exact fun window => window.1
    · rw [cover_cons, ih normal.tail]
      ext x
      simp only [Set.mem_union, Set.mem_sdiff, Set.mem_Ico, not_or, not_and, not_lt]
      constructor
      · rintro (⟨low, high⟩ | ⟨⟨low, high⟩, outside⟩)
        · exact ⟨⟨low, high.trans (not_le.mp late)⟩, fun inside => (not_lt.mpr inside high).elim,
            fun mem => lt_asymm high (filled.trans (behind x mem))⟩
        · exact ⟨⟨(not_le.mp early).le.trans low, high⟩, fun _ => low, outside⟩
      · rintro ⟨⟨low, high⟩, first, outside⟩
        rcases lt_or_ge x t.start with inner | outer
        · exact .inl ⟨low, inner⟩
        · exact .inr ⟨⟨first outer, high⟩, outside⟩
    · rw [ih normal.tail]
      ext x
      simp only [Set.mem_union, Set.mem_sdiff, Set.mem_Ico, not_or, not_and, not_lt]
      constructor
      · rintro ⟨⟨low, high⟩, outside⟩
        exact ⟨⟨(not_le.mp early).le.trans low, high⟩, fun _ => low, outside⟩
      · rintro ⟨⟨low, high⟩, first, outside⟩
        exact ⟨⟨first ((not_lt.mp gap).trans low), high⟩, outside⟩
    · rw [cover_nil, Set.Ico_eq_empty more, Set.empty_sdiff]

/-! ## Maximal spans -/

/-- Of two spans of a normal list, one ends before the other starts. -/
theorem pairwise_apart {spans : List (Span α)} (normal : Normal spans) {s t : Span α} (left : s ∈ spans)
    (right : t ∈ spans) (other : s ≠ t) : s.stop < t.start ∨ t.stop < s.start := by
  induction spans with
  | nil => exact (List.not_mem_nil left).elim
  | cons u spans ih =>
    rcases List.mem_cons.mp left with first | left'
    · rcases List.mem_cons.mp right with second | right'
      · exact absurd (first.trans second.symm) other
      · rw [first]
        exact .inl (normal.head_apart right')
    · rcases List.mem_cons.mp right with second | right'
      · rw [second]
        exact .inr (normal.head_apart left')
      · exact ih normal.tail left' right'

/-- A nonempty span inside a set that no longer one inside the set contains -/
structure MaximalIn (points : Set α) (s : Span α) : Prop where
  nonempty : s.start < s.stop
  inside : Set.Ico s.start s.stop ⊆ points
  maximal : ∀ t : Span α, Set.Ico t.start t.stop ⊆ points → Set.Ico s.start s.stop ⊆ Set.Ico t.start t.stop → t = s

theorem Normal.stop_notMem_of_mem {s : Span α} {spans : List (Span α)} (normal : Normal spans) (mem : s ∈ spans) :
    s.stop ∉ cover spans := by
  obtain ⟨front, back, rfl⟩ := List.append_of_mem mem
  rw [cover_append]
  intro covered
  rcases covered with early | late
  · obtain ⟨t, left, -, short⟩ := early
    have apart := normal.append_apart left List.mem_cons_self
    exact lt_asymm short (apart.trans (normal.nonempty s mem))
  · exact normal.of_append_right.stop_notMem_cover late

/-- An interval inside the cover stays within the span that it starts in. -/
theorem Normal.stop_le_of_subset {s : Span α} {spans : List (Span α)} (normal : Normal spans) (mem : s ∈ spans)
    {low high : α} (inside : Set.Ico low high ⊆ cover spans) (starts : low < s.stop) : high ≤ s.stop := by
  by_contra beyond
  exact normal.stop_notMem_of_mem mem (inside ⟨starts.le, not_le.mp beyond⟩)

/-- The spans of a normal list are the maximal ones of its cover. -/
theorem mem_iff_maximal {spans : List (Span α)} (normal : Normal spans) {s : Span α} :
    s ∈ spans ↔ MaximalIn (cover spans) s := by
  constructor
  · intro mem
    have filled := normal.nonempty s mem
    refine ⟨filled, fun x window => ⟨s, mem, window⟩, ?_⟩
    intro t inside wider
    have low : t.start ≤ s.start := (wider ⟨le_rfl, filled⟩).1
    have reach : s.start < t.stop := (wider ⟨le_rfl, filled⟩).2
    -- the start of `t` lies in a span that cannot end before `s`
    obtain ⟨q, member, starts, ends⟩ := inside ⟨le_rfl, lt_of_le_of_lt low reach⟩
    have same : q = s := by
      by_contra other
      have long := normal.stop_le_of_subset member inside ends
      rcases pairwise_apart normal member mem other with before | behind
      · exact lt_asymm reach (lt_of_le_of_lt long before)
      · exact not_lt.mpr (starts.trans low) (filled.trans behind)
    subst same
    have first : t.start = q.start := le_antisymm low starts
    have last : t.stop = q.stop := by
      apply le_antisymm (normal.stop_le_of_subset member inside ends)
      by_contra short
      exact lt_irrefl _ (wider ⟨reach.le, not_le.mp short⟩).2
    cases t
    cases q
    simp only [Span.mk.injEq]
    exact ⟨first, last⟩
  · intro maximal
    obtain ⟨q, member, starts, ends⟩ := maximal.inside ⟨le_rfl, maximal.nonempty⟩
    have long := normal.stop_le_of_subset member maximal.inside ends
    have same := maximal.maximal q (fun x window => ⟨q, member, window⟩)
      fun x window => ⟨starts.trans window.1, lt_of_lt_of_le window.2 long⟩
    rw [← same]
    exact member

end Spans

end ZephyrCcsds
