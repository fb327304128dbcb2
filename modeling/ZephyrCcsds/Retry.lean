import Mathlib.Algebra.BigOperators.Group.List.Basic
import Mathlib.Algebra.GroupWithZero.Nat
import ZephyrCcsds.Runs

/-! # Bounded retry timers

A timer counts the retries of something that may never be answered.  When it is due it is
stopped, once the count has reached the limit, or it makes one more attempt and is set to an
interval later.  Two facts follow, whatever happens to the attempts:

* `Polled.budget` — the attempts of a whole run are at most the retries left at its start;
* `stops` — more polls than the limit, an interval apart and the first of them due, stop it.
-/

namespace ZephyrCcsds.Retry

structure Timer where
  count : Nat
  deadline : Nat

/-- A deadline of zero is always due. -/
def Timer.Due (timer : Timer) (now : Nat) : Prop := timer.deadline = 0 ∨ timer.deadline ≤ now

variable (limit interval wrap : Nat)

/-- The deadline set at a time, on a clock that wraps around. -/
def deadlineAfter (now : Nat) : Nat := (now + interval) % wrap

/-- One look at a timer, with the number of attempts made. -/
inductive Tick (now : Nat) : Option Timer → Nat → Option Timer → Prop where
  | stopped : Tick now none 0 none
  | early {timer : Timer} : ¬ timer.Due now → Tick now (some timer) 0 (some timer)
  | expired {timer : Timer} : timer.Due now → limit ≤ timer.count → Tick now (some timer) 0 none
  | failed {timer : Timer} {attempts : Nat} : timer.Due now → timer.count < limit → attempts ≤ 1 →
      Tick now (some timer) attempts none
  | again {timer : Timer} {attempts : Nat} : timer.Due now → timer.count < limit → attempts ≤ 1 →
      Tick now (some timer) attempts
        (some { count := timer.count + 1, deadline := deadlineAfter interval wrap now })

/-- One poll: at least one look at the timer, all of them at the same time. -/
structure Polled (timer : Option Timer) (poll : Nat × List Nat) (timer' : Option Timer) : Prop where
  looks : Run (Tick limit interval wrap poll.1) timer poll.2 timer'
  nonempty : poll.2 ≠ []

/-- The retries a timer has left. -/
def left : Option Timer → Nat
  | none => 0
  | some timer => limit - timer.count

variable {limit interval wrap} {now attempts : Nat} {a b : Option Timer} {polls : List (Nat × List Nat)}

/-! ## The budget -/

theorem left_le (timer : Option Timer) : left limit timer ≤ limit := by
  cases timer with
  | none => exact Nat.zero_le _
  | some timer => exact Nat.sub_le _ _

theorem Tick.budget (tick : Tick limit interval wrap now a attempts b) :
    attempts + left limit b ≤ left limit a := by
  cases tick <;> simp only [left] <;> omega

/-- A run of looks makes no more attempts than were left. -/
theorem Tick.budget_run {counts : List Nat} (run : Run (Tick limit interval wrap now) a counts b) :
    counts.sum + left limit b ≤ left limit a := by
  induction run with
  | done => simp
  | step tick _ ih =>
    have first := tick.budget
    rw [List.sum_cons]
    omega

theorem Polled.budget (run : Run (Polled limit interval wrap) a polls b) :
    (polls.map fun poll => poll.2.sum).sum + left limit b ≤ left limit a := by
  induction run with
  | done => simp
  | step polled _ ih =>
    have first := Tick.budget_run polled.looks
    rw [List.map_cons, List.sum_cons]
    omega

/-! ## Progress -/

theorem Tick.of_none (tick : Tick limit interval wrap now none attempts b) : b = none := by
  cases tick
  rfl

theorem Tick.run_of_none {counts : List Nat}
    (run : Run (Tick limit interval wrap now) none counts b) : b = none :=
  @Run.invariant _ _ _ _ _ _ (· = none)
    (fun _ _ _ stopped tick => Tick.of_none (stopped ▸ tick)) rfl run

/-- A timer after a poll that found it due. -/
def Advanced (limit interval wrap now count : Nat) (timer : Option Timer) : Prop :=
  timer = none ∨ ∃ after, timer = some after ∧ count < after.count ∧ after.count ≤ limit ∧
    after.deadline = deadlineAfter interval wrap now

theorem Tick.advances {timer : Timer} (due : timer.Due now)
    (tick : Tick limit interval wrap now (some timer) attempts b) :
    Advanced limit interval wrap now timer.count b := by
  cases tick with
  | early early => exact (early due).elim
  | expired | failed => exact .inl rfl
  | again _ more _ => exact .inr ⟨_, rfl, Nat.lt_succ_self _, more, rfl⟩

theorem Tick.keeps_advanced {count : Nat} (advanced : Advanced limit interval wrap now count a)
    (tick : Tick limit interval wrap now a attempts b) :
    Advanced limit interval wrap now count b := by
  obtain rfl | ⟨timer, rfl, more, bound, deadline⟩ := advanced
  · exact .inl tick.of_none
  · cases tick with
    | early => exact .inr ⟨timer, rfl, more, bound, deadline⟩
    | expired | failed => exact .inl rfl
    | again _ below _ => exact .inr ⟨_, rfl, by dsimp only; omega, below, rfl⟩

/-- One look suffices; the looks that follow at the same time keep what it did. -/
theorem Polled.advances {timer : Timer} {poll : Nat × List Nat} (due : timer.Due poll.1)
    (polled : Polled limit interval wrap (some timer) poll b) :
    Advanced limit interval wrap poll.1 timer.count b := by
  obtain ⟨looks, nonempty⟩ := polled
  obtain ⟨now, counts⟩ := poll
  cases looks with
  | done => exact (nonempty rfl).elim
  | step tick rest =>
    exact rest.invariant (fun _ _ _ advanced tick => tick.keeps_advanced advanced)
      (tick.advances due)

theorem Polled.run_of_none (run : Run (Polled limit interval wrap) none polls b) : b = none :=
  @Run.invariant _ _ _ _ _ _ (· = none)
    (fun _ _ _ stopped polled => Tick.run_of_none (stopped ▸ polled.looks)) rfl run

/-- Polls on a clock that has not wrapped around, each an interval or more after the one before. -/
def Spaced (interval wrap : Nat) (times : List Nat) : Prop :=
  times.IsChain (fun now next => now + interval ≤ next) ∧ ∀ now ∈ times, now < wrap

/-- Every poll that finds a timer due moves its count on, so that one of them finds it at the
limit. -/
theorem count_of_run {timer : Timer} (run : Run (Polled limit interval wrap) (some timer) polls b)
    (spaced : Spaced interval wrap (polls.map Prod.fst))
    (due : ∀ now ∈ (polls.map Prod.fst).head?, timer.Due now) :
    polls = [] ∨ b = none ∨
      ∃ after, b = some after ∧ timer.count + polls.length ≤ after.count ∧ after.count ≤ limit := by
  generalize start : some timer = a at run
  induction run generalizing timer with
  | done => exact .inl rfl
  | @step _ a₁ _ poll polls polled rest ih =>
    subst start
    right
    obtain ⟨chain, bounds⟩ := spaced
    obtain rfl | ⟨after, rfl, more, bound, deadline⟩ := polled.advances (due poll.1 rfl)
    · exact .inl (Polled.run_of_none rest)
    -- the next poll is an interval later, when the new deadline has passed
    have due' : ∀ now ∈ (polls.map Prod.fst).head?, after.Due now := by
      intro next head
      cases polls with
      | nil => cases head
      | cons poll' polls =>
        obtain rfl : poll'.1 = next := Option.some.inj head
        have later : poll.1 + interval ≤ poll'.1 := chain.rel
        have below := bounds poll'.1 (by simp)
        rw [deadlineAfter, Nat.mod_eq_of_lt (by omega)] at deadline
        exact .inr (by omega)
    have spaced' : Spaced interval wrap (polls.map Prod.fst) :=
      ⟨chain.of_cons, fun now mem => bounds now (List.mem_cons_of_mem _ mem)⟩
    rcases ih spaced' due' rfl with rfl | stopped | ⟨last, rfl, counted, limited⟩
    · cases rest
      exact .inr ⟨after, rfl, more, bound⟩
    · exact .inl stopped
    · refine .inr ⟨last, rfl, ?_, limited⟩
      rw [List.length_cons]
      omega

/-- A timer that is due is stopped by more polls than the limit. -/
theorem stops (run : Run (Polled limit interval wrap) a polls b)
    (spaced : Spaced interval wrap (polls.map Prod.fst)) (long : limit < polls.length)
    (due : ∀ timer, a = some timer → ∀ now ∈ (polls.map Prod.fst).head?, timer.Due now) :
    b = none := by
  cases a with
  | none => exact Polled.run_of_none run
  | some timer =>
    rcases count_of_run run spaced (due timer rfl) with rfl | stopped | ⟨after, _, counted, limited⟩
    · cases long
    · exact stopped
    · omega

end ZephyrCcsds.Retry
