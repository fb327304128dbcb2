import Mathlib.Order.WithBot
import ZephyrCcsds.Runs

/-! # Watermarks

A system that admits a value only above a mark it keeps, and then raises the mark to it.
`⊥` is a mark that has not been set.  Steps that may lower the mark are named by what they
may lower it below, so that the guarantees hold between them.

* `Watermark.kept` — a mark that is reached stays reached.
* `Watermark.admitted_lt` — a later admission is of a larger value.
* `Watermark.increasing` — the admitted values of a run increase.
* `Watermark.of_counter` — a counter is a mark: it admits the value it takes next.
* `Watermark.comap` — the mark of a system with richer labels.
-/

namespace ZephyrCcsds

variable {S L α : Type} [LinearOrder α]

/-- `mark` guards what `step` admits; a label in `lowers l a` may take the mark below `a`. -/
structure Watermark (step : S → L → S → Prop) (mark : S → WithBot α) (admits : L → Option α)
    (lowers : L → α → Prop) : Prop where
  keep {s s' : S} {label : L} {a : α} : step s label s' → ¬lowers label a →
    (a : WithBot α) ≤ mark s → (a : WithBot α) ≤ mark s'
  above {s s' : S} {label : L} {a : α} : step s label s' → admits label = some a →
    mark s < (a : WithBot α)
  raise {s s' : S} {label : L} {a : α} : step s label s' → admits label = some a →
    (a : WithBot α) ≤ mark s'

namespace Watermark

variable {step : S → L → S → Prop} {mark : S → WithBot α} {admits : L → Option α}
  {lowers : L → α → Prop} {s s' s₁ s₂ : S} {labels middle : List L} {first second : L} {a b : α}

theorem kept (watermark : Watermark step mark admits lowers) (run : Run step s labels s')
    (steady : ∀ label ∈ labels, ¬lowers label a) (reached : (a : WithBot α) ≤ mark s) :
    (a : WithBot α) ≤ mark s' := by
  induction run with
  | done => exact reached
  | step one _ ih =>
    obtain ⟨here, later⟩ := List.forall_mem_cons.mp steady
    exact ih later (watermark.keep one here reached)

/-- Between two admissions the mark has to be lowered below the second value, or that is larger. -/
theorem admitted_lt (watermark : Watermark step mark admits lowers) (one : step s first s₁)
    (run : Run step s₁ middle s₂) (two : step s₂ second s') (admitted : admits first = some a)
    (admitted' : admits second = some b) (steady : ∀ label ∈ middle, ¬lowers label b) : a < b := by
  by_contra backward
  have reached : (b : WithBot α) ≤ mark s₁ :=
    le_trans (WithBot.coe_le_coe.mpr (not_lt.mp backward)) (watermark.raise one admitted)
  have still := watermark.kept run steady reached
  exact absurd (watermark.above two admitted') (not_lt.mpr still)

/-- The values that a run admits increase while nothing lowers the mark. -/
theorem increasing (watermark : Watermark step mark admits lowers) (run : Run step s labels s')
    (steady : ∀ label ∈ labels, ∀ a, ¬lowers label a) : (labels.filterMap admits).Pairwise (· < ·) := by
  induction run with
  | done => exact List.Pairwise.nil
  | @step s₀ s₁ s₂ label labels one rest ih =>
    obtain ⟨_, later⟩ := List.forall_mem_cons.mp steady
    cases admitted : admits label with
    | none =>
      rw [List.filterMap_cons_none admitted]
      exact ih later
    | some a =>
      rw [List.filterMap_cons_some admitted]
      refine List.pairwise_cons.mpr ⟨fun b found => ?_, ih later⟩
      -- The admission of `b` ends a part of the rest of the run.
      obtain ⟨second, listed, admitted'⟩ := List.mem_filterMap.mp found
      obtain ⟨middle, back, rfl⟩ := List.append_of_mem listed
      obtain ⟨s₃, before, after⟩ := rest.split
      cases after with
      | step two _ =>
        apply watermark.admitted_lt one before two admitted admitted'
        intro other inside
        exact later other (List.mem_append_left _ inside) b

/-- The same mark guards a system whose steps are steps of the first one. -/
theorem comap {L' : Type} {step' : S → L' → S → Prop} (watermark : Watermark step mark admits lowers) (part : L' → L)
    (refines : ∀ s label s', step' s label s' → step s (part label) s') :
    Watermark step' mark (fun label => admits (part label)) fun label => lowers (part label) where
  keep one := watermark.keep (refines _ _ _ one)
  above one := watermark.above (refines _ _ _ one)
  raise one := watermark.raise (refines _ _ _ one)

/-! ## Counters -/

/-- The mark of a counter: every number below it is used up. -/
def below : Nat → WithBot Nat
  | 0 => ⊥
  | n + 1 => WithBot.some n

theorem le_below {a n : Nat} : WithBot.some a ≤ below n ↔ a < n := by
  cases n with
  | zero => simp [below]
  | succ n =>
    show WithBot.some a ≤ WithBot.some n ↔ a < n + 1
    rw [WithBot.coe_le_coe, Nat.lt_succ_iff]

/-- A counter that never goes back, and passes every number that it admits -/
theorem of_counter {count : S → Nat} {admits : L → Option Nat}
    (keep : ∀ s label s', step s label s' → count s ≤ count s')
    (takes : ∀ s label s' a, step s label s' → admits label = some a → count s ≤ a ∧ a < count s') :
    Watermark step (fun s => below (count s)) admits fun _ _ => False where
  keep one _ reached := le_below.mpr (lt_of_lt_of_le (le_below.mp reached) (keep _ _ _ one))
  above one admitted := not_le.mp fun reached => absurd (le_below.mp reached) (not_lt.mpr (takes _ _ _ _ one admitted).1)
  raise one admitted := le_below.mpr (takes _ _ _ _ one admitted).2

end Watermark

end ZephyrCcsds
