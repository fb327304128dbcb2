import Mathlib.Order.Defs.Unbundled
import ZephyrCcsds.Callback.Reentry
import ZephyrCcsds.Runs

/-! # Programs that move along a relation

A frame condition for programs that call back: `p.Along E R` says that every run of `p` in
the environment `E` leaves a trace and ends in a state that `R` relates to the first one.
When `R` composes there is one rule for each way to build a program, and `runsNested_along`
carries them through visits of any depth.  `Unlabelled` makes such a relation of a preorder
on states.
-/

namespace ZephyrCcsds.Callback

variable {Op : Type} {Res : Op → Type} {S C A α β τ : Type}

/-- A relation between the states before and after a trace that holds of the empty trace and of
one trace after another. -/
class Composes (R : S → List τ → S → Prop) : Prop where
  refl : ∀ s, R s [] s
  trans : ∀ {s t s' u s''}, R s t s' → R s' u s'' → R s (t ++ u) s''

/-- A relation on states, whatever the trace. -/
abbrev Unlabelled (R : S → S → Prop) : S → List τ → S → Prop := fun s _ s' => R s s'

instance {R : S → S → Prop} [IsPreorder S R] : Composes (Unlabelled R : S → List τ → S → Prop) where
  refl s := refl_of R s
  trans first second := trans_of R first second

/-- A run whose steps move along `R` moves along `R`. -/
theorem run_along {L : Type} {step : S → L → S → Prop} {observe : L → List τ} {R : S → List τ → S → Prop}
    [Composes R] (each : ∀ s label s', step s label s' → R s (observe label) s') {s s' : S} {labels : List L}
    (run : Run step s labels s') : R s (labels.flatMap observe) s' := by
  induction run with
  | done => exact Composes.refl _
  | step one _ ih => exact Composes.trans (each _ _ _ one) ih

/-- Every callback moves along `R`. -/
def EnvironmentAlong (E : Environment Op Res S τ) (R : S → List τ → S → Prop) : Prop :=
  ∀ s op r t s', E s op r t s' → R s t s'

/-- Every run of the program moves along `R`. -/
def Prog.Along (E : Environment Op Res S τ) (R : S → List τ → S → Prop) (p : Prog Op Res S α) :
    Prop :=
  ∀ s, p.wp E (fun t _ s' => R s t s') s

namespace Prog

variable {E : Environment Op Res S τ} {R : S → List τ → S → Prop} [Composes R]
  {p q : Prog Op Res S α}

theorem along_pure {a : α} : (pure a : Prog Op Res S α).Along E R := fun s => Composes.refl s

theorem along_read : (read : Prog Op Res S S).Along E R := fun s => Composes.refl s

omit [Composes R] in
theorem along_modify {f : S → S} (moves : ∀ s, R s [] (f s)) :
    (modify f : Prog Op Res S Unit).Along E R := moves

omit [Composes R] in
theorem along_call (env : EnvironmentAlong E R) {op : Op} :
    (call op : Prog Op Res S (Res op)).Along E R := by
  intro s
  rw [wp_call]
  exact fun r u s' step => env s op r u s' step

theorem along_callIf (env : EnvironmentAlong E R) {c : Bool} {op : Op} {default : Res op} :
    (callIf c op default : Prog Op Res S (Res op)).Along E R := by
  cases c with
  | true => exact along_call env
  | false => exact along_pure

theorem along_runIf {c : Bool} {p : Prog Op Res S Unit} (first : p.Along E R) :
    (runIf c p).Along E R := by
  cases c with
  | true => exact first
  | false => exact along_pure

omit [Composes R] in
theorem along_ite {c : Prop} [Decidable c] (yes : p.Along E R) (no : q.Along E R) :
    (if c then p else q).Along E R := by
  split
  · exact yes
  · exact no

theorem along_bind {f : α → Prog Op Res S β} (first : p.Along E R) (rest : ∀ a, (f a).Along E R) :
    (p >>= f).Along E R := by
  intro s
  rw [wp_bind]
  apply wp_mono (first s)
  intro t a s₁ moved
  apply wp_mono (rest a s₁)
  intro u b s' moved'
  exact Composes.trans moved moved'

omit [Composes R] in
/-- What holds after a program that moves along `R` may use what `R` keeps. -/
theorem wp_of_along {Q : List τ → α → S → Prop} (along : p.Along E R) {s : S}
    (post : ∀ t a s', R s t s' → Q t a s') : p.wp E Q s :=
  wp_mono (along s) post

end Prog

namespace Service

variable {service : Service Op Res S C A} {guard : Guard Op Res S C}
  {R : S → List (Item Op Res S C) → S → Prop} [Composes R]

/-- Visits that move along `R` add up. -/
theorem visits_along {allowed : C → Prop} {V : C → S → List (Item Op Res S C) → A → S → Prop}
    (each : ∀ c s t r s', allowed c → V c s t r s' → R s (.enter s c :: t) s') {s s' : S}
    {u : List (Item Op Res S C)} (visits : Visits allowed V s u s') : R s u s' := by
  induction visits with
  | nil => exact Composes.refl _
  | visit admitted run _ ih => exact Composes.trans (each _ _ _ _ _ admitted run) ih

/-- A callback moves along `R` when its visits do. -/
theorem return_along {V : C → S → List (Item Op Res S C) → A → S → Prop}
    (back : ∀ s op r, R s [.back s op r] s)
    (each : ∀ op c s t r s', service.visitable op c → V c s t r s' → R s (.enter s c :: t) s')
    (c : C) : EnvironmentAlong (service.Return guard V c) R := by
  rintro s op r t s' ⟨_, u, visited, rfl⟩
  exact Composes.trans (back s op r) (visits_along (each op) visited)

/-- A relation that every entry point keeps in each environment along `R` is kept by its runs with
visits of any depth, when the visitable ones keep `R`. -/
theorem runsNested_along {Spec : C → S → List (Item Op Res S C) → S → Prop}
    (back : ∀ s op r, R s [.back s op r] s)
    (visits : ∀ op c s t s', service.visitable op c → Spec c s t s' → R s (.enter s c :: t) s')
    (meets : ∀ (E : Environment Op Res S (Item Op Res S C)), EnvironmentAlong E R → ∀ c s,
      (service.body c).wp E (fun t _ s' => Spec c s t s') s)
    {c : C} {s s' : S} {t : List (Item Op Res S C)} {r : A}
    (run : service.RunsNested guard c s t r s') : Spec c s t s' := by
  apply @runsNested_spec _ _ _ _ _ service guard (fun c s t _ s' => Spec c s t s') _ c s s' t r run
  intro c s
  apply meets
  exact return_along back (fun op c s t _ s' => visits op c s t s') c

end Service

end ZephyrCcsds.Callback
