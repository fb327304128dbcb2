import ZephyrCcsds.Callback.Program

/-! # Callbacks that call the program again

A service offers several entry points on one shared state.  During a callback the
environment may call entry points of the same service before it returns, and those
calls make callbacks of their own.  `nested n` is the environment with at most `n`
levels of such visits; level `0` returns every callback at once.

`nested_spec` is the induction over the nesting depth: a specification holds of all
entry points at every depth when each of them meets it in any environment whose
visits meet it.
-/

namespace ZephyrCcsds.Callback

/-- What a trace records: a callback with the state it was made in, or the start of
a visit with the state it found. -/
inductive Item (Op : Type) (Res : Op → Type) (S C : Type) : Type where
  | back (state : S) (op : Op) (result : Res op)
  | enter (state : S) (visit : C)

/-- A service: its entry points and the callbacks during which the environment may
visit which of them. -/
structure Service (Op : Type) (Res : Op → Type) (S C R : Type) where
  body : C → Prog Op Res S R
  visitable : Op → C → Prop

variable {Op : Type} {Res : Op → Type} {S C R : Type}

/-- A sequence of visits, each of them related to its trace and its states by `V`. -/
inductive Visits (allowed : C → Prop) (V : C → S → List (Item Op Res S C) → R → S → Prop) :
    S → List (Item Op Res S C) → S → Prop
  | nil {s} : Visits allowed V s [] s
  | visit {s c t r s₁ u s'} : allowed c → V c s t r s₁ → Visits allowed V s₁ u s' →
      Visits allowed V s (.enter s c :: (t ++ u)) s'

theorem Visits.mono {allowed : C → Prop} {V V' : C → S → List (Item Op Res S C) → R → S → Prop}
    (weaken : ∀ c s t r s', V c s t r s' → V' c s t r s') {s s' : S}
    {u : List (Item Op Res S C)} (visits : Visits allowed V s u s') : Visits allowed V' s u s' := by
  induction visits with
  | nil => exact .nil
  | visit admitted run _ ih => exact .visit admitted (weaken _ _ _ _ _ run) ih

/-- A restriction on how callbacks may return: the call in progress, the state at the
callback, its result and the state on return. -/
abbrev Guard (Op : Type) (Res : Op → Type) (S C : Type) : Type :=
  C → S → (op : Op) → Res op → S → Prop

namespace Service

variable (service : Service Op Res S C R) (guard : Guard Op Res S C)

/-- One callback whose visits are related to their traces by `V`. -/
def Return (V : C → S → List (Item Op Res S C) → R → S → Prop) (c : C) :
    Environment Op Res S (Item Op Res S C) :=
  fun s op r t s' => guard c s op r s' ∧
    ∃ u, Visits (service.visitable op) V s u s' ∧ t = .back s op r :: u

/-- The environment that visits the service at most `n` levels deep. -/
def nested : Nat → C → Environment Op Res S (Item Op Res S C)
  | 0, c => service.Return guard (fun _ _ _ _ _ => False) c
  | n + 1, c => service.Return guard (fun c' s t r s' => (service.body c').Runs (nested n c') s t r s') c

/-- A run of the entry point `c` with visits of any depth. -/
def RunsNested (c : C) (s : S) (t : List (Item Op Res S C)) (r : R) (s' : S) : Prop :=
  ∃ n, (service.body c).Runs (service.nested guard n c) s t r s'

variable {service guard}

theorem Return.mono {V V' : C → S → List (Item Op Res S C) → R → S → Prop}
    (weaken : ∀ c s t r s', V c s t r s' → V' c s t r s') {c : C} {s s' : S} {op : Op} {r : Res op}
    {t : List (Item Op Res S C)} (step : service.Return guard V c s op r t s') :
    service.Return guard V' c s op r t s' := by
  obtain ⟨allowed, u, visits, rfl⟩ := step
  exact ⟨allowed, u, visits.mono weaken, rfl⟩

/-- Induction over the nesting depth. -/
theorem nested_spec {Spec : C → S → List (Item Op Res S C) → R → S → Prop}
    (meets : ∀ c s, (service.body c).wp (service.Return guard Spec c) (Spec c s) s) :
    ∀ n c s, (service.body c).wp (service.nested guard n c) (Spec c s) s := by
  intro n
  induction n with
  | zero =>
    intro c s
    refine Prog.wp_environment (fun s op r t s' step => ?_) (meets c s)
    exact Return.mono (fun _ _ _ _ _ impossible => impossible.elim) step
  | succ n ih =>
    intro c s
    refine Prog.wp_environment (fun s op r t s' step => ?_) (meets c s)
    exact Return.mono (fun c' s t r s' run => Prog.wp_of_runs (ih c' s) run) step

theorem runsNested_spec {Spec : C → S → List (Item Op Res S C) → R → S → Prop}
    (meets : ∀ c s, (service.body c).wp (service.Return guard Spec c) (Spec c s) s)
    {c : C} {s s' : S} {t : List (Item Op Res S C)} {r : R}
    (run : service.RunsNested guard c s t r s') : Spec c s t r s' := by
  obtain ⟨n, run⟩ := run
  exact Prog.wp_of_runs (nested_spec meets n c s) run

/-- A callback during which nothing may be visited returns at once. -/
theorem return_unvisited {V : C → S → List (Item Op Res S C) → R → S → Prop} {c : C} {s s' : S}
    {op : Op} {r : Res op} {t : List (Item Op Res S C)} (closed : ∀ c', ¬ service.visitable op c')
    (step : service.Return guard V c s op r t s') :
    t = [.back s op r] ∧ s' = s := by
  obtain ⟨_, u, visits, rfl⟩ := step
  cases visits with
  | nil => exact ⟨rfl, rfl⟩
  | visit admitted _ _ => exact (closed _ admitted).elim

/-- A callback may return at once, at any depth. -/
theorem nested_back (n : Nat) {c : C} {s : S} {op : Op} {r : Res op} (free : guard c s op r s) :
    service.nested guard n c s op r [.back s op r] s := by
  cases n with
  | zero => exact ⟨free, [], .nil, rfl⟩
  | succ n => exact ⟨free, [], .nil, rfl⟩

/-- A run without visits is a nested run, where a callback may return at once. -/
theorem nested_of_quiet {τ : Type} {observe : S → (op : Op) → Res op → τ} {c : C} {s s' : S}
    {t : List τ} {a : R} (free : ∀ s op r, guard c s op r s)
    (run : (service.body c).Runs (quiet observe) s t a s') (n : Nat) :
    ∃ u, (service.body c).Runs (service.nested guard n c) s u a s' := by
  apply Act.Runs.retrace _ run
  intro s op r _ _ step
  obtain ⟨_, rfl⟩ := step
  exact ⟨_, nested_back n (free _ op r)⟩

theorem runsNested_of_quiet {τ : Type} {observe : S → (op : Op) → Res op → τ} {c : C} {s s' : S}
    {t : List τ} {a : R} (free : ∀ s op r, guard c s op r s)
    (run : (service.body c).Runs (quiet observe) s t a s') :
    ∃ u, service.RunsNested guard c s u a s' := by
  obtain ⟨u, nested⟩ := nested_of_quiet free run 0
  exact ⟨u, 0, nested⟩

end Service

end ZephyrCcsds.Callback
