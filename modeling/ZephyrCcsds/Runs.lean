import Mathlib.Data.List.Basic

/-! # Runs of a transition relation and monitors over them

* `Run` — the finite runs of a labelled step relation, with the labels in order.
* `Run.invariant` — a property kept by every step holds at the end of every run.
* `Monitor` — a deterministic observer of a sequence that may reject it; `Monitor.related` simulates one by another.
* `Run.monitored` — a step-wise simulation by a monitor accepts every run.
* `replay` — a deterministic machine over a sequence of inputs; `replay_related` and `replay_history` are its
  simulation and its invariant.
-/

namespace ZephyrCcsds

variable {S L M O : Type}

inductive Run (step : S → L → S → Prop) : S → List L → S → Prop where
  | done {s : S} : Run step s [] s
  | step {s s' s'' : S} {label : L} {labels : List L} : step s label s' →
      Run step s' labels s'' → Run step s (label :: labels) s''

namespace Run

variable {step step' : S → L → S → Prop} {s s' s'' : S} {labels labels' : List L}

theorem single {label : L} (one : step s label s') : Run step s [label] s' := .step one .done

theorem append (first : Run step s labels s') (second : Run step s' labels' s'') :
    Run step s (labels ++ labels') s'' := by
  induction first with
  | done => exact second
  | step one _ ih => exact .step one (ih second)

theorem mono (weaken : ∀ s label s', step s label s' → step' s label s')
    (run : Run step s labels s') : Run step' s labels s' := by
  induction run with
  | done => exact .done
  | step one _ ih => exact .step (weaken _ _ _ one) ih

/-- A property that every step keeps holds at the end of a run. -/
theorem invariant {Inv : S → Prop} (keep : ∀ s label s', Inv s → step s label s' → Inv s')
    (init : Inv s) (run : Run step s labels s') : Inv s' := by
  induction run with
  | done => exact init
  | step one _ ih => exact ih (keep _ _ _ init one)

/-- A relation between the labels so far and the state, kept by every step, holds at the end of a run. -/
theorem invariant_history {Inv : List L → S → Prop}
    (keep : ∀ past s label s', Inv past s → step s label s' → Inv (past ++ [label]) s') {past : List L}
    (init : Inv past s) (run : Run step s labels s') : Inv (past ++ labels) s' := by
  induction run generalizing past with
  | done => rwa [List.append_nil]
  | step one _ ih =>
    have next := ih (keep _ _ _ _ init one)
    rwa [List.append_assoc] at next

/-- What is known of every label of a run may be used at every step. -/
theorem restrict {P : L → Prop} (run : Run step s labels s') (known : ∀ label ∈ labels, P label) :
    Run (fun s label s' => step s label s' ∧ P label) s labels s' := by
  induction run with
  | done => exact .done
  | step one _ ih =>
    obtain ⟨here, later⟩ := List.forall_mem_cons.mp known
    exact .step ⟨one, here⟩ (ih later)

/-- A run passes through a state between any two parts of its labels. -/
theorem split {front back : List L} (run : Run step s (front ++ back) s') :
    ∃ middle, Run step s front middle ∧ Run step middle back s' := by
  induction front generalizing s with
  | nil => exact ⟨s, .done, run⟩
  | cons label front ih =>
    cases run with
    | step one rest =>
      obtain ⟨middle, before, after⟩ := ih rest
      exact ⟨middle, .step one before, after⟩

/-- A partial function that plays steps plays runs. -/
theorem of_foldlM {play : S → L → Option S}
    (plays : ∀ s label s', play s label = some s' → step s label s')
    (played : labels.foldlM play s = some s') : Run step s labels s' := by
  induction labels generalizing s with
  | nil =>
    cases played
    exact .done
  | cons label labels ih =>
    rw [List.foldlM_cons, Option.bind_eq_bind, Option.bind_eq_some_iff] at played
    obtain ⟨s₁, first, rest⟩ := played
    exact .step (plays _ _ _ first) (ih rest)

/-- A step-wise simulation, with labels that correspond one by one. -/
theorem simulated {S' L' : Type} {step' : S' → L' → S' → Prop} (abstract : S → S')
    {corresponds : L → L' → Prop}
    (simulates : ∀ s label s', step s label s' →
      ∃ label', corresponds label label' ∧ step' (abstract s) label' (abstract s'))
    (run : Run step s labels s') :
    ∃ labels', List.Forall₂ corresponds labels labels' ∧
      Run step' (abstract s) labels' (abstract s') := by
  induction run with
  | done => exact ⟨[], .nil, .done⟩
  | step one _ ih =>
    obtain ⟨label', matched, one'⟩ := simulates _ _ _ one
    obtain ⟨labels', all, rest⟩ := ih
    exact ⟨label' :: labels', .cons matched all, .step one' rest⟩

end Run

/-- An observer of a sequence that rejects it by returning nothing. -/
abbrev Monitor (M O : Type) : Type := M → O → Option M

namespace Monitor

variable (monitor : Monitor M O)

def run (m : M) (observations : List O) : Option M := observations.foldlM monitor m

variable {monitor}

@[simp] theorem run_nil (m : M) : monitor.run m [] = some m := rfl

@[simp] theorem run_cons (m : M) (o : O) (observations : List O) :
    monitor.run m (o :: observations) = (monitor m o).bind fun m => monitor.run m observations := by
  rw [run, List.foldlM_cons]
  rfl

theorem run_singleton (m : M) (o : O) : monitor.run m [o] = monitor m o := by
  rw [run_cons]
  exact Option.bind_fun_some _

@[simp] theorem run_append (m : M) (front back : List O) :
    monitor.run m (front ++ back) = (monitor.run m front).bind fun m => monitor.run m back := by
  rw [run, List.foldlM_append]
  rfl

/-- A monitor accepts what another one accepts, if every observation keeps the two related. -/
theorem related {M' : Type} {monitor' : Monitor M' O} {Related : M → M' → Prop} {observations : List O}
    (keep : ∀ m m' o m₁, o ∈ observations → Related m m' → monitor m o = some m₁ →
      ∃ m₁', monitor' m' o = some m₁' ∧ Related m₁ m₁')
    {m m₁ : M} {m' : M'} (init : Related m m') (accepted : monitor.run m observations = some m₁) :
    ∃ m₁', monitor'.run m' observations = some m₁' ∧ Related m₁ m₁' := by
  induction observations generalizing m m' with
  | nil =>
    obtain rfl := Option.some.inj accepted
    exact ⟨m', rfl, init⟩
  | cons o observations ih =>
    rw [run_cons] at accepted
    obtain ⟨next, first, rest⟩ := Option.bind_eq_some_iff.mp accepted
    obtain ⟨next', first', kept⟩ := keep m m' o next List.mem_cons_self init first
    obtain ⟨last, run', kept'⟩ := ih (fun m m' o m₁ mem => keep m m' o m₁ (List.mem_cons_of_mem _ mem)) kept rest
    refine ⟨last, ?_, kept'⟩
    rw [run_cons, first', Option.bind_some, run']

end Monitor

/-- When each step moves the monitor on and keeps it related to the state, the monitor accepts
the observations of every run. -/
theorem Run.monitored {step : S → L → S → Prop} {monitor : Monitor M O} {observe : L → List O}
    {Related : M → S → Prop}
    (keep : ∀ m s label s', Related m s → step s label s' →
      ∃ m', monitor.run m (observe label) = some m' ∧ Related m' s')
    {m : M} {s s' : S} {labels : List L} (init : Related m s) (run : Run step s labels s') :
    ∃ m', monitor.run m (labels.flatMap observe) = some m' ∧ Related m' s' := by
  induction run generalizing m with
  | done => exact ⟨m, rfl, init⟩
  | step one _ ih =>
    obtain ⟨m₁, first, related⟩ := keep m _ _ _ init one
    obtain ⟨m₂, rest, related'⟩ := ih related
    refine ⟨m₂, ?_, related'⟩
    rw [List.flatMap_cons, Monitor.run_append, first, Option.bind_some, rest]

/-! ## Deterministic machines -/

section Replay

variable {S S' I A : Type}

/-- A machine over a sequence of inputs: where it ends, and each input with its answer -/
def replay (apply : S → I → S × A) (s : S) : List I → S × List (I × A)
  | [] => (s, [])
  | input :: inputs =>
    ((replay apply (apply s input).1 inputs).1, (input, (apply s input).2) :: (replay apply (apply s input).1 inputs).2)

variable {apply : S → I → S × A} {apply' : S' → I → S' × A}

/-- Machines that answer alike from related states answer alike. -/
theorem replay_related {Related : S → S' → Prop}
    (alike : ∀ s s' input, Related s s' →
      (apply s input).2 = (apply' s' input).2 ∧ Related (apply s input).1 (apply' s' input).1)
    {s : S} {s' : S'} (init : Related s s') (inputs : List I) :
    (replay apply s inputs).2 = (replay apply' s' inputs).2 ∧
      Related (replay apply s inputs).1 (replay apply' s' inputs).1 := by
  induction inputs generalizing s s' with
  | nil => exact ⟨rfl, init⟩
  | cons input inputs ih =>
    obtain ⟨answer, next⟩ := alike s s' input init
    obtain ⟨answers, last⟩ := ih next
    exact ⟨by rw [replay, replay, answer, answers], last⟩

/-- What relates the history to the state after every input relates them in the end. -/
theorem replay_history {Inv : List (I × A) → S → Prop}
    (keep : ∀ past s input, Inv past s → Inv (past ++ [(input, (apply s input).2)]) (apply s input).1)
    {past : List (I × A)} {s : S} (init : Inv past s) (inputs : List I) :
    Inv (past ++ (replay apply s inputs).2) (replay apply s inputs).1 := by
  induction inputs generalizing past s with
  | nil => rwa [replay, List.append_nil]
  | cons input inputs ih =>
    have last := ih (keep past s input init)
    rwa [List.append_assoc] at last

end Replay

end ZephyrCcsds
