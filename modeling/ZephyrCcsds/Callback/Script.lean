import ZephyrCcsds.Callback.Reentry

/-! # Playing a program from a script

A script lists the callbacks a program is to make with the results to give it.  Playing one
is a computation, and a script that can be played is a run.
-/

namespace ZephyrCcsds.Callback

variable {Op : Type} {Res : Op → Type} {S α : Type} [DecidableEq Op]

/-- Play a program whose callbacks return at once. -/
def Act.play : Act Op Res S α → List ((op : Op) × Res op) → Option (α × S)
  | .done a s, [] => some (a, s)
  | .done _ _, _ :: _ => none
  | .call _ _ _, [] => none
  | .call op s resume, ⟨op', result⟩ :: script =>
    if same : op' = op then (resume (same ▸ result) s).play script else none

theorem Act.runs_of_play {act : Act Op Res S α} {script : List ((op : Op) × Res op)} {a : α} {s' : S}
    (played : act.play script = some (a, s')) :
    act.Runs (quiet fun _ op result => ⟨op, result⟩) script a s' := by
  induction act generalizing script with
  | done b s =>
    cases script with
    | nil =>
      cases played
      exact ⟨rfl, rfl, rfl⟩
    | cons => cases played
  | call op s resume ih =>
    cases script with
    | nil => cases played
    | cons answer script =>
      obtain ⟨op', result⟩ := answer
      rw [Act.play] at played
      split_ifs at played with same
      subst same
      exact ⟨result, [⟨op', result⟩], s, script, ⟨rfl, rfl⟩, ih _ _ played, rfl⟩

/-- Play a program whose callbacks have an effect on the state, or are not served. -/
def Act.enact (effect : S → (op : Op) → Res op → Option S) :
    Act Op Res S α → List ((op : Op) × Res op) → Option (α × S)
  | .done a s, [] => some (a, s)
  | .done _ _, _ :: _ => none
  | .call _ _ _, [] => none
  | .call op s resume, ⟨op', result⟩ :: script =>
    if same : op' = op then
      (effect s op (same ▸ result)).bind fun s' => (resume (same ▸ result) s').enact effect script
    else
      none

theorem Act.runs_of_enact {effect : S → (op : Op) → Res op → Option S}
    {E : Environment Op Res S ((op : Op) × Res op)}
    (serves : ∀ s op result s', effect s op result = some s' → E s op result [⟨op, result⟩] s')
    {act : Act Op Res S α} {script : List ((op : Op) × Res op)} {a : α} {s' : S}
    (played : act.enact effect script = some (a, s')) : act.Runs E script a s' := by
  induction act generalizing script with
  | done b s =>
    cases script with
    | nil =>
      cases played
      exact ⟨rfl, rfl, rfl⟩
    | cons => cases played
  | call op s resume ih =>
    cases script with
    | nil => cases played
    | cons answer script =>
      obtain ⟨op', result⟩ := answer
      rw [Act.enact] at played
      split_ifs at played with same
      subst same
      obtain ⟨s₁, served, rest⟩ := Option.bind_eq_some_iff.mp played
      exact ⟨result, [⟨op', result⟩], s₁, script, serves _ _ _ _ served, ih _ _ rest, rfl⟩

/-- Play a program and note what an observer sees at its callbacks. -/
def Act.record {τ : Type} (observe : S → (op : Op) → Res op → τ) :
    Act Op Res S α → List ((op : Op) × Res op) → Option (List τ × α × S)
  | .done a s, [] => some ([], a, s)
  | .done _ _, _ :: _ => none
  | .call _ _ _, [] => none
  | .call op s resume, ⟨op', result⟩ :: script =>
    if same : op' = op then
      ((resume (same ▸ result) s).record observe script).map fun played =>
        (observe s op (same ▸ result) :: played.1, played.2)
    else
      none

theorem Act.runs_of_record_allowed {τ : Type} {observe : S → (op : Op) → Res op → τ}
    {allowed : (op : Op) → Res op → Prop} {act : Act Op Res S α} {script : List ((op : Op) × Res op)}
    {t : List τ} {a : α} {s' : S} (played : act.record observe script = some (t, a, s'))
    (admitted : ∀ answer ∈ script, allowed answer.1 answer.2) :
    act.Runs (answering allowed observe) t a s' := by
  induction act generalizing script t with
  | done b s =>
    cases script with
    | nil =>
      cases played
      exact ⟨rfl, rfl, rfl⟩
    | cons => cases played
  | call op s resume ih =>
    cases script with
    | nil => cases played
    | cons answer script =>
      obtain ⟨op', result⟩ := answer
      obtain ⟨now, later⟩ := List.forall_mem_cons.mp admitted
      rw [Act.record] at played
      split_ifs at played with same
      subst same
      obtain ⟨⟨u, b, s''⟩, rest, joined⟩ := Option.map_eq_some_iff.mp played
      cases joined
      exact ⟨result, [observe s op' result], s, u, ⟨now, rfl, rfl⟩, ih _ _ rest later, rfl⟩

theorem Act.runs_of_record {τ : Type} {observe : S → (op : Op) → Res op → τ} {act : Act Op Res S α}
    {script : List ((op : Op) × Res op)} {t : List τ} {a : α} {s' : S}
    (played : act.record observe script = some (t, a, s')) : act.Runs (quiet observe) t a s' :=
  (@Act.runs_of_record_allowed _ _ _ _ _ _ observe (fun _ _ => True) _ _ _ _ _ played
    fun _ _ => trivial).unrestricted

theorem Prog.runs_of_record {τ : Type} {observe : S → (op : Op) → Res op → τ} {p : Prog Op Res S α} {s : S}
    {script : List ((op : Op) × Res op)} {t : List τ} {a : α} {s' : S}
    (played : (p s).record observe script = some (t, a, s')) : p.Runs (quiet observe) s t a s' :=
  Act.runs_of_record played

/-- What an observer notes shows the script. -/
theorem Act.map_of_record {τ σ : Type} {observe : S → (op : Op) → Res op → τ} (f : τ → σ)
    (g : (op : Op) × Res op → σ) (shows : ∀ s op r, f (observe s op r) = g ⟨op, r⟩) {act : Act Op Res S α}
    {script : List ((op : Op) × Res op)} {t : List τ} {a : α} {s' : S}
    (played : act.record observe script = some (t, a, s')) : t.map f = script.map g := by
  induction act generalizing script t with
  | done b s =>
    cases script with
    | nil =>
      cases played
      rfl
    | cons => cases played
  | call op s resume ih =>
    cases script with
    | nil => cases played
    | cons answer script =>
      obtain ⟨op', result⟩ := answer
      rw [Act.record] at played
      split_ifs at played with same
      subst same
      obtain ⟨⟨u, b, s''⟩, rest, joined⟩ := Option.map_eq_some_iff.mp played
      cases joined
      rw [List.map_cons, List.map_cons, shows, ih _ _ rest]

end ZephyrCcsds.Callback
