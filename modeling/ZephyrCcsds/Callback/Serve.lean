import ZephyrCcsds.Callback.Program

/-! # Callbacks that another component serves

A program whose callbacks go to a component with a state of its own, which may make callbacks in turn.

* `Act.serve`, `Prog.serve` — the two put together, as one program over both states.
* `Served` — what the component does at the callbacks of a trace, one after the other.
* `runs_serve` — without re-entry, a run of the whole is a run of the program together with what was served.
-/

namespace ZephyrCcsds.Callback

variable {Op Op' : Type} {Res : Op → Type} {Res' : Op' → Type} {S T α β τ τ' : Type}

/-- The component runs while the program waits in the state `s`. -/
def Act.beside : Act Op' Res' T β → S → (β → S → T → Act Op' Res' (S × T) α) → Act Op' Res' (S × T) α
  | .done b t, s, resume => resume b s t
  | .call op t rest, s, resume => .call op (s, t) fun r st => (rest r st.2).beside st.1 resume

def Act.serve (component : (op : Op) → Prog Op' Res' T (Res op)) : Act Op Res S α → T → Act Op' Res' (S × T) α
  | .done a s, t => .done a (s, t)
  | .call op s resume, t => (component op t).beside s fun r s' t' => (resume r s').serve component t'

def Prog.serve (component : (op : Op) → Prog Op' Res' T (Res op)) (p : Prog Op Res S α) : Prog Op' Res' (S × T) α :=
  fun st => (p st.1).serve component st.2

/-- The component at the callbacks of a trace -/
inductive Served (component : (op : Op) → Prog Op' Res' T (Res op)) (seen : (op : Op) → Res op → τ)
    (observe : (op : Op') → Res' op → τ') : T → List τ → List τ' → T → Prop where
  | nil {t : T} : Served component seen observe t [] [] t
  | cons {op : Op} {r : Res op} {t t₁ t' : T} {u u' : List τ'} {v : List τ} :
      (component op).Runs (quiet fun _ => observe) t u r t₁ → Served component seen observe t₁ v u' t' →
      Served component seen observe t (seen op r :: v) (u ++ u') t'

variable {component : (op : Op) → Prog Op' Res' T (Res op)} {seen : (op : Op) → Res op → τ}
  {observe : (op : Op') → Res' op → τ'}

theorem Act.runs_beside {act : Act Op' Res' T β} {s : S} {resume : β → S → T → Act Op' Res' (S × T) α} {u : List τ'}
    {a : α} {st : S × T} (runs : (act.beside s resume).Runs (quiet fun _ => observe) u a st) :
    ∃ v b t w, act.Runs (quiet fun _ => observe) v b t ∧ (resume b s t).Runs (quiet fun _ => observe) w a st ∧
      u = v ++ w := by
  induction act generalizing u with
  | done b t => exact ⟨[], b, t, u, ⟨rfl, rfl, rfl⟩, runs, rfl⟩
  | call op t rest ih =>
    obtain ⟨r, _, _, u', ⟨rfl, rfl⟩, runs, rfl⟩ := runs
    obtain ⟨v, b, t', w, first, second, rfl⟩ := ih r t runs
    exact ⟨observe op r :: v, b, t', w, ⟨r, _, t, v, ⟨rfl, rfl⟩, first, rfl⟩, second, rfl⟩

theorem Act.runs_serve {act : Act Op Res S α} {t : T} {u : List τ'} {a : α} {st : S × T}
    (runs : (act.serve component t).Runs (quiet fun _ => observe) u a st) :
    ∃ v, act.Runs (quiet fun _ => seen) v a st.1 ∧ Served component seen observe t v u st.2 := by
  induction act generalizing t u with
  | done b s =>
    obtain ⟨rfl, rfl, rfl⟩ := runs
    exact ⟨[], ⟨rfl, rfl, rfl⟩, .nil⟩
  | call op s resume ih =>
    obtain ⟨w, r, t₁, w', first, rest, rfl⟩ := Act.runs_beside runs
    obtain ⟨v, run, served⟩ := ih r s rest
    exact ⟨seen op r :: v, ⟨r, _, s, v, ⟨rfl, rfl⟩, run, rfl⟩, .cons first served⟩

theorem Act.runs_bind {E : Environment Op Res S τ} {act : Act Op Res S α} {f : α → Prog Op Res S β} {v w : List τ} {a : α}
    {b : β} {s s' : S} (first : act.Runs E v a s) (rest : (f a s).Runs E w b s') :
    (act.bind f).Runs E (v ++ w) b s' := by
  induction act generalizing v with
  | done a₀ s₀ =>
    obtain ⟨rfl, rfl, rfl⟩ := first
    exact rest
  | call op s₀ resume ih =>
    obtain ⟨r, u, s₁, v', step, first, rfl⟩ := first
    exact ⟨r, u, s₁, v' ++ w, step, ih r s₁ first, by rw [List.append_assoc]⟩

/-- The result of a run, passed on -/
theorem Prog.runs_map {E : Environment Op Res S τ} {p : Prog Op Res S α} {t : List τ} {a : α} {s s' : S}
    (runs : p.Runs E s t a s') (f : α → β) : (p >>= fun a => pure (f a)).Runs E s t (f a) s' := by
  have joined := @Act.runs_bind _ _ _ _ _ _ _ (p s) (fun a => pure (f a)) _ [] _ (f a) _ s' runs ⟨rfl, rfl, rfl⟩
  rwa [List.append_nil] at joined

/-- A run of the whole, taken apart -/
theorem Prog.runs_serve {p : Prog Op Res S α} {st st' : S × T} {u : List τ'} {a : α}
    (runs : (p.serve component).Runs (quiet fun _ => observe) st u a st') :
    ∃ v, p.Runs (quiet fun _ => seen) st.1 v a st'.1 ∧ Served component seen observe st.2 v u st'.2 :=
  Act.runs_serve runs

theorem Prog.wp_serve {p : Prog Op Res S α} {st : S × T} {Q : List τ' → α → S × T → Prop}
    (meets : ∀ v a s' u t', p.Runs (quiet fun _ => seen) st.1 v a s' →
      Served component seen observe st.2 v u t' → Q u a (s', t')) :
    (p.serve component).wp (quiet fun _ => observe) Q st := by
  rw [Prog.wp_iff_runs]
  intro u a st' runs
  obtain ⟨v, run, served⟩ := Prog.runs_serve runs
  exact meets v a st'.1 u st'.2 run served

end ZephyrCcsds.Callback
