import Mathlib.Logic.Basic
import Mathlib.Data.List.Basic

/-! # Programs that call back into their environment

A program over a state `S` that is a state transformer except where it calls out
through a function pointer.  The reduction tree `Act` stops at every callback and
hands the environment the state as it stands there: an environment that calls back
into the program may return with a different one.

* `Act`, `Prog` — the syntax, with the monad of state passing.
* `Act.Runs` — the finite runs in a given environment, with their traces.
* `Act.Post` — the weakest precondition; `wp_iff_runs` connects the two.
-/

namespace ZephyrCcsds.Callback

/-- A program from one of its states on: finished, or stopped at a callback. -/
inductive Act (Op : Type) (Res : Op → Type) (S α : Type) : Type where
  | done (result : α) (state : S)
  | call (op : Op) (state : S) (resume : Res op → S → Act Op Res S α)

/-- A program as a function of the state it is started in. -/
def Prog (Op : Type) (Res : Op → Type) (S α : Type) : Type := S → Act Op Res S α

/-- What the environment may do at a callback: the result it returns, the trace
items it leaves and the state the program resumes in. -/
abbrev Environment (Op : Type) (Res : Op → Type) (S τ : Type) : Type :=
  S → (op : Op) → Res op → List τ → S → Prop

variable {Op : Type} {Res : Op → Type} {S α β τ : Type}

/-! ## The monad -/

def Act.bind : Act Op Res S α → (α → Prog Op Res S β) → Act Op Res S β
  | .done a s, f => f a s
  | .call op s resume, f => .call op s fun r s' => (resume r s').bind f

instance : Monad (Prog Op Res S) where
  pure a := fun s => .done a s
  bind p f := fun s => (p s).bind f

namespace Prog

def call (op : Op) : Prog Op Res S (Res op) := fun s => .call op s .done

def read : Prog Op Res S S := fun s => .done s s

def modify (f : S → S) : Prog Op Res S Unit := fun s => .done () (f s)

/-- A callback made under a condition, with the result that stands for none. -/
def callIf (c : Bool) (op : Op) (default : Res op) : Prog Op Res S (Res op) :=
  if c then call op else pure default

def runIf (c : Bool) (p : Prog Op Res S Unit) : Prog Op Res S Unit :=
  if c then p else pure ()

end Prog

/-! ## Runs -/

/-- `act.Runs E t a s'` — in the environment `E` the program finishes with result
`a` in state `s'`, leaving the trace `t`. -/
def Act.Runs (E : Environment Op Res S τ) : Act Op Res S α → List τ → α → S → Prop
  | .done a s, t, b, s' => t = [] ∧ b = a ∧ s' = s
  | .call op s resume, t, b, s' =>
      ∃ r u s₁ v, E s op r u s₁ ∧ (resume r s₁).Runs E v b s' ∧ t = u ++ v

def Prog.Runs (E : Environment Op Res S τ) (p : Prog Op Res S α) (s : S)
    (t : List τ) (a : α) (s' : S) : Prop :=
  (p s).Runs E t a s'

/-- Every run of the program ends with a trace, result and state satisfying `Q`. -/
def Act.Post (E : Environment Op Res S τ) :
    (List τ → α → S → Prop) → Act Op Res S α → Prop
  | Q, .done a s => Q [] a s
  | Q, .call op s resume =>
      ∀ r u s₁, E s op r u s₁ → (resume r s₁).Post E fun v => Q (u ++ v)

/-- The weakest precondition of a program. -/
def Prog.wp (E : Environment Op Res S τ) (p : Prog Op Res S α)
    (Q : List τ → α → S → Prop) (s : S) : Prop :=
  (p s).Post E Q

theorem Act.post_iff_runs {E : Environment Op Res S τ} {act : Act Op Res S α}
    {Q : List τ → α → S → Prop} :
    act.Post E Q ↔ ∀ t a s', act.Runs E t a s' → Q t a s' := by
  induction act generalizing Q with
  | done a s =>
    constructor
    · rintro post t b s' ⟨rfl, rfl, rfl⟩
      exact post
    · intro runs
      exact runs _ _ _ ⟨rfl, rfl, rfl⟩
  | call op s resume ih =>
    constructor
    · rintro post t b s' ⟨r, u, s₁, v, step, rest, rfl⟩
      exact (ih r s₁).mp (post r u s₁ step) v b s' rest
    · intro runs r u s₁ step
      exact (ih r s₁).mpr fun v b s' rest => runs _ _ _ ⟨r, u, s₁, v, step, rest, rfl⟩

/-- An environment that answers every callback lets every program finish. -/
theorem Act.exists_runs {E : Environment Op Res S τ} (answers : ∀ s op, ∃ r u s', E s op r u s')
    (act : Act Op Res S α) : ∃ t a s', act.Runs E t a s' := by
  induction act with
  | done a s => exact ⟨[], a, s, rfl, rfl, rfl⟩
  | call op s resume ih =>
    obtain ⟨r, u, s₁, step⟩ := answers s op
    obtain ⟨v, a, s', rest⟩ := ih r s₁
    exact ⟨u ++ v, a, s', r, u, s₁, v, step, rest, rfl⟩

/-- A run stays a run in a larger environment. -/
theorem Act.Runs.mono {E E' : Environment Op Res S τ} {act : Act Op Res S α} {t : List τ} {a : α} {s' : S}
    (sub : ∀ s op r t s', E s op r t s' → E' s op r t s') (runs : act.Runs E t a s') : act.Runs E' t a s' := by
  induction act generalizing t with
  | done b s => exact runs
  | call op s resume ih =>
    obtain ⟨r, u, s₁, v, step, rest, joined⟩ := runs
    exact ⟨r, u, s₁, v, sub _ _ _ _ _ step, ih _ _ rest, joined⟩

/-- A run goes through in an environment that returns the same, whatever trace that leaves. -/
theorem Act.Runs.retrace {τ' : Type} {E : Environment Op Res S τ} {E' : Environment Op Res S τ'} {act : Act Op Res S α}
    {t : List τ} {a : α} {s' : S} (sub : ∀ s op r t s', E s op r t s' → ∃ u, E' s op r u s')
    (runs : act.Runs E t a s') : ∃ u, act.Runs E' u a s' := by
  induction act generalizing t with
  | done b s => exact ⟨[], rfl, runs.2⟩
  | call op s resume ih =>
    obtain ⟨r, _, s₁, _, step, rest, _⟩ := runs
    obtain ⟨u, step'⟩ := sub _ _ _ _ _ step
    obtain ⟨v, rest'⟩ := ih r s₁ rest
    exact ⟨u ++ v, r, u, s₁, v, step', rest', rfl⟩

namespace Prog

variable {E : Environment Op Res S τ} {p : Prog Op Res S α} {Q Q' : List τ → α → S → Prop} {s : S}

theorem wp_iff_runs : p.wp E Q s ↔ ∀ t a s', p.Runs E s t a s' → Q t a s' :=
  Act.post_iff_runs

theorem wp_of_runs (post : p.wp E Q s) {t : List τ} {a : α} {s' : S}
    (run : p.Runs E s t a s') : Q t a s' :=
  wp_iff_runs.mp post t a s' run

theorem wp_mono (post : p.wp E Q s) (weaken : ∀ t a s', Q t a s' → Q' t a s') :
    p.wp E Q' s :=
  wp_iff_runs.mpr fun t a s' run => weaken t a s' (wp_of_runs post run)

/-- A smaller environment has fewer runs. -/
theorem wp_environment {E' : Environment Op Res S τ}
    (sub : ∀ s op r t s', E' s op r t s' → E s op r t s') (post : p.wp E Q s) :
    p.wp E' Q s := by
  unfold wp at post ⊢
  generalize p s = act at post
  induction act generalizing Q with
  | done a s => exact post
  | call op s resume ih => exact fun r u s₁ step => ih r s₁ (post r u s₁ (sub _ _ _ _ _ step))

theorem Runs.mono {E' : Environment Op Res S τ} {t : List τ} {a : α} {s' : S}
    (sub : ∀ s op r t s', E s op r t s' → E' s op r t s') (runs : p.Runs E s t a s') : p.Runs E' s t a s' :=
  Act.Runs.mono sub runs

/-! ## Rules of the weakest precondition -/

@[simp] theorem wp_pure {a : α} : (pure a : Prog Op Res S α).wp E Q s ↔ Q [] a s := Iff.rfl

@[simp] theorem wp_read {Q : List τ → S → S → Prop} :
    (read : Prog Op Res S S).wp E Q s ↔ Q [] s s := Iff.rfl

@[simp] theorem wp_modify {f : S → S} {Q : List τ → Unit → S → Prop} :
    (modify f : Prog Op Res S Unit).wp E Q s ↔ Q [] () (f s) := Iff.rfl

theorem wp_call {op : Op} {Q : List τ → Res op → S → Prop} :
    (call op : Prog Op Res S (Res op)).wp E Q s ↔
      ∀ r u s', E s op r u s' → Q u r s' := by
  simp only [wp, call, Act.Post, List.append_nil]

theorem post_bind {act : Act Op Res S α} {f : α → Prog Op Res S β}
    {Q : List τ → β → S → Prop} :
    (act.bind f).Post E Q ↔
      act.Post E fun t a s₁ => (f a).wp E (fun u => Q (t ++ u)) s₁ := by
  induction act generalizing Q with
  | done a s => simp only [Act.bind, Act.Post, List.nil_append, wp]
  | call op s resume ih =>
    simp only [Act.bind, Act.Post]
    refine forall_congr' fun r => forall_congr' fun u => forall_congr' fun s₁ =>
      imp_congr_right fun _ => ?_
    rw [ih]
    simp only [List.append_assoc]

@[simp] theorem wp_bind {f : α → Prog Op Res S β} {Q : List τ → β → S → Prop} :
    (p >>= f).wp E Q s ↔ p.wp E (fun t a s₁ => (f a).wp E (fun u => Q (t ++ u)) s₁) s :=
  post_bind

@[simp] theorem wp_ite {c : Prop} [Decidable c] {q : Prog Op Res S α} :
    (if c then p else q).wp E Q s ↔ (c → p.wp E Q s) ∧ (¬c → q.wp E Q s) := by
  split <;> simp [*]

@[simp] theorem wp_runIf {c : Bool} {p : Prog Op Res S Unit} {Q : List τ → Unit → S → Prop} :
    (runIf c p).wp E Q s ↔ (c = true → p.wp E Q s) ∧ (c = false → Q [] () s) := by
  cases c <;> simp [runIf]

end Prog

/-! ## Environments that do not call back -/

/-- The environment that answers every callback at once, in every possible way. -/
def quiet (observe : S → (op : Op) → Res op → τ) : Environment Op Res S τ :=
  fun s op r t s' => t = [observe s op r] ∧ s' = s

variable {observe : S → (op : Op) → Res op → τ}

@[simp] theorem Prog.wp_call_quiet {op : Op} {Q : List τ → Res op → S → Prop} {s : S} :
    (Prog.call op : Prog Op Res S (Res op)).wp (quiet observe) Q s ↔
      ∀ r, Q [observe s op r] r s := by
  rw [Prog.wp_call]
  constructor
  · intro post r
    exact post r _ _ ⟨rfl, rfl⟩
  · rintro post r u s' ⟨rfl, rfl⟩
    exact post r

/-- The environment that answers at once, in the ways that `allowed` has for the callback. -/
def answering (allowed : (op : Op) → Res op → Prop) (observe : S → (op : Op) → Res op → τ) :
    Environment Op Res S τ :=
  fun s op r t s' => allowed op r ∧ t = [observe s op r] ∧ s' = s

theorem Prog.wp_call_answering {allowed : (op : Op) → Res op → Prop} {op : Op}
    {Q : List τ → Res op → S → Prop} {s : S} :
    (Prog.call op : Prog Op Res S (Res op)).wp (answering allowed observe) Q s ↔
      ∀ r, allowed op r → Q [observe s op r] r s := by
  rw [Prog.wp_call]
  constructor
  · intro post r admitted
    exact post r _ _ ⟨admitted, rfl, rfl⟩
  · rintro post r u s' ⟨admitted, rfl, rfl⟩
    exact post r admitted

/-- A run with restricted answers is a run. -/
theorem Act.Runs.unrestricted {allowed : (op : Op) → Res op → Prop} {act : Act Op Res S α} {t : List τ} {a : α} {s' : S}
    (runs : act.Runs (answering allowed observe) t a s') : act.Runs (quiet observe) t a s' :=
  runs.mono fun _ _ _ _ _ answered => answered.2

/-- A run without visits is determined by the answers it sees, whatever calls follow it. -/
theorem Act.Runs.determined {σ : Type} {seen : τ → σ}
    (visible : ∀ s op r r', seen (observe s op r) = seen (observe s op r') → r = r')
    {act : Act Op Res S α} {t t' : List τ} {u u' : List σ} {a a' : α} {s s' : S}
    (runs : act.Runs (quiet observe) t a s) (runs' : act.Runs (quiet observe) t' a' s')
    (same : t.map seen ++ u = t'.map seen ++ u') : t = t' ∧ a = a' ∧ s = s' := by
  induction act generalizing t t' with
  | done b s =>
    obtain ⟨rfl, rfl, rfl⟩ := runs
    obtain ⟨rfl, rfl, rfl⟩ := runs'
    exact ⟨rfl, rfl, rfl⟩
  | call op s resume ih =>
    obtain ⟨r, _, _, v, ⟨rfl, rfl⟩, rest, rfl⟩ := runs
    obtain ⟨r', _, _, v', ⟨rfl, rfl⟩, rest', rfl⟩ := runs'
    simp only [List.map_cons, List.cons_append, List.cons.injEq] at same
    obtain ⟨now, later⟩ := same
    obtain rfl := visible _ _ _ _ now
    obtain ⟨rfl, rfl, rfl⟩ := ih r _ rest rest' later
    exact ⟨rfl, rfl, rfl⟩

@[simp] theorem Prog.wp_callIf_quiet {c : Bool} {op : Op} {default : Res op}
    {Q : List τ → Res op → S → Prop} {s : S} :
    (Prog.callIf c op default : Prog Op Res S (Res op)).wp (quiet observe) Q s ↔
      (c = true → ∀ r, Q [observe s op r] r s) ∧ (c = false → Q [] default s) := by
  cases c <;> simp [Prog.callIf]

end ZephyrCcsds.Callback
