import ZephyrCcsds.Callback.Fallible

/-! # Programs in lockstep

Two programs over different states run in lockstep when they make the same callbacks, all of
one kind, and return the same results as long as their states stay related.  Peers whose
answers are determined by the calls so far cannot tell them apart: `Lockstep.same_runs`.
-/

namespace ZephyrCcsds.Callback

variable {Op : Type} {Res : Op → Type} {S S' ε α β τ τ' : Type}

/-- The same callbacks of the kind `P` and the same result, from states related by `R` to states related
by `R`. -/
def Act.Lockstep (P : Op → Prop) (R : S → S' → Prop) : Act Op Res S α → Act Op Res S' α → Prop
  | .done a s, .done a' s' => a = a' ∧ R s s'
  | .call op s resume, .call op' s' resume' =>
    P op ∧ R s s' ∧ ∃ same : op = op', ∀ r s₁ s₁', R s₁ s₁' →
      (resume r s₁).Lockstep P R (resume' (same ▸ r) s₁')
  | .done _ _, .call _ _ _ => False
  | .call _ _ _, .done _ _ => False

def Prog.Lockstep (P : Op → Prop) (R : S → S' → Prop) (p : Prog Op Res S α) (q : Prog Op Res S' α) : Prop :=
  ∀ s s', R s s' → (p s).Lockstep P R (q s')

theorem Act.Lockstep.bind {P : Op → Prop} {R : S → S' → Prop} {act : Act Op Res S α} {act' : Act Op Res S' α}
    {f : α → Prog Op Res S β} {g : α → Prog Op Res S' β} (first : act.Lockstep P R act')
    (rest : ∀ a, (f a).Lockstep P R (g a)) : (act.bind f).Lockstep P R (act'.bind g) := by
  induction act generalizing act' with
  | done a s =>
    cases act' with
    | done a' s' =>
      obtain ⟨rfl, related⟩ := first
      exact rest a s s' related
    | call => exact first.elim
  | call op s resume ih =>
    cases act' with
    | done => exact first.elim
    | call op' s' resume' =>
      obtain ⟨kind, related, rfl, later⟩ := first
      exact ⟨kind, related, rfl, fun r s₁ s₁' moved => ih r s₁ (later r s₁ s₁' moved)⟩

namespace Prog

variable {P : Op → Prop} {R : S → S' → Prop}

theorem lockstep_pure {a : α} :
    (pure a : Prog Op Res S α).Lockstep P R (pure a : Prog Op Res S' α) :=
  fun _ _ related => ⟨rfl, related⟩

theorem lockstep_modify {f : S → S} {g : S' → S'} (keeps : ∀ s s', R s s' → R (f s) (g s')) :
    (modify f : Prog Op Res S Unit).Lockstep P R (modify g) :=
  fun s s' related => ⟨rfl, keeps s s' related⟩

theorem lockstep_call {op : Op} (kind : P op) :
    (call op : Prog Op Res S (Res op)).Lockstep P R (call op) :=
  fun _ _ related => ⟨kind, related, rfl, fun _ _ _ moved => ⟨rfl, moved⟩⟩

theorem lockstep_bind {p : Prog Op Res S α} {q : Prog Op Res S' α} {f : α → Prog Op Res S β}
    {g : α → Prog Op Res S' β} (first : p.Lockstep P R q) (rest : ∀ a, (f a).Lockstep P R (g a)) :
    (p >>= f).Lockstep P R (q >>= g) :=
  fun s s' related => Act.Lockstep.bind (first s s' related) rest

theorem lockstep_callIf {c : Bool} {op : Op} {default : Res op} (kind : P op) :
    (callIf c op default : Prog Op Res S (Res op)).Lockstep P R (callIf c op default) := by
  cases c with
  | true => exact lockstep_call kind
  | false => exact lockstep_pure

theorem lockstep_runIf {c : Bool} {p : Prog Op Res S Unit} {q : Prog Op Res S' Unit} (lockstep : p.Lockstep P R q) :
    (runIf c p).Lockstep P R (runIf c q) := by
  cases c with
  | true => exact lockstep
  | false => exact lockstep_pure

theorem lockstep_ite {c : Prop} [Decidable c] {p p' : Prog Op Res S α} {q q' : Prog Op Res S' α}
    (yes : p.Lockstep P R q) (no : p'.Lockstep P R q') :
    (if c then p else p').Lockstep P R (if c then q else q') := by
  by_cases holds : c
  · simpa only [if_pos holds] using yes
  · simpa only [if_neg holds] using no

/-- Two programs that look at their states first. -/
theorem lockstep_read {f : S → Prog Op Res S β} {g : S' → Prog Op Res S' β}
    (rest : ∀ s s', R s s' → (f s s).Lockstep P R (g s' s')) : (read >>= f).Lockstep P R (read >>= g) :=
  fun s s' related => rest s s' related

end Prog

namespace Fallible

variable {P : Op → Prop} {R : S → S' → Prop}

def Lockstep (P : Op → Prop) (R : S → S' → Prop) (p : Fallible Op Res S ε α) (q : Fallible Op Res S' ε α) : Prop :=
  p.run.Lockstep P R q.run

theorem lockstep_ofExcept {r : Except ε α} :
    (ofExcept r : Fallible Op Res S ε α).Lockstep P R (ofExcept r : Fallible Op Res S' ε α) :=
  Prog.lockstep_pure

theorem lockstep_pure {a : α} :
    (pure a : Fallible Op Res S ε α).Lockstep P R (pure a : Fallible Op Res S' ε α) :=
  lockstep_ofExcept

theorem lockstep_fail {e : ε} :
    (fail e : Fallible Op Res S ε α).Lockstep P R (fail e : Fallible Op Res S' ε α) :=
  lockstep_ofExcept

theorem lockstep_ofProg {p : Prog Op Res S α} {q : Prog Op Res S' α} (lockstep : p.Lockstep P R q) :
    (ofProg p : Fallible Op Res S ε α).Lockstep P R (ofProg q) :=
  Prog.lockstep_bind lockstep fun _ => Prog.lockstep_pure

theorem lockstep_modify {f : S → S} {g : S' → S'} (keeps : ∀ s s', R s s' → R (f s) (g s')) :
    (modify f : Fallible Op Res S ε Unit).Lockstep P R (modify g) :=
  lockstep_ofProg (Prog.lockstep_modify keeps)

theorem lockstep_call {op : Op} (kind : P op) :
    (call op : Fallible Op Res S ε (Res op)).Lockstep P R (call op) :=
  lockstep_ofProg (Prog.lockstep_call kind)

theorem lockstep_attempt {p : Fallible Op Res S ε α} {q : Fallible Op Res S' ε α} (lockstep : p.Lockstep P R q) :
    (attempt p : Fallible Op Res S ε' (Except ε α)).Lockstep P R (attempt q) :=
  lockstep_ofProg lockstep

theorem lockstep_bind {p : Fallible Op Res S ε α} {q : Fallible Op Res S' ε α}
    {f : α → Fallible Op Res S ε β} {g : α → Fallible Op Res S' ε β} (first : p.Lockstep P R q)
    (rest : ∀ a, (f a).Lockstep P R (g a)) : (p >>= f).Lockstep P R (q >>= g) := by
  apply Prog.lockstep_bind first
  intro r
  cases r with
  | ok a => exact rest a
  | error e => exact Prog.lockstep_pure

theorem lockstep_read {f : S → Fallible Op Res S ε β} {g : S' → Fallible Op Res S' ε β}
    (rest : ∀ s s', R s s' → ((f s).run s).Lockstep P R ((g s').run s')) :
    (read >>= f).Lockstep P R (read >>= g) :=
  fun s s' related => rest s s' related

theorem lockstep_failIf {c : Prop} [Decidable c] {e : ε} :
    (failIf c e : Fallible Op Res S ε Unit).Lockstep P R (failIf c e : Fallible Op Res S' ε Unit) := by
  by_cases holds : c
  · simp only [failIf, if_pos holds]
    exact lockstep_fail
  · simp only [failIf, if_neg holds]
    exact lockstep_pure

end Fallible

/-! ## Runs in lockstep -/

/-- A run is followed by one of the other program, in an environment that can return the same there. -/
theorem Act.Lockstep.follow {P : Op → Prop} {E : Environment Op Res S τ} {E' : Environment Op Res S' τ'}
    {R : S → S' → Prop} {T : List τ → List τ' → Prop} (nil : T [] [])
    (append : ∀ t t' u u', T t t' → T u u' → T (t ++ u) (t' ++ u'))
    (follows : ∀ s s' op r t s₁, P op → R s s' → E s op r t s₁ → ∃ t' s₁', E' s' op r t' s₁' ∧ T t t' ∧ R s₁ s₁')
    {act : Act Op Res S α} {act' : Act Op Res S' α} (lockstep : act.Lockstep P R act') {t : List τ} {a : α} {s : S}
    (run : act.Runs E t a s) : ∃ t' s', act'.Runs E' t' a s' ∧ T t t' ∧ R s s' := by
  induction act generalizing act' t with
  | done b s₀ =>
    cases act' with
    | call => exact lockstep.elim
    | done b' s₀' =>
      obtain ⟨rfl, related⟩ := lockstep
      obtain ⟨rfl, rfl, rfl⟩ := run
      exact ⟨[], s₀', ⟨rfl, rfl, rfl⟩, nil, related⟩
  | call op s₀ resume ih =>
    cases act' with
    | done => exact lockstep.elim
    | call op' s₀' resume' =>
      obtain ⟨kind, related, rfl, later⟩ := lockstep
      obtain ⟨r, u, s₁, v, step, rest, rfl⟩ := run
      obtain ⟨u', s₁', step', first, moved⟩ := follows _ _ _ _ _ _ kind related step
      obtain ⟨v', s', rest', second, last⟩ := ih r s₁ (later r s₁ s₁' moved) rest
      exact ⟨u' ++ v', s', ⟨r, u', s₁', v', step', rest', rfl⟩, append _ _ _ _ first second, last⟩

/-! ## Peers that are determined by the calls -/

/-- The answers on a trace are those of `f`, which knows the calls made before. -/
def Answered (f : List ((op : Op) × Res op) → (op : Op) → Res op) :
    (before calls : List ((op : Op) × Res op)) → Prop
  | _, [] => True
  | before, call :: calls => call.2 = f before call.1 ∧ Answered f (before ++ [call]) calls

/-- Environments whose traces show the calls of the kind `P` and whose callbacks keep the relation. -/
structure Peers (P : Op → Prop) (E : Environment Op Res S τ) (E' : Environment Op Res S' τ') (R : S → S' → Prop)
    (calls : List τ → List ((op : Op) × Res op)) (calls' : List τ' → List ((op : Op) × Res op)) : Prop where
  nil : calls [] = []
  nil' : calls' [] = []
  append : ∀ t u, calls (t ++ u) = calls t ++ calls u
  append' : ∀ t u, calls' (t ++ u) = calls' t ++ calls' u
  shows : ∀ {s op r t s₁}, P op → E s op r t s₁ → calls t = [⟨op, r⟩]
  shows' : ∀ {s op r t s₁}, P op → E' s op r t s₁ → calls' t = [⟨op, r⟩]
  keeps : ∀ {s s' op r r' t t' s₁ s₁'}, P op → R s s' → E s op r t s₁ → E' s' op r' t' s₁' → R s₁ s₁'

/-- Determined peers see the same calls and the programs return the same. -/
theorem Act.Lockstep.same_runs {P : Op → Prop} {E : Environment Op Res S τ} {E' : Environment Op Res S' τ'}
    {R : S → S' → Prop} {calls : List τ → List ((op : Op) × Res op)}
    {calls' : List τ' → List ((op : Op) × Res op)} (peers : Peers P E E' R calls calls')
    {f : List ((op : Op) × Res op) → (op : Op) → Res op} {act : Act Op Res S α} {act' : Act Op Res S' α}
    (lockstep : act.Lockstep P R act') {before : List ((op : Op) × Res op)} {t : List τ} {t' : List τ'}
    {a a' : α} {s : S} {s' : S'} (run : act.Runs E t a s) (run' : act'.Runs E' t' a' s')
    (answered : Answered f before (calls t)) (answered' : Answered f before (calls' t')) :
    calls t = calls' t' ∧ a = a' ∧ R s s' := by
  induction act generalizing act' before t t' with
  | done b s₀ =>
    cases act' with
    | call => exact lockstep.elim
    | done b' s₀' =>
      obtain ⟨rfl, related⟩ := lockstep
      obtain ⟨rfl, rfl, rfl⟩ := run
      obtain ⟨rfl, rfl, rfl⟩ := run'
      exact ⟨peers.nil.trans peers.nil'.symm, rfl, related⟩
  | call op s₀ resume ih =>
    cases act' with
    | done => exact lockstep.elim
    | call op' s₀' resume' =>
      obtain ⟨kind, related, rfl, later⟩ := lockstep
      obtain ⟨r, u, s₁, v, step, rest, rfl⟩ := run
      obtain ⟨r', u', s₁', v', step', rest', rfl⟩ := run'
      rw [peers.append, peers.shows kind step] at answered ⊢
      rw [peers.append', peers.shows' kind step'] at answered' ⊢
      obtain ⟨now, answered⟩ := answered
      obtain ⟨now', answered'⟩ := answered'
      obtain rfl : r = r' := now.trans now'.symm
      obtain ⟨calls, result, moved⟩ := ih r s₁ (later r s₁ s₁' (peers.keeps kind related step step'))
        rest rest' answered answered'
      exact ⟨congrArg _ calls, result, moved⟩

end ZephyrCcsds.Callback
