import ZephyrCcsds.Callback.Frame

/-! # Programs that may return an error

`Fallible` adds early exits to `Prog`: a program stops at its first error, in the state it
has reached by then.  Nothing is rolled back, so that an error leaves the state unchanged is
a property to be proved of each program, not one of the monad.

* `Fallible.wp` — the weakest precondition, with one postcondition for each kind of exit.
* `Fallible.Along` — frame conditions, which hold whichever way a program ends.
-/

namespace ZephyrCcsds.Callback

variable {Op : Type} {Res : Op → Type} {S T ε ε' α β τ : Type}

def Fallible (Op : Type) (Res : Op → Type) (S ε α : Type) : Type := Prog Op Res S (Except ε α)

namespace Fallible

/-- The underlying program, which returns the error as a value. -/
def run (p : Fallible Op Res S ε α) : Prog Op Res S (Except ε α) := p

def ofProg (p : Prog Op Res S α) : Fallible Op Res S ε α :=
  (p >>= fun a => pure (.ok a) : Prog Op Res S (Except ε α))

def ofExcept (r : Except ε α) : Fallible Op Res S ε α := (pure r : Prog Op Res S (Except ε α))

def bind (p : Fallible Op Res S ε α) (f : α → Fallible Op Res S ε β) : Fallible Op Res S ε β :=
  (p.run >>= fun r =>
    match r with
    | .ok a => (f a).run
    | .error e => pure (.error e) : Prog Op Res S (Except ε β))

instance : Monad (Fallible Op Res S ε) where
  pure a := ofExcept (.ok a)
  bind := bind

def fail (e : ε) : Fallible Op Res S ε α := ofExcept (.error e)

/-- `if (c) { return e; }` -/
def failIf (c : Prop) [Decidable c] (e : ε) : Fallible Op Res S ε Unit :=
  if c then fail e else pure ()

def read : Fallible Op Res S ε S := ofProg Prog.read

def modify (f : S → S) : Fallible Op Res S ε Unit := ofProg (Prog.modify f)

def call (op : Op) : Fallible Op Res S ε (Res op) := ofProg (Prog.call op)

/-- Go on with the error as a value. -/
def attempt (p : Fallible Op Res S ε α) : Fallible Op Res S ε' (Except ε α) := ofProg p.run

/-- A program that makes no callback hands its result on. -/
theorem run_attempt_bind {p : Fallible Op Res S ε' α} {f : Except ε' α → Fallible Op Res S ε β} {s s' : S}
    {r : Except ε' α} (finishes : p.run s = .done r s') : (attempt p >>= f).run s = (f r).run s' := by
  show ((p.run s).bind fun r => (pure (.ok r) : Prog Op Res S (Except ε (Except ε' α)))).bind _ = _
  rw [finishes]
  rfl

theorem run_read_bind {f : S → Fallible Op Res S ε β} {s : S} : (read >>= f).run s = (f s).run s := rfl

theorem run_failIf_bind {c : Prop} [Decidable c] {e : ε} {f : Unit → Fallible Op Res S ε β} {s : S} :
    (failIf c e >>= f).run s = if c then (fail e : Fallible Op Res S ε β).run s else (f ()).run s := by
  unfold failIf
  by_cases holds : c
  · rw [if_pos holds, if_pos holds]
    rfl
  · rw [if_neg holds, if_neg holds]
    rfl

/-! ## The weakest precondition -/

/-- One postcondition out of one for each kind of exit. -/
def either (Q : List τ → α → S → Prop) (F : List τ → ε → S → Prop) : List τ → Except ε α → S → Prop
  | t, .ok a, s => Q t a s
  | t, .error e, s => F t e s

@[simp] theorem either_ok {Q : List τ → α → S → Prop} {F : List τ → ε → S → Prop} {t : List τ} {a : α}
    {s : S} : either Q F t (.ok a) s ↔ Q t a s := Iff.rfl

@[simp] theorem either_error {Q : List τ → α → S → Prop} {F : List τ → ε → S → Prop} {t : List τ}
    {e : ε} {s : S} : either Q F t (.error e) s ↔ F t e s := Iff.rfl

/-- Every run of the program that succeeds satisfies `Q`, and every run that fails `F`. -/
def wp (E : Environment Op Res S τ) (p : Fallible Op Res S ε α) (Q : List τ → α → S → Prop)
    (F : List τ → ε → S → Prop) (s : S) : Prop :=
  p.run.wp E (either Q F) s

variable {E : Environment Op Res S τ} {p q : Fallible Op Res S ε α} {Q Q' : List τ → α → S → Prop}
  {F F' : List τ → ε → S → Prop} {s : S}

theorem wp_mono (post : p.wp E Q F s) (ok : ∀ t a s', Q t a s' → Q' t a s')
    (error : ∀ t e s', F t e s' → F' t e s') : p.wp E Q' F' s := by
  apply Prog.wp_mono post
  intro t r s' reached
  cases r with
  | ok a => exact ok t a s' reached
  | error e => exact error t e s' reached

theorem wp_iff_runs : p.wp E Q F s ↔
    (∀ t a s', p.run.Runs E s t (.ok a) s' → Q t a s') ∧
      ∀ t e s', p.run.Runs E s t (.error e) s' → F t e s' := by
  unfold wp
  rw [Prog.wp_iff_runs]
  constructor
  · exact fun post => ⟨fun t a s' runs => post t (.ok a) s' runs, fun t e s' runs => post t (.error e) s' runs⟩
  · rintro ⟨ok, error⟩ t r s' runs
    cases r with
    | ok a => exact ok t a s' runs
    | error e => exact error t e s' runs

theorem ok_of_runs (post : p.wp E Q F s) {t : List τ} {a : α} {s' : S}
    (runs : p.run.Runs E s t (.ok a) s') : Q t a s' :=
  Prog.wp_of_runs post runs

theorem error_of_runs (post : p.wp E Q F s) {t : List τ} {e : ε} {s' : S}
    (runs : p.run.Runs E s t (.error e) s') : F t e s' :=
  Prog.wp_of_runs post runs

/-- One postcondition on the result for both kinds of exit -/
theorem of_runs {G : List τ → Except ε α → S → Prop}
    (post : p.wp E (fun t a => G t (.ok a)) (fun t e => G t (.error e)) s) {t : List τ} {r : Except ε α} {s' : S}
    (runs : p.run.Runs E s t r s') : G t r s' := by
  cases r with
  | ok a => exact ok_of_runs post runs
  | error e => exact error_of_runs post runs

@[simp] theorem wp_pure {a : α} : (pure a : Fallible Op Res S ε α).wp E Q F s ↔ Q [] a s := Iff.rfl

@[simp] theorem wp_fail {e : ε} : (fail e : Fallible Op Res S ε α).wp E Q F s ↔ F [] e s := Iff.rfl

@[simp] theorem wp_ofExcept {r : Except ε α} :
    (ofExcept r : Fallible Op Res S ε α).wp E Q F s ↔
      (∀ a, r = .ok a → Q [] a s) ∧ ∀ e, r = .error e → F [] e s := by
  cases r with
  | ok a =>
    show Q [] a s ↔ _
    simp
  | error e =>
    show F [] e s ↔ _
    simp

theorem wp_ofExcept_ok {a : α} : (ofExcept (.ok a) : Fallible Op Res S ε α).wp E Q F s ↔ Q [] a s := Iff.rfl

theorem wp_ofExcept_error {e : ε} : (ofExcept (.error e) : Fallible Op Res S ε α).wp E Q F s ↔ F [] e s := Iff.rfl

@[simp] theorem wp_bind {f : α → Fallible Op Res S ε β} {Q : List τ → β → S → Prop} :
    (p >>= f).wp E Q F s ↔
      p.wp E (fun t a s₁ => (f a).wp E (fun u => Q (t ++ u)) (fun u => F (t ++ u)) s₁) F s := by
  show (p.run >>= fun r => match r with
    | .ok a => (f a).run
    | .error e => pure (.error e) : Prog Op Res S (Except ε β)).wp E (either Q F) s ↔ _
  rw [Prog.wp_bind]
  apply iff_of_eq
  unfold wp
  congr 1
  funext t r s₁
  cases r with
  | ok a =>
    have joined : (fun u => either Q F (t ++ u)) =
        either (fun u => Q (t ++ u)) fun u => F (t ++ u) := by
      funext u r s'
      cases r <;> rfl
    simp only [joined, either]
  | error e => simp [either]

@[simp] theorem wp_ite {c : Prop} [Decidable c] :
    (if c then p else q).wp E Q F s ↔ (c → p.wp E Q F s) ∧ (¬c → q.wp E Q F s) := by
  split <;> simp [*]

@[simp] theorem wp_failIf {c : Prop} [Decidable c] {e : ε} {Q : List τ → Unit → S → Prop} :
    (failIf c e : Fallible Op Res S ε Unit).wp E Q F s ↔ (c → F [] e s) ∧ (¬c → Q [] () s) := by
  rw [failIf, wp_ite, wp_fail, wp_pure]

theorem wp_ofProg {p : Prog Op Res S α} :
    (ofProg p : Fallible Op Res S ε α).wp E Q F s ↔ p.wp E Q s := by
  show (p >>= fun a => pure (.ok a) : Prog Op Res S (Except ε α)).wp E (either Q F) s ↔ _
  simp only [Prog.wp_bind, Prog.wp_pure, List.append_nil, either_ok]

@[simp] theorem wp_attempt {p : Fallible Op Res S ε' α} {Q : List τ → Except ε' α → S → Prop} :
    (attempt p : Fallible Op Res S ε (Except ε' α)).wp E Q F s ↔
      p.wp E (fun t a => Q t (.ok a)) (fun t e => Q t (.error e)) s := by
  have split : Q = either (fun t a => Q t (.ok a)) fun t e => Q t (.error e) := by
    funext t r s
    cases r <;> rfl
  rw [attempt, wp_ofProg, wp, ← split]

@[simp] theorem wp_read {Q : List τ → S → S → Prop} :
    (read : Fallible Op Res S ε S).wp E Q F s ↔ Q [] s s := Iff.rfl

@[simp] theorem wp_modify {f : S → S} {Q : List τ → Unit → S → Prop} :
    (modify f : Fallible Op Res S ε Unit).wp E Q F s ↔ Q [] () (f s) := Iff.rfl

theorem wp_call {op : Op} {Q : List τ → Res op → S → Prop} :
    (call op : Fallible Op Res S ε (Res op)).wp E Q F s ↔ ∀ r t s', E s op r t s' → Q t r s' := by
  rw [call, wp_ofProg, Prog.wp_call]

theorem wp_call_answering {allowed : (op : Op) → Res op → Prop} {observe : S → (op : Op) → Res op → τ}
    {op : Op} {Q : List τ → Res op → S → Prop} :
    (call op : Fallible Op Res S ε (Res op)).wp (answering allowed observe) Q F s ↔
      ∀ r, allowed op r → Q [observe s op r] r s := by
  rw [call, wp_ofProg, Prog.wp_call_answering]

@[simp] theorem wp_call_quiet {observe : S → (op : Op) → Res op → τ} {op : Op}
    {Q : List τ → Res op → S → Prop} :
    (call op : Fallible Op Res S ε (Res op)).wp (quiet observe) Q F s ↔
      ∀ r, Q [observe s op r] r s := by
  rw [call, wp_ofProg, Prog.wp_call_quiet]

/-! ## Programs that move along a relation -/

/-- Every run of the program moves along `R`, whichever way it ends. -/
def Along (E : Environment Op Res S τ) (R : S → List τ → S → Prop) (p : Fallible Op Res S ε α) : Prop :=
  p.run.Along E R

variable {R : S → List τ → S → Prop}

theorem wp_of_along (along : p.Along E R) (ok : ∀ t a s', R s t s' → Q t a s')
    (error : ∀ t e s', R s t s' → F t e s') : p.wp E Q F s := by
  apply Prog.wp_mono (along s)
  intro t r s' moved
  cases r with
  | ok a => exact ok t a s' moved
  | error e => exact error t e s' moved

theorem wp_and_along (along : p.Along E R) (post : p.wp E Q F s) :
    p.wp E (fun t a s' => R s t s' ∧ Q t a s') (fun t e s' => R s t s' ∧ F t e s') s := by
  apply Prog.wp_iff_runs.mpr
  intro t r s' runs
  have moved := Prog.wp_of_runs (along s) runs
  have reached := Prog.wp_of_runs post runs
  cases r with
  | ok a => exact ⟨moved, reached⟩
  | error e => exact ⟨moved, reached⟩

theorem along_of_wp (post : ∀ s, p.wp E (fun t _ s' => R s t s') (fun t _ s' => R s t s') s) :
    p.Along E R := by
  intro s
  apply Prog.wp_mono (post s)
  intro t r s' moved
  cases r with
  | ok a => exact moved
  | error e => exact moved

section Rules

variable [Composes R]

theorem along_ofExcept {r : Except ε α} : (ofExcept r : Fallible Op Res S ε α).Along E R :=
  Prog.along_pure

theorem along_pure {a : α} : (pure a : Fallible Op Res S ε α).Along E R := along_ofExcept

theorem along_fail {e : ε} : (fail e : Fallible Op Res S ε α).Along E R := along_ofExcept

theorem along_ofProg {p : Prog Op Res S α} (along : p.Along E R) :
    (ofProg p : Fallible Op Res S ε α).Along E R :=
  Prog.along_bind along fun _ => Prog.along_pure

theorem along_read : (read : Fallible Op Res S ε S).Along E R := along_ofProg Prog.along_read

theorem along_modify {f : S → S} (moves : ∀ s, R s [] (f s)) :
    (modify f : Fallible Op Res S ε Unit).Along E R :=
  along_ofProg (Prog.along_modify moves)

theorem along_call (env : EnvironmentAlong E R) {op : Op} :
    (call op : Fallible Op Res S ε (Res op)).Along E R :=
  along_ofProg (Prog.along_call env)

omit [Composes R] in
theorem along_ite {c : Prop} [Decidable c] (yes : p.Along E R) (no : q.Along E R) :
    (if c then p else q).Along E R := by
  split
  · exact yes
  · exact no

theorem along_failIf {c : Prop} [Decidable c] {e : ε} :
    (failIf c e : Fallible Op Res S ε Unit).Along E R :=
  along_ite along_fail along_pure

theorem along_bind {f : α → Fallible Op Res S ε β} (first : p.Along E R)
    (rest : ∀ a, (f a).Along E R) : (p >>= f).Along E R := by
  apply Prog.along_bind first
  intro r
  cases r with
  | ok a => exact rest a
  | error e => exact Prog.along_pure

end Rules

end Fallible

end ZephyrCcsds.Callback
