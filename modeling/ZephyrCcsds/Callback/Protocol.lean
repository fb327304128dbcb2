import ZephyrCcsds.Callback.Embed

/-! # Programs that share their state

A program that shares its state with others gives it up at every callback, and may find another one
when the callback returns.  A protocol has phases: it says which callbacks the program may make in
a phase, in which states, and what the program may rely on when one returns.

* `Act.Obeys` — the program keeps to a protocol, whatever the others do within it.
* `Act.Obeys.state` — what the program leaves behind at its next callback.
* `Fallible.Obeys` — the same for programs that may fail, with one rule for each way to build one.
-/

namespace ZephyrCcsds.Callback

variable {Op Op' : Type} {Res : Op → Type} {S T H ε ε' α β : Type}

/-- `allowed h s op`: in the phase `h` the program may leave `s` and make the callback `op`.
`answered h op r s h'`: the callback may return `r` in the state `s`, and the program is in the phase `h'`. -/
structure Protocol (Op : Type) (Res : Op → Type) (S H : Type) where
  allowed : H → S → Op → Prop
  answered : H → (op : Op) → Res op → S → H → Prop

/-- From the phase `h` on, the program keeps to the protocol, and ends in a way that satisfies `Q`. -/
def Act.Obeys (protocol : Protocol Op Res S H) (Q : H → α → S → Prop) : H → Act Op Res S α → Prop
  | h, .done a s => Q h a s
  | h, .call op s resume =>
    protocol.allowed h s op ∧ ∀ r s' h', protocol.answered h op r s' h' → (resume r s').Obeys protocol Q h'

/-- The state that a program leaves at its next callback, or at its end -/
def Act.state : Act Op Res S α → S
  | .done _ s => s
  | .call _ s _ => s

variable {protocol : Protocol Op Res S H} {h : H}

theorem Act.Obeys.state {act : Act Op Res S α} {Q : H → α → S → Prop} {P : S → Prop} (obeys : act.Obeys protocol Q h)
    (calls : ∀ s op, protocol.allowed h s op → P s) (ends : ∀ a s, Q h a s → P s) : P act.state := by
  cases act with
  | done a s => exact ends a s obeys
  | call op s resume => exact calls s op obeys.1

theorem Act.Obeys.mono {act : Act Op Res S α} {Q Q' : H → α → S → Prop} (obeys : act.Obeys protocol Q h)
    (weaken : ∀ h a s, Q h a s → Q' h a s) : act.Obeys protocol Q' h := by
  induction act generalizing h with
  | done a s => exact weaken h a s obeys
  | call op s resume ih => exact ⟨obeys.1, fun r s' h' answered => ih r s' (obeys.2 r s' h' answered)⟩

theorem Act.obeys_bind {act : Act Op Res S α} {f : α → Prog Op Res S β} {Q : H → β → S → Prop} :
    (act.bind f).Obeys protocol Q h ↔ act.Obeys protocol (fun h' a s => (f a s).Obeys protocol Q h') h := by
  induction act generalizing h with
  | done a s => exact Iff.rfl
  | call op s resume ih =>
    constructor
    · intro obeys
      exact ⟨obeys.1, fun r s' h' answered => (ih r s').mp (obeys.2 r s' h' answered)⟩
    · intro obeys
      exact ⟨obeys.1, fun r s' h' answered => (ih r s').mpr (obeys.2 r s' h' answered)⟩

/-- A program of a part keeps to a protocol whose phases `J` do not look at the part. -/
theorem Act.obeys_embed {part : Part S T} {op : Op' → Op} {act : Act Op' (fun o => Res (op o)) T α}
    {Q : H → α → S → Prop} {J : H → S → Prop} {s : S}
    (calls : ∀ h s t o, J h s → protocol.allowed h (part.store t s) (op o))
    (returns : ∀ h s o r s' h', J h s → protocol.answered h (op o) r s' h' → J h' s')
    (ends : ∀ h s t a, J h s → Q h a (part.store t s)) (holds : J h s) : (act.embed part op s).Obeys protocol Q h := by
  induction act generalizing h s with
  | done a t => exact ends h s t a holds
  | call o t resume ih => exact ⟨calls h s t o holds, fun r s' h' answered => ih r _ (returns h s o r s' h' holds answered)⟩

namespace Fallible

/-- One postcondition out of one for each kind of exit -/
def eitherIn (Q : H → α → S → Prop) (F : H → ε → S → Prop) : H → Except ε α → S → Prop
  | h, .ok a, s => Q h a s
  | h, .error e, s => F h e s

def Obeys (protocol : Protocol Op Res S H) (p : Fallible Op Res S ε α) (Q : H → α → S → Prop) (F : H → ε → S → Prop)
    (h : H) (s : S) : Prop :=
  (p.run s).Obeys protocol (eitherIn Q F) h

variable {p q : Fallible Op Res S ε α} {Q Q' : H → α → S → Prop} {F F' : H → ε → S → Prop} {s : S}

theorem Obeys.mono (obeys : p.Obeys protocol Q F h s) (ok : ∀ h a s, Q h a s → Q' h a s)
    (error : ∀ h e s, F h e s → F' h e s) : p.Obeys protocol Q' F' h s := by
  apply Act.Obeys.mono obeys
  intro h r s reached
  cases r with
  | ok a => exact ok h a s reached
  | error e => exact error h e s reached

@[simp] theorem obeys_pure {a : α} : (pure a : Fallible Op Res S ε α).Obeys protocol Q F h s ↔ Q h a s := Iff.rfl

@[simp] theorem obeys_fail {e : ε} : (fail e : Fallible Op Res S ε α).Obeys protocol Q F h s ↔ F h e s := Iff.rfl

@[simp] theorem obeys_read {Q : H → S → S → Prop} :
    (read : Fallible Op Res S ε S).Obeys protocol Q F h s ↔ Q h s s := Iff.rfl

@[simp] theorem obeys_modify {f : S → S} {Q : H → Unit → S → Prop} :
    (modify f : Fallible Op Res S ε Unit).Obeys protocol Q F h s ↔ Q h () (f s) := Iff.rfl

theorem obeys_ofExcept {r : Except ε α} : (ofExcept r : Fallible Op Res S ε α).Obeys protocol Q F h s ↔
    (∀ a, r = .ok a → Q h a s) ∧ ∀ e, r = .error e → F h e s := by
  cases r with
  | ok a =>
    show Q h a s ↔ _
    simp
  | error e =>
    show F h e s ↔ _
    simp

theorem obeys_ofExcept_ok {a : α} :
    (ofExcept (.ok a) : Fallible Op Res S ε α).Obeys protocol Q F h s ↔ Q h a s := Iff.rfl

theorem obeys_ofExcept_error {e : ε} :
    (ofExcept (.error e) : Fallible Op Res S ε α).Obeys protocol Q F h s ↔ F h e s := Iff.rfl

theorem obeys_call {op : Op} {Q : H → Res op → S → Prop} :
    (call op : Fallible Op Res S ε (Res op)).Obeys protocol Q F h s ↔
      protocol.allowed h s op ∧ ∀ r s' h', protocol.answered h op r s' h' → Q h' r s' := Iff.rfl

@[simp] theorem obeys_ite {c : Prop} [Decidable c] : (if c then p else q).Obeys protocol Q F h s ↔
    (c → p.Obeys protocol Q F h s) ∧ (¬ c → q.Obeys protocol Q F h s) := by
  split <;> simp [*]

@[simp] theorem obeys_failIf {c : Prop} [Decidable c] {e : ε} {Q : H → Unit → S → Prop} :
    (failIf c e : Fallible Op Res S ε Unit).Obeys protocol Q F h s ↔ (c → F h e s) ∧ (¬ c → Q h () s) := by
  rw [failIf, obeys_ite, obeys_fail, obeys_pure]

@[simp] theorem obeys_bind {f : α → Fallible Op Res S ε β} {Q : H → β → S → Prop} :
    (p >>= f).Obeys protocol Q F h s ↔ p.Obeys protocol (fun h' a s' => (f a).Obeys protocol Q F h' s') F h s := by
  show (Act.bind (p.run s) _).Obeys protocol (eitherIn Q F) h ↔ _
  rw [Act.obeys_bind]
  apply iff_of_eq
  unfold Obeys
  congr 1
  funext h' r s'
  cases r with
  | ok a => rfl
  | error e => rfl

@[simp] theorem obeys_attempt {p : Fallible Op Res S ε' α} {Q : H → Except ε' α → S → Prop} :
    (attempt p : Fallible Op Res S ε (Except ε' α)).Obeys protocol Q F h s ↔
      p.Obeys protocol (fun h' a => Q h' (.ok a)) (fun h' e => Q h' (.error e)) h s := by
  show (Act.bind (p.run s) _).Obeys protocol (eitherIn Q F) h ↔ _
  rw [Act.obeys_bind]
  apply iff_of_eq
  unfold Obeys
  congr 1
  funext h' r s'
  cases r with
  | ok a => rfl
  | error e => rfl

theorem obeys_embed {part : Part S T} {op : Op' → Op} {p : Fallible Op' (fun o => Res (op o)) T ε α}
    {J : H → S → Prop} {t : T} (calls : ∀ h s t o, J h s → protocol.allowed h (part.store t s) (op o))
    (returns : ∀ h s o r s' h', J h s → protocol.answered h (op o) r s' h' → J h' s')
    (ok : ∀ h s t a, J h s → Q h a (part.store t s)) (error : ∀ h s t e, J h s → F h e (part.store t s))
    (holds : J h s) : (p.embed part op t : Fallible Op Res S ε α).Obeys protocol Q F h s := by
  apply Act.obeys_embed calls returns _ holds
  intro h s t r holds
  cases r with
  | ok a => exact ok h s t a holds
  | error e => exact error h s t e holds

end Fallible

end ZephyrCcsds.Callback
