import ZephyrCcsds.Callback.Frame

/-! # Programs with safe traces

A logic for programs whose traces are judged item by item: `p.Safe E P M s` says that every run from `s` leaves
only items that satisfy `P`, and a result and a state that satisfy `M`.  Its rules do not speak of traces.
-/

namespace ZephyrCcsds.Callback

variable {Op : Type} {Res : Op → Type} {S α β τ : Type} {E : Environment Op Res S τ} {P : τ → Prop}
  {p q : Prog Op Res S α} {M M' : α → S → Prop} {s : S}

namespace Prog

def Safe (E : Environment Op Res S τ) (P : τ → Prop) (p : Prog Op Res S α) (M : α → S → Prop) (s : S) : Prop :=
  p.wp E (fun t a s' => (∀ item ∈ t, P item) ∧ M a s') s

theorem safe_mono (safe : p.Safe E P M s) (weaken : ∀ a s', M a s' → M' a s') : p.Safe E P M' s :=
  wp_mono safe fun _ a s' reached => ⟨reached.1, weaken a s' reached.2⟩

theorem safe_pure {a : α} (reached : M a s) : (pure a : Prog Op Res S α).Safe E P M s := by
  constructor
  · simp
  · exact reached

theorem safe_bind {f : α → Prog Op Res S β} {M : β → S → Prop}
    (safe : p.Safe E P (fun a s' => (f a).Safe E P M s') s) : (p >>= f).Safe E P M s := by
  unfold Safe
  rw [wp_bind]
  apply wp_mono safe
  rintro t a s₁ ⟨front, rest⟩
  apply wp_mono rest
  rintro u b s' ⟨back, reached⟩
  refine ⟨fun item mem => ?_, reached⟩
  rcases List.mem_append.mp mem with mem | mem
  · exact front item mem
  · exact back item mem

theorem safe_read {f : S → Prog Op Res S β} {M : β → S → Prop} (safe : (f s).Safe E P M s) :
    (read >>= f).Safe E P M s := safe

theorem safe_modify {f : S → S} {g : Unit → Prog Op Res S β} {M : β → S → Prop}
    (safe : (g ()).Safe E P M (f s)) : (modify f >>= g).Safe E P M s := safe

theorem safe_ite {c : Prop} [Decidable c] (yes : c → p.Safe E P M s) (no : ¬ c → q.Safe E P M s) :
    (if c then p else q).Safe E P M s := by
  by_cases holds : c
  · rw [if_pos holds]
    exact yes holds
  · rw [if_neg holds]
    exact no holds

theorem safe_call {op : Op} {M : Res op → S → Prop}
    (returns : ∀ r t s', E s op r t s' → (∀ item ∈ t, P item) ∧ M r s') :
    (call op : Prog Op Res S (Res op)).Safe E P M s :=
  wp_call.mpr fun r t s' step => returns r t s' step

theorem safe_callIf {c : Bool} {op : Op} {default : Res op} {M : Res op → S → Prop} (none : M default s)
    (returns : ∀ r t s', E s op r t s' → (∀ item ∈ t, P item) ∧ M r s') :
    (callIf c op default : Prog Op Res S (Res op)).Safe E P M s := by
  cases c with
  | true => exact safe_call returns
  | false => exact safe_pure none

theorem safe_runIf {c : Bool} {p : Prog Op Res S Unit} {M : Unit → S → Prop} (yes : p.Safe E P M s) (no : M () s) :
    (runIf c p).Safe E P M s := by
  cases c with
  | true => exact yes
  | false => exact safe_pure no

theorem safe_of_along {R : S → List τ → S → Prop} (along : p.Along E R)
    (reached : ∀ t a s', R s t s' → (∀ item ∈ t, P item) ∧ M a s') : p.Safe E P M s :=
  wp_mono (along s) reached

end Prog

end ZephyrCcsds.Callback
