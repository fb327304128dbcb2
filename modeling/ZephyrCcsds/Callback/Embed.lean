import ZephyrCcsds.Callback.Fallible

/-! # Programs on a part of a state

A module that owns a part of a larger state is a program over that part.  `embed` makes it a
program of the larger one, whose callbacks are among the callbacks of the whole, and
`wp_embed` takes its specification along.
-/

namespace ZephyrCcsds.Callback

/-- A part `T` of a state `S`.  What the whole does not show of a part is taken from an older one. -/
structure Part (S T : Type) where
  view : S → T → T
  store : T → S → S
  view_store : ∀ t s, view (store t s) t = t
  store_store : ∀ t t' s, store t (store t' s) = store t s

variable {Op Op' : Type} {Res : Op → Type} {S T ε ε' α τ τ' : Type}

def Act.embed (part : Part S T) (op : Op' → Op) :
    Act Op' (fun o => Res (op o)) T α → S → Act Op Res S α
  | .done a t, s => .done a (part.store t s)
  | .call o t resume, s =>
    .call (op o) (part.store t s) fun r s' => (resume r (part.view s' t)).embed part op s'

/-- The program started in the part `t`. -/
def Prog.embed (part : Part S T) (op : Op' → Op) (p : Prog Op' (fun o => Res (op o)) T α) (t : T) :
    Prog Op Res S α :=
  fun s => (p t).embed part op s

/-- An environment that answers the callbacks of the part at once, in the ways that `allowed` has for them. -/
def AnswersWithin (E : Environment Op Res S τ) (op : Op' → Op) (allowed : (o : Op') → Res (op o) → Prop)
    (observe : S → (o : Op') → Res (op o) → τ) : Prop :=
  ∀ s o r u s', E s (op o) r u s' ↔ allowed o r ∧ u = [observe s o r] ∧ s' = s

/-- An environment that answers the callbacks of the part at once. -/
def AnswersAtOnce (E : Environment Op Res S τ) (op : Op' → Op)
    (observe : S → (o : Op') → Res (op o) → τ) : Prop :=
  ∀ s o r u s', E s (op o) r u s' ↔ u = [observe s o r] ∧ s' = s

variable {E : Environment Op Res S τ} {op : Op' → Op} {observe : S → (o : Op') → Res (op o) → τ}
  {allowed : (o : Op') → Res (op o) → Prop} {part : Part S T}

theorem AnswersAtOnce.within (answers : AnswersAtOnce E op observe) :
    AnswersWithin E op (fun _ _ => True) observe := by
  intro s o r u s'
  rw [answers, true_and]

theorem answering_true {observe : S → (op : Op) → Res op → τ} :
    answering (fun _ _ => True) observe = quiet observe := by
  funext s op r u s'
  exact true_and _

theorem Act.post_embed (answers : AnswersWithin E op allowed observe)
    {act : Act Op' (fun o => Res (op o)) T α} {Q : List τ → α → S → Prop} {s : S} :
    (act.embed part op s).Post E Q ↔
      act.Post (answering allowed fun t o r => observe (part.store t s) o r) fun u a t => Q u a (part.store t s) := by
  induction act generalizing Q s with
  | done a t => exact Iff.rfl
  | call o t resume ih =>
    simp only [Act.embed, Act.Post]
    constructor
    · rintro post r u t' ⟨admitted, rfl, rfl⟩
      have step := post r _ _ ((answers _ _ _ _ _).mpr ⟨admitted, rfl, rfl⟩)
      rw [ih, part.view_store] at step
      simpa only [part.store_store] using step
    · intro post r u s₁ step
      obtain ⟨admitted, rfl, rfl⟩ := (answers _ _ _ _ _).mp step
      rw [ih, part.view_store]
      simpa only [part.store_store] using post r _ _ ⟨admitted, rfl, rfl⟩

/-- An observer that sees less leaves the image of the trace. -/
theorem Act.post_answering_map {allowed : (op : Op) → Res op → Prop} {observe : S → (op : Op) → Res op → τ} {f : τ → τ'}
    {act : Act Op Res S α} {Q : List τ' → α → S → Prop} :
    act.Post (answering allowed fun s op r => f (observe s op r)) Q ↔
      act.Post (answering allowed observe) fun t => Q (t.map f) := by
  induction act generalizing Q with
  | done a s => exact Iff.rfl
  | call op s resume ih =>
    simp only [Act.Post]
    constructor
    · rintro post r u s₁ ⟨admitted, rfl, rfl⟩
      exact ih r s₁ |>.mp (post r _ _ ⟨admitted, rfl, rfl⟩)
    · rintro post r u s₁ ⟨admitted, rfl, rfl⟩
      exact ih r s₁ |>.mpr (post r _ _ ⟨admitted, rfl, rfl⟩)

/-- The specification of a program of the part, with the trace that the part's own observer sees. -/
theorem Prog.wp_embed_within {own : T → (o : Op') → Res (op o) → τ'} {f : τ' → τ} {s : S}
    (answers : AnswersWithin E op allowed observe)
    (seen : ∀ t o r, observe (part.store t s) o r = f (own t o r))
    {p : Prog Op' (fun o => Res (op o)) T α} {Q : List τ → α → S → Prop} {t : T} :
    (p.embed part op t).wp E Q s ↔
      p.wp (answering allowed own) (fun u a t' => Q (u.map f) a (part.store t' s)) t := by
  have observers : (fun (t : T) o (r : Res (op o)) => observe (part.store t s) o r) =
      fun t o r => f (own t o r) := by
    funext t o r
    exact seen t o r
  show ((p t).embed part op s).Post E Q ↔ _
  rw [Act.post_embed answers, observers]
  exact Act.post_answering_map

/-- The program of a part moves along what the callbacks and the stores of the part move along. -/
theorem Act.post_embed_along {R : S → List τ → S → Prop} [Composes R]
    (calls : ∀ s o r u s', E s (op o) r u s' → R s u s') (stores : ∀ s t, R s [] (part.store t s))
    (act : Act Op' (fun o => Res (op o)) T α) (s : S) : (act.embed part op s).Post E fun u _ s' => R s u s' := by
  induction act generalizing s with
  | done a t => exact stores s t
  | call o t resume ih =>
    intro r u s₁ step
    have reached : R s u s₁ := Composes.trans (stores s t) (calls _ o r u s₁ step)
    exact Prog.wp_mono (p := fun s' => (resume r (part.view s₁ t)).embed part op s') (ih r _ s₁)
      fun v a s' moved => Composes.trans reached moved

namespace Fallible

def embed (part : Part S T) (op : Op' → Op) (p : Fallible Op' (fun o => Res (op o)) T ε α) (t : T) :
    Fallible Op Res S ε α :=
  p.run.embed part op t

theorem along_embed {R : S → List τ → S → Prop} [Composes R]
    (calls : ∀ s o r u s', E s (op o) r u s' → R s u s') (stores : ∀ s t, R s [] (part.store t s))
    {p : Fallible Op' (fun o => Res (op o)) T ε α} {t : T} :
    (p.embed part op t : Fallible Op Res S ε α).Along E R :=
  fun s => Act.post_embed_along calls stores (p.run t) s

theorem wp_embed_within {own : T → (o : Op') → Res (op o) → τ'} {f : τ' → τ} {s : S}
    (answers : AnswersWithin E op allowed observe)
    (seen : ∀ t o r, observe (part.store t s) o r = f (own t o r))
    {p : Fallible Op' (fun o => Res (op o)) T ε α} {Q : List τ → α → S → Prop}
    {F : List τ → ε → S → Prop} {t : T} :
    (p.embed part op t).wp E Q F s ↔
      p.wp (answering allowed own) (fun u a t' => Q (u.map f) a (part.store t' s))
        (fun u e t' => F (u.map f) e (part.store t' s)) t := by
  have joined : (fun u a t' => either Q F (u.map f) a (part.store t' s)) =
      either (fun u a t' => Q (u.map f) a (part.store t' s))
        fun u e t' => F (u.map f) e (part.store t' s) := by
    funext u r t'
    cases r <;> rfl
  rw [wp, wp, ← joined]
  exact Prog.wp_embed_within answers seen

theorem wp_embed {own : T → (o : Op') → Res (op o) → τ'} {f : τ' → τ} {s : S}
    (answers : AnswersAtOnce E op observe)
    (seen : ∀ t o r, observe (part.store t s) o r = f (own t o r))
    {p : Fallible Op' (fun o => Res (op o)) T ε α} {Q : List τ → α → S → Prop}
    {F : List τ → ε → S → Prop} {t : T} :
    (p.embed part op t).wp E Q F s ↔
      p.wp (quiet own) (fun u a t' => Q (u.map f) a (part.store t' s))
        (fun u e t' => F (u.map f) e (part.store t' s)) t := by
  rw [wp_embed_within answers.within seen, answering_true]

end Fallible

end ZephyrCcsds.Callback
