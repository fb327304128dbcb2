import ZephyrCcsds.Callback.Script
import ZephyrCcsds.Sdls.RoundTrip
import ZephyrCcsds.Tm.Frame

/-! # The kernel and the other peers

The environment of the generator: mutexes and pipes as the kernel documents them, PSA with the
answers that a parameter admits, and callbacks that return at once.  `k_pipe_write` writes as much
as fits; for the rest it waits until its timeout, because nothing is read from a pipe while the
caller holds the lock of the channel.  With `K_FOREVER` such a call does not return.
-/

namespace ZephyrCcsds.Tm

open Callback Tc

variable [Kconfig] [Sdls.Kconfig]

/-- What a trace records of a call: the call and its answer. -/
abbrev Item : Type := (op : TmOp) × TmRes op

/-- The pipe after a write -/
def State.pipePut (s : State) (vcid : VcId) (data : Bytes) : State :=
  s.updateVc vcid fun vc => { vc with pending := vc.pending.put data }

/-- What `k_pipe_write` returns for a number of octets that do or do not fit into the free space -/
def PipeWritten (len free : Nat) (timeout : Timeout) (answer : Except Errno Nat) : Prop :=
  if len ≤ free then answer = .ok len
  else timeout ≠ .forever ∧ answer = if free = 0 then .error .eagain else .ok free

/-- How a call is served, with the state that the caller goes on in -/
def Serves (psa : (op : Sdls.PsaOp) → Sdls.PsaRes op → Prop) (s : State) : (op : TmOp) → TmRes op → State → Prop
  | .lock _ timeout, answer, s' => (timeout = .forever → answer = none) ∧ s' = s
  | .unlock _, _, s' => s' = s
  | .pipeWrite vcid data timeout, answer, s' =>
    PipeWritten data.length (s.vcs vcid).pending.free timeout answer ∧ s' = s.pipePut vcid data
  | .psa op, answer, s' => psa op answer ∧ s' = s
  | .clcw, _, s' => s' = s
  | .route .., _, s' => s' = s

def kernel (psa : (op : Sdls.PsaOp) → Sdls.PsaRes op → Prop) : Environment TmOp TmRes State Item :=
  fun s op answer t s' => Serves psa s op answer s' ∧ t = [⟨op, answer⟩]

/-- The environment in which PSA answers in any way -/
abbrev anyKernel : Environment TmOp TmRes State Item := kernel fun _ _ => True

variable {psa : (op : Sdls.PsaOp) → Sdls.PsaRes op → Prop} {F : List Item → Failure → State → Prop} {s : State}

instance (len free : Nat) (timeout : Timeout) (answer : Except Errno Nat) :
    Decidable (PipeWritten len free timeout answer) :=
  inferInstanceAs (Decidable (ite _ _ _))

/-- The state after a call that is served with an answer; PSA is not called. -/
def serve (s : State) : (op : TmOp) → TmRes op → Option State
  | .lock _ timeout, answer => if timeout = .forever → answer = none then some s else none
  | .unlock _, _ => some s
  | .pipeWrite vcid data timeout, answer =>
    if PipeWritten data.length (s.vcs vcid).pending.free timeout answer then some (s.pipePut vcid data) else none
  | .psa _, _ => none
  | .clcw, _ => some s
  | .route .., _ => some s

theorem kernel_of_serve {op : TmOp} {answer : TmRes op} {s' : State} (served : serve s op answer = some s') :
    kernel psa s op answer [⟨op, answer⟩] s' := by
  refine ⟨?_, rfl⟩
  cases op with
  | lock vcid timeout =>
    simp only [serve] at served
    split_ifs at served with available
    cases served
    exact ⟨available, rfl⟩
  | unlock vcid =>
    cases served
    rfl
  | pipeWrite vcid data timeout =>
    simp only [serve] at served
    split_ifs at served with written
    cases served
    exact ⟨written, rfl⟩
  | psa op => cases served
  | clcw =>
    cases served
    rfl
  | route fn vcid frame =>
    cases served
    rfl

/-- A script without PSA that can be served is a run. -/
theorem runs_of_serve {α : Type} {p : TmM α} {s' : State} {script : List Item} {result : Except Failure α}
    (played : (p.run s).enact serve script = some (result, s')) : p.run.Runs (kernel psa) s script result s' :=
  Act.runs_of_enact (fun _ _ _ _ => kernel_of_serve) played

/-- The same with a PSA that encrypts by a scheme -/
def serveSecured {K : Type} (scheme : Sdls.Aead K) (stored : Sdls.PsaKeyId → K) (s : State) :
    (op : TmOp) → TmRes op → Option State
  | .psa (.aeadEncrypt key nonce aad plaintext), answer =>
    if answer = (.success, scheme.encrypt (stored key) nonce aad plaintext) then some s else none
  | op, answer => serve s op answer

theorem runs_of_serveSecured {K α : Type} {scheme : Sdls.Aead K} {stored : Sdls.PsaKeyId → K} {p : TmM α} {s' : State}
    {script : List Item} {result : Except Failure α}
    (encrypts : ∀ key nonce aad plaintext,
      psa (.aeadEncrypt key nonce aad plaintext) (.success, scheme.encrypt (stored key) nonce aad plaintext))
    (played : (p.run s).enact (serveSecured scheme stored) script = some (result, s')) :
    p.run.Runs (kernel psa) s script result s' := by
  apply Act.runs_of_enact _ played
  intro s op answer s' served
  cases op with
  | psa op =>
    cases op with
    | aeadEncrypt key nonce aad plaintext =>
      simp only [serveSecured] at served
      split_ifs at served with encrypted
      subst encrypted
      cases served
      exact ⟨⟨encrypts key nonce aad plaintext, rfl⟩, rfl⟩
    | _ => exact kernel_of_serve served
  | _ => exact kernel_of_serve served

/-! ## Rules for the calls -/

theorem kernel_psa : AnswersWithin (kernel psa) TmOp.psa psa fun _ o r => (⟨.psa o, r⟩ : Item) := by
  intro s o r u s'
  show (psa o r ∧ s' = s) ∧ u = _ ↔ _
  tauto

@[simp] theorem wp_lockForever {vcid : VcId} {Q : List Item → Unit → State → Prop} :
    (lockForever vcid).wp (kernel psa) Q F s ↔ Q [⟨.lock vcid .forever, none⟩] () s := by
  rw [lockForever, Fallible.wp_bind, Fallible.wp_call]
  constructor
  · intro post
    exact post none _ s ⟨⟨fun _ => rfl, rfl⟩, rfl⟩
  · intro post answer t s' served
    obtain ⟨⟨available, same⟩, traced⟩ := served
    obtain rfl := available rfl
    subst same traced
    exact post

@[simp] theorem wp_unlock {vcid : VcId} {Q : List Item → Unit → State → Prop} :
    (unlock vcid).wp (kernel psa) Q F s ↔ Q [⟨.unlock vcid, ()⟩] () s := by
  rw [unlock, Fallible.wp_bind, Fallible.wp_call]
  constructor
  · intro post
    exact post () _ s ⟨rfl, rfl⟩
  · intro post answer t s' served
    obtain ⟨same, traced⟩ := served
    subst same traced
    exact post

theorem wp_clcw {Q : List Item → TmRes .clcw → State → Prop} :
    (Fallible.call TmOp.clcw).wp (kernel psa) Q F s ↔ ∀ answer, Q [⟨.clcw, answer⟩] answer s := by
  rw [Fallible.wp_call]
  constructor
  · intro post answer
    exact post answer _ s ⟨rfl, rfl⟩
  · intro post answer t s' served
    obtain ⟨same, traced⟩ := served
    subst same traced
    exact post answer

theorem wp_route {fn : RouteFn} {vcid : VcId} {frame : Bytes}
    {Q : List Item → TmRes (.route fn vcid frame) → State → Prop} :
    (Fallible.call (TmOp.route fn vcid frame)).wp (kernel psa) Q F s ↔
      ∀ answer, Q [⟨.route fn vcid frame, answer⟩] answer s := by
  rw [Fallible.wp_call]
  constructor
  · intro post answer
    exact post answer _ s ⟨rfl, rfl⟩
  · intro post answer t s' served
    obtain ⟨same, traced⟩ := served
    subst same traced
    exact post answer

theorem wp_lock {vcid : VcId} {timeout : Timeout}
    {Q : List Item → TmRes (.lock vcid timeout) → State → Prop} :
    (Fallible.call (TmOp.lock vcid timeout)).wp (kernel psa) Q F s ↔
      ∀ answer, (timeout = .forever → answer = none) → Q [⟨.lock vcid timeout, answer⟩] answer s := by
  rw [Fallible.wp_call]
  constructor
  · intro post answer available
    exact post answer _ s ⟨⟨available, rfl⟩, rfl⟩
  · intro post answer t s' served
    obtain ⟨⟨available, same⟩, traced⟩ := served
    subst same traced
    exact post answer available

theorem wp_pipeWrite {vcid : VcId} {data : Bytes} {timeout : Timeout}
    {Q : List Item → TmRes (.pipeWrite vcid data timeout) → State → Prop} :
    (Fallible.call (TmOp.pipeWrite vcid data timeout)).wp (kernel psa) Q F s ↔
      ∀ answer, PipeWritten data.length (s.vcs vcid).pending.free timeout answer →
        Q [⟨.pipeWrite vcid data timeout, answer⟩] answer (s.pipePut vcid data) := by
  rw [Fallible.wp_call]
  constructor
  · intro post answer written
    exact post answer _ _ ⟨⟨written, rfl⟩, rfl⟩
  · intro post answer t s' served
    obtain ⟨⟨written, same⟩, traced⟩ := served
    subst same traced
    exact post answer written

/-- The specification of a call of SDLS, with the frame as output buffer -/
theorem wp_embedSdls {ε α : Type} {p : Fallible Sdls.PsaOp Sdls.PsaRes Sdls.State ε α}
    {Q : List Item → α → State → Prop} {F : List Item → ε → State → Prop} {st : Sdls.State} :
    (p.embed sdlsPart TmOp.psa st : Fallible TmOp TmRes State ε α).wp (kernel psa) Q F s ↔
      p.wp (answering psa fun st o r => (⟨st.ctx, o, r⟩ : Sdls.Item))
        (fun u a st' => Q (u.map fun item => ⟨.psa item.op, item.result⟩) a (sdlsPart.store st' s))
        (fun u e st' => F (u.map fun item => ⟨.psa item.op, item.result⟩) e (sdlsPart.store st' s)) st :=
  Fallible.wp_embed_within kernel_psa fun _ _ _ => rfl

/-! ## Rules for the parts of a cycle -/

theorem wp_routeFrameTo {vcid : VcId} {frame : Bytes} {bits : List (Fin tmRouteCount)}
    {Q : List Item → Unit → State → Prop} (post : ∀ t, Q t () s) :
    (routeFrameTo vcid frame bits).wp (kernel psa) Q F s := by
  induction bits generalizing Q F with
  | nil => exact post []
  | cons bit bits ih =>
    simp only [routeFrameTo, Fallible.wp_bind, Fallible.wp_read]
    cases s.routes bit with
    | none => exact ih fun t => post _
    | some fn =>
      simp only [Fallible.wp_bind]
      rw [wp_route]
      intro answer
      exact ih fun t => post _

/-- Routing leaves the state alone. -/
theorem wp_routeFrame {vcid : VcId} {frame : Bytes} {Q : List Item → Unit → State → Prop} (post : ∀ t, Q t () s) :
    (routeFrame vcid frame).wp (kernel psa) Q F s := by
  simp only [routeFrame, Fallible.wp_bind, Fallible.wp_read]
  exact wp_routeFrameTo fun t => post _

/-- A channel with something to send -/
def Vc.Active (vc : Vc) : Prop := 0 < vc.pendingLen ∨ 0 < vc.packetRem

/-- The selection does not change the state, and finds the first active channel. -/
theorem wp_selectActiveVc {vcids : List VcId} {Q : List Item → Option VcId → State → Prop}
    (found : ∀ t vcid, vcid ∈ vcids → (s.vcs vcid).Active → Q t (some vcid) s)
    (idle : ∀ t, (∀ vcid ∈ vcids, ¬ (s.vcs vcid).Active) → Q t none s) :
    (selectActiveVc vcids).wp (kernel psa) Q F s := by
  induction vcids generalizing Q F with
  | nil => exact idle [] fun _ listed => absurd listed (List.not_mem_nil)
  | cons vcid vcids ih =>
    simp only [selectActiveVc, vcHasPendingBytes, Fallible.wp_bind, wp_lockForever, Fallible.wp_read, wp_unlock,
      Fallible.wp_pure, Fallible.wp_ite, decide_eq_true_eq]
    constructor
    · intro pending
      exact found _ vcid (List.mem_cons_self ..) pending
    · intro nothing
      apply ih
      · intro t other listed active
        exact found _ other (List.mem_cons_of_mem _ listed) active
      · intro t none
        apply idle
        intro other listed
        rcases List.mem_cons.mp listed with same | behind
        · rw [same]
          exact nothing
        · exact none other behind

end ZephyrCcsds.Tm
