import ZephyrCcsds.Callback.Protocol
import ZephyrCcsds.Runs
import ZephyrCcsds.Tm.Admission
import ZephyrCcsds.Tm.Draining

/-! # A writer and the generator

One thread that admits packets with `K_FOREVER` and the work item of the generator, which take
turns at the calls of the kernel.  The writer keeps the lock of a channel while it waits for space
in the pipe, and only the generator, which takes the same lock, makes space.

* `System`, `System.Step` — the two parties with the mutexes and the pipes between them.
* `generatorRules`, `writerRules` — what each party does with a pipe, as a protocol.
* `no_deadlock_of_fitting` — while every packet fits when the writer obtains the lock, the writer
  never waits for space.
-/

namespace ZephyrCcsds.Tm

open Callback Tc

variable [Kconfig] [Sdls.Kconfig]

/-! ## The system -/

inductive Party where
  | writer
  | generator
  deriving DecidableEq

/-- Both parties stand at a call, or are done.  `packet` is the packet that the writer admits, and `written` the
number of octets of a `k_pipe_write` in progress that are in the pipe. -/
structure System where
  state : State
  owner : VcId → Option Party
  packet : Bytes
  written : Nat
  writer : Act TmOp TmRes State (Except Failure Unit)
  generator : Act TmOp TmRes State (Except Failure Cycle)

/-- The writer goes on. -/
def System.writerAt (sys : System) (act : Act TmOp TmRes State (Except Failure Unit)) : System :=
  { sys with state := act.state, written := 0, writer := act }

/-- The generator goes on. -/
def System.generatorAt (sys : System) (act : Act TmOp TmRes State (Except Failure Cycle)) : System :=
  { sys with state := act.state, generator := act }

/-- `k_mutex_lock` of a mutex that is free -/
def System.acquire (sys : System) (party : Party) (vcid : VcId) : System :=
  { sys with owner := Function.update sys.owner vcid (some party) }

/-- `k_mutex_unlock`, which refuses a caller that is not the owner -/
def System.release (sys : System) (party : Party) (vcid : VcId) : System :=
  if sys.owner vcid = some party then { sys with owner := Function.update sys.owner vcid none } else sys

inductive Move where
  | call (vcid : Nat) (packet : Bytes)
  | writer
  | cycle
  | generator

/-- The calls that return at once and leave the pipes alone -/
def TmOp.Immediate : TmOp → Prop
  | .psa _ => True
  | .clcw => True
  | .route .. => True
  | _ => False

/-- One party goes on to its next call. -/
inductive System.Step (sys : System) : Move → System → Prop where
  | call {vcid : Nat} {packet : Bytes} {result : Except Failure Unit} {s : State} (idle : sys.writer = .done result s) :
      Step sys (.call vcid packet)
        ({ sys with packet }.writerAt ((frameAdd vcid packet .forever).run sys.state))
  | writerLock {vcid : VcId} {timeout : Timeout} {s : State}
      {resume : Option Errno → State → Act TmOp TmRes State (Except Failure Unit)}
      (waits : sys.writer = .call (.lock vcid timeout) s resume) (free : sys.owner vcid = none) :
      Step sys .writer ((sys.acquire .writer vcid).writerAt (resume none sys.state))
  | writerUnlock {vcid : VcId} {s : State} {resume : Unit → State → Act TmOp TmRes State (Except Failure Unit)}
      (waits : sys.writer = .call (.unlock vcid) s resume) :
      Step sys .writer ((sys.release .writer vcid).writerAt (resume () sys.state))
  /-- The rest of the octets fits. -/
  | writerPut {vcid : VcId} {data : Bytes} {timeout : Timeout} {s : State}
      {resume : Except Errno Nat → State → Act TmOp TmRes State (Except Failure Unit)}
      (waits : sys.writer = .call (.pipeWrite vcid data timeout) s resume)
      (fits : data.length - sys.written ≤ (sys.state.vcs vcid).pending.free) :
      Step sys .writer
        (sys.writerAt (resume (.ok data.length) (sys.state.pipePut vcid (data.drop sys.written))))
  /-- The pipe is filled, and the writer waits for more space. -/
  | writerFill {vcid : VcId} {data : Bytes} {timeout : Timeout} {s : State}
      {resume : Except Errno Nat → State → Act TmOp TmRes State (Except Failure Unit)}
      (waits : sys.writer = .call (.pipeWrite vcid data timeout) s resume)
      (some : 0 < (sys.state.vcs vcid).pending.free)
      (more : (sys.state.vcs vcid).pending.free < data.length - sys.written) :
      Step sys .writer
        { sys with
          state := sys.state.pipePut vcid (data.drop sys.written)
          written := sys.written + (sys.state.vcs vcid).pending.free }
  | cycle {result : Except Failure Cycle} {s : State} (idle : sys.generator = .done result s) :
      Step sys .cycle (sys.generatorAt (generatorCycle.run sys.state))
  | generatorLock {vcid : VcId} {timeout : Timeout} {s : State}
      {resume : Option Errno → State → Act TmOp TmRes State (Except Failure Cycle)}
      (waits : sys.generator = .call (.lock vcid timeout) s resume) (free : sys.owner vcid = none) :
      Step sys .generator ((sys.acquire .generator vcid).generatorAt (resume none sys.state))
  | generatorUnlock {vcid : VcId} {s : State} {resume : Unit → State → Act TmOp TmRes State (Except Failure Cycle)}
      (waits : sys.generator = .call (.unlock vcid) s resume) :
      Step sys .generator ((sys.release .generator vcid).generatorAt (resume () sys.state))
  | generatorAsk {op : TmOp} {s : State} {resume : TmRes op → State → Act TmOp TmRes State (Except Failure Cycle)}
      (immediate : op.Immediate) (waits : sys.generator = .call op s resume) (answer : TmRes op) :
      Step sys .generator (sys.generatorAt (resume answer sys.state))

/-- The writer waits for space in a full pipe. -/
def System.WriterWaits (sys : System) : Prop :=
  ∃ vcid data timeout s resume, sys.writer = .call (.pipeWrite vcid data timeout) s resume ∧
    (sys.state.vcs vcid).pending.free = 0 ∧ sys.written < data.length

/-- The generator waits for a lock that the writer holds. -/
def System.GeneratorWaits (sys : System) : Prop :=
  ∃ vcid timeout s resume, sys.generator = .call (.lock vcid timeout) s resume ∧ sys.owner vcid = some .writer

/-- The next state of the system, where nobody else is asked -/
def System.next (sys : System) : Move → Option System
  | .call vcid packet =>
    match sys.writer with
    | .done _ _ => some ({ sys with packet }.writerAt ((frameAdd vcid packet .forever).run sys.state))
    | .call _ _ _ => none
  | .writer =>
    match sys.writer with
    | .call (.lock vcid _) _ resume =>
      if sys.owner vcid = none then some ((sys.acquire .writer vcid).writerAt (resume none sys.state)) else none
    | .call (.unlock vcid) _ resume => some ((sys.release .writer vcid).writerAt (resume () sys.state))
    | .call (.pipeWrite vcid data _) _ resume =>
      let free := (sys.state.vcs vcid).pending.free
      if data.length - sys.written ≤ free then
        some (sys.writerAt (resume (.ok data.length) (sys.state.pipePut vcid (data.drop sys.written))))
      else if 0 < free then
        some { sys with
          state := sys.state.pipePut vcid (data.drop sys.written)
          written := sys.written + free }
      else
        none
    | _ => none
  | .cycle =>
    match sys.generator with
    | .done _ _ => some (sys.generatorAt (generatorCycle.run sys.state))
    | .call _ _ _ => none
  | .generator =>
    match sys.generator with
    | .call (.lock vcid _) _ resume =>
      if sys.owner vcid = none then some ((sys.acquire .generator vcid).generatorAt (resume none sys.state)) else none
    | .call (.unlock vcid) _ resume => some ((sys.release .generator vcid).generatorAt (resume () sys.state))
    | _ => none

theorem System.step_of_next {sys sys' : System} {move : Move} (next : sys.next move = some sys') :
    sys.Step move sys' := by
  cases move with
  | call vcid packet =>
    simp only [System.next] at next
    split at next
    · rename_i result s idle
      cases next
      exact .call idle
    · cases next
  | writer =>
    simp only [System.next] at next
    split at next
    · rename_i vcid timeout s resume waits
      split_ifs at next with free
      cases next
      exact .writerLock waits free
    · rename_i vcid s resume waits
      cases next
      exact .writerUnlock waits
    · rename_i vcid data timeout s resume waits
      split_ifs at next with fits some
      · cases next
        exact .writerPut waits fits
      · cases next
        exact .writerFill waits some (by omega)
    · cases next
  | cycle =>
    simp only [System.next] at next
    split at next
    · rename_i result s idle
      cases next
      exact .cycle idle
    · cases next
  | generator =>
    simp only [System.next] at next
    split at next
    · rename_i vcid timeout s resume waits
      split_ifs at next with free
      cases next
      exact .generatorLock waits free
    · rename_i vcid s resume waits
      cases next
      exact .generatorUnlock waits
    · cases next

/-- Both parties wait for each other. -/
def System.deadlocked (sys : System) : Bool :=
  match sys.writer, sys.generator with
  | .call (.pipeWrite vcid data _) _ _, .call (.lock vc _) _ _ =>
    decide ((sys.state.vcs vcid).pending.free = 0 ∧ sys.written < data.length ∧ sys.owner vc = some .writer)
  | _, _ => false

theorem System.waits_of_deadlocked {sys : System} (deadlocked : sys.deadlocked = true) :
    sys.WriterWaits ∧ sys.GeneratorWaits := by
  unfold System.deadlocked at deadlocked
  split at deadlocked
  · rename_i vcid data timeout s resume vc timeout' s' resume' writer generator
    obtain ⟨full, more, owned⟩ := of_decide_eq_true deadlocked
    exact ⟨⟨vcid, data, timeout, s, resume, writer, full, more⟩, ⟨vc, timeout', s', resume', generator, owned⟩⟩
  · cases deadlocked

/-- No call is in progress. -/
structure System.Resting (sys : System) : Prop where
  owner : ∀ vcid, sys.owner vcid = none
  written : sys.written = 0
  writer : ∃ result s, sys.writer = .done result s
  generator : ∃ result s, sys.generator = .done result s

/-- If the writer obtains the lock now, its packet fits into the pipe. -/
def System.Fits (sys : System) : Move → Prop
  | .writer => ∀ vcid timeout s resume, sys.writer = .call (.lock vcid timeout) s resume →
      sys.packet.length ≤ (sys.state.vcs vcid).pending.free
  | _ => True

/-! ## What the generator does with the pipes -/

/-- The lock that the generator holds, and the state in which its last call returned -/
structure Holding where
  held : Option VcId
  entry : State

/-- The pipes of the channels that are not held are as they were. -/
def Holding.Untouched (h : Holding) (s : State) : Prop :=
  ∀ vcid, h.held ≠ some vcid → (s.vcs vcid).pending = (h.entry.vcs vcid).pending

/-- The lock that is held after a call -/
def TmOp.holds (op : TmOp) (held : Option VcId) : Option VcId :=
  match op with
  | .lock vcid _ => some vcid
  | .unlock _ => none
  | _ => held

/-- The generator takes octets only from the channel that it holds. -/
def generatorRules : Protocol TmOp TmRes State Holding where
  allowed h s _ := h.Untouched s
  answered h op _ s' h' := h' = { held := op.holds h.held, entry := s' }

/-- A part of a cycle that takes no lock and returns none -/
def Keeps {α : Type} (p : TmM α) : Prop :=
  ∀ (h : Holding) (s : State), h.Untouched s →
    p.Obeys generatorRules (fun h' _ s' => h'.held = h.held ∧ h'.Untouched s')
      (fun h' _ s' => h'.held = h.held ∧ h'.Untouched s') h s

theorem Holding.Untouched.refl (held : Option VcId) (s : State) : Holding.Untouched { held, entry := s } s :=
  fun _ _ => rfl

theorem Holding.Untouched.of_pending {h : Holding} {s s' : State} (untouched : h.Untouched s)
    (same : ∀ vcid, (s'.vcs vcid).pending = (s.vcs vcid).pending) : h.Untouched s' :=
  fun vcid other => (same vcid).trans (untouched vcid other)

section Rules

variable {α β : Type} {p : TmM α}

theorem keeps_pure {a : α} : Keeps (pure a : TmM α) := fun _ _ untouched => ⟨rfl, untouched⟩

theorem keeps_ofExcept {r : Except Failure α} : Keeps (Fallible.ofExcept r : TmM α) := by
  intro h s untouched
  rw [Fallible.obeys_ofExcept]
  exact ⟨fun _ _ => ⟨rfl, untouched⟩, fun _ _ => ⟨rfl, untouched⟩⟩

theorem keeps_modify {f : State → State} (same : ∀ s vcid, ((f s).vcs vcid).pending = (s.vcs vcid).pending) :
    Keeps (Fallible.modify f : TmM Unit) :=
  fun _ s untouched => ⟨rfl, untouched.of_pending (same s)⟩

theorem keeps_bind {f : α → TmM β} (first : Keeps p) (rest : ∀ a, Keeps (f a)) : Keeps (p >>= f) := by
  intro h s untouched
  rw [Fallible.obeys_bind]
  apply Fallible.Obeys.mono (first h s untouched)
  · intro h' a s' moved
    rw [← moved.1]
    exact rest a h' s' moved.2
  · intro h' e s' moved
    exact moved

theorem keeps_read {f : State → TmM β} (rest : ∀ s, Keeps (f s)) : Keeps (Fallible.read >>= f) := by
  intro h s untouched
  rw [Fallible.obeys_bind, Fallible.obeys_read]
  exact rest s h s untouched

theorem keeps_attempt {ε : Type} {p : Fallible TmOp TmRes State ε α}
    (keeps : ∀ (h : Holding) (s : State), h.Untouched s →
      p.Obeys generatorRules (fun h' _ s' => h'.held = h.held ∧ h'.Untouched s')
        (fun h' _ s' => h'.held = h.held ∧ h'.Untouched s') h s) : Keeps (Fallible.attempt p : TmM (Except ε α)) := by
  intro h s untouched
  rw [Fallible.obeys_attempt]
  exact keeps h s untouched

theorem keeps_ite {c : Prop} [Decidable c] {q : TmM α} (yes : Keeps p) (no : Keeps q) : Keeps (if c then p else q) := by
  split
  · exact yes
  · exact no

theorem keeps_call {op : TmOp} (neutral : ∀ held, op.holds held = held) :
    Keeps (Fallible.call op : TmM (TmRes op)) := by
  intro h s untouched
  refine ⟨untouched, fun r s' h' answered => ?_⟩
  have answered : h' = { held := op.holds h.held, entry := s' } := answered
  subst answered
  exact ⟨neutral h.held, .refl _ s'⟩

end Rules

section Generator

variable {vcid : VcId} {frame : Bytes}

theorem applySecurity_keeps : Keeps (applySecurity vcid frame) := by
  refine keeps_read fun s => ?_
  cases s.security vcid with
  | none => exact keeps_pure
  | some pair =>
    obtain ⟨ctx, slot⟩ := pair
    refine keeps_bind (keeps_attempt fun h s untouched => ?_) fun _ => keeps_ofExcept
    -- PSA is asked without a lock, and SDLS stores nothing but its context.
    apply Fallible.obeys_embed (J := fun h' s' => h'.held = h.held ∧ h'.Untouched s')
    · intro h' s' t o holds
      exact holds.2.of_pending fun _ => rfl
    · intro h₁ s₁ o r s₂ h₂ holds answered
      have answered : h₂ = { held := h₁.held, entry := s₂ } := answered
      subst answered
      exact ⟨holds.1, .refl _ s₂⟩
    · intro h' s' t a holds
      exact ⟨holds.1, holds.2.of_pending fun _ => rfl⟩
    · intro h' s' t e holds
      exact ⟨holds.1, holds.2.of_pending fun _ => rfl⟩
    · exact ⟨rfl, untouched⟩

theorem appendOcf_keeps {ocfOffset : Nat} : Keeps (appendOcf ocfOffset frame) := by
  refine keeps_read fun s => ?_
  cases s.fsrDue with
  | some fsr => exact keeps_pure
  | none =>
    apply keeps_ite
    · refine keeps_bind (keeps_call fun _ => rfl) fun answer => ?_
      exact keeps_ite keeps_pure keeps_pure
    · exact keeps_pure

theorem finishFrame_keeps : Keeps (finishFrame vcid frame) := by
  refine keeps_read fun s => keeps_bind applySecurity_keeps fun _ => keeps_bind appendOcf_keeps fun _ => ?_
  refine keeps_bind (keeps_modify fun s other => ?_) fun _ => keeps_pure
  exact (s.completeOcf.incrementFrameCounters_sameQueues vcid other).pending

theorem routeFrameTo_keeps {bits : List (Fin tmRouteCount)} : Keeps (routeFrameTo vcid frame bits) := by
  induction bits with
  | nil => exact keeps_pure
  | cons bit bits ih =>
    refine keeps_read fun s => ?_
    cases s.routes bit with
    | none => exact ih
    | some fn => exact keeps_bind (keeps_call fun _ => rfl) fun _ => ih

theorem emitFrame_keeps {active : Bool} {ret : Except Failure Bytes} : Keeps (emitFrame vcid active ret) := by
  cases ret with
  | error e => exact keeps_pure
  | ok frame =>
    refine keeps_bind (keeps_read fun s => routeFrameTo_keeps) fun _ => ?_
    exact keeps_pure

/-- The frame is filled from the channel that is held. -/
theorem formatPacketFrame_obeys {h : Holding} {s : State} (held : h.held = some vcid) (untouched : h.Untouched s) :
    (formatPacketFrame vcid).Obeys generatorRules (fun h' _ s' => h'.held = h.held ∧ h'.Untouched s')
      (fun h' _ s' => h'.held = h.held ∧ h'.Untouched s') h s := by
  have filled : h.Untouched (s.filled vcid) := by
    intro other apart
    rw [held] at apart
    have different : other ≠ vcid := fun same => apart (by rw [same])
    rw [State.filled, State.updateVc_other _ _ _ different]
    exact untouched other (by rwa [held])
  simp only [formatPacketFrame, Fallible.obeys_bind, Fallible.obeys_read, Fallible.obeys_modify, Fallible.obeys_ofExcept]
  exact ⟨fun _ _ => finishFrame_keeps h (s.filled vcid) filled, fun _ _ => ⟨trivial, filled⟩⟩

variable {h : Holding} {s : State}

theorem lockForever_obeys {Q : Holding → Unit → State → Prop} {F : Holding → Failure → State → Prop}
    (untouched : h.Untouched s) (post : ∀ s', Q { held := some vcid, entry := s' } () s') :
    (lockForever vcid).Obeys generatorRules Q F h s := by
  refine ⟨untouched, fun r s' h' answered => ?_⟩
  have answered : h' = { held := some vcid, entry := s' } := answered
  subst answered
  exact post s'

theorem unlock_obeys {Q : Holding → Unit → State → Prop} {F : Holding → Failure → State → Prop}
    (untouched : h.Untouched s) (post : ∀ s', Q { held := none, entry := s' } () s') :
    (unlock vcid).Obeys generatorRules Q F h s := by
  refine ⟨untouched, fun r s' h' answered => ?_⟩
  have answered : h' = { held := none, entry := s' } := answered
  subst answered
  exact post s'

/-- The generator holds no lock here, and has not touched a pipe since its last call. -/
def Quiet {α : Type} (h : Holding) (_ : α) (s : State) : Prop := h.held = none ∧ h.Untouched s

theorem buildPacketTransferFrame_obeys (untouched : h.Untouched s) :
    (buildPacketTransferFrame vcid).Obeys generatorRules Quiet Quiet h s := by
  simp only [buildPacketTransferFrame, Fallible.obeys_bind, Fallible.obeys_attempt]
  apply lockForever_obeys untouched
  intro s₁
  apply Fallible.Obeys.mono (formatPacketFrame_obeys rfl (.refl _ s₁))
  · intro h₂ frame s₂ formatted
    apply unlock_obeys formatted.2
    intro s₃
    exact ⟨rfl, .refl _ s₃⟩
  · intro h₂ e s₂ formatted
    apply unlock_obeys formatted.2
    intro s₃
    exact ⟨rfl, .refl _ s₃⟩

theorem selectActiveVc_obeys {vcids : List VcId} (quiet : Quiet h () s) :
    (selectActiveVc vcids).Obeys generatorRules Quiet Quiet h s := by
  induction vcids generalizing h s with
  | nil => exact quiet
  | cons vcid vcids ih =>
    simp only [selectActiveVc, vcHasPendingBytes, Fallible.obeys_bind]
    apply lockForever_obeys quiet.2
    intro s₁
    rw [Fallible.obeys_read]
    apply unlock_obeys (.refl _ s₁)
    intro s₂
    rw [Fallible.obeys_pure, Fallible.obeys_ite]
    exact ⟨fun _ => ⟨rfl, .refl _ s₂⟩, fun _ => ih ⟨rfl, .refl _ s₂⟩⟩

theorem Keeps.quiet {α : Type} {p : TmM α} (keeps : Keeps p) (quiet : Quiet h () s) :
    p.Obeys generatorRules Quiet Quiet h s := by
  apply Fallible.Obeys.mono (keeps h s quiet.2)
  · intro h' a s' moved
    exact ⟨moved.1.trans quiet.1, moved.2⟩
  · intro h' e s' moved
    exact ⟨moved.1.trans quiet.1, moved.2⟩

theorem generatorCycle_obeys (quiet : Quiet h () s) : generatorCycle.Obeys generatorRules Quiet Quiet h s := by
  simp only [generatorCycle, generatorSelectActiveVc, Fallible.obeys_bind]
  apply Fallible.Obeys.mono (selectActiveVc_obeys quiet)
  · intro h₁ selected s₁ found
    cases selected with
    | none =>
      simp only [Fallible.obeys_bind, Fallible.obeys_modify, Fallible.obeys_attempt, buildIdleTransferFrame,
        Fallible.obeys_read]
      have noted : Quiet h₁ () { s₁ with generatorLastCycleActive := false, generatorLastVcid := tmIdleVcId } :=
        ⟨found.1, found.2.of_pending fun _ => rfl⟩
      apply Fallible.Obeys.mono (finishFrame_keeps.quiet noted)
      · intro h₂ frame s₂ built
        exact emitFrame_keeps.quiet built
      · intro h₂ e s₂ failed
        exact emitFrame_keeps.quiet failed
    | some vcid =>
      simp only [Fallible.obeys_bind, Fallible.obeys_modify, Fallible.obeys_attempt]
      apply Fallible.Obeys.mono (buildPacketTransferFrame_obeys (found.2.of_pending fun _ => rfl))
      · intro h₂ frame s₂ built
        exact emitFrame_keeps.quiet built
      · intro h₂ e s₂ failed
        exact emitFrame_keeps.quiet failed
  · intro h₁ e s₁ failed
    exact failed

end Generator

/-! ## What the writer does with the pipe -/

/-- How far a call of the writer has come -/
inductive WriterPhase where
  | calling (packet : Bytes)
  | writing (vcid : VcId) (packet : Bytes) (entry : State)
  | releasing (vcid : VcId)
  | returning

/-- The writer obtains the lock when its packet fits, and then writes all of it at once. -/
def writerRules : Protocol TmOp TmRes State WriterPhase where
  allowed phase s op :=
    match phase with
    | .calling _ => ∃ vcid, op = .lock vcid .forever
    | .writing vcid packet entry => s = entry ∧ op = .pipeWrite vcid packet .forever ∧ packet ≠ []
    | .releasing vcid => op = .unlock vcid
    | .returning => False
  answered phase op answer s phase' :=
    match phase, op, answer with
    | .calling packet, .lock vcid _, answer =>
      answer = none ∧ packet.length ≤ (s.vcs vcid).pending.free ∧ phase' = .writing vcid packet s
    | .writing vcid packet _, .pipeWrite .., answer => answer = .ok packet.length ∧ phase' = .releasing vcid
    | .releasing _, .unlock _, _ => phase' = .returning
    | _, _, _ => False

/-- A call does not end between the lock and the write. -/
def WriterPhase.Ended {α : Type} (phase : WriterPhase) (_ : α) (_ : State) : Prop :=
  ∀ vcid packet entry, phase ≠ .writing vcid packet entry

theorem WriterPhase.ended_returning {α : Type} (result : α) (s : State) : WriterPhase.Ended .returning result s := by
  intro vcid packet entry same
  cases same

section Writer

variable {vcid : VcId} {packet : Bytes} {s : State}

theorem writePacket_obeys {fuel : Nat} (some : packet ≠ []) :
    (writePacket vcid .forever (fuel + 1) packet).Obeys writerRules
      (fun phase _ _ => phase = .releasing vcid) (fun _ _ _ => False) (.writing vcid packet s) s := by
  simp only [writePacket, some, if_false, Fallible.obeys_bind]
  rw [Fallible.obeys_call]
  refine ⟨⟨rfl, rfl, some⟩, fun answer s₁ phase answered => ?_⟩
  obtain ⟨rfl, rfl⟩ := answered
  have nonzero : ¬ packet.length = 0 := by simpa using some
  have finished : packet.drop packet.length = [] := List.drop_length
  simp only [Except.mapError]
  rw [Fallible.obeys_ofExcept_ok]
  simp only [Fallible.obeys_failIf, nonzero, Fallible.obeys_modify, finished]
  refine ⟨fun never => never.elim, fun _ => ?_⟩
  cases fuel with
  | zero => rfl
  | succ fuel => rfl

theorem frameAdd_obeys (vcid : Nat) (packet : Bytes) (s : State) :
    (frameAdd vcid packet .forever).Obeys writerRules WriterPhase.Ended WriterPhase.Ended (.calling packet) s := by
  simp only [frameAdd, Fallible.obeys_bind]
  cases checked : checkPacket vcid packet with
  | error e =>
    simp only [Except.mapError]
    rw [Fallible.obeys_ofExcept_error]
    intro vc packet entry same
    cases same
  | ok vc =>
    simp only [Except.mapError]
    rw [Fallible.obeys_ofExcept_ok, Fallible.obeys_call]
    refine ⟨⟨vc, rfl⟩, fun answer s₁ phase answered => ?_⟩
    obtain ⟨rfl, -, rfl⟩ := answered
    have nonempty := checkPacket_nonempty checked
    have length := List.length_pos_iff.mpr nonempty
    obtain ⟨fuel, fuelled⟩ : ∃ fuel, packet.length = fuel + 1 := ⟨packet.length - 1, by omega⟩
    simp only [Fallible.obeys_bind, Fallible.obeys_attempt, fuelled]
    apply Fallible.Obeys.mono (writePacket_obeys nonempty)
    · rintro _ _ s₂ rfl
      simp only [unlock, Fallible.obeys_bind]
      rw [Fallible.obeys_call]
      refine ⟨rfl, fun answer s₃ phase answered => ?_⟩
      obtain rfl : phase = .returning := answered
      intro vc packet entry same
      cases same
    · intro phase e s₂ never
      exact never.elim

end Writer

/-! ## Both together -/

/-- What the phase of the writer says about the system -/
def WriterPhase.Holds (sys : System) : WriterPhase → Prop
  | .calling packet => packet = sys.packet
  | .writing vcid packet _ =>
    sys.owner vcid = some .writer ∧ packet.length ≤ (sys.state.vcs vcid).pending.free
  | _ => True

/-- Both parties keep to their rules, and no write is in progress. -/
structure System.Orderly (sys : System) : Prop where
  written : sys.written = 0
  writer : ∃ phase : WriterPhase, sys.writer.Obeys writerRules (Fallible.eitherIn WriterPhase.Ended WriterPhase.Ended) phase ∧
    phase.Holds sys
  generator : ∃ held entry, sys.generator.Obeys generatorRules (Fallible.eitherIn Quiet Quiet) { held, entry } ∧
    ∀ vcid, held = some vcid → sys.owner vcid = some .generator

variable {sys sys' : System} {move : Move}

/-- While packets fit, the writer does not wait. -/
theorem System.Orderly.not_waits (orderly : sys.Orderly) : ¬ sys.WriterWaits := by
  rintro ⟨vcid, data, timeout, s, resume, waits, full, -⟩
  obtain ⟨phase, obeys, holds⟩ := orderly.writer
  rw [waits] at obeys
  have allowed := obeys.1
  cases phase with
  | calling packet =>
    obtain ⟨_, other⟩ := allowed
    cases other
  | writing vc packet entry =>
    obtain ⟨-, same, some⟩ := allowed
    cases same
    have length := List.length_pos_iff.mpr some
    have fits := holds.2
    omega
  | releasing vc =>
    have other : TmOp.pipeWrite vcid data timeout = .unlock vc := allowed
    cases other
  | returning => exact allowed.elim

/-- What the generator leaves behind keeps the pipes that it does not hold. -/
theorem untouched_state {act : Act TmOp TmRes State (Except Failure Cycle)} {h : Holding}
    (obeys : act.Obeys generatorRules (Fallible.eitherIn Quiet Quiet) h) : h.Untouched act.state := by
  apply Act.Obeys.state obeys
  · intro s op allowed
    exact allowed
  · intro result s ended
    cases result with
    | ok cycle => exact ended.2
    | error e => exact ended.2

/-- The generator does not disturb a writer, which holds its lock. -/
theorem WriterPhase.Holds.generatorAt {phase : WriterPhase} {act : Act TmOp TmRes State (Except Failure Cycle)}
    {held : Option VcId} {owner : VcId → Option Party} (holds : phase.Holds sys)
    (obeys : act.Obeys generatorRules (Fallible.eitherIn Quiet Quiet) { held, entry := sys.state })
    (owned : ∀ vcid, held = some vcid → owner vcid = some .generator)
    (kept : ∀ vcid, sys.owner vcid = some .writer → owner vcid = some .writer) :
    phase.Holds ({ sys with owner }.generatorAt act) := by
  cases phase with
  | calling packet => exact holds
  | writing vcid packet entry =>
    obtain ⟨mine, fits⟩ := holds
    refine ⟨kept vcid mine, ?_⟩
    have other : held ≠ some vcid := by
      intro same
      have theirs := owned vcid same
      rw [kept vcid mine] at theirs
      cases theirs
    have same : (act.state.vcs vcid).pending = (sys.state.vcs vcid).pending := untouched_state obeys vcid other
    show packet.length ≤ (act.state.vcs vcid).pending.free
    rw [same]
    exact fits
  | releasing vcid => trivial
  | returning => trivial

theorem System.Orderly.generatorAt {act : Act TmOp TmRes State (Except Failure Cycle)} {held : Option VcId}
    {owner : VcId → Option Party} (orderly : sys.Orderly)
    (obeys : act.Obeys generatorRules (Fallible.eitherIn Quiet Quiet) { held, entry := sys.state })
    (owned : ∀ vcid, held = some vcid → owner vcid = some .generator)
    (kept : ∀ vcid, sys.owner vcid = some .writer → owner vcid = some .writer) :
    ({ sys with owner }.generatorAt act).Orderly := by
  obtain ⟨written, ⟨phase, wobeys, holds⟩, -⟩ := orderly
  exact ⟨written, ⟨phase, wobeys, holds.generatorAt obeys owned kept⟩, ⟨held, sys.state, obeys, owned⟩⟩

theorem System.Orderly.step (orderly : sys.Orderly) (fits : sys.Fits move) (step : sys.Step move sys') :
    sys'.Orderly := by
  obtain ⟨written, ⟨phase, wobeys, holds⟩, ⟨held, entry, gobeys, owned⟩⟩ := orderly
  have before : sys.Orderly := ⟨written, ⟨phase, wobeys, holds⟩, ⟨held, entry, gobeys, owned⟩⟩
  cases step with
  | @call vcid packet result s idle =>
    exact ⟨rfl, ⟨.calling packet, frameAdd_obeys vcid packet sys.state, rfl⟩, ⟨held, entry, gobeys, owned⟩⟩
  | @writerLock vcid timeout s resume waits free =>
    rw [waits] at wobeys
    obtain ⟨allowed, goes⟩ := wobeys
    have notHeld : ∀ vc, held = some vc → vc ≠ vcid := by
      intro vc same equal
      have theirs := owned vc same
      rw [equal, free] at theirs
      cases theirs
    have owned' : ∀ vc, held = some vc → (sys.acquire .writer vcid).owner vc = some .generator := by
      intro vc same
      show Function.update sys.owner vcid _ vc = _
      rw [Function.update_of_ne (notHeld vc same)]
      exact owned vc same
    cases phase with
    | calling packet =>
      have packet_eq : packet = sys.packet := holds
      have room := fits vcid timeout s resume waits
      rw [← packet_eq] at room
      have obeys := goes none sys.state (.writing vcid packet sys.state) ⟨rfl, room, rfl⟩
      -- The pipe is as it was when the lock was obtained.
      have same : (resume none sys.state).state = sys.state := by
        apply Act.Obeys.state (P := fun t => t = sys.state) obeys
        · intro s op allowed
          exact allowed.1
        · intro result s ended
          cases result with
          | ok _ => exact absurd rfl (ended vcid packet sys.state)
          | error _ => exact absurd rfl (ended vcid packet sys.state)
      refine ⟨rfl, ⟨_, obeys, Function.update_self .., ?_⟩, ⟨held, entry, gobeys, owned'⟩⟩
      show packet.length ≤ ((resume none sys.state).state.vcs vcid).pending.free
      rw [same]
      exact room
    | writing vc packet entry =>
      obtain ⟨-, other, -⟩ := allowed
      cases other
    | releasing vc =>
      have other : TmOp.lock vcid timeout = .unlock vc := allowed
      cases other
    | returning => exact allowed.elim
  | @writerUnlock vcid s resume waits =>
    rw [waits] at wobeys
    obtain ⟨allowed, goes⟩ := wobeys
    have owned' : ∀ vc, held = some vc → (sys.release .writer vcid).owner vc = some .generator := by
      intro vc same
      have theirs := owned vc same
      unfold System.release
      split
      · rename_i mine
        have different : vc ≠ vcid := by
          rintro rfl
          rw [mine] at theirs
          cases theirs
        show Function.update sys.owner vcid none vc = _
        rw [Function.update_of_ne different]
        exact theirs
      · exact theirs
    cases phase with
    | calling packet =>
      obtain ⟨_, other⟩ := allowed
      cases other
    | writing vc packet entry =>
      obtain ⟨-, other, -⟩ := allowed
      cases other
    | releasing vc =>
      have obeys := goes () sys.state .returning rfl
      refine ⟨rfl, ⟨.returning, obeys, trivial⟩, ⟨held, entry, ?_, owned'⟩⟩
      unfold System.release
      split
      · exact gobeys
      · exact gobeys
    | returning => exact allowed.elim
  | @writerPut vcid data timeout s resume waits room =>
    rw [waits] at wobeys
    obtain ⟨allowed, goes⟩ := wobeys
    cases phase with
    | calling packet =>
      obtain ⟨_, other⟩ := allowed
      cases other
    | writing vc packet entry' =>
      obtain ⟨-, same, -⟩ := allowed
      cases same
      have obeys := goes (.ok data.length) (sys.state.pipePut vcid (data.drop sys.written)) (.releasing vcid)
        ⟨rfl, rfl⟩
      exact ⟨rfl, ⟨.releasing vcid, obeys, trivial⟩, ⟨held, entry, gobeys, owned⟩⟩
    | releasing vc =>
      have other : TmOp.pipeWrite vcid data timeout = .unlock vc := allowed
      cases other
    | returning => exact allowed.elim
  | @writerFill vcid data timeout s resume waits some more =>
    -- The packet fits, so that no write is left in the middle.
    rw [waits] at wobeys
    have allowed := wobeys.1
    cases phase with
    | calling packet =>
      obtain ⟨_, other⟩ := allowed
      cases other
    | writing vc packet entry' =>
      obtain ⟨-, same, -⟩ := allowed
      cases same
      have room := holds.2
      omega
    | releasing vc =>
      have other : TmOp.pipeWrite vcid data timeout = .unlock vc := allowed
      cases other
    | returning => exact allowed.elim
  | @cycle result s idle =>
    exact @System.Orderly.generatorAt _ _ sys _ none sys.owner before (generatorCycle_obeys ⟨rfl, .refl _ _⟩)
      (fun _ never => by cases never) fun _ mine => mine
  | @generatorLock vcid timeout s resume waits free =>
    rw [waits] at gobeys
    apply before.generatorAt (gobeys.2 none sys.state { held := some vcid, entry := sys.state } rfl)
    · rintro _ ⟨⟩
      exact Function.update_self ..
    · intro vc mine
      have different : vc ≠ vcid := by
        rintro rfl
        rw [free] at mine
        cases mine
      rw [Function.update_of_ne different]
      exact mine
  | @generatorUnlock vcid s resume waits =>
    rw [waits] at gobeys
    have obeys := gobeys.2 () sys.state { held := none, entry := sys.state } rfl
    unfold System.release
    split
    · rename_i theirs
      apply before.generatorAt obeys fun _ never => by cases never
      intro vc mine
      have different : vc ≠ vcid := by
        rintro rfl
        rw [theirs] at mine
        cases mine
      rw [Function.update_of_ne different]
      exact mine
    · exact @System.Orderly.generatorAt _ _ sys _ none sys.owner before obeys (fun _ never => by cases never)
        fun _ mine => mine
  | @generatorAsk op s resume immediate waits answer =>
    rw [waits] at gobeys
    have same : op.holds held = held := by
      cases op with
      | lock => exact immediate.elim
      | unlock => exact immediate.elim
      | pipeWrite => rfl
      | psa => rfl
      | clcw => rfl
      | route => rfl
    have obeys := gobeys.2 answer sys.state { held := op.holds held, entry := sys.state } rfl
    rw [same] at obeys
    exact @System.Orderly.generatorAt _ _ sys _ held sys.owner before obeys owned fun _ mine => mine

theorem System.Resting.orderly (resting : sys.Resting) : sys.Orderly := by
  obtain ⟨result, s, writer⟩ := resting.writer
  obtain ⟨result', s', generator⟩ := resting.generator
  refine ⟨resting.written, ⟨.returning, ?_, trivial⟩, ⟨none, s', ?_, fun _ never => by cases never⟩⟩
  · rw [writer]
    cases result with
    | ok result => exact WriterPhase.ended_returning result s
    | error e => exact WriterPhase.ended_returning e s
  · rw [generator]
    cases result' with
    | ok _ => exact ⟨rfl, .refl _ _⟩
    | error _ => exact ⟨rfl, .refl _ _⟩

/-- In a run in which every packet fits when the writer obtains the lock, the two parties never wait for each other. -/
theorem no_deadlock_of_fitting (sys sys' : System) (moves : List Move) (resting : sys.Resting)
    (run : Run (fun sys move sys' => sys.Step move sys' ∧ sys.Fits move) sys moves sys') :
    ¬ (sys'.WriterWaits ∧ sys'.GeneratorWaits) := by
  rintro ⟨waits, -⟩
  have orderly : sys'.Orderly := by
    apply Run.invariant _ resting.orderly run
    intro sys move sys' orderly step
    exact orderly.step step.2 step.1
  exact orderly.not_waits waits

end ZephyrCcsds.Tm

namespace ZephyrCcsds.Tm

open Callback Tc

section Sample

attribute [local instance] sampleKconfig Sdls.defaultKconfig

/-- A system at rest -/
def restingIn (s : State) : System where
  state := s
  owner _ := none
  packet := []
  written := 0
  writer := .done (.ok ()) s
  generator := .done (.ok { active := false, vcid := tmIdleVcId, frame := none }) s

theorem restingIn_resting (s : State) : (restingIn s).Resting :=
  ⟨fun _ => rfl, rfl, ⟨_, _, rfl⟩, ⟨_, _, rfl⟩⟩

/-- The writer admits a packet, and the generator starts a cycle on it. -/
def fittingMoves : List Move := [.call 0 smallPacket, .writer, .writer, .writer, .cycle, .generator]

/-- The next state where the packet fits into every pipe -/
def System.nextFitting (sys : System) (move : Move) : Option System :=
  if ∀ vcid, sys.packet.length ≤ (sys.state.vcs vcid).pending.free then sys.next move else none

theorem fitting_run : ∃ sys', Run (fun sys move sys' => sys.Step move sys' ∧ sys.Fits move)
    (restingIn (init fun _ => none)) fittingMoves sys' := by
  have held : (fittingMoves.foldlM System.nextFitting (restingIn (init fun _ => none))).isSome = true := by
    decide +kernel
  obtain ⟨sys', played⟩ := Option.isSome_iff_exists.mp held
  refine ⟨sys', Run.of_foldlM (fun sys move sys' next => ?_) played⟩
  simp only [System.nextFitting] at next
  split_ifs at next with room
  refine ⟨System.step_of_next next, ?_⟩
  cases move with
  | writer => exact fun vcid _ _ _ _ => room vcid
  | call => trivial
  | cycle => trivial
  | generator => trivial

theorem no_deadlock_of_fitting_sample : ∃ sys', Run (fun sys move sys' => sys.Step move sys' ∧ sys.Fits move)
    (restingIn (init fun _ => none)) fittingMoves sys' ∧ ¬ (sys'.WriterWaits ∧ sys'.GeneratorWaits) := by
  obtain ⟨sys', run⟩ := fitting_run
  exact ⟨sys', run, no_deadlock_of_fitting _ sys' _ (restingIn_resting _) run⟩

/-- Four octets of a packet are written, and then neither party can go on. -/
theorem writer_and_generator_deadlock : ¬ ∀ (sys sys' : System) (moves : List Move), sys.Resting →
    Run System.Step sys moves sys' → ¬ (sys'.WriterWaits ∧ sys'.GeneratorWaits) := by
  intro claim
  have held : (([.call 0 smallPacket, .writer, .writer, .cycle] : List Move).foldlM System.next
      (restingIn nearlyFull)).any System.deadlocked = true := by
    decide +kernel
  obtain ⟨sys', played, deadlocked⟩ := (Option.any_eq_true _ _).mp held
  exact claim (restingIn nearlyFull) sys' _ (restingIn_resting _)
    (Run.of_foldlM (fun _ _ _ next => System.step_of_next next) played) (System.waits_of_deadlocked deadlocked)

end Sample

end ZephyrCcsds.Tm
