import ZephyrCcsds.Cfdp.EntityOutcome
import ZephyrCcsds.Cfdp.Resting
import ZephyrCcsds.Retry

/-! # Polling a peer that stays silent

The retry count and deadline of a slot are a bounded retry timer while a transaction waits for
its peer: for data after a NAK, for the ACK of a Finished PDU, or, as the sender, for the
Finished PDU.  `poll` looks at the timer of each role (`PollStep.sender`, `PollStep.receiver`), so
the bounds of `ZephyrCcsds.Retry` hold from every state that a history of the API can reach, PDUs
received during a send included.  A slot that does not wait has no timer and is left alone; a
sender of this kind has been started by `create_sender_transaction`.
-/

namespace ZephyrCcsds.Cfdp

open Callback

variable [Kconfig]

/-! ## PDUs sent in a trace -/

/-- The direction bit of a PDU. -/
def pduDirection (pdu : Bytes) : Direction := .ofCode (byteAt pdu 0 / 8 % 2)

def SendsToward (direction : Direction) (obs : Obs) : Bool :=
  match obs.1 with
  | .sendPdu _ pdu => pduDirection pdu == direction
  | _ => false

/-- The number of PDUs sent in one direction. -/
def sentToward (direction : Direction) (t : Trace) : Nat := t.countP (SendsToward direction)

/-- A trace with at most so many PDUs, all of them in one direction. -/
structure AtMost (most : Nat) (direction : Direction) (t : Trace) : Prop where
  few : sentToward direction t ≤ most
  others : ∀ other, other ≠ direction → sentToward other t = 0

section Sends

variable {direction : Direction} {n : Nat} {t u : Trace}

omit [Kconfig]

@[simp] theorem sentToward_nil : sentToward direction [] = 0 := rfl

@[simp] theorem sentToward_append :
    sentToward direction (t ++ u) = sentToward direction t + sentToward direction u :=
  List.countP_append

/-- What follows sends nothing. -/
theorem AtMost.append (first : AtMost n direction t) (rest : AtMost 0 direction u) :
    AtMost n direction (t ++ u) := by
  constructor
  · rw [sentToward_append]
    exact Nat.add_le_add first.few rest.few
  · intro other different
    rw [sentToward_append, first.others other different, rest.others other different]

theorem AtMost.nil : AtMost 0 direction [] := ⟨le_rfl, fun _ _ => rfl⟩

theorem HandleClosed.silent {slot : TransactionSlot} (closed : HandleClosed slot t) :
    AtMost 0 direction t := by
  cases closed with
  | none | shut => exact .nil
  | closed => exact ⟨le_rfl, fun _ _ => rfl⟩

theorem terminalEvent_silent (entity : Entity) (role : Role) (id : TransactionId)
    (status : Status) : AtMost 0 direction (terminalEvent entity role id status) := by
  unfold terminalEvent
  split
  · exact ⟨le_rfl, fun _ _ => rfl⟩
  · exact .nil

theorem Discarded.silent {slot : TransactionSlot} (discarded : Discarded slot t) :
    AtMost 0 direction t := by
  cases discarded with
  | none => exact .nil
  | discarded _ closed called =>
    apply closed.silent.append
    obtain ⟨_, rfl⟩ | ⟨_, rfl, _⟩ := called.elim
    · exact ⟨le_rfl, fun _ _ => rfl⟩
    · exact .nil

theorem SenderFailed.silent {entity : Entity} {status : Status}
    (failed : SenderFailed entity status t) : AtMost 0 direction t := by
  cases failed with
  | mk closed => exact closed.silent.append (terminalEvent_silent _ _ _ _)

theorem Sent.atMost {dest : Nat} {encoded : Except Status Bytes} {status : Status}
    (sent : Sent dest encoded t status)
    (toward : ∀ pdu, encoded = .ok pdu → pduDirection pdu = direction) : AtMost 1 direction t := by
  cases sent with
  | refused => exact ⟨Nat.zero_le _, fun _ _ => rfl⟩
  | sent rc encoded =>
    have same := toward _ encoded
    constructor
    · exact List.countP_le_length
    · intro other different
      simp [sentToward, SendsToward, same, different.symm]

end Sends

section Directions

variable {cap : Nat} {pdu : Bytes}

theorem pduDirection_of_front {header : PduHeader} {front : Bytes}
    (encoded : encodeHeader header cap = .ok front) (starts : front <+: pdu) :
    pduDirection pdu = header.direction := by
  obtain ⟨version, size, _, _, _, _, _, rfl⟩ := encodeHeader_ok encoded
  obtain ⟨bound, _, _, direction, _⟩ := headerFlags_fields version size
  have first : byteAt pdu 0 = headerFlags header := by
    refine byteAt_field [] (List.IsPrefix.trans ?_ starts) rfl bound
    simp only [List.nil_append, List.append_assoc, List.prefix_append]
  rw [pduDirection, first, direction, Direction.ofCode_code]

theorem encodeEof_direction {eof : EofPdu} (encoded : encodeEof eof cap = .ok pdu) :
    pduDirection pdu = eof.header.direction := by
  unfold encodeEof at encoded
  split_ifs at encoded
  split at encoded
  · cases encoded
  · next octets front =>
    split_ifs at encoded
    apply pduDirection_of_front front
    simp only [← Except.ok.inj encoded, List.append_assoc, List.prefix_append]

theorem encodeFinished_direction {finished : FinishedPdu}
    (encoded : encodeFinished finished cap = .ok pdu) :
    pduDirection pdu = finished.header.direction := by
  unfold encodeFinished at encoded
  split_ifs at encoded
  split at encoded
  · cases encoded
  · next octets front =>
    split_ifs at encoded
    apply pduDirection_of_front front
    simp only [← Except.ok.inj encoded, List.append_assoc, List.prefix_append]

theorem encodeNak_direction {nak : NakPdu} (encoded : encodeNak nak cap = .ok pdu) :
    pduDirection pdu = nak.header.direction := by
  unfold encodeNak at encoded
  split_ifs at encoded
  simp only [] at encoded
  split_ifs at encoded
  split at encoded
  · cases encoded
  · next octets front =>
    split_ifs at encoded
    apply pduDirection_of_front front
    simp only [← Except.ok.inj encoded, List.append_assoc, List.prefix_append]

end Directions

/-! ## The timers of a slot -/

def TransactionSlot.timer (slot : TransactionSlot) : Retry.Timer where
  count := slot.retryCount
  deadline := slot.retryDeadlineMs

/-- The sender waits for the Finished PDU. -/
def senderWaits (slot : TransactionSlot) : Bool :=
  slot.active && slot.transmissionMode == .acknowledged && !slot.finishedReceived

/-- The receiver waits for the data its NAK asked for or for the ACK of its Finished PDU. -/
def receiverWaits (slot : TransactionSlot) : Bool :=
  slot.active && slot.transmissionMode == .acknowledged &&
    (slot.recoveryPending || slot.waitingForFinishedAck)

def senderTimer (slot : TransactionSlot) : Option Retry.Timer :=
  if senderWaits slot then some slot.timer else none

def receiverTimer (slot : TransactionSlot) : Option Retry.Timer :=
  if receiverWaits slot then some slot.timer else none

abbrev Tick (now : Nat) : Option Retry.Timer → Nat → Option Retry.Timer → Prop :=
  Retry.Tick maxNakRounds retryIntervalMs (2 ^ 64) now

omit [Kconfig] in
theorem retryDue_iff {slot : TransactionSlot} {now : Nat} :
    retryDue slot now = true ↔ slot.timer.Due now := by
  simp only [retryDue, Bool.or_eq_true, decide_eq_true_eq, Retry.Timer.Due, TransactionSlot.timer]

theorem timer_armRetry {slot : TransactionSlot} {now : Nat} (more : slot.retryCount < maxNakRounds) :
    (armRetry slot.countRetry now).timer =
      { count := slot.timer.count + 1
        deadline := Retry.deadlineAfter retryIntervalMs (2 ^ 64) now } := by
  have bound := Kconfig.maxNakRounds_range.2
  have counted : (slot.retryCount + 1) % 2 ^ 32 = slot.retryCount + 1 := Nat.mod_eq_of_lt (by omega)
  simp only [TransactionSlot.timer, armRetry, TransactionSlot.countRetry, counted,
    Retry.deadlineAfter]

/-! ## One poll -/

variable {entity entity' : Entity} {now : Nat} {t : Trace}

omit [Kconfig] in
theorem senderDue_iff {slot : TransactionSlot} :
    SenderDue slot now ↔ senderWaits slot = true ∧ slot.timer.Due now := by
  rw [← retryDue_iff, senderWaits, Bool.and_eq_true, Bool.and_eq_true, beq_iff_eq,
    Bool.not_eq_true']
  exact ⟨fun ⟨active, mode, unfinished, due⟩ => ⟨⟨⟨active, mode⟩, unfinished⟩, due⟩,
    fun ⟨⟨⟨active, mode⟩, unfinished⟩, due⟩ => ⟨active, mode, unfinished, due⟩⟩

theorem SenderPolled.atMost (polled : SenderPolled entity now t entity') :
    AtMost 1 .towardReceiver t := by
  have eof : ∀ {t status}, EofSent entity t status → AtMost 1 .towardReceiver t :=
    fun sent => sent.atMost fun pdu encoded => encodeEof_direction encoded
  cases polled with
  | idle => exact ⟨Nat.zero_le _, fun _ _ => rfl⟩
  | spent _ _ failed => exact ⟨failed.silent.few.trans (Nat.zero_le _), failed.silent.others⟩
  | unsent _ _ sent _ failed => exact (eof sent).append failed.silent
  | repeated _ _ sent => exact eof sent

theorem SenderPolled.tick (polled : SenderPolled entity now t entity') :
    Tick now (senderTimer entity.sender) (sentToward .towardReceiver t)
      (senderTimer entity'.sender) := by
  have few := polled.atMost.few
  have released : senderTimer .zero = none := rfl
  cases polled with
  | idle rested =>
    cases waits : senderWaits entity.sender with
    | false => simpa [senderTimer, waits] using Retry.Tick.stopped
    | true =>
      rw [senderDue_iff, waits] at rested
      simpa [senderTimer, waits] using Retry.Tick.early fun due => rested ⟨rfl, due⟩
  | spent due spent failed =>
    rw [senderDue_iff] at due
    have silent : sentToward .towardReceiver t = 0 := Nat.le_zero.mp failed.silent.few
    rw [senderTimer, if_pos due.1, silent]
    exact .expired due.2 spent
  | unsent due more =>
    rw [senderDue_iff] at due
    rw [senderTimer, if_pos due.1]
    exact .failed due.2 more few
  | repeated due more =>
    rw [senderDue_iff] at due
    have waits : senderWaits (armRetry entity.sender.countRetry now) = true := due.1
    rw [senderTimer, senderTimer, if_pos due.1, Entity.withSender_sender, if_pos waits,
      timer_armRetry more]
    exact .again due.2 more few

/-- An acknowledged receiver transaction that is to repeat the PDU the flag stands for. -/
structure ReceiverDue (flag : TransactionSlot → Bool) (slot : TransactionSlot) (now : Nat) :
    Prop where
  active : slot.active = true
  mode : slot.transmissionMode = .acknowledged
  flag : flag slot = true
  due : slot.timer.Due now

/-- What both parts of `poll` for the receiver do: nothing, give up, or repeat a PDU. -/
inductive ReceiverRetried (flag : TransactionSlot → Bool) (entity : Entity) (now : Nat) :
    Trace → Entity → Prop where
  | idle : ¬ ReceiverDue flag entity.receiver now → ReceiverRetried flag entity now [] entity
  | spent {t : Trace} : ReceiverDue flag entity.receiver now →
      maxNakRounds ≤ entity.receiver.retryCount → AtMost 0 .towardSender t →
      ReceiverRetried flag entity now t (entity.withReceiver .zero)
  | failed {t : Trace} : ReceiverDue flag entity.receiver now →
      entity.receiver.retryCount < maxNakRounds → AtMost 1 .towardSender t →
      ReceiverRetried flag entity now t (entity.withReceiver .zero)
  | again {t : Trace} : ReceiverDue flag entity.receiver now →
      entity.receiver.retryCount < maxNakRounds → AtMost 1 .towardSender t →
      ReceiverRetried flag entity now t
        (entity.withReceiver (armRetry entity.receiver.countRetry now))

theorem NakSent.atMost {status : Status} (sent : NakSent entity t status) :
    AtMost 1 .towardSender t := by
  cases sent with
  | toomany => exact ⟨Nat.zero_le _, fun _ _ => rfl⟩
  | sent _ sent => exact sent.atMost fun pdu encoded => encodeNak_direction encoded

theorem pollRecovery_retried (now : Nat) (entity : Entity) :
    (pollRecovery now).wp once
      (fun t _ entity' => ReceiverRetried TransactionSlot.recoveryPending entity now t entity')
      entity := by
  simp only [pollRecovery, Prog.wp_bind, Prog.wp_read, Prog.wp_ite, Prog.wp_pure,
    wp_updateReceiver, wp_releaseReceiverTerminal, Bool.and_eq_true, beq_iff_eq, retryDue_iff,
    List.nil_append]
  constructor
  · rintro ⟨⟨⟨active, mode⟩, flag⟩, due⟩
    have due : ReceiverDue TransactionSlot.recoveryPending entity.receiver now :=
      ⟨active, mode, flag, due⟩
    constructor
    · intro spent
      apply Prog.wp_mono (closeDiscardReceiver_outcome entity)
      rintro t _ entity' ⟨discarded, rfl | rfl⟩
      · exact .spent due spent (discarded.silent.append (terminalEvent_silent _ _ _ _))
      · exact .spent due spent (discarded.silent.append (terminalEvent_silent _ _ _ _))
    · intro more
      apply Prog.wp_mono (sendNakForMissingRanges_outcome _)
      rintro t status entity' ⟨sent, rfl⟩
      constructor
      · intro _
        rw [List.append_nil]
        exact .again due (not_le.mp more) sent.atMost
      · intro _
        apply Prog.wp_mono (closeDiscardReceiver_outcome entity')
        rintro u _ entity'' ⟨discarded, rfl | rfl⟩
        · exact .failed due (not_le.mp more)
            (sent.atMost.append (discarded.silent.append (terminalEvent_silent _ _ _ _)))
        · exact .failed due (not_le.mp more)
            (sent.atMost.append (discarded.silent.append (terminalEvent_silent _ _ _ _)))
  · intro rested
    exact .idle fun due => rested ⟨⟨⟨due.active, due.mode⟩, due.flag⟩, due.due⟩

theorem pollFinished_retried (now : Nat) (entity : Entity) :
    (pollFinished now).wp once
      (fun t _ entity' => ReceiverRetried TransactionSlot.waitingForFinishedAck entity now t entity')
      entity := by
  simp only [pollFinished, sendFinishedForReceiverStatus, Prog.wp_bind, Prog.wp_read, Prog.wp_ite,
    Prog.wp_pure, wp_updateReceiver, wp_releaseReceiverTerminal, Bool.and_eq_true, beq_iff_eq,
    retryDue_iff, List.nil_append]
  constructor
  · rintro ⟨⟨⟨active, mode⟩, flag⟩, due⟩
    have due : ReceiverDue TransactionSlot.waitingForFinishedAck entity.receiver now :=
      ⟨active, mode, flag, due⟩
    constructor
    · intro spent
      exact .spent due spent (terminalEvent_silent _ _ _ _)
    · intro more
      apply Prog.wp_mono (sendEncodedPduTo_outcome _ _ _)
      rintro t status entity' ⟨sent, rfl⟩
      have few : AtMost 1 .towardSender t :=
        sent.atMost fun pdu encoded => encodeFinished_direction encoded
      constructor
      · intro _
        rw [List.append_nil]
        exact .again due (not_le.mp more) few
      · intro _
        exact .failed due (not_le.mp more) (few.append (terminalEvent_silent _ _ _ _))
  · intro rested
    exact .idle fun due => rested ⟨⟨⟨due.active, due.mode⟩, due.flag⟩, due.due⟩

namespace ReceiverRetried

variable {flag : TransactionSlot → Bool}

theorem atMost (retried : ReceiverRetried flag entity now t entity') : AtMost 1 .towardSender t := by
  cases retried with
  | idle => exact ⟨Nat.zero_le _, fun _ _ => rfl⟩
  | spent _ _ silent => exact ⟨silent.few.trans (Nat.zero_le _), silent.others⟩
  | failed _ _ few | again _ _ few => exact few

theorem sender (retried : ReceiverRetried flag entity now t entity') :
    entity'.sender = entity.sender := by
  cases retried <;> rfl

/-- A transaction that does not wait for what this part of `poll` repeats is left alone. -/
theorem unflagged (retried : ReceiverRetried flag entity now t entity')
    (off : flag entity.receiver = false) : entity' = entity ∧ t = [] := by
  cases retried with
  | idle => exact ⟨rfl, rfl⟩
  | spent due | failed due | again due => exact (Bool.false_ne_true (off.symm.trans due.flag)).elim

/-- It is a look at the timer of a transaction that waits for it, and none otherwise. -/
theorem looks (retried : ReceiverRetried flag entity now t entity')
    (waits : ∀ slot, flag slot = true → slot.active = true →
      slot.transmissionMode = .acknowledged → receiverWaits slot = true) :
    ∃ counts, Run (Tick now) (receiverTimer entity.receiver) counts (receiverTimer entity'.receiver) ∧
      counts.sum = sentToward .towardSender t ∧ (flag entity.receiver = true → counts ≠ []) := by
  have few := retried.atMost.few
  suffices on : flag entity.receiver = true →
      Tick now (receiverTimer entity.receiver) (sentToward .towardSender t)
        (receiverTimer entity'.receiver) by
    cases flagged : flag entity.receiver with
    | true => exact ⟨_, .single (on flagged), List.sum_singleton, by simp⟩
    | false =>
      obtain ⟨rfl, rfl⟩ := retried.unflagged flagged
      exact ⟨[], .done, rfl, by simp⟩
  intro on
  cases retried with
  | idle rested =>
    cases waiting : receiverWaits entity.receiver with
    | false => simpa [receiverTimer, waiting] using Retry.Tick.stopped
    | true =>
      rw [receiverTimer, if_pos waiting]
      simp only [receiverWaits, Bool.and_eq_true, beq_iff_eq] at waiting
      exact .early fun due => rested ⟨waiting.1.1, waiting.1.2, on, due⟩
  | spent due spent silent =>
    rw [receiverTimer, if_pos (waits _ due.flag due.active due.mode), Nat.le_zero.mp silent.few]
    exact .expired due.due spent
  | failed due more =>
    rw [receiverTimer, if_pos (waits _ due.flag due.active due.mode)]
    exact .failed due.due more few
  | again due more =>
    have waiting := waits _ due.flag due.active due.mode
    have still : receiverWaits (armRetry entity.receiver.countRetry now) = true := waiting
    rw [receiverTimer, receiverTimer, if_pos waiting, Entity.withReceiver_receiver, if_pos still,
      timer_armRetry more]
    exact .again due.due more few

end ReceiverRetried

/-! ## Runs of polls -/

variable [ZephyrCrc]

/-- One `poll` during which nothing is received. -/
def PollStep (entity : Entity) (poll : UInt64 × Trace) (entity' : Entity) : Prop :=
  QuietStep entity { call := .poll poll.1, trace := poll.2 } entity'

def PollStep.play (entity : Entity) (poll : UInt64 × Trace) : Option Entity :=
  Step.play entity { call := .poll poll.1, trace := poll.2 }

theorem PollStep.of_play {poll : UInt64 × Trace} (played : PollStep.play entity poll = some entity') :
    PollStep entity poll entity' := quietStep_of_play played

/-- The parts of a poll. -/
structure PolledBy (entity : Entity) (now : Nat) (t : Trace) (entity' : Entity) : Prop where
  parts : ∃ a b c entity₁ entity₂, t = a ++ (b ++ c) ∧
    ReceiverRetried TransactionSlot.recoveryPending entity now a entity₁ ∧
    ReceiverRetried TransactionSlot.waitingForFinishedAck entity₁ now b entity₂ ∧
    SenderPolled entity₂ now c entity'

theorem PollStep.polled {poll : UInt64 × Trace} (step : PollStep entity poll entity') :
    PolledBy entity poll.1.toNat poll.2 entity' := by
  obtain ⟨status, run⟩ := step
  have post : (Cfdp.poll poll.1).wp once
      (fun t _ entity' => PolledBy entity poll.1.toNat t entity') entity := by
    simp only [Cfdp.poll, Prog.wp_bind]
    apply Prog.wp_mono (pollRecovery_retried _ entity)
    intro a _ entity₁ first
    apply Prog.wp_mono (pollFinished_retried _ entity₁)
    intro b _ entity₂ second
    apply Prog.wp_mono (pollSender_outcome _ entity₂)
    intro c _ entity₃ third
    exact ⟨a, b, c, entity₁, entity₂, rfl, first, second, third⟩
  have body : (Call.poll poll.1).body.wp once
      (fun t _ entity' => PolledBy entity poll.1.toNat t entity') entity := by
    simpa only [Call.body, Prog.wp_bind, Prog.wp_pure, List.append_nil] using post
  exact Prog.wp_of_runs body run

/-- A poll of an entity and a poll of a timer at the same time, with the PDUs sent one way. -/
def Corresponds (direction : Direction) (poll : UInt64 × Trace) (look : Nat × List Nat) : Prop :=
  look.1 = poll.1.toNat ∧ look.2.sum = sentToward direction poll.2

abbrev TimerPolled : Option Retry.Timer → Nat × List Nat → Option Retry.Timer → Prop :=
  Retry.Polled maxNakRounds retryIntervalMs (2 ^ 64)

theorem PollStep.sender {poll : UInt64 × Trace} (step : PollStep entity poll entity') :
    ∃ look, Corresponds .towardReceiver poll look ∧
      TimerPolled (senderTimer entity.sender) look (senderTimer entity'.sender) := by
  obtain ⟨a, b, c, entity₁, entity₂, trace, first, second, third⟩ := step.polled
  have tick := third.tick
  rw [second.sender, first.sender] at tick
  refine ⟨(poll.1.toNat, [sentToward .towardReceiver c]), ⟨rfl, ?_⟩, .single tick, by simp⟩
  simp [trace, first.atMost.others .towardReceiver (by simp),
    second.atMost.others .towardReceiver (by simp)]

theorem PollStep.receiver {poll : UInt64 × Trace} (step : PollStep entity poll entity') :
    ∃ look, Corresponds .towardSender poll look ∧
      TimerPolled (receiverTimer entity.receiver) look (receiverTimer entity'.receiver) := by
  obtain ⟨a, b, c, entity₁, entity₂, trace, first, second, third⟩ := step.polled
  have same : entity'.receiver = entity₂.receiver := third.only.receiver
  have sent : sentToward .towardSender poll.2 =
      sentToward .towardSender a + sentToward .towardSender b := by
    simp [trace, third.atMost.others .towardSender (by simp)]
  obtain ⟨counts, run, sum, nonempty⟩ := first.looks (by simp +contextual [receiverWaits])
  obtain ⟨counts', run', sum', nonempty'⟩ := second.looks (by simp +contextual [receiverWaits])
  by_cases looked : counts ++ counts' = []
  · -- neither part was meant: the transaction does not wait, and its timer is stopped
    obtain ⟨rfl, rfl⟩ := List.append_eq_nil_iff.mp looked
    have off := Bool.eq_false_of_not_eq_true fun on => nonempty on rfl
    obtain ⟨rfl, rfl⟩ := first.unflagged off
    have off' := Bool.eq_false_of_not_eq_true fun on => nonempty' on rfl
    obtain ⟨rfl, rfl⟩ := second.unflagged off'
    refine ⟨(poll.1.toNat, [0]), ⟨rfl, sent.symm⟩, ?_, by simp⟩
    have rests : receiverTimer entity₂.receiver = none := by
      simp [receiverTimer, receiverWaits, off, off']
    rw [same, rests]
    exact .single .stopped
  · refine ⟨(poll.1.toNat, counts ++ counts'), ⟨rfl, ?_⟩, ?_, looked⟩
    · rw [List.sum_append, sum, sum', sent]
    · rw [same]
      exact run.append run'

/-- A slot that does not wait is left alone, and one that waits goes on waiting or is released. -/
def Waits (waits : TransactionSlot → Bool) (slot slot' : TransactionSlot) : Prop :=
  slot' = slot ∨ waits slot = true ∧ (waits slot' = true ∨ slot'.active = false)

omit [ZephyrCrc] in
theorem ReceiverRetried.waiting {flag : TransactionSlot → Bool}
    (retried : ReceiverRetried flag entity now t entity')
    (waits : ∀ slot, flag slot = true → slot.active = true →
      slot.transmissionMode = .acknowledged → receiverWaits slot = true) :
    Waits receiverWaits entity.receiver entity'.receiver := by
  cases retried with
  | idle => exact .inl rfl
  | spent due | failed due => exact .inr ⟨waits _ due.flag due.active due.mode, .inr rfl⟩
  | again due =>
    have waiting := waits _ due.flag due.active due.mode
    exact .inr ⟨waiting, .inl waiting⟩

omit [ZephyrCrc] in
theorem SenderPolled.waiting (polled : SenderPolled entity now t entity') :
    Waits senderWaits entity.sender entity'.sender := by
  cases polled with
  | idle => exact .inl rfl
  | spent due | unsent due => exact .inr ⟨(senderDue_iff.mp due).1, .inr rfl⟩
  | repeated due =>
    have waiting := (senderDue_iff.mp due).1
    exact .inr ⟨waiting, .inl waiting⟩

theorem PollStep.senderWaiting {poll : UInt64 × Trace} (step : PollStep entity poll entity') :
    Waits senderWaits entity.sender entity'.sender := by
  obtain ⟨a, b, c, entity₁, entity₂, trace, first, second, third⟩ := step.polled
  have waiting := third.waiting
  rwa [second.sender, first.sender] at waiting

theorem PollStep.receiverWaiting {poll : UInt64 × Trace} (step : PollStep entity poll entity') :
    Waits receiverWaits entity.receiver entity'.receiver := by
  obtain ⟨a, b, c, entity₁, entity₂, trace, first, second, third⟩ := step.polled
  rw [third.only.receiver]
  rcases first.waiting (by simp +contextual [receiverWaits]) with same | ⟨waits, after⟩
  · rw [← same]
    exact second.waiting (by simp +contextual [receiverWaits])
  · rcases second.waiting (by simp +contextual [receiverWaits]) with same | ⟨_, after'⟩
    · exact .inr ⟨waits, same ▸ after⟩
    · exact .inr ⟨waits, after'⟩

section Run

variable {polls : List (UInt64 × Trace)} {direction : Direction} {looks : List (Nat × List Nat)}

omit [Kconfig] [ZephyrCrc]

theorem Corresponds.times (all : List.Forall₂ (Corresponds direction) polls looks) :
    looks.map Prod.fst = polls.map fun poll => poll.1.toNat := by
  induction all with
  | nil => rfl
  | cons first _ ih => rw [List.map_cons, List.map_cons, first.1, ih]

theorem Corresponds.sent (all : List.Forall₂ (Corresponds direction) polls looks) :
    (looks.map fun look => look.2.sum).sum = sentToward direction (polls.flatMap Prod.snd) := by
  induction all with
  | nil => rfl
  | cons first _ ih =>
    rw [List.map_cons, List.sum_cons, List.flatMap_cons, sentToward_append, first.2, ih]

variable [Kconfig]

/-- What the two bounds on a timer say about polls of the entity. -/
theorem Corresponds.bounds {timer timer' : Option Retry.Timer}
    (all : List.Forall₂ (Corresponds direction) polls looks) (run : Run TimerPolled timer looks timer') :
    sentToward direction (polls.flatMap Prod.snd) ≤ maxNakRounds ∧
      (maxNakRounds < polls.length →
        (polls.map fun poll => poll.1.toNat).IsChain (fun now next => now + retryIntervalMs ≤ next) →
        (∀ before, timer = some before → ∀ poll ∈ polls.head?, before.Due poll.1.toNat) →
        timer' = none) := by
  constructor
  · have budget := Retry.Polled.budget run
    rw [Corresponds.sent all] at budget
    have most : Retry.left maxNakRounds timer ≤ maxNakRounds := Retry.left_le timer
    omega
  · intro long chain due
    apply Retry.stops run
    · rw [Corresponds.times all]
      refine ⟨chain, fun now mem => ?_⟩
      obtain ⟨poll, _, rfl⟩ := List.mem_map.mp mem
      exact poll.1.toNat_lt
    · rwa [← all.length_eq]
    · intro before start now head
      rw [Corresponds.times all, List.head?_map, Option.mem_map] at head
      obtain ⟨poll, head, rfl⟩ := head
      exact due before start poll head

end Run

/-- A slot that waits at first waits at the end of a run, or has been released. -/
theorem waiting_of_polls {waits : TransactionSlot → Bool} {slot : Entity → TransactionSlot}
    {polls : List (UInt64 × Trace)}
    (one : ∀ entity poll entity', PollStep entity poll entity' → Waits waits (slot entity) (slot entity'))
    (polled : Run PollStep entity polls entity') (first : waits (slot entity) = true) :
    waits (slot entity') = true ∨ (slot entity').active = false := by
  refine @Run.invariant _ _ _ _ _ _ (fun entity => waits (slot entity) = true ∨ (slot entity).active = false)
    (fun entity₁ poll entity₂ still step => ?_) (.inl first) polled
  rcases one _ _ _ step with same | ⟨_, after⟩
  · rwa [same]
  · exact after

/-- A slot that does not wait is left alone by all polls. -/
theorem unchanged_of_polls {waits : TransactionSlot → Bool} {slot : Entity → TransactionSlot}
    {polls : List (UInt64 × Trace)}
    (one : ∀ entity poll entity', PollStep entity poll entity' → Waits waits (slot entity) (slot entity'))
    (polled : Run PollStep entity polls entity') (rests : waits (slot entity) = false) : slot entity' = slot entity := by
  refine @Run.invariant _ _ _ _ _ _ (fun last => slot last = slot entity)
    (fun entity₁ poll entity₂ same step => ?_) rfl polled
  rcases one _ _ _ step with same' | ⟨first, _⟩
  · exact same'.trans same
  · rw [same, rests] at first
    cases first

/-! ## Every history -/

/-- A call of the API, during which PDUs that are sent may come back through `receive_pdu`. -/
def ApiStep (entity : Entity) (call : ApiCall) (entity' : Entity) : Prop :=
  ∃ t result, reentrant.RunsNested (fun _ _ _ _ _ => True) call entity t result entity'

omit [ZephyrCrc] in
theorem senderResting_of_init {config : EntityConfig} {ut : UtOps}
    (init : entityInit config ut = .ok entity) : SenderResting entity := by
  unfold entityInit at init
  split_ifs at init
  cases init
  exact fun active => (Bool.false_ne_true active).elim

/-- A sender that is active between calls waits, unless `create_sender_transaction` has started its
transaction in unacknowledged mode. -/
theorem sender_created {config : EntityConfig} {ut : UtOps} {entity₀ : Entity} {calls : List ApiCall}
    (init : entityInit config ut = .ok entity₀) (history : Run ApiStep entity₀ calls entity)
    (active : entity.sender.active = true) (rests : senderWaits entity.sender = false) :
    entity.sender.transmissionMode = .unacknowledged ∧ .createSenderTransaction ∈ calls := by
  have resting := senderResting_of_init init
  have unacknowledged : entity.sender.transmissionMode = .unacknowledged := by
    have ready : SenderReady entity := by
      apply history.invariant _ fun active _ => (resting active).2
      exact fun _ _ _ ready ⟨t, result, run⟩ => senderReady_of_nested run ready
    cases mode : entity.sender.transmissionMode with
    | unacknowledged => rfl
    | acknowledged => simp [senderWaits, active, mode, ready active mode] at rests
  refine ⟨unacknowledged, ?_⟩
  by_contra never
  have rest : SenderResting entity ∨ .createSenderTransaction ∈ calls := by
    have keep : ∀ (past : List ApiCall) entity call entity', SenderResting entity ∨ .createSenderTransaction ∈ past →
        ApiStep entity call entity' → SenderResting entity' ∨ .createSenderTransaction ∈ past ++ [call] := by
      rintro past entity call entity' (resting | created) ⟨t, result, run⟩
      · by_cases creates : call = .createSenderTransaction
        · exact .inr (by simp [creates])
        · exact .inl (senderResting_of_nested run creates resting)
      · exact .inr (List.mem_append_left _ created)
    have start : SenderResting entity₀ ∨ .createSenderTransaction ∈ ([] : List ApiCall) := .inl resting
    have reached := Run.invariant_history keep start history
    rwa [List.nil_append] at reached
  obtain ⟨mode, -⟩ := rest.resolve_right never active
  rw [unacknowledged] at mode
  cases mode

/-- From every state that a history can reach: `poll` repeats at most `maxNakRounds` PDUs for each
role, and once there have been more polls than that, an interval apart and the first of them due,
a slot that waited is idle.  Any other slot is left alone; a sender of this kind that is active has
been started by `create_sender_transaction`. -/
theorem silent_peer_released {config : EntityConfig} {ut : UtOps} {entity₀ entity entity' : Entity}
    {calls : List ApiCall} {polls : List (UInt64 × Trace)} (init : entityInit config ut = .ok entity₀)
    (history : Run ApiStep entity₀ calls entity) (polled : Run PollStep entity polls entity') :
    (∀ direction, sentToward direction (polls.flatMap Prod.snd) ≤ maxNakRounds) ∧
      (maxNakRounds < polls.length →
        (polls.map fun poll => poll.1.toNat).IsChain (fun now next => now + retryIntervalMs ≤ next) →
        (senderWaits entity.sender = true →
          (∀ poll ∈ polls.head?, retryDue entity.sender poll.1.toNat = true) →
          entity'.sender.active = false) ∧
        (receiverWaits entity.receiver = true →
          (∀ poll ∈ polls.head?, retryDue entity.receiver poll.1.toNat = true) →
          entity'.receiver.active = false)) ∧
      (senderWaits entity.sender = false → entity'.sender = entity.sender ∧
        (entity.sender.active = true →
          entity.sender.transmissionMode = .unacknowledged ∧ .createSenderTransaction ∈ calls)) ∧
      (receiverWaits entity.receiver = false → entity'.receiver = entity.receiver) := by
  -- each role by itself is a retry timer, whichever the other does
  obtain ⟨looks, all, run⟩ := polled.simulated (fun entity => senderTimer entity.sender)
    fun _ _ _ step => step.sender
  obtain ⟨looks', all', run'⟩ := polled.simulated (fun entity => receiverTimer entity.receiver)
    fun _ _ _ step => step.receiver
  obtain ⟨few, stopped⟩ := Corresponds.bounds all run
  obtain ⟨few', stopped'⟩ := Corresponds.bounds all' run'
  have senderOne : ∀ entity poll entity', PollStep entity poll entity' →
      Waits senderWaits entity.sender entity'.sender := fun _ _ _ step => step.senderWaiting
  have receiverOne : ∀ entity poll entity', PollStep entity poll entity' →
      Waits receiverWaits entity.receiver entity'.receiver := fun _ _ _ step => step.receiverWaiting
  refine ⟨fun direction => ?_, fun long chain => ⟨fun waits due => ?_, fun waits due => ?_⟩, fun rests => ?_,
    unchanged_of_polls receiverOne polled⟩
  · cases direction with
    | towardReceiver => exact few
    | towardSender => exact few'
  -- the timer has run out, and a slot that waits has one: so this slot waits no more
  · have none : senderTimer entity'.sender = none := by
      apply stopped long chain
      intro before start poll head
      obtain ⟨_, timer⟩ := Option.ite_none_right_eq_some.mp start
      obtain rfl := Option.some.inj timer
      exact retryDue_iff.mp (due poll head)
    rcases waiting_of_polls senderOne polled waits with waiting | idle
    · simp [senderTimer, waiting] at none
    · exact idle
  · have none : receiverTimer entity'.receiver = none := by
      apply stopped' long chain
      intro before start poll head
      obtain ⟨_, timer⟩ := Option.ite_none_right_eq_some.mp start
      obtain rfl := Option.some.inj timer
      exact retryDue_iff.mp (due poll head)
    rcases waiting_of_polls receiverOne polled waits with waiting | idle
    · simp [receiverTimer, waiting] at none
    · exact idle
  · exact ⟨unchanged_of_polls senderOne polled rests, fun active => sender_created init history active rests⟩

end ZephyrCcsds.Cfdp

namespace ZephyrCcsds.Cfdp

open Callback

attribute [local instance] defaultKconfig plainCrc

/-- The peer of `sendingStep` is silent: the EOF PDU is repeated four times. -/
def repeatingPolls : List (UInt64 × Trace) :=
  let eof : Obs := ⟨.sendPdu 1 [0x20, 0, 10, 0, 2, 0, 1, 4, 0, 104, 0, 0, 0, 0, 0, 0, 1], (0 : Int)⟩
  [(1000, [eof]), (2000, [eof]), (3000, [eof]), (4000, [eof])]

/-- The poll that gives up. -/
def expiringPoll : UInt64 × Trace :=
  (5000, [⟨.close wholeFilestore 5, (0 : Int)⟩,
    ⟨.event .sender .failed { sourceEntityId := 2, transactionSequenceNumber := 0 }
      .inactivityDetected, ()⟩])

def ApiCall.play (entity : Entity) (call : ApiCall) (t : Trace) : Option Entity :=
  ((call.body entity).play t).map Prod.snd

theorem ApiStep.of_play {entity entity' : Entity} {call : ApiCall} {t : Trace}
    (played : call.play entity t = some entity') : ApiStep entity call entity' := by
  obtain ⟨⟨result, left⟩, ran, same⟩ := Option.map_eq_some_iff.mp played
  have same : left = entity' := same
  subst same
  have run : call.body.Runs once entity t result left := Act.runs_of_play ran
  have nested : ∃ u, reentrant.RunsNested (fun _ _ _ _ _ => True) call entity u result left :=
    Service.runsNested_of_quiet (fun _ _ _ => trivial) run
  obtain ⟨u, nested⟩ := nested
  exact ⟨u, result, nested⟩

/-- A transaction whose EOF is never answered is released by the fifth poll. -/
theorem silent_peer_released_sending : ∃ entity entity',
    (ApiCall.sendFile wholeFilestore sendingRequest).play freshReceiver sendingStep.trace = some entity ∧
    (repeatingPolls ++ [expiringPoll]).foldlM PollStep.play entity = some entity' ∧
    entity'.sender.active = false := by
  have played : (((ApiCall.sendFile wholeFilestore sendingRequest).play freshReceiver sendingStep.trace).bind
      fun entity => ((repeatingPolls ++ [expiringPoll]).foldlM PollStep.play entity).map fun _ =>
        decide (senderWaits entity.sender = true ∧ retryDue entity.sender 1000 = true)) = some true := by
    decide +kernel
  simp only [Option.bind_eq_some_iff, Option.map_eq_some_iff, decide_eq_true_eq] at played
  obtain ⟨entity, sent, entity', polled, waits, due⟩ := played
  have polls := Run.of_foldlM (fun _ _ _ => PollStep.of_play) polled
  obtain ⟨_, released, _⟩ := silent_peer_released entityInit_receiverConfig (.single (ApiStep.of_play sent)) polls
  refine ⟨entity, entity', sent, polled, (released (by decide) (by decide)).1 waits ?_⟩
  rintro _ ⟨⟩
  exact due

/-- Polls a second apart at which nothing is sent -/
def silentPolls : List (UInt64 × Trace) := [(1000, []), (2000, []), (3000, []), (4000, []), (5000, [])]

/-- After five polls are still active: a receiver that has got its Metadata PDU but no EOF, a sender
that was polled before its deadline, and a sender that `create_sender_transaction` has started. -/
theorem silent_peer_held :
    (∃ entity entity', Run ApiStep freshReceiver [.receivePdu (some wholeFilestore) metadataOctets] entity ∧
      Run PollStep entity silentPolls entity' ∧ entity'.receiver.active = true) ∧
    (∃ entity entity', Run ApiStep freshReceiver [.sendFile wholeFilestore sendingRequest] entity ∧
      Run PollStep entity ((0, []) :: repeatingPolls) entity' ∧ entity'.sender.active = true) ∧
    ∃ entity entity', Run ApiStep freshReceiver [.createSenderTransaction] entity ∧
      Run PollStep entity silentPolls entity' ∧ entity'.sender.active = true := by
  have held : ∀ {call : ApiCall} {t : Trace} {polls : List (UInt64 × Trace)} {active : Entity → Bool},
      ((call.play freshReceiver t).bind fun entity =>
        (polls.foldlM PollStep.play entity).map active) = some true →
      ∃ entity entity', Run ApiStep freshReceiver [call] entity ∧ Run PollStep entity polls entity' ∧
        active entity' = true := by
    intro call t polls active played
    simp only [Option.bind_eq_some_iff, Option.map_eq_some_iff] at played
    obtain ⟨entity, called, entity', polled, still⟩ := played
    exact ⟨entity, entity', .single (ApiStep.of_play called), Run.of_foldlM (fun _ _ _ => PollStep.of_play) polled, still⟩
  refine ⟨held (t := openingStep.trace) ?_, held (t := sendingStep.trace) ?_, held (t := []) ?_⟩
  · show _ = some true
    decide +kernel
  · show _ = some true
    decide +kernel
  · show _ = some true
    decide +kernel

end ZephyrCcsds.Cfdp
