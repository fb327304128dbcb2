import ZephyrCcsds.Cfdp.Isolation

/-! # The files of the receiver

The receiver reads, writes and closes the file that it opened last for writing, and nothing else: `receivedBack`
remembers that handle and rejects every other one, and with them every open for reading.  The handle lives in the
receiver slot, which holds `NULL` once the file is closed.

**Main results:**

* `ReceiverStep.files` — what a PDU for the receiver does with the file, and what it leaves in the slot.
* `ReceiverPolled.files` — the same for its parts of `poll`.
-/

namespace ZephyrCcsds.Cfdp

open Callback

/-! ## The monitor -/

/-- The handle that was opened last for writing, unless a callback works on another file -/
def receivedBack (received : Option Handle) : Obs → Option (Option Handle)
  | ⟨.openRead .., _⟩ => none
  | ⟨.openWriteTmp .., reply⟩ => some (if reply.rc = 0 then some reply.handle else received)
  | ⟨.read _ handle _ _, _⟩ | ⟨.write _ handle _ _, _⟩ | ⟨.close _ handle, _⟩ =>
    if handle = 0 ∨ received = some handle then some received else none
  | _ => some received

abbrev receivedBacks (received : Option Handle) (t : Trace) : Option (Option Handle) :=
  Monitor.run receivedBack received t

/-- A slot holds the handle that was opened last, or none. -/
def HoldsReceived (slot : TransactionSlot) (received : Option Handle) : Prop :=
  slot.fileHandle = 0 ∨ received = some slot.fileHandle

/-- A callback that opens no file and works on no file but one -/
def OnReceived (handle : Handle) : Obs → Prop
  | ⟨.openRead .., _⟩ => False
  | ⟨.openWriteTmp .., reply⟩ => reply.rc ≠ 0
  | ⟨.read _ other _ _, _⟩ | ⟨.write _ other _ _, _⟩ | ⟨.close _ other, _⟩ => other = handle
  | _ => True

abbrev AllOnReceived (handle : Handle) (t : Trace) : Prop := ∀ obs ∈ t, OnReceived handle obs

section Traces

variable {handle : Handle} {slot : TransactionSlot} {received : Option Handle} {t u : Trace} {status : Status}

theorem AllOnReceived.nil : AllOnReceived handle [] := fun _ mem => by cases mem

theorem AllOnReceived.single {obs : Obs} (own : OnReceived handle obs) : AllOnReceived handle [obs] := by
  intro other mem
  rwa [List.mem_singleton.mp mem]

theorem AllOnReceived.append (first : AllOnReceived handle t) (rest : AllOnReceived handle u) :
    AllOnReceived handle (t ++ u) := by
  intro obs mem
  rcases List.mem_append.mp mem with front | back
  · exact first obs front
  · exact rest obs back

/-- Callbacks on the file of the slot are accepted, and open no other. -/
theorem AllOnReceived.accepted (all : AllOnReceived slot.fileHandle t) (holds : HoldsReceived slot received) :
    receivedBacks received t = some received := by
  induction t with
  | nil => rfl
  | cons obs t ih =>
    have kept : receivedBack received obs = some received := by
      obtain ⟨op, result⟩ := obs
      have own : OnReceived slot.fileHandle ⟨op, result⟩ := all _ List.mem_cons_self
      cases op with
      | openRead => exact own.elim
      | openWriteTmp =>
        have refused : result.rc ≠ 0 := own
        simp only [receivedBack, refused, if_false]
      | read _ other | write _ other | close _ other =>
        have own : other = slot.fileHandle := own
        rw [receivedBack, own]
        exact if_pos holds
      | sendPdu | nowMs | event | commitTmp | discardTmp => rfl
    rw [receivedBacks, Monitor.run_cons, kept, Option.bind_some]
    exact ih fun obs mem => all obs (List.mem_cons_of_mem _ mem)

theorem Sent.onReceived {dest : Nat} {encoded : Except Status Bytes} (sent : Sent dest encoded t status) :
    AllOnReceived handle t := by
  cases sent with
  | refused => exact .nil
  | sent => exact .single trivial

theorem NakSent.onReceived [Kconfig] {entity : Entity} (nak : NakSent entity t status) :
    AllOnReceived handle t := by
  cases nak with
  | toomany => exact .nil
  | sent _ sent => exact sent.onReceived

theorem terminalEvent_onReceived (entity : Entity) (id : TransactionId) (status : Status) :
    AllOnReceived handle (terminalEvent entity .receiver id status) := by
  unfold terminalEvent
  split
  · exact .single trivial
  · exact .nil

theorem Discarded.onReceived (discarded : Discarded slot t) : AllOnReceived slot.fileHandle t := by
  cases discarded with
  | none => exact .nil
  | discarded _ closed called =>
    apply AllOnReceived.append
    · intro obs mem
      obtain ⟨_, _, _, rfl⟩ := closed.eq_close obs mem
      exact rfl
    · obtain ⟨_, rfl⟩ | ⟨_, rfl, _⟩ := called.elim
      · exact .single trivial
      · exact .nil

end Traces

/-! ## Steps -/

section Steps

variable [Kconfig] {fs : FilestoreOps} {pdu : Bytes} {entity entity' : Entity} {received : Option Handle}
  {t : Trace} {status result : Status}

/-- The file of an active slot is not opened again. -/
theorem AllOfReceiver.onReceived (all : AllOfReceiver entity pdu t) (active : entity.receiver.active = true) :
    AllOnReceived entity.receiver.fileHandle t := by
  intro ⟨op, reply⟩ mem
  have own := all _ mem
  cases op with
  | openRead => exact own
  | openWriteTmp => exact (Bool.false_ne_true (own.1.symm.trans active)).elim
  | read | write | close => exact own.2.2
  | sendPdu | nowMs | event | commitTmp | discardTmp => trivial

theorem Finished.handle (finished : Finished fs entity status t result entity') :
    entity'.receiver.fileHandle = 0 := by
  obtain ⟨-, settled⟩ := finished
  cases settled <;> rfl

variable [ZephyrCrc]

/-- Only a Metadata PDU changes the handle to another file. -/
theorem Handled.handle (handled : Handled fs pdu entity t status entity') (active : entity.receiver.active = true) :
    entity'.receiver.fileHandle = entity.receiver.fileHandle ∨ entity'.receiver.fileHandle = 0 := by
  cases handled with
  | ignored => exact .inl rfl
  | metadata _ handled =>
    cases handled with
    | skipped => exact .inl rfl
    | refused => exact .inr rfl
    | opened _ idle => exact (Bool.false_ne_true (idle.symm.trans active)).elim
  | filedata _ handled =>
    cases handled with
    | skipped | unwritten | unranged | unsummed | written => exact .inl rfl
    | completed _ _ _ _ _ _ _ finished => exact .inr finished.handle
  | eof handled =>
    cases handled with
    | skipped | repeated | unacknowledged => exact .inl rfl
    | refused _ _ _ _ _ finished => exact .inr finished.handle
    | taken _ _ _ _ _ _ completed =>
      cases completed with
      | asked => exact .inl rfl
      | unchecked _ finished | unasked _ _ _ _ finished | short _ _ finished | complete _ _ finished =>
        exact .inr finished.handle
  | ack _ handled =>
    cases handled with
    | skipped => exact .inl rfl
    | released => exact .inr rfl

/-- An idle receiver opens a file, or works on none. -/
theorem Handled.idle (handled : Handled fs pdu entity t status entity') (idle : entity.receiver.active = false) :
    (∃ path reply, t = [⟨.openWriteTmp fs path, reply⟩] ∧ reply.rc = 0 ∧
      entity'.receiver.fileHandle = reply.handle) ∨
    AllOnReceived entity.receiver.fileHandle t ∧
      (entity'.receiver.fileHandle = entity.receiver.fileHandle ∨ entity'.receiver.fileHandle = 0) := by
  have skipped : ∀ {entity₁ : Entity}, AllOnReceived entity₁.receiver.fileHandle [] ∧
      (entity₁.receiver.fileHandle = entity₁.receiver.fileHandle ∨ entity₁.receiver.fileHandle = 0) :=
    ⟨.nil, .inl rfl⟩
  have busy : entity.receiver.active = true → False := fun active => Bool.false_ne_true (idle.symm.trans active)
  cases handled with
  | ignored => exact .inr skipped
  | metadata _ handled =>
    cases handled with
    | skipped => exact .inr skipped
    | @opened metadata init reply _ _ _ ok => exact .inl ⟨_, reply, rfl, ok, rfl⟩
    | @refused metadata reply _ _ failed =>
      have refused : AllOnReceived entity.receiver.fileHandle
          [⟨.openWriteTmp fs (cString metadata.destinationFilename), reply⟩] := .single failed
      exact .inr ⟨refused.append (terminalEvent_onReceived _ _ _), .inr rfl⟩
  | filedata _ handled =>
    cases handled with
    | skipped => exact .inr skipped
    | unwritten accepts | unranged accepts | unsummed accepts | written accepts | completed accepts =>
      exact (busy accepts.addressed.active).elim
  | eof handled =>
    cases handled with
    | skipped => exact .inr skipped
    | repeated accepts | unacknowledged accepts | refused accepts | taken accepts =>
      exact (busy accepts.addressed.active).elim
  | ack _ handled =>
    cases handled with
    | skipped => exact .inr skipped
    | released accepts =>
      have matched := accepts.matched
      rw [receiverActiveMatchesHeader, Bool.and_eq_true] at matched
      exact (busy matched.1).elim

/-- A PDU for the receiver opens a file for an idle slot, or works on the file of the slot. -/
theorem ReceiverStep.files (step : ReceiverStep fs pdu entity t status entity') :
    (∃ path reply, t = [⟨.openWriteTmp fs path, reply⟩] ∧ reply.rc = 0 ∧
      entity'.receiver.fileHandle = reply.handle) ∨
    AllOnReceived entity.receiver.fileHandle t ∧
      (entity'.receiver.fileHandle = entity.receiver.fileHandle ∨ entity'.receiver.fileHandle = 0) := by
  have callbacks := step.confined.1
  cases active : entity.receiver.active with
  | true =>
    have own := callbacks.onReceived active
    cases step with
    | unhandled => exact .inr ⟨own, .inl rfl⟩
    | kept _ _ handled => exact .inr ⟨own, handled.handle active⟩
    | failed => exact .inr ⟨own, .inr rfl⟩
  | false =>
    cases step with
    | unhandled => exact .inr ⟨.nil, .inl rfl⟩
    | kept _ _ handled => exact handled.idle active
    | failed _ _ handled failed matched =>
      -- a handler that fails leaves no active slot behind unless there was one
      rw [receiverActiveMatchesHeader, Bool.and_eq_true] at matched
      have before := (handled.confined.afterwards failed matched.1).1
      exact (Bool.false_ne_true (active.symm.trans before)).elim

theorem ReceiverStep.onReceived (step : ReceiverStep fs pdu entity t status entity')
    (holds : HoldsReceived entity.receiver received) :
    ∃ received', receivedBacks received t = some received' ∧ HoldsReceived entity'.receiver received' := by
  rcases step.files with ⟨path, reply, rfl, ok, handle⟩ | ⟨own, same | null⟩
  · refine ⟨some reply.handle, ?_, .inr (by rw [handle])⟩
    rw [receivedBacks, Monitor.run_singleton, receivedBack, if_pos ok]
  · refine ⟨received, own.accepted holds, ?_⟩
    rwa [HoldsReceived, same]
  · exact ⟨received, own.accepted holds, .inl null⟩

omit [ZephyrCrc]

/-- `poll` closes the file of the slot, if anything. -/
theorem ReceiverPolled.files {now : Nat} (polled : ReceiverPolled entity now t entity') :
    AllOnReceived entity.receiver.fileHandle t ∧
      (entity'.receiver.fileHandle = entity.receiver.fileHandle ∨ entity'.receiver.fileHandle = 0) := by
  cases polled with
  | idle => exact ⟨.nil, .inl rfl⟩
  | askedAgain _ _ _ nak => exact ⟨nak.onReceived, .inl rfl⟩
  | reportedAgain _ _ _ sent => exact ⟨sent.onReceived, .inl rfl⟩
  | @recoveryEnded t u status _ _ _ asked _ discarded =>
    have ended := AllOnReceived.append discarded.onReceived
      (terminalEvent_onReceived entity entity.receiver.id status)
    rcases asked with rfl | nak
    · exact ⟨ended, .inr rfl⟩
    · exact ⟨nak.onReceived.append ended, .inr rfl⟩
  | waitEnded _ _ _ reported =>
    rcases reported with rfl | sent
    · exact ⟨terminalEvent_onReceived _ _ _, .inr rfl⟩
    · exact ⟨sent.onReceived.append (terminalEvent_onReceived _ _ _), .inr rfl⟩

theorem ReceiverPolled.onReceived {now : Nat} (polled : ReceiverPolled entity now t entity')
    (holds : HoldsReceived entity.receiver received) :
    receivedBacks received t = some received ∧ HoldsReceived entity'.receiver received := by
  obtain ⟨own, same | null⟩ := polled.files
  · refine ⟨own.accepted holds, ?_⟩
    rwa [HoldsReceived, same]
  · exact ⟨own.accepted holds, .inl null⟩

end Steps

end ZephyrCcsds.Cfdp
