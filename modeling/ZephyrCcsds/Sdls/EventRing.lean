import ZephyrCcsds.Ring
import ZephyrCcsds.Runs
import ZephyrCcsds.Sdls.EpLimit
import ZephyrCcsds.Sdls.Transactions

/-! # The event log

`ccsds_sdls_event_record` and the three monitoring commands about the log, over any number of them.

* `EventLog.Represents` — the indices and the count of the context are those of a circular buffer.
* `EventLog.Holds` — what the log holds of the events since it has been erased.
* `LogStep.holds` — one operation keeps that.
-/

namespace ZephyrCcsds.Sdls

open Bytes Callback Records

variable [Kconfig]

/-! ## The ring -/

/-- The events from the oldest to the newest, as Dump Log reads them -/
def EventLog.contents (log : EventLog) : List Event :=
  (List.range log.count).map fun i => log.events (logIndex (log.readIndex.val + i))

/-- The fields of the context stand for a circular buffer. -/
structure EventLog.Represents (log : EventLog) (ring : Ring Event eventLogCapacity) : Prop where
  events : log.events = ring.cells
  readIndex : log.readIndex = Ring.cell ring.positive ring.start
  writeIndex : log.writeIndex = Ring.cell ring.positive (ring.start + ring.count)
  count : log.count = ring.count

/-- A buffer without events -/
def emptyRing : Ring Event eventLogCapacity := .empty Kconfig.eventLogCapacity_range.1 fun _ => .zero

variable {log : EventLog} {ring : Ring Event eventLogCapacity}

theorem EventLog.zero_represents : EventLog.zero.Represents emptyRing := ⟨rfl, rfl, rfl, rfl⟩

theorem EventLog.Represents.contents (represents : log.Represents ring) : log.contents = ring.toList := by
  unfold EventLog.contents Ring.toList
  rw [represents.count, represents.events, represents.readIndex]
  apply List.map_congr_left
  intro i _
  congr 1
  exact Ring.cell_congr ring.positive (Nat.mod_add_mod ..)

/-- The next index round the ring -/
theorem logIndex_next (positive : 0 < eventLogCapacity) (i : Nat) :
    logIndex ((Ring.cell positive i).val + 1) = Ring.cell positive (i + 1) :=
  Ring.cell_congr positive (Nat.mod_add_mod ..)

/-- Recording is pushing: with room the count grows, without the read index follows the write index. -/
theorem EventLog.Represents.record (represents : log.Represents ring) (event : Event) :
    (log.record event).Represents (ring.push event) := by
  have bounded := ring.bounded
  unfold EventLog.record Ring.push
  by_cases room : ring.count < eventLogCapacity
  · rw [dif_pos room, if_pos (by rw [represents.count]; exact room)]
    constructor
    case events =>
      show Function.update log.events log.writeIndex event = Function.update ring.cells _ event
      rw [represents.events, represents.writeIndex]
    case readIndex => exact represents.readIndex
    case writeIndex =>
      show logIndex (log.writeIndex.val + 1) = _
      rw [represents.writeIndex]
      exact logIndex_next ring.positive _
    case count =>
      show log.count + 1 = ring.count + 1
      rw [represents.count]
  · rw [dif_neg room, if_neg (by rw [represents.count]; exact room)]
    constructor
    case events =>
      show Function.update log.events log.writeIndex event = Function.update ring.cells _ event
      rw [represents.events, represents.writeIndex]
    case readIndex =>
      show logIndex (log.readIndex.val + 1) = _
      rw [represents.readIndex]
      exact logIndex_next ring.positive _
    case writeIndex =>
      show logIndex (log.writeIndex.val + 1) = Ring.cell ring.positive (ring.start + 1 + ring.count)
      rw [represents.writeIndex, show ring.start + 1 + ring.count = ring.start + ring.count + 1 by omega]
      exact logIndex_next ring.positive _
    case count => exact represents.count

/-! ## What the log holds -/

/-- The log after `recorded` has been recorded into an empty one: the newest events, and how many are lost, up to
the range of the counter. -/
structure EventLog.Holds (log : EventLog) (recorded : List Event) : Prop where
  represents : ∃ ring, log.Represents ring ∧ ring.toList = recorded.rtake eventLogCapacity
  overwrites : log.overwrites = min 255 (recorded.length - eventLogCapacity)

variable {recorded : List Event}

theorem EventLog.zero_holds : EventLog.zero.Holds [] := by
  have none : ([] : List Event).length - eventLogCapacity = 0 := by simp
  refine ⟨⟨emptyRing, EventLog.zero_represents, ?_⟩, ?_⟩
  · rw [List.rtake_nil]
    rfl
  · rw [none]
    rfl

theorem EventLog.Holds.contents (holds : log.Holds recorded) : log.contents = recorded.rtake eventLogCapacity := by
  obtain ⟨ring, represents, held⟩ := holds.represents
  rw [represents.contents, held]

theorem EventLog.Holds.count (holds : log.Holds recorded) : log.count = min recorded.length eventLogCapacity := by
  have length : log.contents.length = log.count := by simp [EventLog.contents]
  rw [← length, holds.contents, List.rtake, List.length_drop]
  omega

/-- The overwrite counter counts the records that find the log full. -/
theorem EventLog.Holds.record (holds : log.Holds recorded) (event : Event) :
    (log.record event).Holds (recorded ++ [event]) := by
  obtain ⟨ring, represents, held⟩ := holds.represents
  refine ⟨⟨ring.push event, represents.record event, ring.toList_push_of event recorded held⟩, ?_⟩
  have count := holds.count
  have overwrites := holds.overwrites
  have length : (recorded ++ [event]).length = recorded.length + 1 := by simp
  unfold EventLog.record
  rw [length]
  by_cases room : log.count < eventLogCapacity
  · rw [if_pos room]
    show log.overwrites = _
    omega
  · rw [if_neg room]
    show (if log.overwrites ≠ 255 then log.overwrites + 1 else log.overwrites) = _
    by_cases saturated : log.overwrites = 255
    · rw [if_neg (not_not.mpr saturated)]
      omega
    · rw [if_pos saturated]
      omega

/-! ## The commands -/

/-- The monitoring commands about the log -/
inductive LogCommand where
  | status
  | dump
  | erase
  deriving DecidableEq, Repr

def LogCommand.procedure : LogCommand → Procedure
  | status => .logStatus
  | dump => .dumpLog
  | erase => .eraseLog

/-- The octets that a command answers with -/
def LogCommand.reply (log : EventLog) : LogCommand → Bytes
  | status => encodeLogSummary .logStatus log.count (eventLogCapacity - log.count)
  | dump => encodeHeader .reply .dumpLog (log.count * eventWireLen) ++ log.contents.flatMap Event.encode
  | erase => encodeLogSummary .eraseLog 0 eventLogCapacity

/-- The log behind a command that is carried out -/
def LogCommand.after (log : EventLog) : LogCommand → EventLog
  | erase => .zero
  | _ => log

variable {s : State} {command : LogCommand}

theorem LogCommand.data_decode (command : LogCommand) :
    epDataDecode .command command.procedure (epMonitoringCommandEncode command.procedure) = .ok [] := by
  have limits := epPduMax_bounds
  have supported : procedureSupported .command command.procedure = true := by cases command <;> rfl
  have decoded := epDataDecode_encodeHeader [] supported (by decide) (by
    rw [List.append_nil, encodeHeader_length]
    show 3 ≤ _
    omega)
  rwa [List.append_nil] at decoded

theorem LogCommand.pdu_decode (command : LogCommand) :
    ∃ pdu, epPduDecode (epMonitoringCommandEncode command.procedure) = .ok pdu ∧ pdu.type = .command ∧
      pdu.procedure = command.procedure := by
  have decoded := command.data_decode
  unfold epDataDecode at decoded
  cases accepted : epPduDecode (epMonitoringCommandEncode command.procedure) with
  | error e =>
    rw [accepted] at decoded
    cases decoded
  | ok pdu =>
    rw [accepted] at decoded
    by_cases other : pdu.type ≠ .command ∨ pdu.procedure ≠ command.procedure
    · simp [other] at decoded
    · exact ⟨pdu, rfl, not_not.mp fun type => other (.inl type), not_not.mp fun name => other (.inr name)⟩

theorem LogCommand.empty_decode (command : LogCommand) :
    decodeEmptyMonitoringCommand command.procedure (epMonitoringCommandEncode command.procedure) = .ok () := by
  rw [decodeEmptyMonitoringCommand, command.data_decode]
  rfl

omit [Kconfig] in
theorem encodeLogSummary_length (procedure : Procedure) (retained remaining : Nat) :
    (encodeLogSummary procedure retained remaining).length = epHeaderLen + 4 := by
  simp [encodeLogSummary, encodeHeader_length, putBe_length]

theorem EventLog.dump_length (log : EventLog) :
    (log.contents.flatMap Event.encode).length = log.count * eventWireLen := by
  have length : log.contents.length = log.count := by simp [EventLog.contents]
  rw [flatMap_length _ fun event _ => event.encode_length, length]

theorem epDumpLogReplyEncode_eq (ctx : Ctx) (outCapacity : Nat) :
    epDumpLogReplyEncode ctx outCapacity =
      if outCapacity < (LogCommand.dump.reply ctx.log).length then .error .capacity
      else .ok (LogCommand.dump.reply ctx.log) := by
  have length : (LogCommand.dump.reply ctx.log).length = pduSize (ctx.log.count * eventWireLen) := by
    rw [LogCommand.reply, List.length_append, encodeHeader_length, EventLog.dump_length]
    rfl
  rw [length, LogCommand.reply, EventLog.contents, List.flatMap_map]
  rfl

/-- A command that has room for its reply answers, and is refused without it. -/
def LogCommand.Answers (command : LogCommand) (s : State) (result : Except SdlsError Nat) (s' : State) : Prop :=
  if s.out.length < (command.reply s.ctx.log).length then result = .error .capacity ∧ s' = s
  else
    result = .ok (command.reply s.ctx.log).length ∧ s'.ctx.log = command.after s.ctx.log ∧
      s'.out = s.out.overwrite 0 (command.reply s.ctx.log)

theorem LogCommand.answers_short (short : s.out.length < (command.reply s.ctx.log).length) :
    command.Answers s (.error .capacity) s := by
  rw [LogCommand.Answers, if_pos short]
  exact ⟨rfl, rfl⟩

theorem LogCommand.answers_room {len : Nat} {s' : State} (room : ¬ s.out.length < (command.reply s.ctx.log).length)
    (length : len = (command.reply s.ctx.log).length) (log : s'.ctx.log = command.after s.ctx.log)
    (out : s'.out = s.out.overwrite 0 (command.reply s.ctx.log)) : command.Answers s (.ok len) s' := by
  rw [LogCommand.Answers, if_neg room, length]
  exact ⟨rfl, log, out⟩

theorem processMonitoring_log {pdu : EpPdu} (typed : pdu.type = .command)
    (named : pdu.procedure = command.procedure) (s : State) :
    (processMonitoring pdu (epMonitoringCommandEncode command.procedure)).wp anyPsa
      (fun _ len s' => command.Answers s (.ok len) s') (fun _ e s' => command.Answers s (.error e) s') s := by
  unfold processMonitoring
  rw [Fallible.wp_bind, Fallible.wp_failIf, Fallible.wp_bind, named, command.empty_decode, Fallible.wp_ofExcept_ok,
    Fallible.wp_bind, Fallible.wp_read]
  refine ⟨fun other => absurd typed other, fun _ => ?_⟩
  cases command with
  | status =>
    have length : (LogCommand.status.reply s.ctx.log).length = epHeaderLen + 4 := encodeLogSummary_length ..
    simp only [LogCommand.procedure, writeReply, Fallible.wp_bind, Fallible.wp_failIf, Fallible.wp_modify,
      Fallible.wp_pure, ← length]
    exact ⟨fun short => LogCommand.answers_short short, fun room => LogCommand.answers_room room rfl rfl rfl⟩
  | dump =>
    simp only [LogCommand.procedure, writeReply, Fallible.wp_bind, epDumpLogReplyEncode_eq]
    by_cases short : s.out.length < (LogCommand.dump.reply s.ctx.log).length
    · rw [if_pos short, Fallible.wp_ofExcept_error]
      exact LogCommand.answers_short short
    · rw [if_neg short, Fallible.wp_ofExcept_ok]
      exact LogCommand.answers_room short rfl rfl rfl
  | erase =>
    have length : (LogCommand.erase.reply s.ctx.log).length = epHeaderLen + 4 := encodeLogSummary_length ..
    simp only [LogCommand.procedure, writeReply, Fallible.wp_bind, Fallible.wp_failIf, Fallible.wp_modify,
      Fallible.wp_pure, ← length]
    exact ⟨fun short => LogCommand.answers_short short, fun room => LogCommand.answers_room room rfl rfl rfl⟩

/-- The packet service around a command about the log: a reply that does not fit is not an event. -/
theorem processPdu_log (command : LogCommand) (s : State) :
    (processPdu (epMonitoringCommandEncode command.procedure)).wp anyPsa
      (fun _ result s' =>
        if s.out.length < (command.reply s.ctx.log).length then
          result = .error .capacity ∧ s'.ctx.log = s.ctx.log ∧ s'.out = s.out ∧ s'.outLen = s.outLen
        else
          result = .ok () ∧ s'.ctx.log = command.after s.ctx.log ∧
            s'.out = s.out.overwrite 0 (command.reply s.ctx.log) ∧ s'.outLen = (command.reply s.ctx.log).length)
      s := by
  obtain ⟨pdu, decoded, typed, named⟩ := command.pdu_decode
  have run : runPdu (epMonitoringCommandEncode command.procedure) =
      (some pdu, processMonitoring pdu (epMonitoringCommandEncode command.procedure)) := by
    rw [runPdu, decoded]
    dsimp only
    rw [recipient, named]
    cases command <;> rfl
  simp only [processPdu, Prog.wp_bind, Prog.wp_read, run]
  apply Prog.wp_mono (processMonitoring_log typed named s)
  intro t result s' answers
  cases result with
  | ok len =>
    simp only [Prog.wp_bind, Prog.wp_modify, Prog.wp_pure]
    have answers : command.Answers s (.ok len) s' := answers
    unfold LogCommand.Answers at answers
    by_cases short : s.out.length < (command.reply s.ctx.log).length
    · rw [if_pos short] at answers
      cases answers.1
    · rw [if_neg short] at answers ⊢
      obtain ⟨length, log, out⟩ := answers
      cases length
      refine ⟨by trivial, ?_, out, rfl⟩
      show (Ctx.endTransaction s'.ctx).log = _
      rw [Ctx.endTransaction_eq]
      exact log
  | error e =>
    simp only [Prog.wp_bind, Prog.wp_modify, Prog.wp_pure]
    have answers : command.Answers s (.error e) s' := answers
    unfold LogCommand.Answers at answers
    by_cases short : s.out.length < (command.reply s.ctx.log).length
    · rw [if_pos short] at answers ⊢
      obtain ⟨capacity, rfl⟩ := answers
      cases capacity
      refine ⟨rfl, ?_, rfl, rfl⟩
      show (Ctx.endTransaction (s'.ctx.recordFailure _ _ _ _)).log = _
      rw [Ctx.recordFailure, if_pos ⟨rfl, rfl⟩, Ctx.endTransaction_eq]
    · rw [if_neg short] at answers
      cases answers.1

/-! ## Histories -/

/-- An operation on the log with what came of it -/
inductive LogLabel where
  | record (event : Event)
  | command (command : LogCommand) (result : Except SdlsError Unit)

/-- An event recorded by whatever part of the module, or a command about the log with any reply buffer -/
inductive LogStep : Ctx → LogLabel → Ctx → Prop where
  | record (ctx : Ctx) (tag : UInt8) (code : EventCode) (spi : Nat) (arsn : UInt32) :
      LogStep ctx (.record { pduOrEventTag := tag, eventCode := code.code, spi := spi, arsn := arsn })
        (ctx.eventRecord tag code spi arsn)
  | command (command : LogCommand) {s s' : State} {t : List Item} {result : Except SdlsError Unit} :
      (processPdu (epMonitoringCommandEncode command.procedure)).Runs anyPsa s t result s' →
      LogStep s.ctx (.command command result) s'.ctx

/-- The events since the last Erase Log that has been carried out -/
def eventsAfter (recorded : List Event) : LogLabel → List Event
  | .record event => recorded ++ [event]
  | .command .erase (.ok _) => []
  | _ => recorded

def recordedSinceErase (labels : List LogLabel) : List Event := labels.foldl eventsAfter []

theorem LogStep.holds {ctx ctx' : Ctx} {label : LogLabel} (step : LogStep ctx label ctx')
    (holds : ctx.log.Holds recorded) : ctx'.log.Holds (eventsAfter recorded label) := by
  cases step with
  | record tag code spi arsn => exact holds.record _
  | @command command s s' t result runs =>
    have post := Prog.wp_of_runs (processPdu_log command s) runs
    by_cases short : s.out.length < (command.reply s.ctx.log).length
    · rw [if_pos short] at post
      rw [post.1, post.2.1]
      cases command <;> exact holds
    · rw [if_neg short] at post
      rw [post.1, post.2.1]
      cases command with
      | erase => exact EventLog.zero_holds
      | status => exact holds
      | dump => exact holds

theorem LogRun.holds {labels : List LogLabel} {ctx ctx' : Ctx} (start : ctx.log = .zero)
    (run : Run LogStep ctx labels ctx') : ctx'.log.Holds (recordedSinceErase labels) := by
  have keep : ∀ past ctx label ctx', ctx.log.Holds (recordedSinceErase past) → LogStep ctx label ctx' →
      ctx'.log.Holds (recordedSinceErase (past ++ [label])) := by
    intro past ctx label ctx' holds step
    rw [recordedSinceErase, List.foldl_append]
    exact step.holds holds
  have init : ctx.log.Holds (recordedSinceErase []) := by
    rw [start]
    exact EventLog.zero_holds
  exact Run.invariant_history keep init run

/-- Initialization leaves the log empty. -/
theorem init_log (configuration : Configuration) : (init configuration).log = .zero :=
  @init_unchanged _ _ Ctx.log (fun _ _ => rfl) (fun _ _ => rfl) configuration

/-- A Dump Log reply is a PDU with the contents of the log as its data. -/
theorem EventLog.Holds.dump_decode (holds : log.Holds recorded) :
    epDataDecode .reply .dumpLog (LogCommand.dump.reply log) = .ok (log.contents.flatMap Event.encode) := by
  have capacity := Kconfig.eventLogCapacity_range
  have limits := epPduMax_bounds
  have count := holds.count
  have length := log.dump_length
  have wire : log.count * eventWireLen = log.count * 10 := rfl
  have header : epHeaderLen = 3 := rfl
  have small : (log.contents.flatMap Event.encode).length * 8 < 65536 := by omega
  have fits : (encodeHeader .reply .dumpLog (log.contents.flatMap Event.encode).length ++
      log.contents.flatMap Event.encode).length ≤ epPduMax := by
    rw [List.length_append, encodeHeader_length]
    omega
  have decoded := epDataDecode_encodeHeader (log.contents.flatMap Event.encode) rfl small fits
  rwa [length] at decoded

/-- After any records, dumps, status requests and erasures the log holds the newest of the events since the last
erasure; a dump writes these, ten octets each, and leaves them, a status request counts them, and the overwrite
counter counts the others. -/
theorem event_log_newest (configuration : Configuration) {labels : List LogLabel} {ctx : Ctx}
    (run : Run LogStep (init configuration) labels ctx) :
    let recorded := recordedSinceErase labels
    let retained := recorded.rtake eventLogCapacity
    ctx.log.contents = retained ∧ retained.length = min recorded.length eventLogCapacity ∧
      ctx.log.overwrites =
        (if eventLogCapacity < recorded.length then min 255 (recorded.length - eventLogCapacity) else 0) ∧
      (∀ (s s' : State) (t : List Item) (result : Except SdlsError Unit), s.ctx = ctx →
        (processPdu (epMonitoringCommandEncode .dumpLog)).Runs anyPsa s t result s' →
          s'.ctx.log = ctx.log ∧
            if s.out.length < 3 + 10 * retained.length then result = .error .capacity ∧ s'.out = s.out
            else
              result = .ok () ∧ s'.outLen = 3 + 10 * retained.length ∧
                s'.out.take s'.outLen =
                  0xb3 :: Bytes.putBe 2 (8 * (10 * retained.length)) ++ retained.flatMap Event.encode ∧
                epDataDecode .reply .dumpLog (s'.out.take s'.outLen) = .ok (retained.flatMap Event.encode)) ∧
      (∀ event ∈ retained, event.encode.length = 10 ∧
        event.encode = [event.pduOrEventTag, 0, 7, UInt8.ofNat event.eventCode] ++ Bytes.putBe 2 event.spi ++
          Bytes.putBe 4 event.arsn.toNat) ∧
      ∀ (s s' : State) (t : List Item) (result : Except SdlsError Unit), s.ctx = ctx →
        (processPdu (epMonitoringCommandEncode .logStatus)).Runs anyPsa s t result s' →
          s'.ctx.log = ctx.log ∧
            if s.out.length < 7 then result = .error .capacity ∧ s'.out = s.out
            else
              result = .ok () ∧ s'.outLen = 7 ∧
                s'.out.take s'.outLen = [0xb2, 0, 32] ++ Bytes.putBe 2 retained.length ++
                  Bytes.putBe 2 (eventLogCapacity - retained.length) := by
  intro recorded retained
  have holds : ctx.log.Holds recorded := LogRun.holds (init_log configuration) run
  have contents : ctx.log.contents = retained := holds.contents
  have count : ctx.log.count = retained.length := by
    rw [← contents]
    simp [EventLog.contents]
  have written : ∀ (out reply : Bytes), reply.length ≤ out.length →
      (out.overwrite 0 reply).take reply.length = reply := by
    intro out reply _
    have front : (out.overwrite 0 reply).slice 0 reply.length = reply := slice_overwrite (Nat.zero_le _)
    exact front
  refine ⟨contents, ?_, ?_, ?_, ?_, ?_⟩
  · rw [← count]
    exact holds.count
  · rw [holds.overwrites]
    by_cases wrapped : eventLogCapacity < recorded.length
    · rw [if_pos wrapped]
    · rw [if_neg wrapped]
      omega
  · intro s s' t result here runs
    have post := Prog.wp_of_runs (processPdu_log .dump s) runs
    have length : (LogCommand.dump.reply s.ctx.log).length = 3 + 10 * retained.length := by
      rw [here, LogCommand.reply, List.length_append, encodeHeader_length, EventLog.dump_length, count, Nat.mul_comm]
      rfl
    rw [length] at post
    by_cases short : s.out.length < 3 + 10 * retained.length
    · rw [if_pos short] at post ⊢
      obtain ⟨refused, same, out, _⟩ := post
      exact ⟨here ▸ same, refused, out⟩
    · rw [if_neg short] at post ⊢
      obtain ⟨accepted, same, out, outLen⟩ := post
      have reply : s'.out.take s'.outLen = LogCommand.dump.reply ctx.log := by
        rw [out, outLen, ← length, written _ _ (by omega), here]
      refine ⟨here ▸ same, accepted, outLen, ?_, ?_⟩
      · rw [reply, LogCommand.reply, contents, count, Nat.mul_comm 8, Nat.mul_comm 10]
        rfl
      · rw [reply, holds.dump_decode, contents]
  · intro event _
    exact ⟨event.encode_length, rfl⟩
  · intro s s' t result here runs
    have post := Prog.wp_of_runs (processPdu_log .status s) runs
    have length : (LogCommand.status.reply s.ctx.log).length = 7 := encodeLogSummary_length ..
    rw [length] at post
    by_cases short : s.out.length < 7
    · rw [if_pos short] at post ⊢
      obtain ⟨refused, same, out, _⟩ := post
      exact ⟨here ▸ same, refused, out⟩
    · rw [if_neg short] at post ⊢
      obtain ⟨accepted, same, out, outLen⟩ := post
      refine ⟨here ▸ same, accepted, outLen, ?_⟩
      rw [out, outLen, ← length, written _ _ (by omega), here, LogCommand.reply, count]
      rfl

end ZephyrCcsds.Sdls

namespace ZephyrCcsds.Sdls

section Sample

attribute [local instance] defaultKconfig

/-- Nine events in a log for eight -/
def nineEvents : List LogLabel :=
  List.replicate 9 (.record { pduOrEventTag := eventTagLocal, eventCode := 1, spi := 0, arsn := 0 })

theorem LogRun.records (n : Nat) (ctx : Ctx) :
    ∃ ctx', Run LogStep ctx
      (List.replicate n (.record { pduOrEventTag := eventTagLocal, eventCode := 1, spi := 0, arsn := 0 })) ctx' := by
  induction n generalizing ctx with
  | zero => exact ⟨ctx, .done⟩
  | succ n ih =>
    obtain ⟨ctx', rest⟩ := ih (ctx.eventRecord eventTagLocal .format 0 0)
    exact ⟨ctx', .step (.record ctx eventTagLocal .format 0 0) rest⟩

theorem event_log_newest_nine :
    ∃ ctx, Run LogStep (init sampleConfiguration) nineEvents ctx ∧ ctx.log.contents.length = 8 ∧
      ctx.log.overwrites = 1 := by
  obtain ⟨ctx, run⟩ := LogRun.records 9 (init sampleConfiguration)
  obtain ⟨contents, retained, overwrites, _⟩ := event_log_newest sampleConfiguration run
  refine ⟨ctx, run, ?_, overwrites⟩
  rw [contents]
  exact retained

end Sample

end ZephyrCcsds.Sdls
