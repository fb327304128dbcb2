import Mathlib.Data.List.Nodup
import ZephyrCcsds.Cfdp.SourceFile

/-! # What a receiver stores

The filestore of a receiver may fail at any callback, but what it reports as done it has done.  A receiver that hears
only what a sender `Tells` writes octets of a put file where they belong, commits the file when it has all of them,
and reports nothing that it has not committed.

* `Disk.Does` — the filestore at one callback.
* `Copies` — a temporary file that agrees with the put file on the received ranges.
* `Storing` — the receiver slot and the disk between two calls.
* `Answering` — a trace of the receiver: every report it sends is true.
-/

namespace ZephyrCcsds.Cfdp

open Callback Bytes Spans

/-! ## The filestore -/

/-- The temporary file, whether its handle is open, and the committed files with their octets -/
structure Disk where
  tmp : Option TmpFile
  isOpen : Bool
  committed : List (Bytes × Bytes)
  deriving DecidableEq, Repr

def Disk.close (disk : Disk) (handle : Handle) : Disk :=
  if disk.tmp.any (fun file => file.handle == handle) then { disk with isOpen := false } else disk

def Disk.clear (disk : Disk) : Disk := { disk with tmp := none, isOpen := false }

/-- What the filestore may do at a callback.  A write, an opening and a commit that are reported as done are done,
and only the open temporary file can be written; after a write or an opening that failed nothing is known of it. -/
def Disk.Does (disk : Disk) : Obs → Disk → Prop
  | ⟨.openWriteTmp _ path, reply⟩, disk' =>
    if reply.rc = 0 then
      disk' = { disk with tmp := some { path, handle := reply.handle, octets := [] }, isOpen := true }
    else disk'.committed = disk.committed
  | ⟨.write _ handle offset data, rc⟩, disk' =>
    if rc = 0 then
      ∃ file, disk.tmp = some file ∧ disk.isOpen = true ∧ file.handle = handle ∧
        disk' = { disk with tmp := some (file.write offset data) }
    else disk'.committed = disk.committed
  | ⟨.close _ handle, _⟩, disk' => disk' = disk.close handle
  | ⟨.commitTmp _ path, rc⟩, disk' =>
    if rc = 0 then
      ∃ file, disk.tmp = some file ∧ file.path = path ∧
        disk' = { disk.clear with committed := (path, file.octets) :: disk.committed }
    else disk' = disk ∨ disk' = disk.clear
  | ⟨.discardTmp _ _, _⟩, disk' => disk' = disk ∨ disk' = disk.clear
  | _, disk' => disk' = disk

/-- A callback that has nothing to do with the temporary file -/
def Obs.aside : Obs → Bool
  | ⟨.sendPdu _ _, _⟩ => true
  | ⟨.nowMs, _⟩ => true
  | ⟨.event _ _ _ _, _⟩ => true
  | ⟨.read _ _ _ _, _⟩ => true
  | _ => false

abbrev Aside (t : Trace) : Prop := ∀ obs ∈ t, obs.aside = true

/-- A callback that commits nothing -/
def Obs.commitless : Obs → Bool
  | ⟨.commitTmp _ _, _⟩ => false
  | _ => true

abbrev Commitless (t : Trace) : Prop := ∀ obs ∈ t, obs.commitless = true

section Disks

variable {disk disk' : Disk} {obs : Obs} {t u : Trace} {status : Status} {entity : Entity}

@[simp] theorem Disk.close_committed (disk : Disk) (handle : Handle) : (disk.close handle).committed = disk.committed := by
  unfold Disk.close
  split <;> rfl

@[simp] theorem Disk.close_tmp (disk : Disk) (handle : Handle) : (disk.close handle).tmp = disk.tmp := by
  unfold Disk.close
  split <;> rfl

@[simp] theorem Disk.clear_committed (disk : Disk) : disk.clear.committed = disk.committed := rfl

theorem Disk.close_shut (disk : Disk) (handle : Handle) (shut : disk.isOpen = false) :
    (disk.close handle).isOpen = false := by
  unfold Disk.close
  by_cases own : (disk.tmp.any fun file => file.handle == handle) = true
  · rw [if_pos own]
  · rw [if_neg own]
    exact shut

theorem Disk.Does.aside (does : disk.Does obs disk') (aside : obs.aside = true) : disk' = disk := by
  obtain ⟨op, result⟩ := obs
  cases op with
  | sendPdu | nowMs | event | read => exact does
  | openRead | openWriteTmp | write | close | commitTmp | discardTmp => cases aside

theorem Disk.Does.commitless (does : disk.Does obs disk') (commitless : obs.commitless = true) :
    disk'.committed = disk.committed := by
  obtain ⟨op, result⟩ := obs
  cases op with
  | sendPdu | nowMs | event | read | openRead =>
    cases does
    rfl
  | openWriteTmp =>
    simp only [Disk.Does] at does
    split_ifs at does
    · rw [does]
    · exact does
  | write =>
    simp only [Disk.Does] at does
    split_ifs at does
    · obtain ⟨file, _, _, _, rfl⟩ := does
      rfl
    · exact does
  | close =>
    cases does
    exact disk.close_committed _
  | discardTmp => rcases does with rfl | rfl <;> rfl
  | commitTmp => cases commitless

/-- What is committed stays committed. -/
theorem Disk.Does.keeps (does : disk.Does obs disk') : disk.committed ⊆ disk'.committed := by
  by_cases commitless : obs.commitless = true
  · rw [does.commitless commitless]
    exact List.Subset.refl _
  · obtain ⟨op, result⟩ := obs
    cases op with
    | commitTmp =>
      simp only [Disk.Does] at does
      split_ifs at does
      · obtain ⟨file, _, _, rfl⟩ := does
        exact List.subset_cons_self _ _
      · rcases does with rfl | rfl
        · exact List.Subset.refl _
        · exact List.Subset.refl _
    | _ => exact (commitless rfl).elim

theorem Disk.keeps_of_run (run : Run Disk.Does disk t disk') : disk.committed ⊆ disk'.committed := by
  induction run with
  | done => exact List.Subset.refl _
  | step does _ ih => exact List.Subset.trans does.keeps ih

theorem Disk.aside_of_run (run : Run Disk.Does disk t disk') (aside : Aside t) : disk' = disk := by
  induction run with
  | done => rfl
  | step does _ ih =>
    rw [ih fun obs mem => aside obs (List.mem_cons_of_mem _ mem)]
    exact does.aside (aside _ List.mem_cons_self)

theorem Disk.commitless_of_run (run : Run Disk.Does disk t disk') (commitless : Commitless t) :
    disk'.committed = disk.committed := by
  induction run with
  | done => rfl
  | step does _ ih =>
    rw [ih fun obs mem => commitless obs (List.mem_cons_of_mem _ mem)]
    exact does.commitless (commitless _ List.mem_cons_self)

theorem Disk.does_of_run (run : Run Disk.Does disk [obs] disk') : disk.Does obs disk' := by
  cases run with
  | step does rest =>
    cases rest
    exact does

theorem Sent.aside {dest : Nat} {encoded : Except Status Bytes} (sent : Sent dest encoded t status) :
    Aside t := by
  intro obs mem
  cases sent with
  | refused => cases mem
  | sent => cases List.mem_singleton.mp mem; rfl

theorem terminalEvent_aside (entity : Entity) (role : Role) (id : TransactionId) (status : Status) :
    Aside (terminalEvent entity role id status) := by
  intro obs mem
  unfold terminalEvent at mem
  split at mem
  · cases List.mem_singleton.mp mem
    rfl
  · cases mem

theorem Clock.aside {now : Nat} (clock : Clock entity t now) : Aside t := by
  intro obs mem
  cases clock with
  | asked => cases List.mem_singleton.mp mem; rfl
  | none => cases mem

theorem aside_append (first : Aside t) (rest : Aside u) :
    Aside (t ++ u) := by
  intro obs mem
  rcases List.mem_append.mp mem with front | back
  · exact first obs front
  · exact rest obs back

theorem commitless_of_aside (aside : Aside t) : Commitless t := by
  intro obs mem
  have none := aside obs mem
  obtain ⟨op, result⟩ := obs
  cases op with
  | commitTmp => cases none
  | _ => rfl

theorem aside_nil : Aside [] := by
  intro obs mem
  cases mem

theorem commitless_nil : Commitless [] := by
  intro obs mem
  cases mem

theorem commitless_append {u : Trace} (first : Commitless t) (rest : Commitless u) : Commitless (t ++ u) := by
  intro obs mem
  rcases List.mem_append.mp mem with front | back
  · exact first obs front
  · exact rest obs back

end Disks

/-! ## A copy in the making -/

/-- A temporary file that agrees with the put file on the received ranges -/
structure Copies (octets : Bytes) (ranges : Ranges) (file : Bytes) : Prop where
  length : octets.length ≤ file.length
  agrees : ∀ x ∈ cover ranges, x < octets.length ∧ octets[x]? = file[x]?

section Copying

variable {octets data file : Bytes} {ranges : Ranges} {offset : Nat}

theorem Copies.empty (file : Bytes) : Copies [] rangesInit file where
  length := Nat.zero_le _
  agrees x mem := by
    rw [rangesInit, cover_nil] at mem
    exact mem.elim

theorem TmpFile.write_length (tmp : TmpFile) (offset : Nat) (data : Bytes) :
    (tmp.write offset data).octets.length = max tmp.octets.length (offset + data.length) := by
  simp only [TmpFile.write, overwrite, List.length_append, List.length_take, List.length_drop, List.length_replicate]
  omega

/-- Octets of the file are written where they stand in it. -/
theorem Copies.write {tmp : TmpFile} (copies : Copies tmp.octets ranges file)
    (inside : offset + data.length ≤ file.length) (same : data = slice file offset data.length) :
    Copies (tmp.write offset data).octets ranges file ∧
      ∀ x, offset ≤ x → x < offset + data.length →
        x < (tmp.write offset data).octets.length ∧ (tmp.write offset data).octets[x]? = file[x]? := by
  have start : offset ≤ (tmp.octets ++ List.replicate (offset - tmp.octets.length) 0).length := by
    rw [List.length_append, List.length_replicate]
    omega
  have long := tmp.write_length offset data
  have written : ∀ x, offset ≤ x → x < offset + data.length →
      x < (tmp.write offset data).octets.length ∧ (tmp.write offset data).octets[x]? = file[x]? := by
    intro x behind before
    refine ⟨by omega, ?_⟩
    have here : data[x - offset]? = file[x]? := by
      rw [same, slice, List.getElem?_take_of_lt (by omega), List.getElem?_drop, Nat.add_sub_cancel' behind]
    rw [TmpFile.write, overwrite_getElem?_of_start start, if_pos ⟨behind, before⟩, here]
  refine ⟨⟨?_, fun x mem => ?_⟩, written⟩
  · have short := copies.length
    omega
  · obtain ⟨held, agrees⟩ := copies.agrees x mem
    by_cases new : offset ≤ x ∧ x < offset + data.length
    · exact written x new.1 new.2
    · refine ⟨by omega, ?_⟩
      rw [TmpFile.write, overwrite_getElem?_of_start start, if_neg new, List.getElem?_append_left held, agrees]

theorem Copies.add [Kconfig] {ranges' : Ranges} {tmp : TmpFile} (copies : Copies tmp.octets ranges file)
    (normal : Normal ranges) (inside : offset + data.length ≤ file.length)
    (same : data = slice file offset data.length)
    (added : rangesAdd ranges offset (offset + data.length) = .ok ranges') :
    Copies (tmp.write offset data).octets ranges' file := by
  obtain ⟨valid, _, rfl, _⟩ := rangesAdd_ok added
  obtain ⟨kept, written⟩ := copies.write inside same
  refine ⟨kept.length, fun x mem => ?_⟩
  rw [cover_insert normal valid] at mem
  rcases mem with old | new
  · exact kept.agrees x old
  · exact written x new.1 new.2

/-- A copy with no gap is the file. -/
theorem Copies.whole (copies : Copies octets ranges file) (covered : Set.Ico 0 file.length ⊆ cover ranges) :
    octets = file := by
  apply List.ext_getElem?
  intro x
  by_cases inside : x < file.length
  · exact (copies.agrees x (covered ⟨Nat.zero_le x, inside⟩)).2
  · have short := copies.length
    rw [List.getElem?_eq_none (by omega), List.getElem?_eq_none (by omega)]

end Copying

/-! ## The receiver slot -/

/-- Everything that is committed was put. -/
abbrev Disk.Faithful (puts : List Put) (disk : Disk) : Prop :=
  ∀ entry ∈ disk.committed, ∃ put ∈ puts, entry = (put.destination, put.octets)

/-- The receiver slot is on a put file: it writes a copy, or it has committed one or given up. -/
structure Taken (disk : Disk) (slot : TransactionSlot) (put : Put) : Prop where
  id : put.id = slot.id
  path : cString slot.destinationPath = put.destination
  size : slot.fileSize = put.octets.length
  arriving : slot.waitingForFinishedAck = false → slot.fileHandleOpen = true ∧
    ∃ file, disk.tmp = some file ∧ file.path = put.destination ∧ file.handle = slot.fileHandle ∧
      Copies file.octets slot.receivedRanges put.octets
  finished : slot.waitingForFinishedAck = true → disk.isOpen = false ∧
    (slot.finishedStatus = .ok → (put.destination, put.octets) ∈ disk.committed)

structure Storing (puts : List Put) (disk : Disk) (slot : TransactionSlot) : Prop where
  faithful : disk.Faithful puts
  taken : slot.active = true → ∃ put ∈ puts, Taken disk slot put

section Slots

variable {puts puts' : List Put} {disk disk' : Disk} {slot slot' : TransactionSlot}

theorem receiving_zero (faithful : disk.Faithful puts) : Storing puts disk .zero where
  faithful := faithful
  taken no := by cases no

theorem Disk.Faithful.of_commitless (faithful : disk.Faithful puts)
    (same : disk'.committed = disk.committed) : disk'.Faithful puts := by
  rw [Disk.Faithful, same]
  exact faithful

theorem Storing.mono (receiving : Storing puts disk slot) (more : puts ⊆ puts') : Storing puts' disk slot where
  faithful entry mem := by
    obtain ⟨put, isPut, same⟩ := receiving.faithful entry mem
    exact ⟨put, more isPut, same⟩
  taken active := by
    obtain ⟨put, isPut, taken⟩ := receiving.taken active
    exact ⟨put, more isPut, taken⟩

/-- Counters, deadlines and checksums say nothing about the file. -/
theorem Storing.congr (receiving : Storing puts disk slot) (active : slot'.active = slot.active)
    (id : slot'.id = slot.id) (path : slot'.destinationPath = slot.destinationPath)
    (size : slot'.fileSize = slot.fileSize) (waiting : slot'.waitingForFinishedAck = slot.waitingForFinishedAck)
    (isOpen : slot'.fileHandleOpen = slot.fileHandleOpen) (handle : slot'.fileHandle = slot.fileHandle)
    (ranges : slot'.receivedRanges = slot.receivedRanges) (status : slot'.finishedStatus = slot.finishedStatus) :
    Storing puts disk slot' where
  faithful := receiving.faithful
  taken yes := by
    obtain ⟨put, isPut, taken⟩ := receiving.taken (active ▸ yes)
    refine ⟨put, isPut, taken.id.trans id.symm, path ▸ taken.path, size.trans taken.size, ?_, ?_⟩
    · intro running
      rw [isOpen, handle, ranges]
      exact taken.arriving (waiting ▸ running)
    · intro ended
      rw [status]
      exact taken.finished (waiting ▸ ended)

end Slots

/-! ## Traces -/

section Traces

variable [Kconfig]

/-- A callback of the receiver: it tells nothing of files, and what it reports is stored. -/
def Answer (puts : List Put) (stored : List (Bytes × Bytes)) : Obs → Prop
  | ⟨.sendPdu _ pdu, _⟩ => (∀ own, Tells own pdu) ∧ Reports puts stored pdu
  | ⟨.event role _ _ _, _⟩ => role = .receiver
  | _ => True

abbrev Answering (puts : List Put) (stored : List (Bytes × Bytes)) (t : Trace) : Prop :=
  ∀ obs ∈ t, Answer puts stored obs

variable {puts : List Put} {stored stored' : List (Bytes × Bytes)} {disk disk' : Disk} {entity : Entity} {t u : Trace}
  {status : Status} {pdu : Bytes}

theorem Answering.nil : Answering puts stored [] := fun _ mem => by cases mem

theorem Answering.append (first : Answering puts stored t) (rest : Answering puts stored u) :
    Answering puts stored (t ++ u) := by
  intro obs mem
  rcases List.mem_append.mp mem with front | back
  · exact first obs front
  · exact rest obs back

theorem Answering.cons {obs : Obs} (head : Answer puts stored obs) (rest : Answering puts stored t) :
    Answering puts stored (obs :: t) := by
  intro other mem
  rcases List.mem_cons.mp mem with rfl | back
  · exact head
  · exact rest other back

theorem Answering.mono (answered : Answering puts stored t) (later : stored ⊆ stored') : Answering puts stored' t := by
  intro obs mem
  have said := answered obs mem
  obtain ⟨op, result⟩ := obs
  cases op with
  | sendPdu dest pdu => exact ⟨said.1, Reports.mono said.2 (List.Subset.refl _) later⟩
  | _ => exact said

theorem Sent.answered {dest : Nat} {encoded : Except Status Bytes} (sent : Sent dest encoded t status)
    (tells : ∀ pdu, encoded = .ok pdu → (∀ own, Tells own pdu) ∧ Reports puts stored pdu) :
    Answering puts stored t := by
  cases sent with
  | refused => exact .nil
  | sent rc done => exact .cons (tells _ done) .nil

theorem ackEof_answered {code dest : Nat} (bounded : entity.Bounded)
    (sent : Sent dest (encodeAck (ackEofPdu entity code) maxPduSize) t status) : Answering puts stored t := by
  refine sent.answered fun pdu encoded => ?_
  have directive := decodeAck_header (decodeAck_encodeAck encoded bounded.receiverHeader)
  exact ⟨fun own => tells_of_directive directive (by decide),
    reports_of_none (reportOf_directive directive (by decide))⟩

theorem NakSent.answered (bounded : entity.Bounded) (nak : NakSent entity t status) : Answering puts stored t := by
  cases nak with
  | toomany => exact .nil
  | sent _ sent =>
    refine sent.answered fun pdu encoded => ?_
    have directive := encodeNak_isDirective encoded bounded.receiverHeader
    exact ⟨fun own => tells_of_directive directive (by decide),
      reports_of_none (reportOf_directive directive (by decide))⟩

theorem NakSent.aside (nak : NakSent entity t status) : Aside t := by
  cases nak with
  | toomany => exact aside_nil
  | sent _ sent => exact sent.aside

omit [Kconfig] in
/-- Only the status OK is reported as NO_ERROR. -/
theorem ok_of_reported {reported : Status} {header : PduHeader}
    (ok : statusFromFinished { finishedPdu entity reported with header } = .ok) : reported = .ok := by
  cases reported <;> first | rfl | exact absurd ok (by simp [statusFromFinished, finishedPdu, finishedConditionFromStatus,
    finishedDeliveryCodeFromStatus, conditionNoError, conditionCancelRequestReceived, conditionFilestoreRejection,
    conditionFileChecksumFailure, conditionFileSizeError, conditionNakLimitReached])

/-- A Finished PDU is true if the file of its transaction is stored whenever its status is OK. -/
theorem finished_answered {reported : Status} {dest : Nat} (bounded : entity.Bounded)
    (sent : Sent dest (encodeFinished (finishedPdu entity reported) maxPduSize) t status)
    (delivered : reported = .ok → Deposited puts stored entity.receiver.id) : Answering puts stored t := by
  refine sent.answered fun pdu encoded => ?_
  have decoded := decodeFinished_encodeFinished encoded bounded.receiverHeader
  refine ⟨fun own => tells_of_directive (decodeFinished_header decoded) (by decide), ?_⟩
  intro finished consumed decodes ok
  rw [decoded] at decodes
  obtain ⟨rfl, rfl⟩ := Prod.mk.inj (Except.ok.inj decodes)
  exact delivered (ok_of_reported ok)

theorem terminalEvent_answered {id : TransactionId} :
    Answering puts stored (terminalEvent entity .receiver id status) := by
  unfold terminalEvent
  split
  · exact .cons rfl .nil
  · exact .nil

theorem Clock.answered {now : Nat} (clock : Clock entity t now) : Answering puts stored t := by
  cases clock with
  | asked => exact .cons trivial .nil
  | none => exact .nil

end Traces

/-! ## Finishing a transaction -/

section Finishing

variable {fs : FilestoreOps} {slot : TransactionSlot} {puts : List Put} {disk disk' : Disk} {entity entity' : Entity}
  {t : Trace} {status stored result : Status}

/-- The temporary file is closed, and it is committed if and only if the transaction ends with OK. -/
theorem Stored.does {file : TmpFile} (store : Stored fs slot status t stored) (run : Run Disk.Does disk t disk')
    (isOpen : slot.fileHandleOpen = true) (tmp : disk.tmp = some file) (handle : file.handle = slot.fileHandle)
    (path : file.path = cString slot.destinationPath) :
    disk'.isOpen = false ∧
      (stored = .ok → status = .ok ∧ disk'.committed = (file.path, file.octets) :: disk.committed) ∧
      (stored ≠ .ok → disk'.committed = disk.committed) := by
  have closing : ∀ {u : Trace} {c : Int} {disk₁ : Disk},
      CalledIf slot.fileHandleOpen (.close fs slot.fileHandle) 0 u c → Run Disk.Does disk u disk₁ →
      disk₁ = { disk with isOpen := false } := by
    intro u c disk₁ closed closes
    rcases closed.elim with ⟨_, rfl⟩ | ⟨no, _⟩
    · have does : disk₁ = disk.close slot.fileHandle := Disk.does_of_run closes
      rw [does, Disk.close, tmp, Option.any_some, handle, beq_self_eq_true, if_pos rfl]
    · rw [isOpen] at no
      cases no
  cases store with
  | committed ok closed shut =>
    obtain ⟨disk₁, closes, commits⟩ := run.split
    obtain rfl := closing closed closes
    have does := Disk.does_of_run commits
    simp only [Disk.Does, if_true, tmp, Option.some.injEq] at does
    obtain ⟨file', rfl, _, rfl⟩ := does
    rw [← path]
    exact ⟨rfl, fun _ => ⟨ok, rfl⟩, fun failed => (failed rfl).elim⟩
  | uncommitted ok closed shut failed =>
    obtain ⟨disk₁, closes, commits⟩ := run.split
    obtain rfl := closing closed closes
    have does := Disk.does_of_run commits
    simp only [Disk.Does, failed, if_false] at does
    refine ⟨?_, fun no => ?_, fun _ => ?_⟩
    · rcases does with rfl | rfl <;> rfl
    · cases no
    · rcases does with rfl | rfl <;> rfl
  | unclosed rc ok closed failed =>
    obtain ⟨disk₁, closes, discards⟩ := run.split
    obtain rfl := closing closed closes
    have does := Disk.does_of_run discards
    refine ⟨?_, fun no => ?_, fun _ => ?_⟩
    · rcases does with rfl | rfl <;> rfl
    · cases no
    · rcases does with rfl | rfl <;> rfl
  | discarded rc failed closed =>
    obtain ⟨disk₁, closes, discards⟩ := run.split
    obtain rfl := closing closed closes
    have does := Disk.does_of_run discards
    refine ⟨?_, fun ok => (failed ok).elim, fun _ => ?_⟩
    · rcases does with rfl | rfl <;> rfl
    · rcases does with rfl | rfl <;> rfl

variable [Kconfig]

theorem Stored.answered {files : List (Bytes × Bytes)} (store : Stored fs slot status t stored) :
    Answering puts files t := by
  have closing : ∀ {u : Trace} {c : Int}, CalledIf slot.fileHandleOpen (.close fs slot.fileHandle) 0 u c →
      Answering puts files u := by
    intro u c closed
    rcases closed.elim with ⟨_, rfl⟩ | ⟨_, rfl, _⟩
    · exact .cons trivial .nil
    · exact .nil
  cases store with
  | committed _ closed | uncommitted _ closed | unclosed _ _ closed | discarded _ _ closed =>
    exact (closing closed).append (.cons trivial .nil)

theorem Settled.aside (settled : Settled entity status t result entity') : Aside t := by
  cases settled with
  | awaiting _ sent clock => exact aside_append sent.aside clock.aside
  | unreported _ sent => exact aside_append sent.aside (terminalEvent_aside _ _ _ _)
  | silent _ _ clock => exact clock.aside
  | @released t' sent _ requested unrequested =>
    refine aside_append ?_ (terminalEvent_aside _ _ _ _)
    cases closure : entity.receiver.closureRequested with
    | true => exact (requested closure).aside
    | false =>
      rw [(unrequested closure).1]
      exact aside_nil

theorem Settled.answered {files : List (Bytes × Bytes)} (settled : Settled entity status t result entity')
    (bounded : entity.Bounded) (delivered : status = .ok → Deposited puts files entity.receiver.id) :
    Answering puts files t := by
  cases settled with
  | awaiting _ sent clock => exact (finished_answered bounded sent delivered).append clock.answered
  | unreported _ sent => exact (finished_answered bounded sent delivered).append terminalEvent_answered
  | silent _ _ clock => exact clock.answered
  | @released t' sent _ requested unrequested =>
    refine Answering.append ?_ terminalEvent_answered
    cases closure : entity.receiver.closureRequested with
    | true => exact finished_answered bounded (requested closure) delivered
    | false =>
      rw [(unrequested closure).1]
      exact .nil

/-- A transaction that is finished with OK has all of the file. -/
theorem Finished.receiving (finished : Finished fs entity status t result entity') (run : Run Disk.Does disk t disk')
    (receiving : Storing puts disk entity.receiver) (active : entity.receiver.active = true)
    (running : entity.receiver.waitingForFinishedAck = false) (closes : Closes entity.receiver)
    (bounded : entity.Bounded)
    (whole : status = .ok → Set.Ico 0 entity.receiver.fileSize ⊆ cover entity.receiver.receivedRanges) :
    Storing puts disk' entity'.receiver ∧ Answering puts disk'.committed t := by
  obtain ⟨put, isPut, taken⟩ := receiving.taken active
  obtain ⟨isOpen, file, tmp, path, handle, copies⟩ := taken.arriving running
  obtain @⟨t, u, stored, _, _, store, settled⟩ := finished
  obtain ⟨disk₁, storing, settling⟩ := run.split
  obtain rfl := Disk.aside_of_run settling settled.aside
  obtain ⟨shut, committed, uncommitted⟩ :=
    store.does storing isOpen tmp handle (path.trans taken.path.symm)
  have entry : stored = .ok → disk'.committed = (put.destination, put.octets) :: disk.committed := by
    intro ok
    obtain ⟨whole', same⟩ := committed ok
    rw [same, path, copies.whole (taken.size ▸ whole whole')]
  have faithful : disk'.Faithful puts := by
    by_cases ok : stored = .ok
    · rw [Disk.Faithful, entry ok]
      intro entry' mem
      rcases List.mem_cons.mp mem with rfl | earlier
      · exact ⟨put, isPut, rfl⟩
      · exact receiving.faithful entry' earlier
    · rw [Disk.Faithful, uncommitted ok]
      exact receiving.faithful
  have mem : stored = .ok → (put.destination, put.octets) ∈ disk'.committed := by
    intro ok
    rw [entry ok]
    exact List.mem_cons_self
  have bounded' : (entity.withReceiver entity.receiver.withoutHandle).Bounded :=
    bounded.withReceiver (bounded.receiver.congr rfl rfl)
  refine ⟨?_, store.answered.append (settled.answered bounded' fun ok => ⟨put, isPut, taken.id, mem ok⟩)⟩
  cases settled with
  | awaiting =>
    refine ⟨faithful, fun _ => ⟨put, isPut, taken.id, taken.path, taken.size, fun no => ?_, fun _ => ⟨shut, mem⟩⟩⟩
    cases no
  | silent acknowledged unrequested =>
    -- an acknowledged transaction always asks for closure
    have requested : entity.receiver.closureRequested = true := closes acknowledged
    exact absurd (requested.symm.trans unrequested) (by simp)
  | unreported | released => exact receiving_zero faithful

end Finishing

/-! ## Reading the file back -/

section Reading

variable [Kconfig] [ZephyrCrc] {fs : FilestoreOps} {t : Trace} {status : Status} {buf buf' : Bytes}

theorem ReadLoop.aside {handle : Handle} {fileSize offset : Nat} {state : ChecksumState}
    {result : Except Status ChecksumState} (loop : ReadLoop fs handle fileSize state offset buf t result buf') :
    Aside t := by
  induction loop with
  | done => exact aside_nil
  | unread | unsummed =>
    intro obs mem
    cases List.mem_singleton.mp mem
    rfl
  | turn _ _ _ _ ih =>
    intro obs mem
    rcases List.mem_cons.mp mem with rfl | later
    · rfl
    · exact ih obs later

theorem ReadLoop.answered {puts : List Put} {files : List (Bytes × Bytes)} {handle : Handle} {fileSize offset : Nat}
    {state : ChecksumState} {result : Except Status ChecksumState}
    (loop : ReadLoop fs handle fileSize state offset buf t result buf') : Answering puts files t := by
  induction loop with
  | done => exact .nil
  | unread | unsummed => exact .cons trivial .nil
  | turn _ _ _ _ ih => exact .cons trivial ih

variable {slot : TransactionSlot} {expected : Nat}

theorem Verified.aside (verified : Verified fs slot buf expected t status buf') : Aside t := by
  cases verified with
  | unsupported => exact aside_nil
  | unread _ loop | unfinished _ loop | mismatched _ loop | intact _ loop => exact loop.aside

theorem Verified.answered {puts : List Put} {files : List (Bytes × Bytes)}
    (verified : Verified fs slot buf expected t status buf') : Answering puts files t := by
  cases verified with
  | unsupported => exact .nil
  | unread _ loop | unfinished _ loop | mismatched _ loop | intact _ loop => exact loop.answered

end Reading

/-! ## One PDU -/

section Handlers

variable [Kconfig] {fs : FilestoreOps} {pdu : Bytes} {puts : List Put} {disk disk' : Disk} {entity entity' : Entity}
  {t : Trace} {status : Status}

theorem MetadataHandled.receiving (handled : MetadataHandled fs pdu entity t status entity')
    (run : Run Disk.Does disk t disk') (receiving : Storing puts disk entity.receiver)
    (sound : ReceiverSound entity.receiver) (tells : Tells puts pdu) :
    Storing puts disk' entity'.receiver ∧ Answering puts disk'.committed t := by
  cases handled with
  | skipped =>
    cases run
    exact ⟨receiving, .nil⟩
  | @opened metadata init reply accepts idle supported rc =>
    have does := Disk.does_of_run run
    simp only [Disk.Does, rc, if_true] at does
    subst does
    obtain ⟨put, isPut, id, destination, size⟩ := tells.metadata accepts.decoded
    -- the slot that was taken was empty
    have zero := sound.rest idle
    refine ⟨⟨receiving.faithful, fun _ => ⟨put, isPut, id, destination.symm, size.symm, fun _ => ?_, fun no => ?_⟩⟩,
      .cons trivial .nil⟩
    · exact ⟨rfl, _, rfl, destination.symm, rfl, .empty _⟩
    · simp only [Entity.withReceiver_receiver, openedSlot, metadataSlot, zero] at no
      cases no
  | refused accepts idle failed =>
    have commitless := Disk.commitless_of_run run (fun obs mem => by
      rcases List.mem_cons.mp mem with rfl | event
      · rfl
      · exact commitless_of_aside (terminalEvent_aside _ _ _ _) obs event)
    exact ⟨receiving_zero (receiving.faithful.of_commitless commitless), .cons trivial terminalEvent_answered⟩

/-- Octets that were written: the slot was not done with its file. -/
theorem Storing.write {filedata : FiledataPdu} (receiving : Storing puts disk entity.receiver)
    (sound : ReceiverSound entity.receiver) (accepts : AcceptsFiledata entity pdu filedata) (tells : Tells puts pdu)
    (distinct : (puts.map Put.id).Nodup)
    (does : disk.Does ⟨.write fs entity.receiver.fileHandle filedata.offset filedata.data, (0 : Int)⟩ disk') :
    entity.receiver.waitingForFinishedAck = false ∧ Storing puts disk' entity.receiver ∧
      ∀ ranges state, rangesAdd entity.receiver.receivedRanges filedata.offset
          (filedata.offset + filedata.data.length) = .ok ranges →
        Storing puts disk' (writtenSlot entity.receiver ranges state) := by
  obtain ⟨active, _, matched⟩ := receiverMatchActive_ok accepts.matched
  obtain ⟨put, isPut, taken⟩ := receiving.taken active
  obtain ⟨put', isPut', id, octets⟩ := tells.filedata accepts.decoded
  obtain rfl : put' = put := List.inj_on_of_nodup_map distinct isPut' isPut (id.trans (matched.symm.trans taken.id.symm))
  simp only [Disk.Does, if_true] at does
  obtain ⟨file, tmp, isOpen, handle, rfl⟩ := does
  have running : entity.receiver.waitingForFinishedAck = false := by
    by_contra ended
    have shut := (taken.finished ((Bool.not_eq_false _).mp ended)).1
    exact absurd (isOpen.symm.trans shut) (by simp)
  obtain ⟨isOpen', file', tmp', path, handle', copies⟩ := taken.arriving running
  obtain rfl : file' = file := Option.some.inj (tmp'.symm.trans tmp)
  have inside : filedata.offset + filedata.data.length ≤ put'.octets.length := taken.size ▸ accepts.inside
  refine ⟨running, ⟨receiving.faithful, fun _ => ⟨put', isPut, { taken with arriving := fun _ => ?_ }⟩⟩,
    fun ranges state added => ⟨receiving.faithful, fun _ => ⟨put', isPut, taken.id, taken.path, taken.size,
      fun _ => ?_, taken.finished⟩⟩⟩
  · exact ⟨isOpen', _, rfl, path, handle', (copies.write inside octets).1⟩
  · exact ⟨isOpen', _, rfl, path, handle', copies.add sound.normal inside octets added⟩

theorem FiledataHandled.receiving [ZephyrCrc] (handled : FiledataHandled fs pdu entity t status entity')
    (run : Run Disk.Does disk t disk') (receiving : Storing puts disk entity.receiver)
    (sound : ReceiverSound entity.receiver) (bounded : entity.Bounded) (tells : Tells puts pdu)
    (distinct : (puts.map Put.id).Nodup) :
    Answering puts disk'.committed t ∧ disk'.Faithful puts ∧
      (Storing puts disk' entity'.receiver ∨
        status ≠ .ok ∧ entity' = entity ∧ ∃ filedata, AcceptsFiledata entity pdu filedata) := by
  cases handled with
  | skipped =>
    cases run
    exact ⟨.nil, receiving.faithful, .inl receiving⟩
  | unwritten accepts failed =>
    have does := Disk.does_of_run run
    simp only [Disk.Does, failed, if_false] at does
    exact ⟨.cons trivial .nil, receiving.faithful.of_commitless does, .inr ⟨by simp, rfl, _, accepts⟩⟩
  | unranged accepts =>
    obtain ⟨_, kept, _⟩ := receiving.write sound accepts tells distinct (Disk.does_of_run run)
    exact ⟨.cons trivial .nil, kept.faithful, .inl kept⟩
  | unsummed accepts added =>
    obtain ⟨_, _, kept⟩ := receiving.write sound accepts tells distinct (Disk.does_of_run run)
    have kept := kept _ entity.receiver.checksumState added
    exact ⟨.cons trivial .nil, kept.faithful, .inl kept⟩
  | @written filedata ranges state accepts added =>
    obtain ⟨_, _, kept⟩ := receiving.write sound accepts tells distinct (Disk.does_of_run run)
    have kept := kept ranges state added
    exact ⟨.cons trivial .nil, kept.faithful, .inl kept⟩
  | @completed filedata ranges state u v status' _ buf _ accepts added _ _ _ complete verified finished =>
    cases run with
    | @step _ disk₁ _ _ _ does rest =>
    obtain ⟨running, _, kept⟩ := receiving.write sound accepts tells distinct does
    obtain ⟨disk₂, reading, finishing⟩ := rest.split
    obtain rfl := Disk.aside_of_run reading verified.aside
    have active := (receiverMatchActive_ok accepts.matched).1
    have closes : Closes entity.receiver := sound.closes active
    have written : (entity.withReceiver (writtenSlot entity.receiver ranges state)).Bounded :=
      bounded.withReceiver (bounded.receiver.congr rfl rfl)
    obtain ⟨kept, answered⟩ := finished.receiving finishing (kept ranges state added) active running closes
      (written.withBuf buf) fun _ => rangesScan_covers (rangesIsComplete_ok complete).2.2.symm
    exact ⟨.cons trivial (Answering.append verified.answered answered), kept.faithful, .inl kept⟩

section Eof

variable [ZephyrCrc]

theorem EofCompleted.receiving {eof : EofPdu} (completed : EofCompleted fs eof entity t status entity')
    (run : Run Disk.Does disk t disk') (receiving : Storing puts disk entity.receiver)
    (active : entity.receiver.active = true) (running : entity.receiver.waitingForFinishedAck = false)
    (closes : Closes entity.receiver) (bounded : entity.Bounded) (size : eof.fileSize = entity.receiver.fileSize) :
    Storing puts disk' entity'.receiver ∧ Answering puts disk'.committed t := by
  have incomplete : Storing puts disk (incompleteSlot entity.receiver eof.fileChecksum) :=
    receiving.congr rfl rfl rfl rfl rfl rfl rfl rfl rfl
  have bounded' : (entity.withReceiver (incompleteSlot entity.receiver eof.fileChecksum)).Bounded :=
    bounded.withReceiver (bounded.receiver.congr rfl rfl)
  cases completed with
  | unchecked failed finished =>
    refine finished.receiving run receiving active running closes bounded fun ok => ?_
    rw [ok, rangesIsComplete] at failed
    split_ifs at failed
    cases failed
  | asked _ _ nak clock =>
    obtain rfl := Disk.aside_of_run run (aside_append nak.aside clock.aside)
    exact ⟨incomplete.congr rfl rfl rfl rfl rfl rfl rfl rfl rfl, (nak.answered bounded').append clock.answered⟩
  | unasked _ _ nak failing finished =>
    obtain ⟨disk₁, asking, finishing⟩ := run.split
    obtain rfl := Disk.aside_of_run asking nak.aside
    obtain ⟨kept, answered⟩ := finished.receiving finishing incomplete active running closes bounded'
      fun ok => (failing ok).elim
    exact ⟨kept, (nak.answered bounded').append answered⟩
  | short _ _ finished =>
    refine finished.receiving run receiving active running closes bounded fun no => ?_
    cases no
  | @complete u v status _ buf _ complete verified finished =>
    obtain ⟨disk₁, reading, finishing⟩ := run.split
    obtain rfl := Disk.aside_of_run reading verified.aside
    rw [size] at complete
    obtain ⟨kept, answered⟩ := finished.receiving finishing receiving active running closes (bounded.withBuf buf)
      fun _ => rangesScan_covers (rangesIsComplete_ok complete).2.2.symm
    exact ⟨kept, Answering.append verified.answered answered⟩

theorem EofHandled.receiving (handled : EofHandled fs pdu entity t status entity')
    (run : Run Disk.Does disk t disk') (receiving : Storing puts disk entity.receiver)
    (sound : ReceiverSound entity.receiver) (bounded : entity.Bounded) :
    Storing puts disk' entity'.receiver ∧ Answering puts disk'.committed t := by
  have taken : ∀ {checksum : Nat}, Storing puts disk (entity.receiver.withEofChecksum checksum) ∧
      (entity.withReceiver (entity.receiver.withEofChecksum checksum)).Bounded :=
    ⟨receiving.congr rfl rfl rfl rfl rfl rfl rfl rfl rfl, bounded.withReceiver (bounded.receiver.congr rfl rfl)⟩
  -- the ACK, which is sent in acknowledged mode only
  have acked : ∀ {u : Trace} {code : Nat} {sent : Status},
      (entity.receiver.transmissionMode = .acknowledged →
        Sent entity.receiver.peerEntityId (encodeAck (ackEofPdu entity code) maxPduSize) u sent) →
      (entity.receiver.transmissionMode = .unacknowledged → u = []) →
      Aside u ∧ ∀ {files}, Answering puts files u := by
    intro u code sent acknowledged unacknowledged
    cases mode : entity.receiver.transmissionMode with
    | acknowledged => exact ⟨(acknowledged mode).aside, ackEof_answered bounded (acknowledged mode)⟩
    | unacknowledged =>
      obtain rfl := unacknowledged mode
      exact ⟨aside_nil, .nil⟩
  cases handled with
  | skipped =>
    cases run
    exact ⟨receiving, .nil⟩
  | repeated accepts waiting sent =>
    obtain rfl := Disk.aside_of_run run sent.aside
    refine ⟨receiving, finished_answered bounded sent fun ok => ?_⟩
    obtain ⟨put, isPut, taken⟩ := receiving.taken (receiverMatchActive_ok accepts.matched).1
    exact ⟨put, isPut, taken.id, (taken.finished waiting).2 ok⟩
  | refused accepts running _ acknowledged unacknowledged finished =>
    have active := (receiverMatchActive_ok accepts.matched).1
    obtain ⟨disk₁, acking, finishing⟩ := run.split
    obtain ⟨aside, answered⟩ := acked acknowledged unacknowledged
    obtain rfl := Disk.aside_of_run acking aside
    have closes : Closes entity.receiver := sound.closes active
    obtain ⟨kept, answered'⟩ := finished.receiving finishing taken.1 active running closes taken.2
      fun no => by cases no
    exact ⟨kept, Answering.append answered answered'⟩
  | unacknowledged _ _ _ _ _ sent =>
    obtain rfl := Disk.aside_of_run run sent.aside
    exact ⟨taken.1, ackEof_answered bounded sent⟩
  | taken accepts running _ size acknowledged unacknowledged completed =>
    have active := (receiverMatchActive_ok accepts.matched).1
    obtain ⟨disk₁, acking, completing⟩ := run.split
    obtain ⟨aside, answered⟩ := acked acknowledged unacknowledged
    obtain rfl := Disk.aside_of_run acking aside
    have closes : Closes entity.receiver := sound.closes active
    obtain ⟨kept, answered'⟩ := completed.receiving completing taken.1 active running closes taken.2 size
    exact ⟨kept, Answering.append answered answered'⟩

end Eof

theorem AckHandled.receiving (handled : AckHandled pdu entity t status entity') (run : Run Disk.Does disk t disk')
    (receiving : Storing puts disk entity.receiver) :
    Storing puts disk' entity'.receiver ∧ Answering puts disk'.committed t := by
  cases handled with
  | skipped =>
    cases run
    exact ⟨receiving, .nil⟩
  | released =>
    obtain rfl := Disk.aside_of_run run (terminalEvent_aside _ _ _ _)
    exact ⟨receiving_zero receiving.faithful, terminalEvent_answered⟩

omit [Kconfig] in
theorem Discarded.commitless {slot : TransactionSlot} (discarded : Discarded slot t) : Commitless t := by
  intro obs mem
  cases discarded with
  | none => cases mem
  | discarded _ closed called =>
    rcases List.mem_append.mp mem with close | discard
    · obtain ⟨fs, rc, _, rfl⟩ := closed.eq_close obs close
      rfl
    · rcases called.elim with ⟨_, rfl⟩ | ⟨_, rfl, _⟩
      · cases List.mem_singleton.mp discard
        rfl
      · cases discard

theorem Discarded.answered {slot : TransactionSlot} {files : List (Bytes × Bytes)} (discarded : Discarded slot t) :
    Answering puts files t := by
  cases discarded with
  | none => exact .nil
  | discarded _ closed called =>
    refine Answering.append ?_ ?_
    · intro obs mem
      obtain ⟨fs, rc, _, rfl⟩ := closed.eq_close obs mem
      trivial
    · rcases called.elim with ⟨_, rfl⟩ | ⟨_, rfl, _⟩
      · exact .cons trivial .nil
      · exact .nil

theorem Dropped.receiving (dropped : Dropped entity status t) (run : Run Disk.Does disk t disk')
    (faithful : disk.Faithful puts) : Storing puts disk' .zero ∧ Answering puts disk'.committed t := by
  have event := commitless_of_aside (terminalEvent_aside entity .receiver entity.receiver.id status)
  cases dropped with
  | waiting =>
    exact ⟨receiving_zero (faithful.of_commitless (Disk.commitless_of_run run event)), terminalEvent_answered⟩
  | discarded _ discarded =>
    have commitless := commitless_append discarded.commitless event
    exact ⟨receiving_zero (faithful.of_commitless (Disk.commitless_of_run run commitless)),
      discarded.answered.append terminalEvent_answered⟩

theorem ReceiverStep.receiving [ZephyrCrc] (step : ReceiverStep fs pdu entity t status entity')
    (run : Run Disk.Does disk t disk') (receiving : Storing puts disk entity.receiver)
    (sound : ReceiverSound entity.receiver) (bounded : entity.Bounded) (tells : Tells puts pdu)
    (distinct : (puts.map Put.id).Nodup) :
    Storing puts disk' entity'.receiver ∧ Answering puts disk'.committed t := by
  have handle : ∀ {t : Trace} {disk' : Disk} {entity' : Entity} {status : Status},
      Handled fs pdu entity t status entity' → Run Disk.Does disk t disk' →
      Answering puts disk'.committed t ∧ disk'.Faithful puts ∧
        (Storing puts disk' entity'.receiver ∨
          status ≠ .ok ∧ entity' = entity ∧ ∃ filedata, AcceptsFiledata entity pdu filedata) := by
    intro t disk' entity' status handled run
    cases handled with
    | ignored =>
      cases run
      exact ⟨.nil, receiving.faithful, .inl receiving⟩
    | metadata _ handled =>
      obtain ⟨kept, answered⟩ := handled.receiving run receiving sound tells
      exact ⟨answered, kept.faithful, .inl kept⟩
    | filedata _ handled => exact handled.receiving run receiving sound bounded tells distinct
    | eof handled =>
      obtain ⟨kept, answered⟩ := handled.receiving run receiving sound bounded
      exact ⟨answered, kept.faithful, .inl kept⟩
    | ack _ handled =>
      obtain ⟨kept, answered⟩ := handled.receiving run receiving
      exact ⟨answered, kept.faithful, .inl kept⟩
  cases step with
  | unhandled =>
    cases run
    exact ⟨receiving, .nil⟩
  | @kept header headerLen _ _ _ decoded _ handled fine =>
    obtain ⟨answered, _, kept | ⟨failing, rfl, filedata, accepts⟩⟩ := handle handled run
    · exact ⟨kept, answered⟩
    · -- after a write that failed the transaction is dropped
      obtain ⟨active, _, id⟩ := receiverMatchActive_ok accepts.matched
      obtain ⟨len, decoded', _⟩ := decodeFiledata_header accepts.decoded
      rw [decoded] at decoded'
      cases decoded'
      rcases fine with ok | unmatched
      · exact (failing ok).elim
      · simp [receiverActiveMatchesHeader, active, id] at unmatched
  | failed _ _ handled _ _ dropped =>
    obtain ⟨disk₁, handling, dropping⟩ := run.split
    obtain ⟨answered, faithful, _⟩ := handle handled handling
    obtain ⟨kept, answered'⟩ := dropped.receiving dropping faithful
    exact ⟨kept, (answered.mono (Disk.keeps_of_run dropping)).append answered'⟩

theorem ReceiverPolled.receiving {now : Nat} (polled : ReceiverPolled entity now t entity')
    (run : Run Disk.Does disk t disk') (receiving : Storing puts disk entity.receiver) (bounded : entity.Bounded) :
    Storing puts disk' entity'.receiver ∧ Answering puts disk'.committed t := by
  have reported : ∀ {u : Trace} {sent : Status}, entity.receiver.active = true →
      entity.receiver.waitingForFinishedAck = true →
      Sent entity.receiver.peerEntityId
        (encodeFinished (finishedPdu entity entity.receiver.finishedStatus) maxPduSize) u sent →
      Answering puts disk.committed u := by
    intro u sent active waiting report
    refine finished_answered bounded report fun ok => ?_
    obtain ⟨put, isPut, taken⟩ := receiving.taken active
    exact ⟨put, isPut, taken.id, (taken.finished waiting).2 ok⟩
  cases polled with
  | idle =>
    cases run
    exact ⟨receiving, .nil⟩
  | askedAgain _ _ _ nak =>
    obtain rfl := Disk.aside_of_run run nak.aside
    exact ⟨receiving.congr rfl rfl rfl rfl rfl rfl rfl rfl rfl, nak.answered bounded⟩
  | reportedAgain active _ waiting sent =>
    obtain rfl := Disk.aside_of_run run sent.aside
    exact ⟨receiving.congr rfl rfl rfl rfl rfl rfl rfl rfl rfl, reported active waiting sent⟩
  | @recoveryEnded u v status _ _ _ asked _ discarded =>
    have asking : Commitless u ∧ Answering puts disk'.committed u := by
      rcases asked with rfl | nak
      · exact ⟨commitless_nil, .nil⟩
      · exact ⟨commitless_of_aside nak.aside, nak.answered bounded⟩
    have event := commitless_of_aside (terminalEvent_aside entity .receiver entity.receiver.id status)
    have commitless := commitless_append asking.1 (commitless_append discarded.commitless event)
    exact ⟨receiving_zero (receiving.faithful.of_commitless (Disk.commitless_of_run run commitless)),
      asking.2.append (discarded.answered.append terminalEvent_answered)⟩
  | @waitEnded u status active _ waiting asked _ =>
    have asking : Aside u ∧ Answering puts disk.committed u := by
      rcases asked with rfl | sent
      · exact ⟨aside_nil, .nil⟩
      · exact ⟨sent.aside, reported active waiting sent⟩
    obtain rfl := Disk.aside_of_run run (aside_append asking.1 (terminalEvent_aside _ _ _ _))
    exact ⟨receiving_zero receiving.faithful, asking.2.append terminalEvent_answered⟩

end Handlers

end ZephyrCcsds.Cfdp
