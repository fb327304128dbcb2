import ZephyrCcsds.Network
import ZephyrCcsds.Cfdp.FileArrival
import ZephyrCcsds.Cfdp.StoredFile

/-! # Two entities over an unreliable link

Two entities that send files to each other, in both directions at once and in either transmission mode.  The link
loses, repeats, delays and reorders PDUs; the filestores may fail.  In every run

* what an entity commits is, octet for octet, a file that its peer has put, under the path that was announced for it;
* a transaction in acknowledged mode that is reported to its sender as COMPLETE has its file committed by the peer.

`Peer.Turn` is one call of the API on one entity, together with what its user and its filestore see.  The proof puts
`Sending` of one entity and `Storing` of the other together (`Stands`) and hands both to `Network.agrees_of_run`.
-/

namespace ZephyrCcsds.Cfdp

open Callback

variable [Kconfig] [ZephyrCrc]

/-! ## Peers -/

/-- An entity with its filestore, the file that it has open to send, what was put and what was reported COMPLETE -/
@[ext] structure Peer where
  entity : Entity
  disk : Disk
  source : Source
  puts : List Put
  completed : List TransactionId
  deriving DecidableEq, Repr

/-- The transactions that a trace reports as COMPLETE to the user who has put their file -/
def completions (t : Trace) : List TransactionId :=
  t.filterMap fun
    | ⟨.event .sender .complete id _, _⟩ => some id
    | _ => none

/-- The PDU that a call hands to the entity -/
def Step.heard (step : Step) : Option Bytes :=
  match step.call with
  | .receivePdu _ pdu => some pdu
  | _ => none

def Step.said (step : Step) : List Bytes := sentPdus step.trace

/-- Whether a call opens a file to send -/
def Step.opens (step : Step) : Bool :=
  match step.call with
  | .sendFile _ _ => opensSource step.trace
  | _ => false

/-- What a call on an entity puts, when the file that it opens has these octets -/
def Step.puts (step : Step) (entity : Entity) (octets : Bytes) : List Put :=
  match step.call with
  | .sendFile _ request => if opensSource step.trace then [entity.put request octets] else []
  | _ => []

/-- One call of the API, during which no callback re-enters the entity.  The filestore answers about the file to send
as long as it is open, and the sequence number of a new transaction is not one that is still in use. -/
structure Peer.Turn (peer : Peer) (step : Step) (peer' : Peer) : Prop where
  quiet : QuietStep peer.entity step peer'.entity
  disk : Run Disk.Does peer.disk step.trace peer'.disk
  source : step.opens = true ∨ peer.entity.sender.fileHandleOpen = true →
    ∀ obs ∈ step.trace, peer'.source.answers obs
  same : step.opens = false → peer'.source = peer.source
  puts : peer'.puts = peer.puts ++ step.puts peer.entity peer'.source.octets
  unused : ∀ put ∈ step.puts peer.entity peer'.source.octets, put.id ∉ peer.puts.map Put.id
  completed : peer'.completed = peer.completed ++ completions step.trace

/-- An entity that has just been initialised, over a filestore that has committed nothing -/
structure Peer.Fresh (peer : Peer) : Prop where
  init : ∃ config ut, entityInit config ut = .ok peer.entity
  committed : peer.disk.committed = []
  puts : peer.puts = []
  completed : peer.completed = []

/-! ## The invariant -/

/-- What `own` says about its own files, and about those of its peer -/
structure Peer.Means (own peer : Peer) (pdu : Bytes) : Prop where
  tells : Tells own.puts pdu
  reports : Reports peer.puts own.disk.committed pdu

/-- An entity with its peer as the receiver of its files -/
structure Peer.Stands (own peer : Peer) : Prop where
  bounded : own.entity.Bounded
  sound : ReceiverSound own.entity.receiver
  distinct : (own.puts.map Put.id).Nodup
  sending : Sending own.puts own.source own.entity.sender
  receiving : Storing own.puts peer.disk peer.entity.receiver
  completed : ∀ id ∈ own.completed, Completed own.puts peer.disk.committed id

/-- What a trace sends and completes is true. -/
structure Uttered (own peer : Peer) (t : Trace) : Prop where
  sent : ∀ pdu ∈ sentPdus t, own.Means peer pdu
  completed : ∀ id ∈ completions t, Completed own.puts peer.disk.committed id

section Traces

variable {own own' peer : Peer} {t u : Trace}

omit [ZephyrCrc] in
theorem Uttered.append (first : Uttered own peer t) (rest : Uttered own peer u) : Uttered own peer (t ++ u) where
  sent pdu mem := by
    rw [sentPdus_append, List.mem_append] at mem
    rcases mem with front | back
    · exact first.sent pdu front
    · exact rest.sent pdu back
  completed id mem := by
    rw [completions, List.filterMap_append, List.mem_append] at mem
    rcases mem with front | back
    · exact first.completed id front
    · exact rest.completed id back

omit [Kconfig] [ZephyrCrc] in
theorem mem_sentPdus {pdu : Bytes} (mem : pdu ∈ sentPdus t) : ∃ dest rc, (⟨.sendPdu dest pdu, rc⟩ : Obs) ∈ t := by
  simp only [sentPdus, List.mem_filterMap] at mem
  obtain ⟨⟨op, result⟩, mem, sent⟩ := mem
  cases op with
  | sendPdu dest pdu' =>
    cases sent
    exact ⟨dest, result, mem⟩
  | _ => cases sent

omit [Kconfig] [ZephyrCrc] in
theorem mem_completions {id : TransactionId} (mem : id ∈ completions t) :
    ∃ status, (⟨.event .sender .complete id status, ()⟩ : Obs) ∈ t := by
  simp only [completions, List.mem_filterMap] at mem
  obtain ⟨⟨op, result⟩, mem, told⟩ := mem
  cases op with
  | event role type id' status =>
    cases role with
    | receiver => cases told
    | sender =>
      cases type with
      | complete =>
        cases told
        exact ⟨status, mem⟩
      | _ => cases told
  | _ => cases told

omit [ZephyrCrc] in
theorem Spoken.uttered (spoken : Spoken own.puts peer.disk.committed t) : Uttered own peer t where
  sent pdu mem := by
    obtain ⟨dest, rc, mem⟩ := mem_sentPdus mem
    have speaks : Speaks own.puts pdu := spoken _ mem
    exact ⟨speaks.tells, reports_of_none speaks.silent⟩
  completed id mem := by
    obtain ⟨status, mem⟩ := mem_completions mem
    exact (spoken _ mem).2 rfl

omit [ZephyrCrc] in
theorem Answering.uttered (answered : Answering peer.puts own.disk.committed t) : Uttered own peer t where
  sent pdu mem := by
    obtain ⟨dest, rc, mem⟩ := mem_sentPdus mem
    obtain ⟨tells, reports⟩ := answered _ mem
    exact ⟨tells own.puts, reports⟩
  completed id mem := by
    obtain ⟨status, mem⟩ := mem_completions mem
    cases answered _ mem

omit [ZephyrCrc] in
/-- The sender leaves the temporary file alone; at most it closes a handle. -/
theorem Spoken.does {puts : List Put} {stored : List (Bytes × Bytes)} {disk disk' : Disk}
    (spoken : Spoken puts stored t) (run : Run Disk.Does disk t disk') :
    disk'.tmp = disk.tmp ∧ disk'.committed = disk.committed ∧ (disk.isOpen = false → disk'.isOpen = false) := by
  induction run with
  | done => exact ⟨rfl, rfl, id⟩
  | @step disk disk₁ disk' obs t does _ ih =>
    obtain ⟨tmp, committed, shut⟩ := ih fun obs mem => spoken obs (List.mem_cons_of_mem _ mem)
    have head := spoken _ List.mem_cons_self
    obtain ⟨op, result⟩ := obs
    cases op with
    | sendPdu | nowMs | event | openRead | read =>
      cases does
      exact ⟨tmp, committed, shut⟩
    | close fs handle =>
      cases does
      rw [tmp, committed, Disk.close_tmp, Disk.close_committed]
      exact ⟨rfl, rfl, fun closed => shut (disk.close_shut handle closed)⟩
    | openWriteTmp | write | commitTmp | discardTmp => exact head.elim

omit [Kconfig] [ZephyrCrc] in
/-- The receiver slot relies on the temporary file and on what is committed. -/
theorem Storing.of_disk {puts : List Put} {disk disk' : Disk} {slot : TransactionSlot}
    (receiving : Storing puts disk slot) (tmp : disk'.tmp = disk.tmp) (committed : disk'.committed = disk.committed)
    (shut : disk.isOpen = false → disk'.isOpen = false) : Storing puts disk' slot where
  faithful := receiving.faithful.of_commitless committed
  taken active := by
    obtain ⟨put, isPut, taken⟩ := receiving.taken active
    refine ⟨put, isPut, taken.id, taken.path, taken.size, ?_, ?_⟩
    · rw [tmp]
      exact taken.arriving
    · rw [committed]
      exact fun waiting => ⟨shut (taken.finished waiting).1, (taken.finished waiting).2⟩

end Traces

/-! ## One turn -/

/-- What a turn does: it says what is true, and both slots stay on files that were put. -/
structure Acts (peer own' : Peer) (t : Trace) : Prop where
  uttered : Uttered own' peer t
  sending : Sending own'.puts own'.source own'.entity.sender
  receiving : Storing peer.puts own'.disk own'.entity.receiver

section Turns

variable {own own' peer : Peer} {step : Step}

omit [Kconfig] [ZephyrCrc] in
theorem Step.puts_shut {entity : Entity} {octets : Bytes} (shut : step.opens = false) :
    step.puts entity octets = [] := by
  obtain ⟨call, t⟩ := step
  cases call with
  | sendFile fs request =>
    have unopened : opensSource t = false := shut
    simp [Step.puts, unopened]
  | receivePdu | poll => rfl

omit [Kconfig] [ZephyrCrc] in
theorem Step.puts_nodup {entity : Entity} {octets : Bytes} : ((step.puts entity octets).map Put.id).Nodup := by
  unfold Step.puts
  split
  · split <;> simp
  · simp

/-- A call that opens no file puts none. -/
theorem Peer.Turn.shut (turn : own.Turn step own') (shut : step.opens = false) :
    own'.puts = own.puts ∧ own'.source = own.source := by
  refine ⟨?_, turn.same shut⟩
  rw [turn.puts, step.puts_shut shut, List.append_nil]

theorem Peer.Turn.sendFile {fs : FilestoreOps} {request : PutRequest} {t : Trace} {status : Status}
    (turn : own.Turn ⟨.sendFile fs request, t⟩ own')
    (handled : SendFileHandled fs request own.entity t status own'.entity) (onward : own.Stands peer)
    (back : peer.Stands own) : Acts peer own' t := by
  have said : Spoken own'.puts peer.disk.committed t ∧ Sending own'.puts own'.source own'.entity.sender := by
    obtain ⟨unopened, opened⟩ := @SendFileHandled.spoken _ _ _ peer.disk.committed _ _ _ _ _ _ _ handled
      onward.sending onward.bounded
    by_cases opens : opensSource t = true
    · have puts : own'.puts = own.puts ++ [own.entity.put request own'.source.octets] := by
        rw [turn.puts]
        simp [Step.puts, opens]
      rw [puts]
      exact opened opens own'.source (turn.source (.inl opens))
    · have shut := Bool.eq_false_iff.mpr opens
      obtain ⟨puts, source⟩ := turn.shut shut
      rw [puts, source]
      exact unopened shut
  obtain ⟨tmp, committed, closed⟩ := said.1.does turn.disk
  have receiving := back.receiving.of_disk tmp committed closed
  rw [← handled.only.receiver] at receiving
  exact ⟨said.1.uttered, said.2, receiving⟩

theorem Peer.Turn.receivePdu {filestore : Option FilestoreOps} {pdu : Bytes} {t : Trace}
    (turn : own.Turn ⟨.receivePdu filestore pdu, t⟩ own')
    (called : Called own.entity (.receivePdu filestore pdu) t own'.entity) (onward : own.Stands peer)
    (back : peer.Stands own) (heard : peer.Means own pdu) : Acts peer own' t := by
  obtain ⟨puts, source⟩ := turn.shut rfl
  have sending := onward.sending
  rw [← puts, ← source] at sending
  generalize final : own'.entity = entity' at called
  -- The PDU is for neither transaction, for the one that sends, or for the one that receives.
  cases called with
  | unheard =>
    have unwritten := Disk.aside_of_run turn.disk aside_nil
    rw [← final] at sending
    have receiving := back.receiving
    rw [← final, ← unwritten] at receiving
    exact ⟨Spoken.nil.uttered, final ▸ sending, receiving⟩
  | sender step =>
    rw [source] at sending
    have reports := heard.reports
    rw [← puts] at reports
    obtain ⟨spoken, sending⟩ := step.spoken sending onward.bounded reports
      fun isOpen obs mem => source ▸ turn.source (.inr isOpen) obs mem
    obtain ⟨tmp, committed, closed⟩ := spoken.does turn.disk
    have receiving := back.receiving.of_disk tmp committed closed
    rw [← step.only.receiver] at receiving
    refine ⟨spoken.uttered, ?_, final ▸ receiving⟩
    rw [source, final]
    exact sending
  | receiver valid step =>
    obtain ⟨receiving, answered⟩ := step.receiving turn.disk back.receiving onward.sound onward.bounded heard.tells
      back.distinct
    rw [← step.only.sender] at sending
    exact ⟨answered.uttered, final ▸ sending, final ▸ receiving⟩

theorem Peer.Turn.poll {now : UInt64} {t : Trace} (turn : own.Turn ⟨.poll now, t⟩ own')
    (called : Called own.entity (.poll now) t own'.entity) (onward : own.Stands peer) (back : peer.Stands own) :
    Acts peer own' t := by
  obtain ⟨puts, source⟩ := turn.shut rfl
  have sending := onward.sending
  rw [← puts, ← source] at sending
  have disk := turn.disk
  generalize final : own'.entity = entity' at called
  cases called with
  | @poll _ t u v entity₁ entity₂ _ first second third =>
    obtain ⟨disk₁, recovering, rest⟩ := disk.split
    obtain ⟨disk₂, reporting, repeating⟩ := rest.split
    obtain ⟨receiving, answered⟩ := first.receiving recovering back.receiving onward.bounded
    have bounded := first.bounded onward.bounded
    obtain ⟨receiving, answered'⟩ := second.receiving reporting receiving bounded
    rw [← first.only.sender, ← second.only.sender] at sending
    obtain ⟨spoken, sending⟩ := @SenderPolled.spoken _ _ peer.disk.committed _ _ _ _ _ third sending
      (second.bounded bounded)
    obtain ⟨tmp, committed, closed⟩ := spoken.does repeating
    have receiving := receiving.of_disk tmp committed closed
    rw [← third.only.receiver] at receiving
    rw [← committed] at answered'
    have answered := answered.mono (Disk.keeps_of_run rest)
    refine ⟨answered.uttered.append (answered'.uttered.append spoken.uttered), final ▸ sending, final ▸ receiving⟩

theorem Peer.Turn.acts (turn : own.Turn step own') (onward : own.Stands peer) (back : peer.Stands own)
    (heard : ∀ pdu, step.heard = some pdu → peer.Means own pdu) : Acts peer own' step.trace := by
  obtain ⟨call, t⟩ := step
  have called := called_outcome turn.quiet
  cases call with
  | sendFile fs request =>
    generalize final : own'.entity = entity' at called
    cases called with
    | sendFile handled => exact turn.sendFile (final ▸ handled) onward back
  | receivePdu filestore pdu => exact turn.receivePdu called onward back (heard pdu rfl)
  | poll now => exact turn.poll called onward back

theorem Peer.Turn.kept (turn : own.Turn step own') (onward : own.Stands peer) (back : peer.Stands own)
    (heard : ∀ pdu, step.heard = some pdu → peer.Means own pdu) :
    Network.Kept Peer.Stands Peer.Means own peer step.said own' := by
  have acts := turn.acts onward back heard
  have called := called_outcome turn.quiet
  have more : own.puts ⊆ own'.puts := turn.puts ▸ List.subset_append_left _ _
  have later : own.disk.committed ⊆ own'.disk.committed := Disk.keeps_of_run turn.disk
  constructor
  · constructor
    · exact called.bounded onward.bounded
    · exact called.sound onward.sound
    · rw [turn.puts, List.map_append]
      refine List.nodup_append.mpr ⟨onward.distinct, step.puts_nodup, fun id mem other new same => ?_⟩
      obtain ⟨put, isNew, rfl⟩ := List.mem_map.mp new
      exact turn.unused put isNew (same ▸ mem)
    · exact acts.sending
    · exact onward.receiving.mono more
    · intro id mem
      rw [turn.completed] at mem
      rcases List.mem_append.mp mem with before | now
      · exact (onward.completed id before).mono more (List.Subset.refl _)
      · exact acts.uttered.completed id now
  · exact ⟨back.bounded, back.sound, back.distinct, back.sending, acts.receiving,
      fun id mem => (back.completed id mem).mono (List.Subset.refl _) later⟩
  · exact acts.uttered.sent
  · exact fun pdu means => ⟨means.tells.mono more, means.reports.mono (List.Subset.refl _) later⟩
  · exact fun pdu means => ⟨means.tells, means.reports.mono more (List.Subset.refl _)⟩

end Turns

/-! ## Runs -/

omit [ZephyrCrc] in
theorem Peer.Fresh.stands {own peer : Peer} (fresh : own.Fresh) (back : peer.Fresh) : own.Stands peer := by
  obtain ⟨config, ut, init⟩ := fresh.init
  obtain ⟨config', ut', init'⟩ := back.init
  constructor
  · exact bounded_of_init init
  · exact init_receiver init ▸ receiverSound_zero
  · rw [fresh.puts]
    exact List.nodup_nil
  · exact init_sender init ▸ sending_zero _ _
  · rw [init_receiver init']
    refine receiving_zero fun entry mem => ?_
    rw [back.committed] at mem
    cases mem
  · intro id mem
    rw [fresh.completed] at mem
    cases mem

/-- The files of one entity at the other -/
structure Transfers (own peer : Peer) : Prop where
  committed : ∀ path octets, (path, octets) ∈ peer.disk.committed →
    ∃ put ∈ own.puts, put.destination = path ∧ put.octets = octets
  completed : ∀ put ∈ own.puts, put.acknowledged = true → put.id ∈ own.completed →
    (put.destination, put.octets) ∈ peer.disk.committed

omit [Kconfig] [ZephyrCrc] in
theorem Peer.Stands.transfers {own peer : Peer} (stands : own.Stands peer) : Transfers own peer where
  committed path octets mem := by
    obtain ⟨put, isPut, same⟩ := stands.receiving.faithful _ mem
    cases same
    exact ⟨put, isPut, rfl, rfl⟩
  completed put mem acknowledged completed := by
    obtain ⟨put', mem', same, delivered⟩ := stands.completed _ completed
    obtain rfl := List.inj_on_of_nodup_map stands.distinct mem' mem same
    exact delivered acknowledged

/-- Every run of the link from the start keeps the agreement. -/
theorem agrees_of_link {net net' : Network Peer Bytes} {steps : List Step} (left : net.left.Fresh)
    (right : net.right.Fresh) (unsentLeft : net.fromLeft = []) (unsentRight : net.fromRight = [])
    (run : Run (Network.Step Peer.Turn Step.heard Step.said) net steps net') :
    Network.Agrees Peer.Stands Peer.Means net' := by
  refine Network.agrees_of_run (fun _ _ _ _ onward back heard turn => turn.kept onward back heard) ?_ run
  refine ⟨left.stands right, right.stands left, ?_, ?_⟩
  · rw [unsentLeft]
    exact fun _ mem => by cases mem
  · rw [unsentRight]
    exact fun _ mem => by cases mem

/-- Whatever the link loses, repeats, delays or reorders: what either entity commits is a file that the other has put,
and every transaction in acknowledged mode that is reported as COMPLETE has its file committed. -/
theorem files_transferred {net net' : Network Peer Bytes} {steps : List Step} (left : net.left.Fresh)
    (right : net.right.Fresh) (unsentLeft : net.fromLeft = []) (unsentRight : net.fromRight = [])
    (run : Run (Network.Step Peer.Turn Step.heard Step.said) net steps net') :
    Transfers net'.left net'.right ∧ Transfers net'.right net'.left := by
  have agrees := agrees_of_link left right unsentLeft unsentRight run
  exact ⟨agrees.left.transfers, agrees.right.transfers⟩

end ZephyrCcsds.Cfdp

/-! ## A transfer to play -/

namespace ZephyrCcsds.Cfdp

open Callback

section Play

variable [Kconfig] [ZephyrCrc] {peer peer' : Peer} {step : Step} {disk : Disk}

/-- A peer after a step that leaves it with this disk, and with the source that it has -/
def Peer.play (peer : Peer) (step : Step) (disk : Disk) : Option Peer :=
  (step.play peer.entity).map fun entity =>
    { peer with
      entity, disk
      puts := peer.puts ++ step.puts peer.entity peer.source.octets
      completed := peer.completed ++ completions step.trace }

theorem Peer.turn_of_play (played : peer.play step disk = some peer') (does : Run Disk.Does peer.disk step.trace disk)
    (answers : ∀ obs ∈ step.trace, peer.source.answers obs)
    (unused : ∀ put ∈ step.puts peer.entity peer.source.octets, put.id ∉ peer.puts.map Put.id) :
    peer.Turn step peer' ∧ peer'.disk = disk ∧ peer'.source = peer.source := by
  obtain ⟨entity, first, rfl⟩ := Option.map_eq_some_iff.mp played
  exact ⟨⟨quietStep_of_play first, does, fun _ => answers, fun _ => rfl, rfl, unused, rfl⟩, rfl, rfl⟩

end Play

section Sample

attribute [local instance] defaultKconfig plainCrc

def Disk.empty : Disk where
  tmp := none
  isOpen := false
  committed := []

def Disk.octet (octets : Bytes) : Disk where
  tmp := some { path := [99], handle := 1, octets }
  isOpen := true
  committed := []

def Disk.whole : Disk where
  tmp := none
  isOpen := false
  committed := [([99], [104])]

def Peer.fresh (entity : Entity) : Peer where
  entity
  disk := .empty
  source := { handle := 5, octets := [104] }
  puts := []
  completed := []

/-- Two entities that have said nothing yet -/
def silentLink : Network Peer Bytes where
  left := .fresh freshReceiver
  right := .fresh freshPeer
  fromLeft := []
  fromRight := []

/-- The peer takes the Metadata PDU of `sendingStep`. -/
def announcedStep : Step where
  call := .receivePdu (some wholeFilestore) [0x20, 0, 10, 0, 2, 0, 1, 7, 0, 0, 0, 0, 1, 1, 98, 1, 99]
  trace := [⟨.openWriteTmp wholeFilestore [99], { rc := 0, handle := 1 }⟩]

def segmentStep : Step where
  call := .receivePdu (some wholeFilestore) [0x30, 0, 5, 0, 2, 0, 1, 0, 0, 0, 0, 104]
  trace := [⟨.write wholeFilestore 1 0 [104], (0 : Int)⟩]

def endedStep : Step where
  call := .receivePdu (some wholeFilestore) [0x20, 0, 10, 0, 2, 0, 1, 4, 0, 104, 0, 0, 0, 0, 0, 0, 1]
  trace :=
    [⟨.sendPdu 2 [40, 0, 3, 0, 2, 0, 1, 6, 64, 1], (0 : Int)⟩,
      ⟨.read wholeFilestore 1 0 1, { rc := 0, nread := 1, data := [104] }⟩,
      ⟨.close wholeFilestore 1, (0 : Int)⟩,
      ⟨.commitTmp wholeFilestore [99], (0 : Int)⟩,
      ⟨.sendPdu 2 [40, 0, 2, 0, 2, 0, 1, 5, 2], (0 : Int)⟩]

/-- The Finished PDU of the peer completes the transaction. -/
def completedStep : Step where
  call := .receivePdu (some wholeFilestore) [40, 0, 2, 0, 2, 0, 1, 5, 2]
  trace :=
    [⟨.sendPdu 1 [32, 0, 3, 0, 2, 0, 1, 6, 81, 2], (0 : Int)⟩,
      ⟨.event .sender .complete { sourceEntityId := 2, transactionSequenceNumber := 0 } .ok, ()⟩,
      ⟨.close wholeFilestore 5, (0 : Int)⟩]

/-- Entity 2 sends a file, of which the link repeats the File Data PDU. -/
theorem files_transferred_octet : ∃ net,
    Run (Network.Step Peer.Turn Step.heard Step.said) silentLink
      [sendingStep, announcedStep, segmentStep, segmentStep, endedStep, completedStep] net ∧
    net.left.completed = [{ sourceEntityId := 2, transactionSequenceNumber := 0 }] ∧
    net.right.disk = .whole ∧ Transfers net.left net.right ∧ Transfers net.right net.left := by
  have played : (do
      let left₁ ← silentLink.left.play sendingStep .empty
      let right₁ ← silentLink.right.play announcedStep (.octet [])
      let right₂ ← right₁.play segmentStep (.octet [104])
      let right₃ ← right₂.play segmentStep (.octet [104])
      let right₄ ← right₃.play endedStep .whole
      let left₂ ← left₁.play completedStep .empty
      some (decide (left₂.completed = [{ sourceEntityId := 2, transactionSequenceNumber := 0 }]))) = some true := by
    decide +kernel
  simp only [Option.bind_eq_bind, Option.bind_eq_some_iff, Option.some.injEq, decide_eq_true_eq] at played
  obtain ⟨left₁, sent, right₁, announced, right₂, filed, right₃, repeated, right₄, ended, left₂, finished, complete⟩ :=
    played
  obtain ⟨sent, disk₁, source₁⟩ := Peer.turn_of_play sent (.step rfl (.step rfl (.step rfl (.step rfl (.step rfl .done)))))
    (by simp [sendingStep, silentLink, Peer.fresh, Source.answers, Bytes.slice])
    (by simp [silentLink, Peer.fresh])
  obtain ⟨announced, disk₂, source₂⟩ := Peer.turn_of_play announced (.step rfl .done)
    (by simp [announcedStep, Source.answers])
    (by simp [announcedStep, Step.puts])
  obtain ⟨filed, disk₃, source₃⟩ := Peer.turn_of_play filed
    (by rw [disk₂]; exact .step ⟨_, rfl, rfl, rfl, rfl⟩ .done)
    (by simp [segmentStep, Source.answers])
    (by simp [segmentStep, Step.puts])
  obtain ⟨repeated, disk₄, source₄⟩ := Peer.turn_of_play repeated
    (by rw [disk₃]; exact .step ⟨_, rfl, rfl, rfl, rfl⟩ .done)
    (by simp [segmentStep, Source.answers])
    (by simp [segmentStep, Step.puts])
  obtain ⟨ended, disk₅, source₅⟩ := Peer.turn_of_play ended
    (by rw [disk₄]; exact .step rfl (.step rfl (.step rfl (.step ⟨_, rfl, rfl, rfl⟩ (.step rfl .done)))))
    (by simp [endedStep, Source.answers, source₄, source₃, source₂, silentLink, Peer.fresh])
    (by simp [endedStep, Step.puts])
  obtain ⟨finished, _, _⟩ := Peer.turn_of_play finished
    (by rw [disk₁]; exact .step rfl (.step rfl (.step rfl .done)))
    (by simp [completedStep, Source.answers])
    (by simp [completedStep, Step.puts])
  have run : Run (Network.Step Peer.Turn Step.heard Step.said) silentLink
      [sendingStep, announcedStep, segmentStep, segmentStep, endedStep, completedStep] _ :=
    .step (.left sent (by simp [sendingStep, Step.heard]))
      (.step (.right announced (by simp [announcedStep, Step.heard, sendingStep, Step.said, sentPdus]))
        (.step (.right filed (by simp [segmentStep, Step.heard, sendingStep, Step.said, sentPdus]))
          (.step (.right repeated (by simp [segmentStep, Step.heard, sendingStep, Step.said, sentPdus]))
            (.step (.right ended (by simp [endedStep, Step.heard, sendingStep, Step.said, sentPdus]))
              (.step (.left finished (by simp [completedStep, Step.heard, endedStep, Step.said, sentPdus])) .done)))))
  exact ⟨_, run, complete, disk₅,
    files_transferred ⟨⟨_, _, entityInit_receiverConfig⟩, rfl, rfl, rfl⟩ ⟨⟨_, _, entityInit_peerConfig⟩, rfl, rfl, rfl⟩
      rfl rfl run⟩

end Sample

end ZephyrCcsds.Cfdp
