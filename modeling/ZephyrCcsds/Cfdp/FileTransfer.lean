import ZephyrCcsds.Cfdp.FileChecksum
import ZephyrCcsds.Cfdp.FinishedTransaction

/-! # What `send_file` sends

Faithful filestores as monitors of the callbacks, and the PDUs of a `send_file` that gets as far as its EOF:
the Metadata PDU, the file cut into `Segmented` File Data PDUs, and the EOF PDU with the checksum of the file.
-/

namespace ZephyrCcsds.Cfdp

open Callback Bytes

/-! ## Faithful filestores -/

/-- A read of octets of a file: at least one, and no more than were asked for -/
def ReadReply.reads (reply : ReadReply) (file : Bytes) (offset len : Nat) : Bool :=
  reply.rc == 0 && decide (0 < reply.nread) && decide (reply.nread ≤ len) &&
    reply.data.take reply.nread == slice file offset reply.nread

/-- What a filestore answers that holds the file to send -/
def holdsFile (file : Bytes) : Obs → Bool
  | ⟨.openRead _ _, reply⟩ => reply.rc == 0 && reply.size.toNat == file.length
  | ⟨.read _ _ offset len, reply⟩ => reply.reads file offset len
  | _ => true

structure TmpFile where
  path : Bytes
  handle : Handle
  octets : Bytes
  deriving DecidableEq, Repr

def TmpFile.write (file : TmpFile) (offset : Nat) (data : Bytes) : TmpFile :=
  { file with
    octets := overwrite (file.octets ++ List.replicate (offset - file.octets.length) 0) offset data }

/-- A filestore: the temporary file, and the files committed with their octets -/
structure Filestore where
  tmp : Option TmpFile
  committed : List (Bytes × Bytes)
  deriving DecidableEq, Repr

def Filestore.empty : Filestore where
  tmp := none
  committed := []

/-- The filestore after a callback that it answers faithfully.  What is asked about another file than the
temporary one it may answer as it likes. -/
def Filestore.back (store : Filestore) : Obs → Option Filestore
  | ⟨.openWriteTmp _ path, reply⟩ =>
    if reply.rc = 0 then some { store with tmp := some { path, handle := reply.handle, octets := [] } }
    else none
  | ⟨.write _ handle offset data, rc⟩ =>
    match store.tmp with
    | none => some store
    | some file =>
      if file.handle ≠ handle then some store
      else if rc = 0 then some { store with tmp := some (file.write offset data) }
      else none
  | ⟨.read _ handle offset len, reply⟩ =>
    match store.tmp with
    | none => some store
    | some file =>
      if file.handle ≠ handle ∨ file.octets.length ≤ offset then some store
      else if reply.reads file.octets offset len then some store
      else none
  | ⟨.close _ handle, rc⟩ =>
    match store.tmp with
    | none => some store
    | some file => if file.handle ≠ handle ∨ rc = 0 then some store else none
  | ⟨.commitTmp _ path, rc⟩ =>
    match store.tmp with
    | none => some store
    | some file =>
      if file.path ≠ path then some store
      else if rc = 0 then some { tmp := none, committed := (path, file.octets) :: store.committed }
      else none
  | ⟨.discardTmp _ path, _⟩ =>
    match store.tmp with
    | none => some store
    | some file => some (if file.path = path then { store with tmp := none } else store)
  | _ => some store

abbrev Filestore.backs (store : Filestore) (t : Trace) : Option Filestore := Monitor.run Filestore.back store t

/-- The PDUs of a trace, in the order in which they are sent -/
def sentPdus (t : Trace) : List Bytes :=
  t.filterMap fun
    | ⟨.sendPdu _ pdu, _⟩ => some pdu
    | _ => none

@[simp] theorem sentPdus_nil : sentPdus [] = [] := rfl

@[simp] theorem sentPdus_read (fs : FilestoreOps) (handle : Handle) (offset len : Nat) (reply : ReadReply)
    (t : Trace) : sentPdus (⟨.read fs handle offset len, reply⟩ :: t) = sentPdus t := rfl

@[simp] theorem sentPdus_openRead (fs : FilestoreOps) (path : Bytes) (reply : OpenReadReply) (t : Trace) :
    sentPdus (⟨.openRead fs path, reply⟩ :: t) = sentPdus t := rfl

@[simp] theorem sentPdus_append (t u : Trace) : sentPdus (t ++ u) = sentPdus t ++ sentPdus u :=
  List.filterMap_append

section Reads

variable {file : Bytes} {offset : Nat} {reply : ReadReply}

theorem ReadReply.reads_spec {len : Nat} (reads : reply.reads file offset len = true) :
    reply.Good len ∧ reply.data.take reply.nread = slice file offset reply.nread := by
  simp only [ReadReply.reads, Bool.and_eq_true, beq_iff_eq, decide_eq_true_eq] at reads
  obtain ⟨⟨⟨rc, pos⟩, le⟩, octets⟩ := reads
  exact ⟨⟨rc, pos, le⟩, octets⟩

/-- The front of a buffer that a read has filled -/
theorem take_fillBuffer (buf data : Bytes) {len n : Nat} (le : n ≤ len) (given : n ≤ data.length) :
    (fillBuffer buf len data).take n = data.take n := by
  rw [fillBuffer, List.take_append_of_le_length, List.take_take, Nat.min_eq_left le]
  rw [List.length_take]
  omega

/-- Data whose front is a slice of a file is as long as the slice. -/
theorem length_of_take_slice {data : Bytes} {n : Nat} (octets : data.take n = slice file offset n)
    (inside : offset + n ≤ file.length) : n ≤ data.length := by
  have same := congrArg List.length octets
  rw [slice_length_of_le inside, List.length_take] at same
  omega

/-- A faithful read at an offset of the file fills the front of the buffer with the octets there. -/
theorem segmentOctets_of_reads [Kconfig] (buf : Bytes)
    (reads : reply.reads file offset (segmentLen file.length offset) = true) :
    segmentOctets buf (segmentLen file.length offset) reply = slice file offset reply.nread ∧
      offset + reply.nread ≤ file.length := by
  obtain ⟨good, octets⟩ := ReadReply.reads_spec reads
  have pos := good.pos
  have le := good.le
  have short : segmentLen file.length offset ≤ file.length - offset := Nat.min_le_left _ _
  have inside : offset + reply.nread ≤ file.length := by omega
  refine ⟨?_, inside⟩
  rw [segmentOctets, take_fillBuffer _ _ le (length_of_take_slice octets inside)]
  exact octets

theorem checksumUpdate_slice [ZephyrCrc] [ZephyrCrc.Streams] {type : ChecksumType} {len : Nat}
    (supported : type.isSupported = true) (small : file.length ≤ uint32Max) (pos : 0 < len)
    (fits : offset + len ≤ file.length) :
    checksumUpdate (summedState type (file.take offset)) offset (slice file offset len) =
      .ok (summedState type (file.take (offset + len))) := by
  have sliced : (slice file offset len).length = len := slice_length_of_le fits
  have front : (file.take offset).length = offset := by
    rw [List.length_take]
    omega
  have some : slice file offset len ≠ [] := by
    intro none
    rw [none, List.length_nil] at sliced
    omega
  have both : (file.take offset).length + (slice file offset len).length ≤ uint32Max := by omega
  have next := checksumUpdate_summed supported some both
  rw [front, take_slice] at next
  exact next

end Reads

/-! ## What is sent -/

section Sending

variable [Kconfig] [ZephyrCrc]

/-- The File Data PDUs of a file, from an offset to its end -/
inductive Segmented (header : PduHeader) (file : Bytes) : Nat → List Bytes → Prop where
  | done : Segmented header file file.length []
  | next {offset len : Nat} {pdu : Bytes} {pdus : List Bytes} : 0 < len → offset + len ≤ file.length →
      encodeFiledata { header, offset, data := slice file offset len } maxPduSize = .ok pdu →
      Segmented header file (offset + len) pdus → Segmented header file offset (pdu :: pdus)

/-- A PDU that `ccsds_cfdp_decode_eof` accepts -/
def isEof (pdu : Bytes) : Bool :=
  match decodeEof pdu with
  | .ok _ => true
  | .error _ => false

omit [ZephyrCrc] in
theorem isEof_filedata {filedata : FiledataPdu} {cap : Nat} {pdu : Bytes}
    (encoded : encodeFiledata filedata cap = .ok pdu) (bounded : filedata.header.Bounded) : isEof pdu = false := by
  obtain ⟨header, headerLen, decoded, kind⟩ := encodeFiledata_header encoded bounded
  unfold isEof
  cases eof : decodeEof pdu with
  | error status => rfl
  | ok result =>
    obtain ⟨len, decoded', directive, _⟩ := decodeEof_header eof
    rw [decoded] at decoded'
    cases decoded'
    rw [kind] at directive
    cases directive

omit [ZephyrCrc] in
theorem isEof_metadata {metadata : MetadataPdu} {cap : Nat} {pdu : Bytes}
    (encoded : encodeMetadata metadata cap = .ok pdu) (bounded : metadata.header.Bounded)
    (size : metadata.fileSize ≤ uint32Max) : isEof pdu = false := by
  obtain ⟨len, decoded, _, octet⟩ := decodeMetadata_header (decodeMetadata_encodeMetadata encoded bounded size)
  unfold isEof
  cases eof' : decodeEof pdu with
  | error status => rfl
  | ok result =>
    obtain ⟨eof, consumed⟩ := result
    obtain ⟨len', decoded', _, octet'⟩ := decodeEof_header eof'
    rw [decoded, Except.ok.injEq, Prod.mk.injEq] at decoded'
    rw [← decoded'.2] at octet'
    exact absurd (octet.symm.trans octet') (by decide)

omit [Kconfig] [ZephyrCrc] in
theorem HandleClosed.sentPdus {slot : TransactionSlot} {t : Trace} (closed : HandleClosed slot t) :
    sentPdus t = [] := by
  cases closed <;> rfl

omit [Kconfig] [ZephyrCrc] in
@[simp] theorem sentPdus_terminalEvent (entity : Entity) (role : Role) (id : TransactionId) (status : Status) :
    sentPdus (terminalEvent entity role id status) = [] := by
  unfold terminalEvent
  split <;> rfl

omit [Kconfig] [ZephyrCrc] in
theorem SenderFailed.sentPdus {entity : Entity} {status : Status} {t : Trace}
    (failed : SenderFailed entity status t) : sentPdus t = [] := by
  obtain ⟨closed⟩ := failed
  simp [closed.sentPdus]

omit [Kconfig] [ZephyrCrc] in
theorem SenderReleased.sentPdus {entity : Entity} {status : Status} {t : Trace}
    (released : SenderReleased entity status t) : sentPdus t = [] := by
  obtain ⟨closed⟩ := released
  simp [closed.sentPdus]

omit [Kconfig] [ZephyrCrc] in
theorem Sent.sentPdus {dest : Nat} {encoded : Except Status Bytes} {t : Trace} {status : Status}
    (sent : Sent dest encoded t status) : ∀ pdu ∈ sentPdus t, encoded = .ok pdu := by
  intro pdu mem
  cases sent with
  | refused => cases mem
  | sent rc encoded =>
    simp only [Cfdp.sentPdus, List.filterMap_cons, List.filterMap_nil, List.mem_singleton] at mem
    rw [mem]
    exact encoded

omit [Kconfig] [ZephyrCrc] in
theorem Sent.sentPdus_ok {dest : Nat} {encoded : Except Status Bytes} {t : Trace}
    (nonzero : encoded ≠ .error .ok) (sent : Sent dest encoded t .ok) :
    ∃ pdu, encoded = .ok pdu ∧ Cfdp.sentPdus t = [pdu] := by
  obtain ⟨pdu, encoded, rfl⟩ := Sent.ok nonzero sent
  exact ⟨pdu, encoded, rfl⟩

variable {fs : FilestoreOps} {entity : Entity} {handle : Handle} {type : ChecksumType} {file : Bytes}
  {t : Trace}

/-- No File Data PDU of the loop is an EOF PDU. -/
theorem FileSent.not_eof {fileSize offset : Nat} {state : ChecksumState} {buf buf' : Bytes}
    {result : Except Status ChecksumState}
    (sent : FileSent fs entity handle fileSize state offset buf t result buf') (bounded : entity.Bounded) :
    ∀ pdu ∈ sentPdus t, isEof pdu = false := by
  have one : ∀ {offset data t status}, FiledataSent entity offset data t status →
      ∀ pdu ∈ sentPdus t, isEof pdu = false := by
    intro offset data t status sent pdu mem
    exact isEof_filedata (sent.sentPdus pdu mem) (bounded.senderHeader .fileData)
  induction sent with
  | done | unread =>
    intro pdu mem
    cases mem
  | unsent _ _ sent | unsummed _ _ sent =>
    rw [sentPdus_read]
    exact one sent
  | turn _ _ sent _ _ ih =>
    intro pdu mem
    rw [sentPdus_read, sentPdus_append, List.mem_append] at mem
    rcases mem with first | later
    · exact one sent pdu first
    · exact ih pdu later

/-- The loop of `send_file` over a file that its filestore holds -/
theorem FileSent.segmented [ZephyrCrc.Streams] {offset : Nat} {state final : ChecksumState} {buf buf' : Bytes}
    (supported : type.isSupported = true) (small : file.length ≤ uint32Max)
    (sent : FileSent fs entity handle file.length state offset buf t (.ok final) buf')
    (start : state = summedState type (file.take offset)) (inside : offset ≤ file.length)
    (holds : ∀ obs ∈ t, holdsFile file obs = true) :
    Segmented (senderHeader entity .fileData) file offset (sentPdus t) ∧ final = summedState type file := by
  generalize size : file.length = fileSize at sent
  generalize result : Except.ok final = ended at sent
  induction sent with
  | @done state offset buf past =>
    cases result
    have whole : offset = file.length := by omega
    subst whole
    rw [start, List.take_length]
    exact ⟨.done, rfl⟩
  | unread | unsent | unsummed => cases result
  | @turn state state' offset buf buf' reply t u result more good sent updated rest ih =>
    subst size
    have reads : reply.reads file offset (segmentLen file.length offset) = true := holds _ List.mem_cons_self
    obtain ⟨octets, fits⟩ := segmentOctets_of_reads buf reads
    obtain ⟨pdu, encoded, pdus⟩ := Sent.sentPdus_ok (encodeFiledata_ne_error_ok _ _) sent
    rw [octets] at encoded updated
    rw [start, checksumUpdate_slice supported small good.pos fits] at updated
    obtain ⟨segments, summed⟩ := ih (Except.ok.inj updated).symm fits
      (fun obs mem => holds obs (List.mem_cons_of_mem _ (List.mem_append_right _ mem))) result
    refine ⟨?_, summed⟩
    rw [sentPdus_read, sentPdus_append, pdus]
    exact .next good.pos fits encoded segments

/-- The PDUs of a whole `send_file`: Metadata, the file, and EOF with the checksum of the file -/
structure SendsFile (entity : Entity) (request : PutRequest) (source destination file : Bytes) (pdus : List Bytes)
    (metadata : Bytes) (segments : List Bytes) (eof : Bytes) : Prop where
  pdus : pdus = metadata :: (segments ++ [eof])
  metadata : encodeMetadata (metadataPdu entity request source destination file.length) maxPduSize = .ok metadata
  segments : Segmented (senderHeader entity .fileData) file 0 segments
  eof : encodeEof (eofPdu entity (fileChecksum request.checksumType file) file.length) maxPduSize = .ok eof

omit [Kconfig] [ZephyrCrc] in
theorem Clock.sentPdus {now : Nat} (clock : Clock entity t now) : sentPdus t = [] := by
  cases clock <;> rfl

/-- A transfer that sends an EOF PDU sends the file. -/
theorem Transferred.sends [ZephyrCrc.Streams] {request : PutRequest} {source destination : Bytes}
    {init : ChecksumState} {status : Status} {keep : Bool} {entity' : Entity}
    (transferred : Transferred fs request source destination init handle file.length entity t status keep entity')
    (bounded : entity.Bounded) (small : file.length ≤ uint32Max)
    (started : checksumInit request.checksumType = .ok init) (holds : ∀ obs ∈ t, holdsFile file obs = true)
    (ended : ∃ pdu ∈ sentPdus t, isEof pdu = true) :
    ∃ metadata segments eof, SendsFile entity request source destination file (sentPdus t) metadata segments eof := by
  have supported := (checksumInit_ok started).1
  have init_eq : init = summedState request.checksumType (file.take 0) := by
    rw [checksumInit_summed supported] at started
    exact (Except.ok.inj started).symm
  obtain ⟨last, sentLast, isEnd⟩ := ended
  have announced : ∀ {t status}, MetadataSent entity request source destination file.length t status →
      ∀ pdu ∈ sentPdus t, isEof pdu = false := by
    intro t status sent pdu mem
    exact isEof_metadata (sent.sentPdus pdu mem) (bounded.senderHeader .fileDirective) small
  -- only the last PDU of the transfer is an EOF PDU
  cases transferred with
  | unannounced sent =>
    rw [announced sent last sentLast] at isEnd
    cases isEnd
  | interrupted sent loop =>
    rw [sentPdus_append, List.mem_append] at sentLast
    rcases sentLast with first | later
    · rw [announced sent last first] at isEnd
      cases isEnd
    · rw [loop.not_eof bounded last later] at isEnd
      cases isEnd
  | unsummed sent loop failed =>
    obtain ⟨_, rfl⟩ := loop.segmented supported small init_eq (Nat.zero_le _)
      (fun obs mem => holds obs (List.mem_append_right _ mem))
    rw [checksumFinish_summed supported] at failed
    cases failed
  | ended sent loop finished eofSent =>
    obtain ⟨segments, rfl⟩ := loop.segmented supported small init_eq (Nat.zero_le _)
      (fun obs mem => holds obs (List.mem_append_right _ (List.mem_append_left _ mem)))
    obtain ⟨metadata, encoded, first⟩ := Sent.sentPdus_ok (encodeMetadata_ne_error_ok _ _) sent
    rw [checksumFinish_summed supported, Except.ok.injEq] at finished
    subst finished
    simp only [sentPdus_append, first] at sentLast ⊢
    cases eofSent with
    | refused =>
      simp only [sentPdus_nil, List.append_nil, List.mem_append] at sentLast
      rcases sentLast with first' | later
      · rw [announced sent last (first ▸ first')] at isEnd
        cases isEnd
      · rw [loop.not_eof bounded last later] at isEnd
        cases isEnd
    | @sent eof rc encoded' => exact ⟨metadata, _, eof, rfl, encoded, segments, encoded'⟩
  | awaiting sent loop finished eofSent _ clock =>
    obtain ⟨segments, rfl⟩ := loop.segmented supported small init_eq (Nat.zero_le _)
      (fun obs mem => holds obs (List.mem_append_right _ (List.mem_append_left _ mem)))
    obtain ⟨metadata, encoded, first⟩ := Sent.sentPdus_ok (encodeMetadata_ne_error_ok _ _) sent
    rw [checksumFinish_summed supported, Except.ok.injEq] at finished
    subst finished
    obtain ⟨eof, encoded', final⟩ := Sent.sentPdus_ok (encodeEof_ne_error_ok _ _) eofSent
    refine ⟨metadata, _, eof, ?_, encoded, segments, encoded'⟩
    simp [first, final, clock.sentPdus]

/-- The path that is announced for the destination of a request -/
def PutRequest.destinationName (request : PutRequest) : Bytes :=
  cString (request.destinationPath.getD [])

omit [ZephyrCrc] in
/-- A valid path is announced up to its terminator. -/
theorem take_pathLen {path : Bytes} {len : Nat} (valid : pathLenIsValid (some path) = some len) :
    path.take len = cString path := by
  rw [pathLenIsValid] at valid
  split_ifs at valid with outside
  rw [Option.some.injEq] at valid
  rw [not_or, not_lt, boundedStrlen] at outside
  rw [boundedStrlen] at valid
  have len_eq : len = (cString path).length := by omega
  rw [len_eq]
  exact (List.prefix_iff_eq_take.mp (List.takeWhile_prefix _)).symm

theorem sendFile_sends [ZephyrCrc.Streams] {request : PutRequest} {status : Status} {entity' : Entity}
    (handled : SendFileHandled fs request entity t status entity') (bounded : entity.Bounded)
    (holds : ∀ obs ∈ t, holdsFile file obs = true) (ended : ∃ pdu ∈ sentPdus t, isEof pdu = true) :
    request.checksumType.isSupported = true ∧ file.length ≤ uint32Max ∧
      ∃ source reply metadata segments eof,
        SendsFile ((entity.startSend request source request.destinationName).openSource fs request.checksumType reply)
          request source request.destinationName file (sentPdus t) metadata segments eof := by
  obtain ⟨last, sentLast, isEnd⟩ := ended
  -- the transfer of an opened file makes all the sends
  have opened : ∀ {path source destination init} {reply : OpenReadReply} {u status keep entity'},
      Puttable request path source destination init → holdsFile file ⟨.openRead fs (cString path), reply⟩ = true →
      Transferred fs request source destination init reply.handle reply.size.toNat
        ((entity.startSend request source destination).openSource fs request.checksumType reply) u status keep
        entity' →
      (∀ obs ∈ u, holdsFile file obs = true) → last ∈ sentPdus u →
      request.checksumType.isSupported = true ∧ file.length ≤ uint32Max ∧
        ∃ source reply metadata segments eof,
          SendsFile ((entity.startSend request source request.destinationName).openSource fs request.checksumType reply)
            request source request.destinationName file (sentPdus u) metadata segments eof := by
    intro path source destination init reply u status keep entity' puttable opens transferred holds sentLast
    simp only [holdsFile, Bool.and_eq_true, beq_iff_eq] at opens
    have small : file.length ≤ uint32Max := by
      have bound := reply.size.toNat_lt
      unfold uint32Max
      omega
    rw [opens.2] at transferred
    have started := bounded.startSend request source destination
    have bounded' : ((entity.startSend request source destination).openSource fs request.checksumType reply).Bounded :=
      started.withSender (started.sender.congr rfl rfl)
    obtain ⟨path', len, requested, valid, rfl⟩ := puttable.destination
    have name : path'.take len = request.destinationName := by
      rw [take_pathLen valid, PutRequest.destinationName, requested]
      rfl
    rw [name] at transferred bounded'
    exact ⟨(checksumInit_ok puttable.checksum).1, small, source, reply,
      transferred.sends bounded' small puttable.checksum holds ⟨last, sentLast, isEnd⟩⟩
  cases handled with
  | rejected => cases sentLast
  | unopened _ _ _ released =>
    rw [sentPdus_openRead, released.sentPdus] at sentLast
    cases sentLast
  | @released path source destination init reply u v _ entity₁ _ puttable rc transferred failed =>
    rw [sentPdus_openRead, sentPdus_append, failed.sentPdus, List.append_nil] at sentLast ⊢
    exact opened puttable (holds _ List.mem_cons_self) transferred
      (fun obs mem => holds obs (List.mem_cons_of_mem _ (List.mem_append_left _ mem))) sentLast
  | kept _ puttable rc transferred =>
    rw [sentPdus_openRead] at sentLast ⊢
    exact opened puttable (holds _ List.mem_cons_self) transferred
      (fun obs mem => holds obs (List.mem_cons_of_mem _ mem)) sentLast

end Sending

end ZephyrCcsds.Cfdp
