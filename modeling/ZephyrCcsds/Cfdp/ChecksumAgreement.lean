import ZephyrCcsds.Callback.Fallible
import ZephyrCcsds.Cfdp.FileArrival

/-! # One checksum for a file

The sender sums the segments that it sends, the receiver what it reads back, and
`ccsds_cfdp_checksum_finish_file` what was summed while the file came in, in any order.  All of them
are `fileChecksum`.

* The modular checksum is a sum over the octets, each in the lane of its offset: the order of the pieces
  does not matter, and it is the sum of the big-endian words of the file (`modular_words`).
* A CRC state is the CRC of the first octets of the file or deferred (`Following`), and in the second case
  the file is read again.
-/

namespace ZephyrCcsds.Cfdp

open Callback Bytes

/-! ## `ccsds_cfdp_checksum_finish_file` -/

/-- A call of `read`: the offset and the octets asked for -/
structure ChecksumRead where
  offset : Nat
  cap : Nat
  deriving DecidableEq, Repr

/-- What `read` returns and writes -/
structure ChecksumReadReply where
  status : Status
  readLen : Nat
  data : Bytes
  deriving DecidableEq, Repr

/-- A program over the scratch buffer that reads the file through its callback -/
abbrev ChecksumM (α : Type) : Type := Fallible ChecksumRead (fun _ => ChecksumReadReply) Bytes Status α

/-- `checksum_type_is_crc` -/
def checksumTypeIsCrc (type : ChecksumType) : Bool := type == .crc32c || type == .ieee8023Fcs

section Model

variable [ZephyrCrc]

/-- The loop of `ccsds_cfdp_checksum_finish_file`, with `fileSize - offset` turns -/
def checksumFinishFileLoop (fileSize : Nat) : Nat → ChecksumState → Nat → ChecksumM ChecksumState
  | 0, recomputed, _ => pure recomputed
  | fuel + 1, recomputed, offset => do
    if offset < fileSize then
      let remaining := fileSize - offset
      let scratch ← Fallible.read
      let requestLen := min remaining scratch.length
      let reply ← Fallible.call { offset, cap := requestLen : ChecksumRead }
      Fallible.modify fun scratch => fillBuffer scratch requestLen reply.data
      Fallible.failIf (reply.status ≠ .ok) reply.status
      Fallible.failIf (reply.readLen = 0 ∨ requestLen < reply.readLen ∨ remaining < reply.readLen) .invalidArgument
      let scratch ← Fallible.read
      let recomputed ← Fallible.ofExcept (checksumUpdate recomputed offset (scratch.take reply.readLen))
      checksumFinishFileLoop fileSize fuel recomputed (offset + reply.readLen)
    else pure recomputed

/-- `ccsds_cfdp_checksum_finish_file` -/
def checksumFinishFile (state : ChecksumState) (fileSize : Nat) : ChecksumM Nat := do
  if !state.type.isSupported then Fallible.fail .unsupportedChecksum
  else if !checksumTypeIsCrc state.type then Fallible.ofExcept (checksumFinish state)
  else if !state.deferred && state.nextOffset == fileSize then Fallible.ofExcept (checksumFinish state)
  else
    let recomputed ← Fallible.ofExcept (checksumInit state.type)
    let recomputed ← checksumFinishFileLoop fileSize fileSize recomputed 0
    Fallible.ofExcept (checksumFinish recomputed)

end Model

/-! ## Pieces of a file -/

/-- The octets of a file that one update carries -/
structure FilePiece where
  offset : Nat
  len : Nat
  deriving DecidableEq, Repr

def FilePiece.positions (piece : FilePiece) : List Nat := List.range' piece.offset piece.len

/-- A piece of a file of a given size.  An empty one may lie anywhere. -/
def FilePiece.Within (piece : FilePiece) (size : Nat) : Prop := ∀ i ∈ piece.positions, i < size

/-- The pieces cover every position of a file once, in any order. -/
def Partitions (pieces : List FilePiece) (size : Nat) : Prop :=
  (pieces.flatMap FilePiece.positions).Perm (List.range size)

/-- One update for each piece -/
def checksumUpdates [ZephyrCrc] (file : Bytes) (state : ChecksumState) (pieces : List FilePiece) :
    Except Status ChecksumState :=
  pieces.foldlM (fun state piece => checksumUpdate state piece.offset (slice file piece.offset piece.len)) state

section Pieces

variable {piece : FilePiece} {pieces : List FilePiece} {size : Nat} {file : Bytes}

theorem FilePiece.Within.fits (within : piece.Within size) : piece.len = 0 ∨ piece.offset + piece.len ≤ size := by
  by_cases empty : piece.len = 0
  · exact .inl empty
  · have last := within (piece.offset + piece.len - 1) (by
      rw [FilePiece.positions, List.mem_range'_1]
      omega)
    omega

theorem Partitions.within (partition : Partitions pieces size) : ∀ piece ∈ pieces, piece.Within size := by
  intro piece member i position
  have covered : i ∈ pieces.flatMap FilePiece.positions := List.mem_flatMap.mpr ⟨piece, member, position⟩
  exact List.mem_range.mp (partition.mem_iff.mp covered)

theorem FilePiece.Within.valid (within : piece.Within file.length) (small : file.length ≤ uint32Max) :
    updateRangeIsValid piece.offset (slice file piece.offset piece.len).length = true := by
  rw [updateRangeIsValid, Bool.or_eq_true, decide_eq_true_eq, decide_eq_true_eq]
  rcases within.fits with empty | inside
  · rw [empty, slice, List.take_zero, List.length_nil]
    omega
  · rw [slice_length_of_le inside]
    omega

end Pieces

/-! ## The modular checksum -/

/-- The summand of an octet: the octet in the lane of its offset -/
def laneValue (file : Bytes) (i : Nat) : Nat := (file.getD i 0).toNat * 2 ^ ((3 - i % 4) * 8)

theorem lane_toNat (byte : UInt8) (i : Nat) :
    (byte.toUInt32 <<< UInt32.ofNat ((3 - i % 4) * 8)).toNat = byte.toNat * 2 ^ ((3 - i % 4) * 8) := by
  have octet := byte.toNat_lt
  have lane : i % 4 = 0 ∨ i % 4 = 1 ∨ i % 4 = 2 ∨ i % 4 = 3 := by omega
  rw [UInt32.toNat_shiftLeft, UInt8.toNat_toUInt32, Nat.shiftLeft_eq]
  rcases lane with lane | lane | lane | lane <;> rw [lane] <;> simp <;> omega

theorem modularUpdate_slice (file : Bytes) (len : Nat) : ∀ (value : UInt32) (offset : Nat),
    len = 0 ∨ offset + len ≤ file.length →
    (modularUpdate value offset (slice file offset len)).toNat =
      (value.toNat + ((List.range' offset len).map (laneValue file)).sum) % 2 ^ 32 := by
  induction len with
  | zero =>
    intro value offset _
    have small := value.toNat_lt
    simp only [slice, List.take_zero, modularUpdate, List.range'_zero, List.map_nil, List.sum_nil, Nat.add_zero]
    exact (Nat.mod_eq_of_lt small).symm
  | succ len ih =>
    intro value offset inside
    have first : slice file offset (len + 1) = file.getD offset 0 :: slice file (offset + 1) len := by
      rw [slice, List.drop_eq_getElem_cons (by omega), List.take_succ_cons, List.getD_eq_getElem?_getD,
        List.getElem?_eq_getElem (by omega)]
      rfl
    rw [first, modularUpdate, ih _ (offset + 1) (.inr (by omega)), UInt32.toNat_add, lane_toNat, List.range'_succ,
      List.map_cons, List.sum_cons]
    show ((value.toNat + laneValue file offset) % 2 ^ 32 + _) % 2 ^ 32 = _
    rw [Nat.mod_add_mod, Nat.add_assoc]

variable [ZephyrCrc]

/-- An update of the modular checksum adds the lanes of its piece. -/
theorem checksumUpdate_modular {file : Bytes} (small : file.length ≤ uint32Max) {state : ChecksumState}
    (modular : state.type = .modular) {piece : FilePiece} (within : piece.Within file.length) :
    ∃ state', checksumUpdate state piece.offset (slice file piece.offset piece.len) = .ok state' ∧
      state'.type = .modular ∧
      state'.value.toNat = (state.value.toNat + (piece.positions.map (laneValue file)).sum) % 2 ^ 32 := by
  have valid := within.valid small
  have added := modularUpdate_slice file piece.len state.value piece.offset within.fits
  unfold checksumUpdate
  rw [modular]
  by_cases none : (slice file piece.offset piece.len).length = 0
  · refine ⟨state, ?_, modular, ?_⟩
    · simp [ChecksumType.isSupported, none]
    · rw [List.length_eq_zero_iff.mp none, modularUpdate] at added
      exact added
  · refine ⟨{ state with value := modularUpdate state.value piece.offset (slice file piece.offset piece.len) },
      ?_, modular, added⟩
    simp [ChecksumType.isSupported, none, valid, modular]

theorem checksumUpdates_modular {file : Bytes} (small : file.length ≤ uint32Max) (pieces : List FilePiece)
    (within : ∀ piece ∈ pieces, piece.Within file.length) : ∀ state : ChecksumState,
    state.type = .modular → ∃ state', checksumUpdates file state pieces = .ok state' ∧ state'.type = .modular ∧
      state'.value.toNat =
        (state.value.toNat + ((pieces.flatMap FilePiece.positions).map (laneValue file)).sum) % 2 ^ 32 := by
  induction pieces with
  | nil =>
    intro state modular
    refine ⟨state, rfl, modular, ?_⟩
    exact (Nat.mod_eq_of_lt state.value.toNat_lt).symm
  | cons piece pieces ih =>
    intro state modular
    obtain ⟨state₁, updated, modular₁, value₁⟩ := checksumUpdate_modular small modular
      (within piece List.mem_cons_self)
    obtain ⟨state', rest, modular', value'⟩ := ih
      (fun piece member => within piece (List.mem_cons_of_mem _ member)) state₁ modular₁
    refine ⟨state', ?_, modular', ?_⟩
    · rw [checksumUpdates, List.foldlM_cons, updated]
      exact rest
    · rw [value', value₁, List.flatMap_cons, List.map_append, List.sum_append, Nat.mod_add_mod, Nat.add_assoc]

omit [ZephyrCrc] in
theorem lanes_of_file (file : Bytes) :
    (modularUpdate 0 0 file).toNat = ((List.range file.length).map (laneValue file)).sum % 2 ^ 32 := by
  have whole := modularUpdate_slice file file.length 0 0 (.inr (by omega))
  rw [slice, List.drop_zero, List.take_length, ← List.range_eq_range'] at whole
  rw [whole]
  simp

theorem fileChecksum_modular (file : Bytes) :
    fileChecksum .modular file = ((List.range file.length).map (laneValue file)).sum % 2 ^ 32 := by
  rw [← lanes_of_file]
  show (summedValue .modular file).toNat = _
  rw [summedValue]
  by_cases empty : file = []
  · rw [if_pos empty, empty]
    rfl
  · rw [if_neg empty]

/-! ### Words -/

/-- The big-endian words of a file, the last one with zeros behind it -/
def beWords (file : Bytes) : List Nat :=
  (List.range ((file.length + 3) / 4)).map fun i => getBe ((List.range 4).map fun k => file.getD (4 * i + k) 0)

omit [ZephyrCrc] in
theorem lanes_of_words (file : Bytes) (count : Nat) :
    ((List.range (4 * count)).map (laneValue file)).sum =
      ((List.range count).map fun i => getBe ((List.range 4).map fun k => file.getD (4 * i + k) 0)).sum := by
  induction count with
  | zero => rfl
  | succ count ih =>
    have word : getBe ((List.range 4).map fun k => file.getD (4 * count + k) 0) =
        laneValue file (4 * count) + laneValue file (4 * count + 1) + laneValue file (4 * count + 2) +
          laneValue file (4 * count + 3) := by
      have place0 : (3 - 4 * count % 4) * 8 = 24 := by omega
      have place1 : (3 - (4 * count + 1) % 4) * 8 = 16 := by omega
      have place2 : (3 - (4 * count + 2) % 4) * 8 = 8 := by omega
      have place3 : (3 - (4 * count + 3) % 4) * 8 = 0 := by omega
      simp only [laneValue, place0, place1, place2, place3]
      simp [List.range_succ, getBe]
      omega
    rw [Nat.mul_succ]
    simp only [@List.range_succ count, List.map_append, List.sum_append, List.map_cons, List.map_nil, List.sum_cons,
      List.sum_nil, ← ih, word]
    simp only [show 4 * count + 4 = 4 * count + 1 + 1 + 1 + 1 from rfl, List.range_succ, List.map_append,
      List.sum_append, List.map_cons, List.map_nil, List.sum_cons, List.sum_nil]
    omega

/-- The modular checksum is the sum of the words modulo `2 ^ 32`. -/
theorem modular_words (file : Bytes) : fileChecksum .modular file = (beWords file).sum % 2 ^ 32 := by
  have beyond : ((List.range (4 * ((file.length + 3) / 4))).map (laneValue file)).sum =
      ((List.range file.length).map (laneValue file)).sum := by
    obtain ⟨rest, total⟩ : ∃ rest, 4 * ((file.length + 3) / 4) = file.length + rest :=
      ⟨4 * ((file.length + 3) / 4) - file.length, by omega⟩
    rw [total, List.range_add, List.map_append, List.sum_append, List.map_map]
    have zeros : ((List.range rest).map (laneValue file ∘ fun i => file.length + i)).sum = 0 := by
      rw [List.sum_eq_zero_iff_forall_eq_nat]
      intro value member
      obtain ⟨i, _, rfl⟩ := List.mem_map.mp member
      -- Behind the file there are no octets.
      simp [laneValue, List.getD_eq_getElem?_getD]
    rw [zeros, Nat.add_zero]
  rw [fileChecksum_modular, ← beyond, lanes_of_words]
  rfl

/-! ## The ordered checksums -/

section Ordered

variable {type : ChecksumType} {file : Bytes} {state : ChecksumState} {piece : FilePiece}

/-- The state of a CRC between two updates with octets of a file: it is deferred, or has summed the octets
before its offset. -/
structure Following (type : ChecksumType) (file : Bytes) (state : ChecksumState) : Prop where
  kind : state.type = type
  summed : state.deferred = false →
    state.nextOffset ≤ file.length ∧ state = summedState type (file.take state.nextOffset)

theorem Following.of_init (type : ChecksumType) (file : Bytes) : Following type file (summedState type []) where
  kind := rfl
  summed := by
    intro _
    have start : (summedState type []).nextOffset = 0 := ite_self 0
    rw [start, List.take_zero]
    exact ⟨Nat.zero_le _, rfl⟩

theorem Following.update [ZephyrCrc.Streams] (follows : Following type file state) (ordered : type.ordered = true)
    (supported : type.isSupported = true) (small : file.length ≤ uint32Max) (within : piece.Within file.length) :
    ∃ state', checksumUpdate state piece.offset (slice file piece.offset piece.len) = .ok state' ∧
      Following type file state' := by
  have valid := within.valid small
  by_cases empty : (slice file piece.offset piece.len).length = 0
  · refine ⟨state, ?_, follows⟩
    rw [checksumUpdate, follows.kind, supported, if_pos empty]
    rfl
  by_cases out : piece.offset = state.nextOffset
  · by_cases deferred : state.deferred = true
    · refine ⟨state, ?_, follows⟩
      cases type with
      | crc32c | ieee8023Fcs =>
        simp [checksumUpdate, follows.kind, ChecksumType.isSupported, empty, valid, out.symm, deferred]
      | modular | null | other => cases ordered
    · obtain ⟨_, summed⟩ := follows.summed (Bool.not_eq_true _ ▸ deferred)
      have pos : 0 < piece.len := by
        by_contra zero
        rw [Nat.eq_zero_of_not_pos zero, slice, List.take_zero] at empty
        exact empty rfl
      have inside : piece.offset + piece.len ≤ file.length := within.fits.resolve_left pos.ne'
      refine ⟨summedState type (file.take (piece.offset + piece.len)), ?_, rfl, ?_⟩
      · rw [summed, ← out]
        exact checksumUpdate_slice supported small pos inside
      · intro _
        have next : (summedState type (file.take (piece.offset + piece.len))).nextOffset =
            piece.offset + piece.len := by
          show (if type.ordered then (file.take (piece.offset + piece.len)).length else 0) = _
          rw [if_pos ordered, List.length_take, Nat.min_eq_left inside]
        rw [next]
        exact ⟨inside, rfl⟩
  · -- Octets out of order: the file has to be read again.
    refine ⟨{ state with deferred := true }, ?_, follows.kind, ?_⟩
    · cases type with
      | crc32c | ieee8023Fcs =>
        simp [checksumUpdate, follows.kind, ChecksumType.isSupported, empty, valid, out]
      | modular | null | other => cases ordered
    · intro deferred
      cases deferred

theorem Following.updates [ZephyrCrc.Streams] (ordered : type.ordered = true) (supported : type.isSupported = true)
    (small : file.length ≤ uint32Max) {pieces : List FilePiece}
    (within : ∀ piece ∈ pieces, piece.Within file.length) (follows : Following type file state) :
    ∃ state', checksumUpdates file state pieces = .ok state' ∧ Following type file state' := by
  induction pieces generalizing state with
  | nil => exact ⟨state, rfl, follows⟩
  | cons piece pieces ih =>
    obtain ⟨state₁, updated, follows₁⟩ := follows.update ordered supported small (within piece List.mem_cons_self)
    obtain ⟨state', rest, follows'⟩ := ih (fun piece member => within piece (List.mem_cons_of_mem _ member)) follows₁
    refine ⟨state', ?_, follows'⟩
    rw [checksumUpdates, List.foldlM_cons, updated]
    exact rest

theorem checksumUpdates_null (small : file.length ≤ uint32Max) {pieces : List FilePiece}
    (within : ∀ piece ∈ pieces, piece.Within file.length) (kind : state.type = .null) :
    ∃ state', checksumUpdates file state pieces = .ok state' ∧ state'.type = .null := by
  refine ⟨state, ?_, kind⟩
  induction pieces with
  | nil => rfl
  | cons piece pieces ih =>
    have same : checksumUpdate state piece.offset (slice file piece.offset piece.len) = .ok state := by
      have valid := (within piece List.mem_cons_self).valid small
      simp [checksumUpdate, kind, ChecksumType.isSupported, valid]
    rw [checksumUpdates, List.foldlM_cons, same]
    exact ih fun piece member => within piece (List.mem_cons_of_mem _ member)

end Ordered

/-! ## Reading the file again -/

section Reread

variable {type : ChecksumType} {file : Bytes}

/-- A read of octets of a file: at least one, and no more than were asked for -/
structure ChecksumReadReply.Reads (reply : ChecksumReadReply) (file : Bytes) (read : ChecksumRead) : Prop where
  status : reply.status = .ok
  pos : 0 < reply.readLen
  le : reply.readLen ≤ read.cap
  octets : reply.data.take reply.readLen = slice file read.offset reply.readLen

/-- A callback that reads a file -/
abbrev reading (file : Bytes) :
    Environment ChecksumRead (fun _ => ChecksumReadReply) Bytes (ChecksumRead × ChecksumReadReply) :=
  answering (fun read reply => reply.Reads file read) fun _ read reply => (read, reply)

omit [ZephyrCrc] in
theorem length_fillBuffer (buf : Bytes) (len : Nat) (data : Bytes) (le : len ≤ buf.length) :
    (fillBuffer buf len data).length = buf.length := by
  rw [fillBuffer, List.length_append, List.length_take, List.length_drop]
  omega

theorem checksumFinishFileLoop_sums [ZephyrCrc.Streams] (supported : type.isSupported = true)
    (small : file.length ≤ uint32Max) (fuel : Nat) : ∀ (offset : Nat) (scratch : Bytes),
    file.length - offset ≤ fuel → offset ≤ file.length → 0 < scratch.length →
    (checksumFinishFileLoop file.length fuel (summedState type (file.take offset)) offset).wp (reading file)
      (fun _ final _ => final = summedState type file) (fun _ _ _ => False) scratch := by
  induction fuel with
  | zero =>
    intro offset scratch enough inside _
    have whole : offset = file.length := by omega
    rw [checksumFinishFileLoop, Fallible.wp_pure, whole, List.take_length]
  | succ fuel ih =>
    intro offset scratch enough inside room
    simp only [checksumFinishFileLoop, Fallible.wp_ite, Fallible.wp_bind, Fallible.wp_read, Fallible.wp_modify,
      Fallible.wp_call_answering, Fallible.wp_failIf, Fallible.wp_pure]
    constructor
    · intro more reply reads
      have pos := reads.pos
      have le := reads.le
      have fits : offset + reply.readLen ≤ file.length := by
        dsimp only at le
        omega
      -- what the update is given is a slice of the file
      have given : (fillBuffer scratch (min (file.length - offset) scratch.length) reply.data).take reply.readLen =
          slice file offset reply.readLen := by
        rw [take_fillBuffer _ _ le (length_of_take_slice reads.octets fits)]
        exact reads.octets
      refine ⟨fun failed => failed reads.status, fun _ => ⟨?_, fun _ => ?_⟩⟩
      · intro bad
        dsimp only at le
        omega
      · rw [given, checksumUpdate_slice supported small pos fits, Fallible.wp_ofExcept_ok]
        apply ih
        · omega
        · exact fits
        · rw [length_fillBuffer _ _ _ (Nat.min_le_right _ _)]
          exact room
    · intro past
      have whole : offset = file.length := by omega
      rw [whole, List.take_length]

theorem checksumFinishFile_sums [ZephyrCrc.Streams] (supported : type.isSupported = true)
    (small : file.length ≤ uint32Max) {state : ChecksumState} {scratch : Bytes}
    (room : file ≠ [] → 0 < scratch.length) (kind : state.type = type)
    (unordered : checksumTypeIsCrc type = false → checksumFinish state = .ok (fileChecksum type file))
    (ordered : checksumTypeIsCrc type = true → Following type file state) :
    (checksumFinishFile state file.length).wp (reading file)
      (fun _ checksum _ => checksum = fileChecksum type file) (fun _ _ _ => False) scratch := by
  unfold checksumFinishFile
  rw [kind, supported]
  cases crc : checksumTypeIsCrc type with
  | false =>
    simp only [Bool.not_true, Bool.not_false, Bool.false_eq_true, if_false, if_true, unordered crc]
    exact rfl
  | true =>
    have follows := ordered crc
    simp only [Bool.not_true, Bool.false_eq_true, if_false]
    by_cases whole : (!state.deferred && state.nextOffset == file.length) = true
    · rw [if_pos whole]
      rw [Bool.and_eq_true, Bool.not_eq_true', beq_iff_eq] at whole
      obtain ⟨_, summed⟩ := follows.summed whole.1
      rw [summed, whole.2, List.take_length, checksumFinish_summed supported]
      exact rfl
    · rw [if_neg whole, checksumInit_summed supported]
      have finished := checksumFinish_summed supported file
      rw [Fallible.wp_bind, Fallible.wp_ofExcept_ok, Fallible.wp_bind]
      by_cases empty : file = []
      · subst empty
        show (Fallible.ofExcept (checksumFinish (summedState type []))).wp (reading []) _ _ scratch
        rw [finished]
        exact rfl
      · apply Fallible.wp_mono (checksumFinishFileLoop_sums supported small file.length 0 scratch (by omega)
          (Nat.zero_le _) (room empty))
        · intro t final scratch' summed
          subst summed
          rw [finished]
          exact rfl
        · intro t status scratch' never
          exact never

end Reread

/-! ## All checksums of a file -/

/-- The three ways to the checksum of a file -/
structure ChecksumsAgree [Kconfig] (type : ChecksumType) (file : Bytes) : Prop where
  /-- the sender's, when its loop gets through, for any lengths of the reads -/
  sender : ∀ {fs handle init entity t final entity'}, checksumInit type = .ok init →
    (sendFileLoop fs handle file.length file.length init 0).Runs once entity t (.ok final) entity' →
    (∀ obs ∈ t, holdsFile file obs = true) → checksumFinish final = .ok (fileChecksum type file)
  /-- the receiver's, for any lengths of the reads -/
  receiver : ∀ {fs entity t result entity'}, entity.receiver.checksumType = type →
    entity.receiver.fileSize = file.length → (receiverComputeChecksum fs).Runs once entity t result entity' →
    (∀ obs ∈ t, holdsFile file obs = true) → result = .ok (fileChecksum type file)
  /-- the one of `ccsds_cfdp_checksum_finish_file` after any updates with octets of the file -/
  finishFile : ∀ {pieces}, (∀ piece ∈ pieces, piece.Within file.length) →
    (type = .modular → Partitions pieces file.length) →
    ∃ state, (checksumInit type >>= fun init => checksumUpdates file init pieces) = .ok state ∧
      ∀ {scratch t result scratch'}, (file ≠ [] → 0 < scratch.length) →
        (checksumFinishFile state file.length).run.Runs (reading file) scratch t result scratch' →
        result = .ok (fileChecksum type file)
  /-- the modular one as a sum of words -/
  words : type = .modular → fileChecksum type file = (beWords file).sum % 2 ^ 32

section Agreement

variable {type : ChecksumType} {file : Bytes}

theorem sender_sums [Kconfig] [ZephyrCrc.Streams] (supported : type.isSupported = true)
    (small : file.length ≤ uint32Max) {fs : FilestoreOps} {handle : Handle} {init final : ChecksumState}
    {entity entity' : Entity} {t : Trace} (started : checksumInit type = .ok init)
    (sent : (sendFileLoop fs handle file.length file.length init 0).Runs once entity t (.ok final) entity')
    (holds : ∀ obs ∈ t, holdsFile file obs = true) : checksumFinish final = .ok (fileChecksum type file) := by
  obtain ⟨buf, loop, _⟩ := Prog.wp_of_runs (sendFileLoop_outcome fs entity handle file.length file.length init 0
    entity.fileSegmentBuf (Nat.sub_le _ _)) sent
  rw [checksumInit_summed supported, Except.ok.injEq] at started
  obtain ⟨_, rfl⟩ := loop.segmented supported small started.symm (Nat.zero_le _) holds
  exact checksumFinish_summed supported file

theorem receiver_sums [Kconfig] [ZephyrCrc.Streams] (supported : type.isSupported = true)
    (small : file.length ≤ uint32Max) {fs : FilestoreOps} {entity entity' : Entity} {t : Trace}
    {result : Except Status Nat} (kind : entity.receiver.checksumType = type)
    (size : entity.receiver.fileSize = file.length)
    (computed : (receiverComputeChecksum fs).Runs once entity t result entity')
    (holds : ∀ obs ∈ t, holdsFile file obs = true) : result = .ok (fileChecksum type file) := by
  have outcome : (receiverComputeChecksum fs).wp once (fun t result _ => (∀ obs ∈ t, holdsFile file obs = true) →
      result = .ok (fileChecksum type file)) entity := by
    simp only [receiverComputeChecksum, Prog.wp_bind, Prog.wp_read]
    rw [kind, checksumInit_summed supported]
    simp only [Prog.wp_bind, Prog.wp_pure, List.nil_append, List.append_nil]
    apply Prog.wp_mono (receiverComputeChecksumLoop_outcome _ _ _ _ _ _ (by omega))
    rintro t result _ ⟨buf, loop, _⟩ holds
    rw [size] at loop
    rw [loop.summed supported small rfl (Nat.zero_le _) holds]
    exact checksumFinish_summed supported file
  exact Prog.wp_of_runs outcome computed holds

theorem finishFile_sums [ZephyrCrc.Streams] (supported : type.isSupported = true)
    (small : file.length ≤ uint32Max) {pieces : List FilePiece} (within : ∀ piece ∈ pieces, piece.Within file.length)
    (partition : type = .modular → Partitions pieces file.length) :
    ∃ state, checksumUpdates file (summedState type []) pieces = .ok state ∧
      ∀ {scratch t result scratch'}, (file ≠ [] → 0 < scratch.length) →
        (checksumFinishFile state file.length).run.Runs (reading file) scratch t result scratch' →
        result = .ok (fileChecksum type file) := by
  have updated : ∃ state, checksumUpdates file (summedState type []) pieces = .ok state ∧ state.type = type ∧
      (checksumTypeIsCrc type = false → checksumFinish state = .ok (fileChecksum type file)) ∧
      (checksumTypeIsCrc type = true → Following type file state) := by
    cases type with
    | other code => cases supported
    | crc32c | ieee8023Fcs =>
      obtain ⟨state, updated, follows⟩ := Following.updates rfl supported small within (Following.of_init _ file)
      refine ⟨state, updated, follows.kind, ?_, fun _ => follows⟩
      intro unordered
      cases unordered
    | modular =>
      obtain ⟨state, updated, kind, value⟩ := checksumUpdates_modular small pieces within (summedState .modular []) rfl
      refine ⟨state, updated, kind, fun _ => ?_, ?_⟩
      · have lanes := ((partition rfl).map (laneValue file)).sum_nat
        have sum : state.value.toNat = fileChecksum .modular file := by
          rw [value, lanes, fileChecksum_modular]
          show (0 + _) % _ = _
          rw [Nat.zero_add]
        rw [← sum, checksumFinish, kind]
        rfl
      · intro ordered
        cases ordered
    | null =>
      obtain ⟨state, updated, kind⟩ := @checksumUpdates_null _ file (summedState .null []) small pieces within rfl
      refine ⟨state, updated, kind, fun _ => ?_, ?_⟩
      · rw [checksumFinish, kind]
        have none : summedValue .null file = 0 := by
          rw [summedValue]
          exact ite_self 0
        simp [ChecksumType.isSupported, fileChecksum, none]
      · intro ordered
        cases ordered
  obtain ⟨state, updated, kind, unordered, ordered⟩ := updated
  refine ⟨state, updated, ?_⟩
  intro scratch t result scratch' room runs
  have sums := checksumFinishFile_sums supported small room kind unordered ordered
  cases result with
  | ok checksum => rw [Fallible.ok_of_runs sums runs]
  | error status => exact (Fallible.error_of_runs sums runs).elim

/-- The sender, the receiver and `ccsds_cfdp_checksum_finish_file` compute one checksum for a file. -/
theorem file_checksums_agree [Kconfig] [ZephyrCrc.Streams] (supported : type.isSupported = true)
    (small : file.length ≤ uint32Max) : ChecksumsAgree type file where
  sender started sent holds := sender_sums supported small started sent holds
  receiver kind size computed holds := receiver_sums supported small kind size computed holds
  finishFile within partition := by
    rw [checksumInit_summed supported]
    exact finishFile_sums supported small within partition
  words modular := by
    rw [modular]
    exact modular_words file

end Agreement

end ZephyrCcsds.Cfdp

/-! ## A reflected CRC -/

namespace ZephyrCcsds.Cfdp

/-- One bit of a reflected CRC register -/
def crcBit (polynomial crc : UInt32) : UInt32 :=
  if crc &&& 1 = 1 then (crc >>> 1) ^^^ polynomial else crc >>> 1

/-- One octet into a reflected CRC register -/
def crcOctet (polynomial crc : UInt32) (octet : UInt8) : UInt32 :=
  (crcBit polynomial)^[8] (crc ^^^ octet.toUInt32)

/-- `crc32_c` and `crc32_ieee_update`, bit by bit -/
@[reducible] def reflectedCrc : ZephyrCrc where
  crc32C value data first last :=
    let crc := data.foldl (crcOctet 0x82f63b78) (if first then 0xffffffff else value)
    if last then crc ^^^ 0xffffffff else crc
  crc32IeeeUpdate value data := ~~~(data.foldl (crcOctet 0xedb88320) (~~~value))

attribute [local instance] defaultKconfig reflectedCrc

instance : ZephyrCrc.Streams where
  crc32C_append value front back first := by
    simp [ZephyrCrc.crc32C, List.foldl_append]
  crc32IeeeUpdate_append value front back := by
    simp [ZephyrCrc.crc32IeeeUpdate, List.foldl_append]

def digits : Bytes := [0x31, 0x32, 0x33, 0x34, 0x35, 0x36, 0x37, 0x38, 0x39]

/-- The checksum of the digits 1 to 9, however it is computed -/
theorem file_checksums_agree_digits :
    ChecksumsAgree .ieee8023Fcs digits ∧ fileChecksum .ieee8023Fcs digits = 0xcbf43926 :=
  ⟨file_checksums_agree rfl (by decide), by decide +kernel⟩

end ZephyrCcsds.Cfdp
