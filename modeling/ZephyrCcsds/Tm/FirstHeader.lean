import Mathlib.Data.List.Pairwise
import ZephyrCcsds.Tm.FrameTrailer
import ZephyrCcsds.Tm.Receiver

/-! # The First Header Pointer

The field has eleven bits and two reserved values, and the data field of a long frame has more octets than that
can tell apart.

* `headersFrom` — where packet headers start in a frame, by the lengths that the queued packets tell.
* `Fill.pointer_loop` — the loop on any queue: the pointer is the first start that is not the value for none.
* `tellsFirst_iff` — which starts the truncated pointer tells.
-/

namespace ZephyrCcsds.Tm

open Callback Tc

/-! ## Packet starts -/

theorem packetTotalLen_pos (octets : Bytes) : 7 ≤ packetTotalLen octets := spacePackets.header_lt octets

/-- The offsets from `offset` on at which a packet header starts in a data field of `dataLen` octets, with
`pendingLen` octets queued: one for each packet while a header fits, and one for the idle packet behind them. -/
def headersFrom (dataLen pendingLen : Nat) (octets : Bytes) (offset : Nat) : List Nat :=
  if pendingLen = 0 then
    if offset + spacePacketMinLen ≤ dataLen then [offset] else []
  else if offset + spacePacketPrimaryHdrLen ≤ dataLen then
    offset :: headersFrom dataLen (pendingLen - packetTotalLen octets) (octets.drop (packetTotalLen octets))
      (offset + packetTotalLen octets)
  else
    []
termination_by dataLen - offset
decreasing_by
  have longer := packetTotalLen_pos octets
  have header : spacePacketPrimaryHdrLen = 6 := rfl
  omega

variable {dataLen : Nat}

theorem headersFrom_ascend (dataLen pendingLen : Nat) (octets : Bytes) (offset : Nat) :
    (headersFrom dataLen pendingLen octets offset).Pairwise (· < ·) ∧
      ∀ start ∈ headersFrom dataLen pendingLen octets offset, offset ≤ start := by
  induction pendingLen, octets, offset using headersFrom.induct dataLen with
  | case1 octets offset room =>
    rw [headersFrom, if_pos rfl, if_pos room]
    simp
  | case2 octets offset room =>
    rw [headersFrom, if_pos rfl, if_neg room]
    simp
  | case3 pendingLen octets offset some room ih =>
    obtain ⟨sorted, above⟩ := ih
    have longer := packetTotalLen_pos octets
    rw [headersFrom, if_neg some, if_pos room]
    constructor
    · apply List.pairwise_cons.mpr
      refine ⟨fun start listed => ?_, sorted⟩
      have := above start listed
      omega
    · intro start listed
      rcases List.mem_cons.mp listed with rfl | later
      · omega
      · have := above start later
        omega
  | case4 pendingLen octets offset some room =>
    rw [headersFrom, if_neg some, if_neg room]
    simp

/-- Nothing starts where no header fits. -/
theorem headersFrom_full (pendingLen : Nat) (octets : Bytes) {offset : Nat} (full : dataLen < offset + 6) :
    headersFrom dataLen pendingLen octets offset = [] := by
  have header : spacePacketPrimaryHdrLen = 6 := rfl
  have least : spacePacketMinLen = 7 := rfl
  rw [headersFrom]
  by_cases none : pendingLen = 0
  · rw [if_pos none, if_neg (by omega)]
  · rw [if_neg none, if_neg (by omega)]

/-- The first start is where they are counted from. -/
theorem headersFrom_head {pendingLen : Nat} {octets : Bytes} {offset start : Nat}
    (first : (headersFrom dataLen pendingLen octets offset).head? = some start) : start = offset := by
  rw [headersFrom] at first
  split_ifs at first
  · cases first
    rfl
  · cases first
  · cases first
    rfl
  · cases first

/-! ## The pointer of the loop -/

variable [Kconfig] [Sdls.Kconfig]

/-- The packet starts in the next frame of a channel: the first one is behind what is left of the open packet. -/
def Vc.headerOffsets (vc : Vc) (dataLen : Nat) : List Nat :=
  headersFrom dataLen (vc.pendingLen - vc.packetRem) (vc.pending.items.drop vc.packetRem) vc.packetRem

/-- The pointer once packets have started: it is set while it has the value for none. -/
def pointerAfter (pointer : Nat) (starts : List Nat) : Nat :=
  starts.foldl (fun pointer start => if pointer = tmNoFirstHeaderPointer then start else pointer) pointer

/-- The pointer that the loop and the idle packet are going to leave -/
def Fill.pointerTo (fill : Fill) (dataLen : Nat) : Nat :=
  pointerAfter fill.firstHeaderPointer
    (headersFrom dataLen (fill.vc.pendingLen - fill.vc.packetRem) (fill.vc.pending.items.drop fill.vc.packetRem)
      (fill.used + fill.vc.packetRem))

variable {vc : Vc} {fill : Fill} {len : Nat}

/-- Fewer octets than are asked for make the read fail. -/
theorem Vc.readPendingBytes_short (short : vc.pending.items.length < len) :
    ∃ e, (vc.readPendingBytes len).2 = .error e := by
  obtain ⟨fuel, rfl⟩ : ∃ fuel, len = fuel + 1 := ⟨len - 1, by omega⟩
  by_cases empty : vc.pending.items = []
  · exact ⟨.eagain, congrArg Prod.snd (Vc.readPendingBytes_empty (by omega) empty)⟩
  · have some := List.length_pos_iff.mpr empty
    obtain ⟨fuel, rfl⟩ : ∃ fuel', fuel = fuel' + 1 := ⟨fuel - 1, by omega⟩
    -- The first read takes everything, and the second finds nothing.
    have all : vc.pending.items.take (fuel + 1 + 1) = vc.pending.items := List.take_of_length_le (by omega)
    have left : vc.pending.items.drop (fuel + 1 + 1) = [] := List.drop_of_length_le (by omega)
    have more : ¬ fuel + 1 + 1 - vc.pending.items.length = 0 := by omega
    have taken : ¬ vc.pending.items.length = 0 := by omega
    refine ⟨.eagain, ?_⟩
    simp only [Vc.readPendingBytes, Vc.readPendingFrom, kPipeRead, empty, if_false, Nat.succ_ne_zero, Fifo.get_fst,
      all, taken, more, Fifo.get_snd_items, left, if_true]

/-- A read that succeeds has read what was asked for. -/
theorem Vc.readPendingBytes_ok {vc' : Vc} {octets : Bytes} (read : vc.readPendingBytes len = (vc', .ok octets)) :
    len ≤ vc.pending.items.length ∧ vc' = vc.consume len ∧ octets = vc.pending.items.take len := by
  have enough : len ≤ vc.pending.items.length := by
    by_contra short
    obtain ⟨e, failed⟩ := Vc.readPendingBytes_short (Nat.not_le.mp short)
    rw [read] at failed
    cases failed
  rw [Vc.readPendingBytes_eq enough] at read
  cases read
  exact ⟨enough, rfl, rfl⟩

theorem Fill.continuePacket_ok {fill' : Fill} {space : Nat} (went : fill.continuePacket space = (fill', .ok ())) :
    fill' = { fill with
      vc := { fill.vc.consume (min fill.vc.packetRem space) with
        packetRem := fill.vc.packetRem - min fill.vc.packetRem space }
      data := fill.data ++ fill.vc.pending.items.take (min fill.vc.packetRem space) } ∧
      min fill.vc.packetRem space ≤ fill.vc.pending.items.length := by
  unfold Fill.continuePacket at went
  dsimp only at went
  cases read : fill.vc.readPendingBytes (min fill.vc.packetRem space) with
  | mk vc result =>
    cases result with
    | error e =>
      rw [read] at went
      cases went
    | ok octets =>
      obtain ⟨enough, rfl, rfl⟩ := Vc.readPendingBytes_ok read
      rw [read] at went
      cases went
      exact ⟨rfl, enough⟩

theorem Fill.startPacket_ok {fill' : Fill} (went : fill.startPacket = (fill', .ok ())) :
    fill' = {
      vc := { fill.vc.consume 6 with packetRem := packetTotalLen fill.vc.pending.items - 6 }
      data := fill.data ++ fill.vc.pending.items.take 6
      firstHeaderPointer :=
        if fill.firstHeaderPointer = tmNoFirstHeaderPointer then fill.used else fill.firstHeaderPointer } ∧
      6 ≤ fill.vc.pendingLen ∧ 6 ≤ fill.vc.pending.items.length := by
  unfold Fill.startPacket at went
  by_cases few : fill.vc.pendingLen < spacePacketPrimaryHdrLen
  · rw [if_pos few] at went
    cases went
  · rw [if_neg few] at went
    dsimp only at went
    cases read : fill.vc.readPendingBytes spacePacketPrimaryHdrLen with
    | mk vc result =>
      cases result with
      | error e =>
        rw [read] at went
        cases went
      | ok octets =>
        obtain ⟨enough, rfl, rfl⟩ := Vc.readPendingBytes_ok read
        rw [read] at went
        cases went
        have enough : 6 ≤ fill.vc.pending.items.length := enough
        have header : 6 ≤ (fill.vc.pending.items.take 6).length := by
          rw [List.length_take]
          omega
        -- The six octets of the header tell the length of the whole packet.
        have total : packetTotalLen (fill.vc.pending.items.take 6) = packetTotalLen fill.vc.pending.items := by
          have same := spacePackets.total_append (fill.vc.pending.items.take 6) (fill.vc.pending.items.drop 6) header
          rw [List.take_append_drop] at same
          exact same.symm
        refine ⟨?_, Nat.not_lt.mp few, enough⟩
        rw [← total]
        rfl

/-- A turn moves the pointer as the starts say, and fills something. -/
theorem Fill.pointer_turn {fill' : Fill} (more : fill.More dataLen) (went : fill.turn dataLen = (fill', .ok ())) :
    fill'.pointerTo dataLen = fill.pointerTo dataLen ∧ fill.used < fill'.used ∧ fill'.used ≤ dataLen := by
  obtain ⟨space, something, room⟩ := more
  unfold Fill.turn at went
  by_cases opened : 0 < fill.vc.packetRem
  · rw [if_pos opened] at went
    obtain ⟨rfl, enough⟩ := Fill.continuePacket_ok went
    generalize chunk : min fill.vc.packetRem (dataLen - fill.used) = chunkLen at enough ⊢
    have used : (fill.data ++ fill.vc.pending.items.take chunkLen).length = fill.used + chunkLen := by
      rw [List.length_append, List.length_take, Nat.min_eq_left enough]
      rfl
    refine ⟨?_, ?_, ?_⟩
    · -- The next start is as far away as before, in the frame and in the queue.
      have pending : fill.vc.pendingLen - chunkLen - (fill.vc.packetRem - chunkLen) =
          fill.vc.pendingLen - fill.vc.packetRem := by omega
      have items : (fill.vc.pending.items.drop chunkLen).drop (fill.vc.packetRem - chunkLen) =
          fill.vc.pending.items.drop fill.vc.packetRem := by
        rw [List.drop_drop]
        congr 1
        omega
      have offset : fill.used + chunkLen + (fill.vc.packetRem - chunkLen) = fill.used + fill.vc.packetRem := by omega
      unfold Fill.pointerTo Fill.used
      dsimp only
      rw [used, Vc.consume_pendingLen, Vc.consume_items, pending, items, offset]
      rfl
    · show fill.used < (fill.data ++ _).length
      omega
    · show (fill.data ++ _).length ≤ dataLen
      omega
  · rw [if_neg opened] at went
    have closed : fill.vc.packetRem = 0 := by omega
    have fits : 6 ≤ dataLen - fill.used := Nat.not_lt.mp fun short => room ⟨closed, short⟩
    obtain ⟨rfl, pending, enough⟩ := Fill.startPacket_ok went
    have longer := packetTotalLen_pos fill.vc.pending.items
    have used : (fill.data ++ fill.vc.pending.items.take 6).length = fill.used + 6 := by
      rw [List.length_append, List.length_take, Nat.min_eq_left enough]
      rfl
    refine ⟨?_, ?_, ?_⟩
    · -- The header that starts here is the first of the starts.
      have behind : fill.vc.pendingLen - 6 - (packetTotalLen fill.vc.pending.items - 6) =
          fill.vc.pendingLen - packetTotalLen fill.vc.pending.items := by omega
      have items : (fill.vc.pending.items.drop 6).drop (packetTotalLen fill.vc.pending.items - 6) =
          fill.vc.pending.items.drop (packetTotalLen fill.vc.pending.items) := by
        rw [List.drop_drop]
        congr 1
        omega
      have offset : fill.used + 6 + (packetTotalLen fill.vc.pending.items - 6) =
          fill.used + packetTotalLen fill.vc.pending.items := by omega
      have starts : headersFrom dataLen fill.vc.pendingLen fill.vc.pending.items fill.used =
          fill.used :: headersFrom dataLen (fill.vc.pendingLen - packetTotalLen fill.vc.pending.items)
            (fill.vc.pending.items.drop (packetTotalLen fill.vc.pending.items))
            (fill.used + packetTotalLen fill.vc.pending.items) := by
        have header : spacePacketPrimaryHdrLen = 6 := rfl
        conv_lhs => rw [headersFrom]
        rw [if_neg (by omega), if_pos (by omega)]
      have before : fill.pointerTo dataLen = pointerAfter fill.firstHeaderPointer
          (headersFrom dataLen fill.vc.pendingLen fill.vc.pending.items fill.used) := by
        rw [Fill.pointerTo, closed]
        rfl
      rw [before, starts]
      unfold Fill.pointerTo Fill.used
      dsimp only
      rw [used, Vc.consume_pendingLen, Vc.consume_items, behind, items, offset]
      rfl
    · show fill.used < (fill.data ++ _).length
      omega
    · show (fill.data ++ _).length ≤ dataLen
      omega

/-- Behind the loop only the idle packet can start. -/
theorem Fill.pointer_finish (fits : fill.used ≤ dataLen) (stopped : ¬ fill.More dataLen) :
    (fill.finish dataLen).2 = fill.pointerTo dataLen := by
  have least : spacePacketMinLen = 7 := rfl
  rw [fill.finish_snd]
  by_cases full : fill.used = dataLen
  · rw [Fill.pointerTo, headersFrom_full _ _ (by omega), if_neg (by omega)]
    rfl
  · have idle : fill.vc.packetRem = 0 ∧ (fill.vc.pendingLen = 0 ∨ dataLen < fill.used + 6) := by
      have short : spacePacketPrimaryHdrLen = 6 := rfl
      unfold Fill.More at stopped
      omega
    obtain ⟨closed, rest⟩ := idle
    rw [Fill.pointerTo, closed]
    by_cases room : dataLen < fill.used + 6
    · rw [headersFrom_full _ _ (by omega), if_neg (by omega)]
      rfl
    · have none : fill.vc.pendingLen - 0 = 0 := by omega
      rw [headersFrom, none, if_pos rfl, Nat.add_zero]
      by_cases packet : fill.used + 7 ≤ dataLen
      · have space : 7 ≤ dataLen - fill.used := by omega
        rw [if_pos (show fill.used + spacePacketMinLen ≤ dataLen from packet)]
        simp only [pointerAfter, List.foldl_cons, List.foldl_nil, space, and_true]
      · rw [if_neg (show ¬ fill.used + spacePacketMinLen ≤ dataLen from packet), if_neg (by omega)]
        rfl

/-- The loop leaves the pointer that the starts say. -/
theorem Fill.pointer_loop {fuel : Nat} {fill' : Fill} (fits : fill.used ≤ dataLen) (enough : dataLen ≤ fuel + fill.used)
    (looped : Fill.loop dataLen fuel fill = (fill', .ok ())) :
    (fill'.finish dataLen).2 = fill.pointerTo dataLen := by
  induction fuel generalizing fill with
  | zero =>
    cases looped
    apply Fill.pointer_finish fits
    intro more
    have := more.1
    omega
  | succ fuel ih =>
    unfold Fill.loop at looped
    by_cases more : fill.More dataLen
    · rw [if_pos more] at looped
      cases turned : fill.turn dataLen with
      | mk next result =>
        rw [turned] at looped
        cases result with
        | error e => cases looped
        | ok _ =>
          obtain ⟨same, grown, inside⟩ := Fill.pointer_turn more turned
          rw [ih inside (by omega) looped, same]
    · rw [if_neg more] at looped
      cases looped
      exact Fill.pointer_finish fits more

theorem Vc.fill_pointer (filled : (vc.fill dataLen).2 = .ok ()) :
    ((vc.fill dataLen).1.finish dataLen).2 = pointerAfter tmNoFirstHeaderPointer (vc.headerOffsets dataLen) := by
  have looped : Fill.loop dataLen dataLen { vc, data := [], firstHeaderPointer := tmNoFirstHeaderPointer } =
      ((vc.fill dataLen).1, .ok ()) := Prod.ext rfl filled
  have pointer := Fill.pointer_loop (Nat.zero_le dataLen) (Nat.le_add_right dataLen _) looped
  rw [pointer]
  unfold Fill.pointerTo Vc.headerOffsets Fill.used
  simp

/-! ## The octets of the loop -/

/-- What is in the frame and what is still queued is what was queued. -/
theorem Fill.octets_loop {fuel : Nat} {fill' : Fill} (looped : Fill.loop dataLen fuel fill = (fill', .ok ())) :
    fill'.data ++ fill'.vc.pending.items = fill.data ++ fill.vc.pending.items := by
  induction fuel generalizing fill with
  | zero =>
    cases looped
    rfl
  | succ fuel ih =>
    unfold Fill.loop at looped
    by_cases more : fill.More dataLen
    · rw [if_pos more] at looped
      cases turned : fill.turn dataLen with
      | mk next result =>
        rw [turned] at looped
        cases result with
        | error e => cases looped
        | ok _ =>
          rw [ih looped]
          unfold Fill.turn at turned
          by_cases opened : 0 < fill.vc.packetRem
          · rw [if_pos opened] at turned
            obtain ⟨rfl, _⟩ := Fill.continuePacket_ok turned
            show fill.data ++ fill.vc.pending.items.take _ ++ fill.vc.pending.items.drop _ = _
            rw [List.append_assoc, List.take_append_drop]
          · rw [if_neg opened] at turned
            obtain ⟨rfl, _⟩ := Fill.startPacket_ok turned
            show fill.data ++ fill.vc.pending.items.take 6 ++ fill.vc.pending.items.drop 6 = _
            rw [List.append_assoc, List.take_append_drop]
    · rw [if_neg more] at looped
      cases looped
      rfl

/-- The data field is the front of the queue and the idle packet behind it. -/
theorem Vc.fill_field (filled : (vc.fill dataLen).2 = .ok ()) :
    ∃ used ≤ dataLen, ((vc.fill dataLen).1.finish dataLen).1 =
      vc.pending.items.take used ++ fillIdleSpacePacket (dataLen - used) := by
  have looped : Fill.loop dataLen dataLen { vc, data := [], firstHeaderPointer := tmNoFirstHeaderPointer } =
      ((vc.fill dataLen).1, .ok ()) := Prod.ext rfl filled
  have fits := (vc.fill_spec dataLen).2
  have octets : (vc.fill dataLen).1.data ++ (vc.fill dataLen).1.vc.pending.items = vc.pending.items :=
    Fill.octets_loop looped
  refine ⟨(vc.fill dataLen).1.used, fits, ?_⟩
  rw [Fill.finish_fst _ fits, ← octets, Fill.used, List.take_left]

/-! ## The field -/

/-- The field of a frame tells where the first of the packets that start in it starts. -/
structure TellsFirst (starts : List Nat) (field : Nat) : Prop where
  first : ∀ start, starts.head? = some start → field = start
  none : starts = [] → field = tmNoFirstHeaderPointer
  notIdle : field ≠ tmIdleFirstHeaderPointer

/-- The first start is in front of the values that are reserved, or it is at the value for none and the next one, if
there is any, has the same eleven bits. -/
def Pointable (starts : List Nat) : Prop :=
  ∀ start, starts.head? = some start →
    start < tmIdleFirstHeaderPointer ∨
      start = tmNoFirstHeaderPointer ∧ ∀ next, starts[1]? = some next → next % 2048 = tmNoFirstHeaderPointer

omit [Kconfig] [Sdls.Kconfig] in
theorem pointerAfter_set {pointer : Nat} (set : pointer ≠ tmNoFirstHeaderPointer) (starts : List Nat) :
    pointerAfter pointer starts = pointer := by
  induction starts with
  | nil => rfl
  | cons start starts ih =>
    unfold pointerAfter at ih ⊢
    rw [List.foldl_cons, if_neg set, ih]

omit [Kconfig] [Sdls.Kconfig] in
theorem pointerAfter_cons (start : Nat) (starts : List Nat) :
    pointerAfter tmNoFirstHeaderPointer (start :: starts) = pointerAfter start starts := by
  unfold pointerAfter
  rw [List.foldl_cons, if_pos rfl]

omit [Kconfig] [Sdls.Kconfig] in
/-- Eleven bits tell the first start exactly when it is pointable. -/
theorem tellsFirst_iff {starts : List Nat} (ascend : starts.Pairwise (· < ·)) :
    TellsFirst starts (pointerAfter tmNoFirstHeaderPointer starts % 2048) ↔ Pointable starts := by
  have noPointer : tmNoFirstHeaderPointer = 2047 := rfl
  have idlePointer : tmIdleFirstHeaderPointer = 2046 := rfl
  cases starts with
  | nil =>
    constructor
    · intro _ start never
      cases never
    · intro _
      refine ⟨fun _ never => (by cases never), fun _ => rfl, ?_⟩
      show 2047 % 2048 ≠ 2046
      decide
  | cons start starts =>
    have pointable : Pointable (start :: starts) ↔ start < 2046 ∨
        start = 2047 ∧ ∀ next, starts.head? = some next → next % 2048 = 2047 := by
      rw [List.head?_eq_getElem?]
      constructor
      · exact fun all => all start rfl
      · intro only other first
        cases first
        exact only
    have tells : ∀ field, TellsFirst (start :: starts) field ↔ field = start ∧ field ≠ 2046 := by
      intro field
      constructor
      · exact fun tells => ⟨tells.first start rfl, tells.notIdle⟩
      · intro both
        refine ⟨fun other first => ?_, fun never => (by cases never), both.2⟩
        cases first
        exact both.1
    rw [pointable, tells, pointerAfter_cons]
    by_cases marked : start = 2047
    · subst marked
      cases starts with
      | nil =>
        show 2047 % 2048 = 2047 ∧ _ ↔ _
        simp [pointerAfter]
      | cons next starts =>
        -- The start has the value for none, so that the next one replaces it.
        have behind : 2047 < next := (List.pairwise_cons.mp ascend).1 next (List.mem_cons_self ..)
        have replaced : pointerAfter 2047 (next :: starts) = next := by
          show pointerAfter tmNoFirstHeaderPointer (next :: starts) = next
          rw [pointerAfter_cons, pointerAfter_set (by omega)]
        rw [replaced]
        constructor
        · intro told
          refine .inr ⟨rfl, fun other first => ?_⟩
          cases first
          exact told.1
        · intro allowed
          rcases allowed with low | same
          · omega
          · have field := same.2 next rfl
            omega
    · rw [pointerAfter_set (by omega)]
      constructor
      · intro same
        omega
      · intro low
        omega

/-! ## Frames -/

variable {psa : (op : Sdls.PsaOp) → Sdls.PsaRes op → Prop} {s : State} {vcid : VcId}

theorem buildPacketTransferFrame_pointer :
    (buildPacketTransferFrame vcid).wp (kernel psa)
      (fun _ frame _ => ((s.vcs vcid).fill (s.dataLen vcid)).2 = .ok () ∧
        frameFirstHeaderPointer frame = (s.nextField vcid).2 % 2048)
      (fun _ _ _ => True) s := by
  have fits : (s.nextField vcid).1.length ≤ (s.filled vcid).dataLen vcid := by
    rw [(s.filled_sameProtection vcid).dataLen, State.nextField, Fill.finish_length _ (Vc.fill_spec _ _).2]
  apply wp_buildPacketTransferFrame
  · intro filled
    apply Fallible.wp_mono (finishFrame_header fits)
    · intro t frame s' finished
      exact ⟨filled, frameFirstHeaderPointer_of_header finished.2⟩
    · exact fun _ _ _ _ => trivial
  · exact fun _ => trivial

/-- A frame with packets has the front of the queue and an idle packet in its data field; the first of the packets that
start there does so behind what was left of the open one; and the First Header Pointer tells it exactly when that is
below the reserved values, or is `0x7ff` and the next packet, if one starts, has the same eleven bits. -/
theorem first_header_pointer_iff (vcid : VcId) {s s' : State} {t : List Item} {frame : Bytes}
    (runs : (buildPacketTransferFrame vcid).run.Runs anyKernel s t (.ok frame) s') :
    (∃ used ≤ s.dataLen vcid, (s.nextField vcid).1 =
      (s.vcs vcid).pending.items.take used ++ fillIdleSpacePacket (s.dataLen vcid - used)) ∧
    (∀ start, ((s.vcs vcid).headerOffsets (s.dataLen vcid)).head? = some start → start = (s.vcs vcid).packetRem) ∧
    (TellsFirst ((s.vcs vcid).headerOffsets (s.dataLen vcid)) (frameFirstHeaderPointer frame) ↔
      Pointable ((s.vcs vcid).headerOffsets (s.dataLen vcid))) := by
  obtain ⟨filled, field⟩ := Fallible.ok_of_runs buildPacketTransferFrame_pointer runs
  refine ⟨Vc.fill_field filled, fun start first => headersFrom_head first, ?_⟩
  rw [field, State.nextField, Vc.fill_pointer filled]
  exact tellsFirst_iff (headersFrom_ascend ..).1

end ZephyrCcsds.Tm

namespace ZephyrCcsds.Tm

open Callback Tc

/-- A build without channel coding whose data field is longer than the pointer can tell -/
@[reducible] def longFrameKconfig : Kconfig where
  toKconfig := { Tc.defaultKconfig with maxFrameLen := 2100, maxFrameLen_range := by decide }
  tmMaxSpacePacketLen := 2084
  tmQueueDepth := 2084
  rsInterleaveDepth := none
  tmRnd := false
  tmFecf := false
  sdls := true
  tmMaxSpacePacketLen_range := by decide
  tmQueueDepth_range := by decide
  rsInterleaveDepth_range := sampleKconfig.rsInterleaveDepth_range
  frameLen_le := by decide
  overhead_lt := by decide
  securedOverhead_lt := by decide
  tmMaxSpacePacketLen_le := by decide

section Sample

attribute [local instance] longFrameKconfig Sdls.defaultKconfig

theorem longPacket_bounded : (List.replicate 2046 (0 : UInt8)).length ≤ longFrameKconfig.tmMaxSpacePacketLen := by
  rw [List.length_replicate]
  decide

/-- The channel behind the header of a packet of 2052 octets that came last into the frame before -/
def longPacketState : State :=
  (init fun _ => none).updateVc ⟨0, Nat.succ_pos 7⟩ fun vc =>
    { vc with
      pending := { items := List.replicate 2046 0, bounded := longPacket_bounded }
      pendingLen := 2046
      packetRem := 2046 }

/-- An idle packet starts at offset 2046. -/
theorem longPacketState_frame : ∃ frame s', (buildPacketTransferFrame ⟨0, by decide⟩).run.Runs anyKernel longPacketState
    [⟨.lock ⟨0, by decide⟩ .forever, none⟩, ⟨.unlock ⟨0, by decide⟩, ()⟩] (.ok frame) s' ∧
      frameFirstHeaderPointer frame = 0x7fe := by
  have held : (((buildPacketTransferFrame ⟨0, by decide⟩).run longPacketState).enact serve
      [⟨.lock ⟨0, by decide⟩ .forever, none⟩, ⟨.unlock ⟨0, by decide⟩, ()⟩]).any (fun played =>
        decide (played.1.toOption.map frameFirstHeaderPointer = some 0x7fe)) = true := by
    decide +kernel
  obtain ⟨⟨result, s'⟩, played, checked⟩ := (Option.any_eq_true _ _).mp held
  have pointer : result.toOption.map frameFirstHeaderPointer = some 0x7fe := of_decide_eq_true checked
  obtain ⟨frame, built, field⟩ := Option.map_eq_some_iff.mp pointer
  cases result with
  | error e => cases built
  | ok other =>
    cases built
    exact ⟨frame, s', runs_of_serve played, field⟩

theorem first_header_pointer_iff_long : ∃ frame s',
    (buildPacketTransferFrame ⟨0, by decide⟩).run.Runs anyKernel longPacketState
      [⟨.lock ⟨0, by decide⟩ .forever, none⟩, ⟨.unlock ⟨0, by decide⟩, ()⟩] (.ok frame) s' ∧
    (TellsFirst ((longPacketState.vcs ⟨0, by decide⟩).headerOffsets (longPacketState.dataLen ⟨0, by decide⟩))
        (frameFirstHeaderPointer frame) ↔
      Pointable ((longPacketState.vcs ⟨0, by decide⟩).headerOffsets (longPacketState.dataLen ⟨0, by decide⟩))) := by
  obtain ⟨frame, s', runs, _⟩ := longPacketState_frame
  exact ⟨frame, s', runs, (first_header_pointer_iff ⟨0, by decide⟩ runs).2.2⟩

/-- The pointer takes the value that is reserved for idle frames. -/
theorem first_header_pointer_reserved : ¬ ∀ (vcid : VcId) (s s' : State) (t : List Item) (frame : Bytes),
    (buildPacketTransferFrame vcid).run.Runs anyKernel s t (.ok frame) s' →
      TellsFirst ((s.vcs vcid).headerOffsets (s.dataLen vcid)) (frameFirstHeaderPointer frame) := by
  intro claim
  obtain ⟨frame, s', runs, field⟩ := longPacketState_frame
  exact (claim _ _ _ _ _ runs).notIdle field

end Sample

end ZephyrCcsds.Tm
