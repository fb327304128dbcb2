import ZephyrCcsds.Framing
import ZephyrCcsds.Tm.Frame

/-! # What the formatter takes from a queue

The loop of `build_packet_transfer_frame` on a queue that holds the rest of one packet and whole
packets behind it.

* `Queued` — such a queue.
* `Position` — how far the loop has come: within the rest of the open packet, or within a later one.
* `Vc.fill_position` — the loop ends without an error, at a position that fills the frame or empties
  the queue.
-/

namespace ZephyrCcsds.Tm

open Callback Tc

variable [Kconfig] [Sdls.Kconfig]

/-- The length that the header of a Space Packet tells -/
def spacePackets : Framing UInt8 where
  header := spacePacketPrimaryHdrLen
  total := packetTotalLen
  header_lt packet := by
    unfold packetTotalLen encodedPacketLen
    omega
  total_append _ back header := encodedPacketLen_append header back

omit [Kconfig] [Sdls.Kconfig] in
theorem spacePackets_header : spacePackets.header = 6 := rfl

omit [Kconfig] [Sdls.Kconfig] in
theorem spacePackets_longer {packet : Bytes} (whole : spacePackets.IsPacket packet) : 6 < packet.length := by
  have total := whole.total_eq
  have longer := spacePackets.header_lt packet
  rw [total] at longer
  exact longer

/-! ## Reading from the queue -/

/-- `pending_len` is the number of octets in the pipe. -/
def Vc.Mirrored (vc : Vc) : Prop := vc.pendingLen = vc.pending.items.length

/-- The channel once octets have been read -/
def Vc.consume (vc : Vc) (len : Nat) : Vc :=
  { vc with pending := (vc.pending.get len).2, pendingLen := vc.pendingLen - len }

@[simp] theorem Vc.consume_items (vc : Vc) (len : Nat) : (vc.consume len).pending.items = vc.pending.items.drop len :=
  rfl

@[simp] theorem Vc.consume_packetRem (vc : Vc) (len : Nat) : (vc.consume len).packetRem = vc.packetRem := rfl

@[simp] theorem Vc.consume_pendingLen (vc : Vc) (len : Nat) : (vc.consume len).pendingLen = vc.pendingLen - len := rfl

theorem Vc.Mirrored.consume {vc : Vc} (mirrored : vc.Mirrored) (len : Nat) : (vc.consume len).Mirrored := by
  unfold Vc.Mirrored at *
  rw [Vc.consume_pendingLen, Vc.consume_items, List.length_drop, mirrored]

/-- One read is enough when the queue holds what is asked for. -/
theorem Vc.readPendingBytes_eq {vc : Vc} {len : Nat} (enough : len ≤ vc.pending.items.length) :
    vc.readPendingBytes len = (vc.consume len, .ok (vc.pending.items.take len)) := by
  cases len with
  | zero =>
    have same : vc.consume 0 = vc := rfl
    rw [same]
    rfl
  | succ len =>
    have nonempty : vc.pending.items ≠ [] := by
      intro empty
      rw [empty] at enough
      simp at enough
    have length : (vc.pending.items.take (len + 1)).length = len + 1 := List.length_take_of_le enough
    have stop : ∀ (fuel : Nat) (buf : Bytes) (vc : Vc), Vc.readPendingFrom fuel 0 buf vc = (vc, .ok buf) := by
      intro fuel buf vc
      cases fuel with
      | zero => rfl
      | succ fuel => rfl
    simp only [Vc.readPendingBytes, Vc.readPendingFrom, kPipeRead, nonempty, if_false, Nat.succ_ne_zero, Fifo.get_fst,
      length, Nat.sub_self, stop, List.nil_append]
    rfl

/-! ## Queues -/

/-- A queue that holds the rest of the open packet and whole packets behind it -/
structure Queued (vc : Vc) (rest : Bytes) (packets : List Bytes) : Prop where
  mirrored : vc.Mirrored
  packetRem : vc.packetRem = rest.length
  items : vc.pending.items = rest ++ packets.flatten
  whole : ∀ packet ∈ packets, spacePackets.IsPacket packet

theorem Queued.pendingLen {vc : Vc} {rest : Bytes} {packets : List Bytes} (queued : Queued vc rest packets) :
    vc.pendingLen = rest.length + packets.flatten.length := by
  rw [queued.mirrored, queued.items, List.length_append]

/-- Octets of the rest that are sent -/
theorem Queued.continue {vc : Vc} {front back : Bytes} {packets : List Bytes}
    (queued : Queued vc (front ++ back) packets) :
    Queued { vc.consume front.length with packetRem := back.length } back packets where
  mirrored := queued.mirrored.consume _
  packetRem := rfl
  items := by
    show vc.pending.items.drop front.length = _
    rw [queued.items, List.append_assoc, List.drop_left]
  whole := queued.whole

/-- A packet of which the front is sent -/
theorem Queued.start {vc : Vc} {front back : Bytes} {packets : List Bytes}
    (queued : Queued vc [] ((front ++ back) :: packets)) :
    Queued { vc.consume front.length with packetRem := back.length } back packets where
  mirrored := queued.mirrored.consume _
  packetRem := rfl
  items := by
    show vc.pending.items.drop front.length = _
    rw [queued.items, List.nil_append, List.flatten_cons, List.append_assoc, List.drop_left]
  whole packet listed := queued.whole packet (List.mem_cons_of_mem _ listed)

/-! ## Positions of the loop -/

/-- How far the loop has come on a queue of `rest` and `packets`. -/
inductive Position (rest : Bytes) (packets : List Bytes) (fill : Fill) : Prop
  /-- within the rest of the open packet, or at its end -/
  | continuing (missing : Bytes) (octets : rest = fill.data ++ missing) (queued : Queued fill.vc missing packets)
      (pointer : fill.firstHeaderPointer = tmNoFirstHeaderPointer)
  /-- within a later packet, or at its end -/
  | within (done : List Bytes) (front back : Bytes) (later : List Bytes)
      (split : packets = done ++ (front ++ back) :: later)
      (octets : fill.data = rest ++ done.flatten ++ front) (header : 6 ≤ front.length)
      (queued : Queued fill.vc back later) (pointer : fill.firstHeaderPointer = rest.length)

variable {rest : Bytes} {packets : List Bytes} {fill : Fill} {dataLen : Nat}

/-- The open packet goes on. -/
theorem Fill.continuePacket_eq {missing : Bytes} {packets : List Bytes} (queued : Queued fill.vc missing packets)
    {space : Nat} : fill.continuePacket space =
      ({ fill with
          vc := { fill.vc.consume (min missing.length space) with packetRem := missing.length - min missing.length space }
          data := fill.data ++ missing.take space }, .ok ()) := by
  have enough : min missing.length space ≤ fill.vc.pending.items.length := by
    rw [queued.items, List.length_append]
    omega
  have taken : fill.vc.pending.items.take (min missing.length space) = missing.take space := by
    rw [queued.items, List.take_append_of_le_length (Nat.min_le_left _ _), Nat.min_comm, ← List.take_take,
      List.take_length]
  simp only [Fill.continuePacket, queued.packetRem, Vc.readPendingBytes_eq enough, taken, Vc.consume_packetRem]

/-- The next packet starts. -/
theorem Fill.startPacket_eq {packet : Bytes} {packets : List Bytes} (queued : Queued fill.vc [] (packet :: packets)) :
    fill.startPacket =
      ({ vc := { fill.vc.consume 6 with packetRem := (packet.drop 6).length }
         data := fill.data ++ packet.take 6
         firstHeaderPointer :=
          if fill.firstHeaderPointer = tmNoFirstHeaderPointer then fill.used else fill.firstHeaderPointer }, .ok ()) := by
  have whole := queued.whole packet (List.mem_cons_self ..)
  have longer := spacePackets_longer whole
  have items : fill.vc.pending.items = packet ++ packets.flatten := queued.items
  have enough : 6 ≤ fill.vc.pending.items.length := by
    rw [items, List.length_append]
    omega
  have pending : ¬ fill.vc.pendingLen < 6 := by
    have mirrored : fill.vc.pendingLen = fill.vc.pending.items.length := queued.mirrored
    omega
  have taken : fill.vc.pending.items.take 6 = packet.take 6 := by
    rw [items, List.take_append_of_le_length (by omega)]
  -- The header tells the length of the whole packet.
  have total : packetTotalLen (packet.take 6) = packet.length := by
    have header : 6 ≤ (packet.take 6).length := by
      rw [List.length_take]
      omega
    have same := spacePackets.total_append (packet.take 6) (packet.drop 6) header
    rw [List.take_append_drop, whole.total_eq] at same
    exact same.symm
  simp only [Fill.startPacket, spacePacketPrimaryHdrLen, pending, if_false, Vc.readPendingBytes_eq enough, taken, total,
    List.length_drop]

/-- A turn keeps the position and fills something. -/
theorem Position.turn (position : Position rest packets fill) (more : fill.More dataLen) (bounded : dataLen ≤ 2046) :
    ∃ fill', fill.turn dataLen = (fill', .ok ()) ∧ Position rest packets fill' ∧ fill.used < fill'.used ∧
      fill'.used ≤ dataLen := by
  obtain ⟨space, something, room⟩ := more
  have room : fill.vc.packetRem = 0 → 6 ≤ dataLen - fill.used := fun zero => Nat.not_lt.mp fun short => room ⟨zero, short⟩
  cases position with
  | continuing missing octets queued pointer =>
    by_cases opened : missing = []
    · -- The rest is sent, so that a packet starts here.
      subst opened
      have rem : fill.vc.packetRem = 0 := queued.packetRem
      cases packets with
      | nil =>
        have pending := queued.pendingLen
        simp only [List.length_nil, List.flatten_nil, Nat.add_zero] at pending
        omega
      | cons packet packets =>
        have longer := spacePackets_longer (queued.whole packet (List.mem_cons_self ..))
        have header : (packet.take 6).length = 6 := List.length_take_of_le (by omega)
        have next := @Queued.start _ _ fill.vc (packet.take 6) (packet.drop 6) packets (by
          rw [List.take_append_drop]
          exact queued)
        rw [header] at next
        rw [List.append_nil] at octets
        rw [Fill.turn, if_neg (by omega), Fill.startPacket_eq queued]
        refine ⟨_, rfl, .within [] (packet.take 6) (packet.drop 6) packets ?_ ?_ ?_ next ?_, ?_, ?_⟩
        · rw [List.nil_append, List.take_append_drop]
        · rw [List.flatten_nil, List.append_nil, octets]
        · rw [header]
        · show (if _ then _ else _) = _
          rw [if_pos pointer, octets]
          rfl
        · simp only [Fill.used, List.length_append, header]
          omega
        · have := room rem
          simp only [Fill.used, List.length_append, header] at *
          omega
    · have rem := queued.packetRem
      have some := List.length_pos_iff.mpr opened
      have next := @Queued.continue _ _ fill.vc (missing.take (dataLen - fill.used)) (missing.drop (dataLen - fill.used))
        packets (by
          rw [List.take_append_drop]
          exact queued)
      rw [List.length_take, Nat.min_comm, List.length_drop] at next
      rw [Fill.turn, if_pos (by omega), Fill.continuePacket_eq queued]
      refine ⟨_, rfl, .continuing (missing.drop (dataLen - fill.used)) ?_ ?_ pointer, ?_, ?_⟩
      · show rest = fill.data ++ missing.take _ ++ _
        rw [List.append_assoc, List.take_append_drop, octets]
      · have sub : missing.length - min missing.length (dataLen - fill.used) = missing.length - (dataLen - fill.used) := by
          omega
        rw [sub]
        exact next
      · simp only [Fill.used, List.length_append, List.length_take] at *
        omega
      · simp only [Fill.used, List.length_append, List.length_take] at *
        omega
  | within done front back later split octets header queued pointer =>
    by_cases opened : back = []
    · subst opened
      have rem : fill.vc.packetRem = 0 := queued.packetRem
      cases later with
      | nil =>
        have pending := queued.pendingLen
        simp only [List.length_nil, List.flatten_nil, Nat.add_zero] at pending
        omega
      | cons packet later =>
        have longer := spacePackets_longer (queued.whole packet (List.mem_cons_self ..))
        have length : (packet.take 6).length = 6 := List.length_take_of_le (by omega)
        have next := @Queued.start _ _ fill.vc (packet.take 6) (packet.drop 6) later (by
          rw [List.take_append_drop]
          exact queued)
        rw [length] at next
        -- The pointer is set, because the rest is shorter than the frame.
        have marked : fill.firstHeaderPointer ≠ tmNoFirstHeaderPointer := by
          rw [pointer]
          have inside := congrArg List.length octets
          simp only [List.length_append] at inside
          simp only [Fill.used] at space
          unfold tmNoFirstHeaderPointer
          omega
        rw [Fill.turn, if_neg (by omega), Fill.startPacket_eq queued]
        refine ⟨_, rfl, .within (done ++ [front]) (packet.take 6) (packet.drop 6) later ?_ ?_ ?_ next ?_, ?_, ?_⟩
        · rw [split, List.append_nil, List.take_append_drop, List.append_assoc]
          rfl
        · show fill.data ++ _ = _
          rw [octets, List.flatten_append, List.flatten_singleton]
          simp only [List.append_assoc]
        · rw [length]
        · show (if _ then _ else _) = _
          rw [if_neg marked, pointer]
        · simp only [Fill.used, List.length_append, length]
          omega
        · have := room rem
          simp only [Fill.used, List.length_append, length] at *
          omega
    · have rem := queued.packetRem
      have some := List.length_pos_iff.mpr opened
      have next := @Queued.continue _ _ fill.vc (back.take (dataLen - fill.used)) (back.drop (dataLen - fill.used))
        later (by
          rw [List.take_append_drop]
          exact queued)
      rw [List.length_take, Nat.min_comm, List.length_drop] at next
      rw [Fill.turn, if_pos (by omega), Fill.continuePacket_eq queued]
      refine ⟨_, rfl, .within done (front ++ back.take (dataLen - fill.used)) (back.drop (dataLen - fill.used)) later
        ?_ ?_ ?_ ?_ pointer, ?_, ?_⟩
      · rw [List.append_assoc, List.take_append_drop, split]
      · show fill.data ++ _ = _
        rw [octets]
        simp only [List.append_assoc]
      · rw [List.length_append]
        omega
      · have sub : back.length - min back.length (dataLen - fill.used) = back.length - (dataLen - fill.used) := by
          omega
        rw [sub]
        exact next
      · simp only [Fill.used, List.length_append, List.length_take] at *
        omega
      · simp only [Fill.used, List.length_append, List.length_take] at *
        omega

/-- The loop ends without an error, and not before it has to. -/
theorem Position.loop (position : Position rest packets fill) (bounded : dataLen ≤ 2046)
    (fits : fill.used ≤ dataLen) {fuel : Nat} (enough : dataLen ≤ fuel + fill.used) :
    ∃ fill', Fill.loop dataLen fuel fill = (fill', .ok ()) ∧ Position rest packets fill' ∧ fill'.used ≤ dataLen ∧
      ¬ fill'.More dataLen := by
  induction fuel generalizing fill with
  | zero =>
    refine ⟨fill, rfl, position, fits, fun more => ?_⟩
    have := more.1
    omega
  | succ fuel ih =>
    by_cases more : fill.More dataLen
    · obtain ⟨fill', turned, position', grown, fits'⟩ := position.turn more bounded
      obtain ⟨filled, looped, rest⟩ := ih position' fits' (by omega)
      refine ⟨filled, ?_, rest⟩
      rw [Fill.loop, if_pos more, turned]
      exact looped
    · refine ⟨fill, ?_, position, fits, more⟩
      rw [Fill.loop, if_neg more]

theorem Vc.fill_position {vc : Vc} (queued : Queued vc rest packets) (bounded : dataLen ≤ 2046) :
    ∃ fill, vc.fill dataLen = (fill, .ok ()) ∧ Position rest packets fill ∧ fill.used ≤ dataLen ∧ ¬ fill.More dataLen :=
  Position.loop (.continuing rest rfl queued rfl) bounded (Nat.zero_le _) (Nat.le_refl _)

end ZephyrCcsds.Tm
