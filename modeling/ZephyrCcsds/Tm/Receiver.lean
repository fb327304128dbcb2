import ZephyrCcsds.Tm.PacketFill

/-! # A receiver of packets

What the data fields of a virtual channel are for: a receiver that extracts the Space Packets from
them by the First Header Pointers and the length fields, and its agreement with the queue that the
formatter drains.

* `Receiver.accept` — the extraction from one data field.
* `Receiver.Follows` — the receiver has the packets that have left the queue.
* `Follows.accept` — filling a frame and accepting it keeps the two in agreement.
-/

namespace ZephyrCcsds.Tm

open Callback Tc

variable [Kconfig] [Sdls.Kconfig]

/-! ## Extraction -/

/-- The APID in the header of a packet -/
def packetApid (packet : Bytes) : Nat := Bytes.getBe (packet.slice 0 2) % 2048

/-- The packets that are not idle packets -/
def carried (packets : List Bytes) : List Bytes := packets.filter fun packet => packetApid packet ≠ tmIdleApid

/-- The packets received so far, and the front of one that goes on in the next data field -/
structure Receiver where
  packets : List Bytes
  tail : Bytes
  deriving DecidableEq

/-- The open packet once its rest has come; what follows the rest is no part of it. -/
def Receiver.completed (receiver : Receiver) (continuation : Bytes) : List Bytes :=
  if receiver.tail ≠ [] ∧ spacePackets.Starts (receiver.tail ++ continuation) then
    [(receiver.tail ++ continuation).take (spacePackets.total (receiver.tail ++ continuation))]
  else
    []

/-- The data field of the next frame with its First Header Pointer.  An idle frame holds no packets. -/
def Receiver.accept (receiver : Receiver) (firstHeaderPointer : Nat) (field : Bytes) : Receiver :=
  if firstHeaderPointer = tmIdleFirstHeaderPointer then receiver
  else if firstHeaderPointer = tmNoFirstHeaderPointer then
    let completed := receiver.completed field
    { packets := receiver.packets ++ carried completed
      tail := if receiver.tail = [] ∨ completed ≠ [] then [] else receiver.tail ++ field }
  else
    let found := spacePackets.split (field.drop firstHeaderPointer)
    { packets := receiver.packets ++
        carried (receiver.completed (field.take firstHeaderPointer) ++ found.1)
      tail := found.2 }

/-! ## Idle data -/

omit [Kconfig] [Sdls.Kconfig] in
theorem carried_append (first second : List Bytes) : carried (first ++ second) = carried first ++ carried second :=
  List.filter_append ..

omit [Kconfig] [Sdls.Kconfig] in
theorem carried_eq {packets : List Bytes} (proper : ∀ packet ∈ packets, packetApid packet ≠ tmIdleApid) :
    carried packets = packets := by
  apply List.filter_eq_self.mpr
  intro packet listed
  simpa using proper packet listed

omit [Kconfig] [Sdls.Kconfig] in
theorem carried_idle {packets : List Bytes} (idle : ∀ packet ∈ packets, packetApid packet = tmIdleApid) :
    carried packets = [] := by
  apply List.filter_eq_nil_iff.mpr
  intro packet listed
  simpa using idle packet listed

omit [Kconfig] [Sdls.Kconfig] in
theorem fillIdleSpacePacket_length (len : Nat) : (fillIdleSpacePacket len).length = len := by
  unfold fillIdleSpacePacket
  split
  · exact List.length_replicate
  · rename_i long
    have long : ¬ len < 7 := long
    simp only [List.length_append, Bytes.putBe_length, List.length_replicate, spacePacketPrimaryHdrLen]
    omega

omit [Kconfig] [Sdls.Kconfig] in
/-- A tail that is too short for a packet does not start with one. -/
theorem zeros_not_starts {len : Nat} (short : len < 7) : ¬ spacePackets.Starts (List.replicate len (0 : UInt8)) := by
  intro starts
  have longer := spacePackets.header_lt (List.replicate len 0)
  have header := starts.2
  rw [List.length_replicate, spacePackets_header] at *
  have first : len = 6 := by omega
  subst first
  revert starts
  decide

omit [Kconfig] [Sdls.Kconfig] in
theorem idlePacket {len : Nat} (long : 7 ≤ len) (bounded : len ≤ 65542) :
    spacePackets.IsPacket (fillIdleSpacePacket len) ∧ packetApid (fillIdleSpacePacket len) = tmIdleApid := by
  have length := fillIdleSpacePacket_length len
  have field : Bytes.getBe (Bytes.putBe 2 (len - spacePacketPrimaryHdrLen - 1)) = len - 7 := by
    show Bytes.getBe (Bytes.putBe 2 (len - 6 - 1)) = _
    rw [Bytes.getBe_putBe_of_lt (by omega)]
    omega
  have fields : fillIdleSpacePacket len = Bytes.putBe 2 tmIdleApid ++ Bytes.putBe 2 (sequenceUnsegmented * 16384) ++
      Bytes.putBe 2 (len - spacePacketPrimaryHdrLen - 1) ++ List.replicate (len - spacePacketPrimaryHdrLen) 0 := by
    unfold fillIdleSpacePacket
    exact if_neg (Nat.not_lt.mpr long)
  have third : (fillIdleSpacePacket len).slice 4 2 = Bytes.putBe 2 (len - spacePacketPrimaryHdrLen - 1) := by
    rw [fields, List.append_assoc, Bytes.slice_append_right _ (by simp)]
    exact Bytes.slice_append_left _ _
  have first : (fillIdleSpacePacket len).slice 0 2 = Bytes.putBe 2 tmIdleApid := by
    rw [fields, List.append_assoc, List.append_assoc]
    exact Bytes.slice_append_left _ _
  refine ⟨⟨?_, ?_⟩, ?_⟩
  · rw [length, spacePackets_header]
    omega
  · show spacePacketPrimaryHdrLen + Bytes.getBe _ + 1 = _
    rw [third, field, length]
    show 6 + (len - 7) + 1 = len
    omega
  · rw [packetApid, first]
    decide

omit [Kconfig] [Sdls.Kconfig] in
/-- The filling is idle packets and a tail that is no packet. -/
theorem filling {len : Nat} (bounded : len ≤ 65542) :
    ∃ (idles : List Bytes) (tail : Bytes), fillIdleSpacePacket len = idles.flatten ++ tail ∧ ¬ spacePackets.Starts tail ∧
      ∀ packet ∈ idles, spacePackets.IsPacket packet ∧ packetApid packet = tmIdleApid := by
  by_cases short : len < 7
  · refine ⟨[], List.replicate len 0, ?_, zeros_not_starts short, by simp⟩
    unfold fillIdleSpacePacket
    exact if_pos short
  · obtain ⟨whole, idle⟩ := @idlePacket len (by omega) bounded
    refine ⟨[fillIdleSpacePacket len], [], by simp, by decide, ?_⟩
    rw [List.forall_mem_singleton]
    exact ⟨whole, idle⟩

omit [Kconfig] [Sdls.Kconfig] in
/-- Packets with filling behind them are found, and the filling is not carried. -/
theorem split_filled {packets : List Bytes} (whole : ∀ packet ∈ packets, spacePackets.IsPacket packet) {len : Nat}
    (bounded : len ≤ 65542) :
    carried (spacePackets.split (packets.flatten ++ fillIdleSpacePacket len)).1 = carried packets ∧
      ¬ spacePackets.Starts (spacePackets.split (packets.flatten ++ fillIdleSpacePacket len)).2 := by
  obtain ⟨idles, tail, filled, incomplete, idle⟩ := filling bounded
  have all : ∀ packet ∈ packets ++ idles, spacePackets.IsPacket packet := by
    intro packet listed
    rcases List.mem_append.mp listed with proper | filler
    · exact whole packet proper
    · exact (idle packet filler).1
  have joined : packets.flatten ++ fillIdleSpacePacket len = (packets ++ idles).flatten ++ tail := by
    rw [filled, List.flatten_append, List.append_assoc]
  rw [joined, Framing.split_flatten all incomplete, carried_append, carried_idle fun packet listed => (idle packet listed).2,
    List.append_nil]
  exact ⟨rfl, incomplete⟩

/-! ## Agreement with the queue -/

/-- The packet of which the rest is still queued -/
def Receiver.opened (receiver : Receiver) (rest : Bytes) : List Bytes :=
  if rest = [] then [] else [receiver.tail ++ rest]

/-- The receiver has the packets that have left a queue of `rest` and `packets`, and the front of the packet
that `rest` ends. -/
structure Receiver.Follows (receiver : Receiver) (admitted : List Bytes) (vc : Vc) (rest : Bytes)
    (packets : List Bytes) : Prop where
  queued : Queued vc rest packets
  admitted_eq : admitted = receiver.packets ++ (receiver.opened rest ++ packets)
  open_whole : rest ≠ [] → receiver.tail ≠ [] ∧ spacePackets.IsPacket (receiver.tail ++ rest)
  incomplete : ¬ spacePackets.Starts receiver.tail
  proper : ∀ packet ∈ admitted, packetApid packet ≠ tmIdleApid

variable {receiver : Receiver} {admitted packets : List Bytes} {vc : Vc} {rest : Bytes}

/-- The continuation completes the open packet, whatever comes behind it. -/
theorem Receiver.Follows.completed (follows : receiver.Follows admitted vc rest packets) (behind : Bytes)
    (alone : rest = [] → behind = []) : receiver.completed (rest ++ behind) = receiver.opened rest := by
  by_cases closed : rest = []
  · have nothing := alone closed
    subst closed nothing
    simp only [Receiver.completed, Receiver.opened, List.append_nil, follows.incomplete, and_false, if_false, if_true]
  · obtain ⟨some, whole⟩ := follows.open_whole closed
    have starts := whole.starts_append behind
    rw [List.append_assoc] at starts
    have total : spacePackets.total (receiver.tail ++ (rest ++ behind)) = (receiver.tail ++ rest).length := by
      rw [← List.append_assoc, spacePackets.total_append _ _ whole.header_le, whole.total_eq]
    rw [Receiver.completed, if_pos ⟨some, starts⟩, total, ← List.append_assoc, List.take_left, Receiver.opened,
      if_neg closed]

theorem Receiver.Follows.opened_proper (follows : receiver.Follows admitted vc rest packets) :
    carried (receiver.opened rest ++ packets) = receiver.opened rest ++ packets := by
  apply carried_eq
  intro packet listed
  apply follows.proper
  rw [follows.admitted_eq]
  exact List.mem_append_right _ listed

/-- A data field in which packets start. -/
theorem Receiver.Follows.accept_start (follows : receiver.Follows admitted vc rest packets) (body : Bytes)
    (pointer : rest.length < tmIdleFirstHeaderPointer) :
    receiver.accept rest.length (rest ++ body) =
      { packets := receiver.packets ++ carried (receiver.opened rest ++ (spacePackets.split body).1)
        tail := (spacePackets.split body).2 } := by
  have completed := follows.completed [] fun _ => rfl
  rw [List.append_nil] at completed
  have none : ¬ rest.length = tmNoFirstHeaderPointer := by
    unfold tmIdleFirstHeaderPointer at pointer
    unfold tmNoFirstHeaderPointer
    omega
  simp only [Receiver.accept, Nat.ne_of_lt pointer, none, if_false, List.take_left, List.drop_left, completed]

/-- A data field that only goes on with the open packet. -/
theorem Receiver.Follows.accept_continue (follows : receiver.Follows admitted vc rest packets) {front back : Bytes}
    (split : rest = front ++ back) (some : back ≠ []) :
    receiver.accept tmNoFirstHeaderPointer front = { receiver with tail := receiver.tail ++ front } := by
  have opened : rest ≠ [] := by
    rw [split]
    simp [some]
  obtain ⟨began, whole⟩ := follows.open_whole opened
  rw [split, ← List.append_assoc] at whole
  have goes : receiver.completed front = [] := by
    rw [Receiver.completed, if_neg fun both => whole.not_starts some both.2]
  have other : ¬ tmNoFirstHeaderPointer = tmIdleFirstHeaderPointer := by decide
  simp only [Receiver.accept, other, if_false, if_true, goes, began, ne_eq, not_true_eq_false, or_self, carried,
    List.filter_nil, List.append_nil]

/-- A data field that ends the open packet, with a short tail behind it. -/
theorem Receiver.Follows.accept_end (follows : receiver.Follows admitted vc rest packets) (opened : rest ≠ [])
    (behind : Bytes) :
    receiver.accept tmNoFirstHeaderPointer (rest ++ behind) =
      { packets := receiver.packets ++ receiver.opened rest, tail := [] } := by
  have completed := follows.completed behind fun closed => absurd closed opened
  have other : ¬ tmNoFirstHeaderPointer = tmIdleFirstHeaderPointer := by decide
  have proper : carried (receiver.opened rest) = receiver.opened rest := by
    apply carried_eq
    intro packet listed
    apply follows.proper
    rw [follows.admitted_eq]
    exact List.mem_append_right _ (List.mem_append_left _ listed)
  have some : receiver.opened rest ≠ [] := by
    rw [Receiver.opened, if_neg opened]
    exact List.cons_ne_nil _ _
  simp only [Receiver.accept, other, if_false, if_true, completed, proper, some, ne_eq, not_false_eq_true, or_true]

/-! ## One frame -/

theorem Fill.finish_fst (fill : Fill) {dataLen : Nat} (fits : fill.used ≤ dataLen) :
    (fill.finish dataLen).1 = fill.data ++ fillIdleSpacePacket (dataLen - fill.used) := by
  unfold Fill.finish
  split
  · rfl
  · have full : dataLen - fill.used = 0 := by omega
    rw [full]
    exact (List.append_nil _).symm

theorem Fill.finish_snd (fill : Fill) (dataLen : Nat) : (fill.finish dataLen).2 =
    if fill.firstHeaderPointer = tmNoFirstHeaderPointer ∧ 7 ≤ dataLen - fill.used then fill.used
    else fill.firstHeaderPointer := by
  unfold Fill.finish
  split
  · rfl
  · have short : ¬ 7 ≤ dataLen - fill.used := by omega
    rw [if_neg fun both => short both.2]

theorem Fill.finish_length (fill : Fill) {dataLen : Nat} (fits : fill.used ≤ dataLen) :
    (fill.finish dataLen).1.length = dataLen := by
  rw [fill.finish_fst fits, List.length_append, fillIdleSpacePacket_length]
  show fill.used + _ = _
  omega

/-- An open packet at the end of the loop fills the frame. -/
theorem Fill.full_of_open {fill : Fill} {dataLen : Nat} (fits : fill.used ≤ dataLen) (stopped : ¬ fill.More dataLen)
    (opened : 0 < fill.vc.packetRem) : fill.used = dataLen := by
  by_contra short
  apply stopped
  refine ⟨by omega, Or.inl opened, fun both => ?_⟩
  omega

theorem Receiver.Follows.accept_frame (follows : receiver.Follows admitted vc rest packets) {dataLen : Nat}
    (long : 7 ≤ dataLen) (bounded : dataLen ≤ 2046) :
    ∃ fill rest' packets', vc.fill dataLen = (fill, .ok ()) ∧ fill.used ≤ dataLen ∧
      (receiver.accept (fill.finish dataLen).2 (fill.finish dataLen).1).Follows admitted fill.vc rest' packets' := by
  obtain ⟨fill, filled, position, fits, stopped⟩ := Vc.fill_position follows.queued bounded
  have field := fill.finish_fst fits
  have pointer := fill.finish_snd dataLen
  have room : dataLen - fill.used ≤ 65542 := by omega
  cases position with
  | continuing missing octets queued marked =>
    by_cases closed : missing = []
    · subst closed
      rw [List.append_nil] at octets
      have used : fill.used = rest.length := by rw [octets, Fill.used]
      by_cases space : 7 ≤ dataLen - fill.used
      · -- An idle packet starts behind the rest.
        rw [if_pos ⟨marked, space⟩, used] at pointer
        obtain ⟨kept, incomplete⟩ := @split_filled [] (by simp) _ room
        rw [List.flatten_nil, List.nil_append] at kept incomplete
        refine ⟨fill, [], packets, filled, fits, ?_⟩
        rw [field, pointer, ← octets, follows.accept_start _ (by unfold tmIdleFirstHeaderPointer; omega)]
        refine ⟨queued, ?_, fun some => absurd rfl some, incomplete, follows.proper⟩
        have proper := follows.opened_proper
        rw [carried_append] at proper ⊢
        have opened := carried_eq fun packet listed => follows.proper packet (by
          rw [follows.admitted_eq]
          exact List.mem_append_right _ (List.mem_append_left packets listed))
        rw [kept, opened, follows.admitted_eq]
        simp [carried, Receiver.opened]
      · -- A tail of zeros behind the rest.
        have opened : rest ≠ [] := by
          intro empty
          rw [empty, List.length_nil] at used
          omega
        rw [if_neg fun both => space both.2, marked] at pointer
        refine ⟨fill, [], packets, filled, fits, ?_⟩
        rw [field, pointer, ← octets, follows.accept_end opened]
        have incomplete : ¬ spacePackets.Starts [] := by decide
        refine ⟨queued, ?_, fun some => absurd rfl some, incomplete, follows.proper⟩
        rw [follows.admitted_eq]
        simp [Receiver.opened]
    · -- The frame is full before the packet ends.
      have full := Fill.full_of_open fits stopped (by
        rw [queued.packetRem]
        exact List.length_pos_iff.mpr closed)
      have nothing : fillIdleSpacePacket (dataLen - fill.used) = [] := by
        rw [full, Nat.sub_self]
        rfl
      rw [if_neg (by omega), marked] at pointer
      rw [nothing, List.append_nil] at field
      have opened : rest ≠ [] := by
        rw [octets]
        simp [closed]
      obtain ⟨began, whole⟩ := follows.open_whole opened
      rw [octets, ← List.append_assoc] at whole
      refine ⟨fill, missing, packets, filled, fits, ?_⟩
      rw [field, pointer, follows.accept_continue octets closed]
      refine ⟨queued, ?_, fun _ => ⟨by simp [began], whole⟩, whole.not_starts closed, follows.proper⟩
      rw [follows.admitted_eq, Receiver.opened, Receiver.opened, if_neg opened, if_neg closed, octets]
      simp
  | within done front back later split octets header queued marked =>
    have inside := congrArg List.length octets
    simp only [List.length_append] at inside
    have used : fill.data.length = fill.used := rfl
    have unmarked : ¬ fill.firstHeaderPointer = tmNoFirstHeaderPointer := by
      rw [marked]
      unfold tmNoFirstHeaderPointer
      omega
    rw [if_neg fun both => unmarked both.1, marked] at pointer
    have whole : ∀ packet ∈ done ++ [front ++ back], spacePackets.IsPacket packet := by
      intro packet listed
      apply follows.queued.whole
      rw [split]
      simp only [List.mem_append, List.mem_cons] at listed ⊢
      tauto
    have proper : ∀ packet ∈ receiver.opened rest ++ (done ++ [front ++ back]), packetApid packet ≠ tmIdleApid := by
      intro packet listed
      apply follows.proper
      rw [follows.admitted_eq, split]
      simp only [List.mem_append, List.mem_cons] at listed ⊢
      tauto
    by_cases closed : back = []
    · subst closed
      rw [List.append_nil] at whole proper split
      obtain ⟨kept, incomplete⟩ := split_filled whole room
      have body : fill.data ++ fillIdleSpacePacket (dataLen - fill.used) =
          rest ++ ((done ++ [front]).flatten ++ fillIdleSpacePacket (dataLen - fill.used)) := by
        rw [octets]
        simp
      refine ⟨fill, [], later, filled, fits, ?_⟩
      rw [field, pointer, body, follows.accept_start _ (by unfold tmIdleFirstHeaderPointer; omega)]
      refine ⟨queued, ?_, fun some => absurd rfl some, incomplete, follows.proper⟩
      have all := carried_eq proper
      rw [carried_append] at all ⊢
      rw [kept, all, follows.admitted_eq, split]
      simp [Receiver.opened]
    · -- The last packet goes on in the next frame.
      have full := Fill.full_of_open fits stopped (by
        rw [queued.packetRem]
        exact List.length_pos_iff.mpr closed)
      have nothing : fillIdleSpacePacket (dataLen - fill.used) = [] := by
        rw [full, Nat.sub_self]
        rfl
      have last : spacePackets.IsPacket (front ++ back) := whole _ (by simp)
      have incomplete := last.not_starts closed
      have found := Framing.split_flatten (fun packet listed => whole packet (List.mem_append_left _ listed)) incomplete
      have body : fill.data = rest ++ (done.flatten ++ front) := by rw [octets, List.append_assoc]
      rw [nothing, List.append_nil, body] at field
      refine ⟨fill, back, later, filled, fits, ?_⟩
      rw [field, pointer, follows.accept_start _ (by unfold tmIdleFirstHeaderPointer; omega), found]
      have began : front ≠ [] := by
        intro empty
        rw [empty] at header
        simp at header
      refine ⟨queued, ?_, fun _ => ⟨began, last⟩, incomplete, follows.proper⟩
      have all : carried (receiver.opened rest ++ done) = receiver.opened rest ++ done := by
        apply carried_eq
        intro packet listed
        apply proper
        rw [← List.append_assoc]
        exact List.mem_append_left _ listed
      rw [all, follows.admitted_eq, split]
      simp [Receiver.opened, closed]

end ZephyrCcsds.Tm
