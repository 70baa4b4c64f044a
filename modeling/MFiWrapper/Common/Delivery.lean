import MFiWrapper.Common.PacketStream

/-!
# Delivery of packets over a connection

Two results about a sender and a receiver joined by a byte stream.  When every
write is accepted whole, the receiver hands over exactly the packets sent.  The
descriptor is non-blocking, however, and the `Send` functions do not look at the
result of `write`: the second half of the file states what is left of the
guarantee when writes are cut short.
-/

namespace MFiWrapper
namespace Connection

open Library

/-- Framing round trip.  Whatever part of the written stream has been read, in
whatever cuts and over however many callbacks, `HandlePacket` has been called
with the first packets sent, each once and in order; after the whole stream,
with all of them. -/
theorem parse_delivers_sent_packets (packets : List (MFiWPacket UInt32))
    (reads : List (List (List UInt8))) (rest : List UInt8)
    (hAllowed : initial.ReadsAllowed reads.flatten)
    (hStream : reads.flatten.flatten ++ rest = packets.flatMap MFiWPacket.send) :
    ∃ handled c, initial.callbacks reads = .ok (handled, c) ∧
      handled.map MFiWDataPacket.contents <+: packets.map MFiWPacket.contents ∧
      (rest = [] →
        handled.map MFiWDataPacket.contents = packets.map MFiWPacket.contents) := by
  obtain ⟨handled, buffer, delivered, waiting, hCallbacks, rfl, hContents, hPart, hFlat⟩ :=
    callbacks_of_stream hAllowed hStream
  refine ⟨handled, ofReceived buffer, hCallbacks, ?_, ?_⟩
  · rw [hContents, List.map_append]
    exact List.prefix_append _ _
  · rintro rfl
    -- a proper beginning of the next packet cannot be all that is left
    have hNone : waiting = [] := by
      cases waiting with
      | nil => rfl
      | cons packet waiting =>
          obtain ⟨n, hn, rfl⟩ := hPart
          have hLength := congrArg List.length hFlat
          simp only [List.append_nil, List.length_take, List.flatMap_cons,
            List.length_append] at hLength
          omega
    rw [hContents, hNone, List.append_nil]

/-- A player-index packet and a pause packet, read byte by byte at first and
across the packet boundary by a later callback. -/
theorem parse_delivers_two_packets :
    ∃ handled c, initial.callbacks
        [[[16], [0]], [], [[0, 0], [3, 0, 0, 0, 7], [0, 0, 0, 255, 255, 255, 255], [12, 0, 0]],
          [[0], [4, 0, 0, 0, 7, 0, 0, 0]]] = .ok (handled, c) ∧
      handled.map MFiWDataPacket.contents =
        ([.setPlayerIndex 7 (-1), .pausePressed 7] : List (MFiWPacket UInt32)).map
          MFiWPacket.contents := by
  obtain ⟨handled, c, hCallbacks, -, hAll⟩ := parse_delivers_sent_packets
    [.setPlayerIndex 7 (-1), .pausePressed 7]
    [[[16], [0]], [], [[0, 0], [3, 0, 0, 0, 7], [0, 0, 0, 255, 255, 255, 255], [12, 0, 0]],
      [[0], [4, 0, 0, 0, 7, 0, 0, 0]]] [] (by decide +kernel) (by decide +kernel)
  exact ⟨handled, c, hCallbacks, hAll rfl⟩

/-! ## Writes cut short -/

/-- One `Send` call together with the number of bytes its `write` accepted; a
failed `write` accepts none. -/
structure Write where
  packet : MFiWPacket UInt32
  accepted : Nat
  accepted_le : accepted ≤ packet.send.length

namespace Write

/-- What reaches the stream. -/
def bytes (w : Write) : List UInt8 := w.packet.send.take w.accepted

/-- Some but not all of the packet was accepted. -/
def CutShort (w : Write) : Prop := 0 < w.accepted ∧ w.accepted < w.packet.send.length

end Write

/-- No corruption: however the accepted bytes are read, the packets handed over
are a subsequence of the packets sent, and what the reader holds is the
beginning of a packet sent. -/
def NoCorruption (writes : List Write) : Prop :=
  ∀ (reads : List (List (List UInt8))) (rest : List UInt8),
    initial.ReadsAllowed reads.flatten →
    reads.flatten.flatten ++ rest = writes.flatMap Write.bytes →
    ∃ handled c, initial.callbacks reads = .ok (handled, c) ∧
      (handled.map MFiWDataPacket.contents).Sublist
        (writes.map fun w => w.packet.contents) ∧
      (c.received = [] ∨ ∃ w ∈ writes, c.received <+: w.packet.send)

/-- Nothing is accepted any more once a write has been cut short. -/
def NothingAfterCutShort (writes : List Write) : Prop :=
  writes.Pairwise fun earlier later => earlier.CutShort → later.accepted = 0

/-- Under that condition the accepted bytes are those of some of the packets
sent, except for a missing end. -/
theorem accepted_bytes {writes : List Write} (hWrites : NothingAfterCutShort writes) :
    ∃ (packets : List (MFiWPacket UInt32)) (missing : List UInt8),
      packets.Sublist (writes.map Write.packet) ∧
        writes.flatMap Write.bytes ++ missing = packets.flatMap MFiWPacket.send := by
  induction writes with
  | nil => exact ⟨[], [], List.Sublist.refl _, rfl⟩
  | cons w writes ih =>
      obtain ⟨hAfter, hRest⟩ := List.pairwise_cons.mp hWrites
      obtain ⟨packets, missing, hSublist, hBytes⟩ := ih hRest
      have hBound := w.accepted_le
      rcases Nat.eq_zero_or_pos w.accepted with hZero | hPos
      · refine ⟨packets, missing, hSublist.cons w.packet, ?_⟩
        simpa [Write.bytes, hZero] using hBytes
      rcases Nat.lt_or_eq_of_le hBound with hShort | hWhole
      · -- the end of `w` is missing, and so is everything after it
        have hNothing : writes.flatMap Write.bytes = [] := by
          rw [List.flatMap_eq_nil_iff]
          intro later hLater
          rw [Write.bytes, hAfter later hLater ⟨hPos, hShort⟩, List.take_zero]
        refine ⟨[w.packet], w.packet.send.drop w.accepted,
          (List.nil_sublist _).cons_cons w.packet, ?_⟩
        simp [List.flatMap_cons, hNothing, Write.bytes]
      · refine ⟨w.packet :: packets, missing, hSublist.cons_cons w.packet, ?_⟩
        have hBytesW : w.bytes = w.packet.send := by
          rw [Write.bytes, hWhole, List.take_length]
        rw [List.flatMap_cons, List.flatMap_cons, hBytesW, List.append_assoc, hBytes]

/-- In every run in which nothing is accepted after a write that was cut short,
no packet is corrupted and framing is kept. -/
theorem noCorruption_of_nothingAfterCutShort (writes : List Write)
    (hWrites : NothingAfterCutShort writes) : NoCorruption writes := by
  intro reads rest hAllowed hStream
  obtain ⟨packets, missing, hSublist, hBytes⟩ := accepted_bytes hWrites
  have hStream' : reads.flatten.flatten ++ (rest ++ missing) =
      packets.flatMap MFiWPacket.send := by
    rw [← List.append_assoc, hStream, hBytes]
  obtain ⟨handled, buffer, delivered, waiting, hCallbacks, rfl, hContents, hPart, -⟩ :=
    callbacks_of_stream hAllowed hStream'
  have hSent : ((delivered ++ waiting).map MFiWPacket.contents).Sublist
      (writes.map fun w => w.packet.contents) := by
    simpa [List.map_map, Function.comp_def] using hSublist.map MFiWPacket.contents
  refine ⟨handled, ofReceived buffer, hCallbacks, ?_, ?_⟩
  · rw [hContents]
    refine List.Sublist.trans ?_ hSent
    rw [List.map_append]
    exact List.sublist_append_left _ _
  · cases waiting with
    | nil =>
        left
        obtain rfl : buffer = [] := hPart
        exact received_ofReceived (Nat.zero_le _)
    | cons packet waiting =>
        right
        obtain ⟨n, hn, rfl⟩ := hPart
        have hMem : packet ∈ writes.map Write.packet := hSublist.subset (by simp)
        obtain ⟨w, hw, rfl⟩ := List.mem_map.mp hMem
        refine ⟨w, hw, ?_⟩
        have hFits := send_fits w.packet
        rw [received_ofReceived (by rw [List.length_take]; omega)]
        exact List.take_prefix n w.packet.send

/-- A failed write, a whole one and a final one of which five bytes get out. -/
theorem noCorruption_three_writes :
    NoCorruption
      [⟨.disconnect 1, 0, by decide⟩, ⟨.pausePressed 2, 12, by decide⟩,
        ⟨.setPlayerIndex 2 3, 5, by decide⟩] :=
  noCorruption_of_nothingAfterCutShort _ (by
    unfold NothingAfterCutShort Write.CutShort
    decide)

/-- Thirteen of the sixteen bytes of a player-index packet are accepted, then a
pause packet.  The receiver completes the first with the second's size field
and hands over the player index 0x0C00, which nobody sent. -/
theorem corruption_after_cut_short :
    ¬ ∀ writes : List Write, NoCorruption writes := by
  intro hAll
  obtain ⟨handled, c, hCallbacks, hSublist, -⟩ :=
    hAll [⟨.setPlayerIndex 1 0, 13, by decide⟩, ⟨.pausePressed 2, 12, by decide⟩]
      [[[16, 0, 0, 0], [3, 0, 0, 0, 1, 0, 0, 0, 0, 12, 0, 0]]] [0, 4, 0, 0, 0, 2, 0, 0, 0]
      (by decide +kernel) (by decide +kernel)
  have hHandled : (initial.callbacks
      [[[16, 0, 0, 0], [3, 0, 0, 0, 1, 0, 0, 0, 0, 12, 0, 0]]]).map
        (fun result => result.1.map MFiWDataPacket.contents) =
      .ok [(3, 1, [0, 12, 0, 0])] := by
    decide +kernel
  rw [hCallbacks] at hHandled
  simp only [Except.map, Except.ok.injEq] at hHandled
  rw [hHandled] at hSublist
  revert hSublist
  decide

end Connection
end MFiWrapper
