import Mathlib.Tactic.IntervalCases
import MFiWrapper.Common.Connection

/-!
# Packet streams

The receiving half of a connection refines the abstract reassembly of
`Library.Reassembly`: its `Packet` is the received bytes followed by zeros and
its `Position` their number (`ofReceived`), and one turn of the loop of `Parse`
is one `feed` of the framing `packetFraming` (`turn_ofReceived`).

The framing compares `Position` with `Packet.Size` from the first byte on.
`recognises_of_size` says which frames survive that: those whose size has no
little-endian beginning as small as the number of bytes it is made of.  The
four sizes the `Send*` functions use are such sizes.
-/

namespace MFiWrapper
namespace Connection

open Library

/-! ## The reader as a reassembly -/

/-- The decisions of `Read` and `Parse`, on the bytes received so far. -/
def packetFraming : Framing UInt8 where
  want buffer := (if buffer.length < 4 then 4 else readLE (buffer.take 4)) - buffer.length
  complete buffer := decide (readLE (buffer.take 4) ≤ buffer.length)

/-- The packet object after `memset` and the bytes. -/
def image (buffer : List UInt8) : MFiWDataPacket where
  data := (buffer ++ List.replicate sizeofDataPacket 0).take sizeofDataPacket
  length_data := by
    simp only [List.length_take, List.length_append, List.length_replicate]
    omega

/-- The connection that has received the bytes of an unfinished packet. -/
def ofReceived (buffer : List UInt8) : Connection := ⟨image buffer, buffer.length⟩

theorem image_data {buffer : List UInt8} (hFits : buffer.length ≤ sizeofDataPacket) :
    (image buffer).data =
      buffer ++ List.replicate (sizeofDataPacket - buffer.length) 0 := by
  simp [image, List.take_append, List.take_of_length_le hFits, List.take_replicate]

theorem image_nil : image [] = .zero := by
  ext1
  rw [image_data (Nat.zero_le _)]
  rfl

theorem ofReceived_nil : ofReceived [] = initial := by
  rw [ofReceived, image_nil]
  rfl

theorem size_image {buffer : List UInt8} (hFits : buffer.length ≤ sizeofDataPacket) :
    (image buffer).size = readLE (buffer.take 4) := by
  rw [MFiWDataPacket.size, image_data hFits, List.take_append, List.take_replicate,
    readLE_append_zeros]

/-- The bytes of the packet being received. -/
def received (c : Connection) : List UInt8 := c.packet.data.take c.position

theorem received_ofReceived {buffer : List UInt8} (hFits : buffer.length ≤ sizeofDataPacket) :
    (ofReceived buffer).received = buffer := by
  rw [received]
  show (image buffer).data.take buffer.length = buffer
  rw [image_data hFits, List.take_left]

/-- Storing behind the received bytes extends them. -/
theorem store_image {buffer bytes : List UInt8}
    (hFits : buffer.length + bytes.length ≤ sizeofDataPacket) :
    (image buffer).store buffer.length bytes = some (image (buffer ++ bytes)) := by
  have hBuffer : buffer.length ≤ sizeofDataPacket := by omega
  have hBoth : (buffer ++ bytes).length ≤ sizeofDataPacket := by
    simpa using hFits
  have hZeros : (List.replicate (sizeofDataPacket - buffer.length) (0 : UInt8)).drop
      bytes.length = List.replicate (sizeofDataPacket - (buffer ++ bytes).length) 0 := by
    rw [List.drop_replicate, List.length_append, Nat.sub_add_eq]
  rw [MFiWDataPacket.store, dif_pos hFits, Option.some.injEq]
  ext1
  show (image buffer).data.take buffer.length ++ bytes ++
    (image buffer).data.drop (buffer.length + bytes.length) = (image (buffer ++ bytes)).data
  rw [image_data hBuffer, image_data hBoth, List.take_left, List.drop_length_add_append, hZeros]

/-- Between turns either the size field is incomplete, or it announces more
than has arrived. -/
def Unfinished (buffer : List UInt8) : Prop :=
  buffer.length < 4 ∨ buffer.length < readLE (buffer.take 4)

theorem unfinished_nil : Unfinished [] := Or.inl (by decide)

/-- An unfinished packet has bytes to ask for. -/
theorem want_pos {buffer : List UInt8} (hUnfinished : Unfinished buffer) :
    0 < packetFraming.want buffer := by
  simp only [packetFraming]
  unfold Unfinished at hUnfinished
  split <;> omega

/-- The reader is after the size field, and then after as many bytes as that announces. -/
theorem targetSize_ofReceived {buffer : List UInt8} (hFits : buffer.length ≤ sizeofDataPacket) :
    (ofReceived buffer).targetSize =
      if buffer.length < 4 then 4 else readLE (buffer.take 4) := by
  simp only [targetSize, ofReceived, size_image hFits]

/-- What the framing wants is the rest of that. -/
theorem length_add_want {buffer : List UInt8} (hUnfinished : Unfinished buffer)
    (hFits : buffer.length ≤ sizeofDataPacket) :
    buffer.length + packetFraming.want buffer = (ofReceived buffer).targetSize := by
  rw [targetSize_ofReceived hFits]
  unfold Unfinished at hUnfinished
  simp only [packetFraming]
  split <;> omega

/-- The subtraction in `Read` does not wrap, so the reader asks for exactly
what the framing wants. -/
theorem requested_ofReceived {buffer : List UInt8} (hUnfinished : Unfinished buffer)
    (hFits : buffer.length ≤ sizeofDataPacket) :
    (ofReceived buffer).requested = packetFraming.want buffer := by
  have hSize : readLE (buffer.take 4) < 2 ^ 32 := by
    have hBound := readLE_lt (buffer.take 4)
    have hTake : (buffer.take 4).length ≤ 4 := List.length_take_le 4 buffer
    calc
      readLE (buffer.take 4) < 256 ^ (buffer.take 4).length := hBound
      _ ≤ 256 ^ 4 := Nat.pow_le_pow_right (by decide) hTake
      _ = 2 ^ 32 := by decide
  have hTarget := length_add_want hUnfinished hFits
  have hWord : (ofReceived buffer).targetSize < 2 ^ 32 := by
    rw [targetSize_ofReceived hFits]
    split <;> omega
  show ((ofReceived buffer).targetSize + 2 ^ 32 - buffer.length) % 2 ^ 32 = _
  omega

/-- A `Read` whose bytes fit into the packet object appends them, and its assertion
holds: `read()` returned no more than was requested. -/
theorem read_ofReceived {buffer bytes : List UInt8} (hUnfinished : Unfinished buffer)
    (hWant : bytes.length ≤ packetFraming.want buffer)
    (hFits : buffer.length + bytes.length ≤ sizeofDataPacket) :
    (buffer ++ bytes).length ≤ (ofReceived buffer).targetSize ∧
      (ofReceived buffer).read bytes = .ok (ofReceived (buffer ++ bytes)) := by
  have hWrap : (buffer.length + bytes.length) % 2 ^ 32 = (buffer ++ bytes).length := by
    rw [List.length_append]
    apply Nat.mod_eq_of_lt
    unfold sizeofDataPacket at hFits
    omega
  have hTarget : (buffer ++ bytes).length ≤ (ofReceived buffer).targetSize := by
    rw [List.length_append, ← length_add_want hUnfinished (by omega)]
    omega
  refine ⟨hTarget, ?_⟩
  unfold read
  simp only [ofReceived, store_image hFits, hWrap]
  exact if_pos hTarget

/-- One turn of `Parse` is one `feed` of the framing, as long as the bytes fit
into the packet object. -/
theorem turn_ofReceived {buffer bytes : List UInt8} (hUnfinished : Unfinished buffer)
    (hWant : bytes.length ≤ packetFraming.want buffer)
    (hFits : buffer.length + bytes.length ≤ sizeofDataPacket) :
    (ofReceived buffer).turn bytes =
      .ok ((packetFraming.feed buffer bytes).2.map image,
        ofReceived (packetFraming.feed buffer bytes).1) := by
  have hBoth : (buffer ++ bytes).length ≤ sizeofDataPacket := by
    simpa using hFits
  obtain ⟨-, hRead⟩ := read_ofReceived hUnfinished hWant hFits
  unfold turn
  rw [hRead]
  rw [← ofReceived_nil]
  by_cases hComplete : readLE ((buffer ++ bytes).take 4) ≤ (buffer ++ bytes).length
  · simp only [ofReceived, size_image hBoth, Framing.feed, packetFraming, hComplete,
      if_true, decide_true, Option.map_some]
  · simp only [ofReceived, size_image hBoth, Framing.feed, packetFraming, hComplete,
      if_false, decide_false, Bool.false_eq_true, Option.map_none]

theorem unfinished_feed {buffer bytes : List UInt8} :
    Unfinished (packetFraming.feed buffer bytes).1 := by
  by_cases hComplete : packetFraming.complete (buffer ++ bytes) = true
  · simp [Framing.feed, hComplete, unfinished_nil]
  · simp only [Framing.feed, if_neg hComplete]
    simp only [packetFraming, decide_eq_true_eq, Nat.not_le] at hComplete
    exact Or.inr hComplete

/-- A read inside a frame that fits returns no more than the framing wants, and fits. -/
theorem turn_inside {frame : List UInt8} {frames : List (List UInt8)} {buffer bytes : List UInt8}
    (hFrame : packetFraming.Delimits frame) (hFits : frame.length ≤ sizeofDataPacket)
    (hPartial : Framing.Partial buffer (frame :: frames)) (hUnfinished : Unfinished buffer)
    (hRequested : bytes.length ≤ (ofReceived buffer).requested) :
    bytes.length ≤ packetFraming.want buffer ∧
      (ofReceived buffer).turn bytes =
        .ok ((packetFraming.feed buffer bytes).2.map image,
          ofReceived (packetFraming.feed buffer bytes).1) := by
  obtain ⟨n, hn, rfl⟩ := hPartial
  have hLength : (frame.take n).length = n := by
    rw [List.length_take, Nat.min_eq_left hn.le]
  have hEnd := hFrame.want_le n hn
  rw [requested_ofReceived hUnfinished (by omega)] at hRequested
  exact ⟨hRequested, turn_ofReceived hUnfinished hRequested (by omega)⟩

/-- `Parse` on a stream of recognised frames that fit into the packet object
is the abstract reassembly. -/
theorem parse_ofReceived {frames results : List (List UInt8)} {buffer rest : List UInt8}
    (hFrames : ∀ f ∈ frames, packetFraming.Recognises f)
    (hFits : ∀ f ∈ frames, f.length ≤ sizeofDataPacket)
    (hPartial : Framing.Partial buffer frames) (hUnfinished : Unfinished buffer)
    (hAllowed : (ofReceived buffer).ReadsAllowed results)
    (hStream : buffer ++ results.flatten ++ rest = frames.flatten) :
    packetFraming.Allowed buffer results ∧
      (ofReceived buffer).parse results =
        .ok ((packetFraming.feedAll buffer results).2.map image,
          ofReceived (packetFraming.feedAll buffer results).1) := by
  induction results generalizing frames buffer with
  | nil => exact ⟨trivial, rfl⟩
  | cons bytes results ih =>
      obtain ⟨hNonempty, hRequested, hRest⟩ := hAllowed
      have hChunk : buffer ++ bytes ++ (results.flatten ++ rest) = frames.flatten := by
        rw [← hStream]
        simp
      obtain ⟨frame, others, rfl⟩ := Framing.exists_frame hNonempty hChunk
      obtain ⟨hWant, hTurn⟩ := turn_inside (hFrames frame List.mem_cons_self).delimits
        (hFits frame List.mem_cons_self) hPartial hUnfinished hRequested
      rw [hTurn] at hRest
      -- what is in the buffer then is the beginning of the frames that remain
      obtain ⟨remaining, hSplit, hPart, hFlat⟩ :=
        Framing.feed_frames hFrames hPartial hNonempty hWant hChunk
      have hRemaining : ∀ f ∈ remaining, f ∈ frame :: others := by
        intro f hf
        exact hSplit ▸ List.mem_append_right _ hf
      obtain ⟨hAllowed', hParse⟩ := ih (fun f hf => hFrames f (hRemaining f hf))
        (fun f hf => hFits f (hRemaining f hf)) hPart unfinished_feed hRest
        (by rw [List.append_assoc, hFlat])
      refine ⟨⟨hNonempty, hWant, hAllowed'⟩, ?_⟩
      simp only [parse, hTurn, hParse, Framing.feedAll, List.map_append, Option.toList_map]

/-! ## Frames that survive the early comparison -/

/-- A frame that starts with its own size is read to its end and not beyond. -/
theorem delimits_of_size {frame : List UInt8} (hHeader : 4 ≤ frame.length)
    (hSize : readLE (frame.take 4) = frame.length) : packetFraming.Delimits frame where
  nonempty := by
    rintro rfl
    simp at hHeader
  complete := by simp [packetFraming, hSize]
  want_le n hn := by
    have hLength : (frame.take n).length = n := by
      rw [List.length_take, Nat.min_eq_left hn.le]
    simp only [packetFraming, hLength, List.take_take]
    split
    · omega
    · rw [Nat.min_eq_left (by omega), hSize]
      omega

/-- A proper beginning of the frame is taken for the whole exactly if it ends inside
the size field and what is there of the field is no more than its own length. -/
theorem complete_take_iff {frame : List UInt8} (hSize : readLE (frame.take 4) = frame.length)
    {n : Nat} (hn : n < frame.length) :
    packetFraming.complete (frame.take n) = true ↔ n < 4 ∧ frame.length % 256 ^ n ≤ n := by
  have hLength : (frame.take n).length = n := by
    rw [List.length_take, Nat.min_eq_left hn.le]
  simp only [packetFraming, hLength, List.take_take, decide_eq_true_eq]
  rcases Nat.lt_or_ge n 4 with hShort | hLong
  · have hPart : readLE (frame.take n) = frame.length % 256 ^ n := by
      rw [← hSize, ← readLE_take, List.take_take, Nat.min_eq_left hShort.le]
    rw [Nat.min_eq_right hShort.le, hPart]
    exact (and_iff_right hShort).symm
  · rw [Nat.min_eq_left hLong, hSize]
    omega

/-- A frame that starts with its own size is recognised if no proper beginning
of the size field reads as a number already reached. -/
theorem recognises_of_size {frame : List UInt8} (hHeader : 4 ≤ frame.length)
    (hSize : readLE (frame.take 4) = frame.length)
    (hEarly : ∀ k, 0 < k → k < 4 → k < frame.length % 256 ^ k) :
    packetFraming.Recognises frame where
  nonempty := (delimits_of_size hHeader hSize).nonempty
  complete := (delimits_of_size hHeader hSize).complete
  incomplete n hPos hn := by
    rw [← Bool.not_eq_true, complete_take_iff hSize hn]
    rintro ⟨hShort, hReached⟩
    have hPart := hEarly n hPos hShort
    omega
  want_le := (delimits_of_size hHeader hSize).want_le

/-! ## The packets of the `Send` functions -/

theorem send_eq (packet : MFiWPacket UInt32) :
    packet.send = writeLE 4 packet.type.size ++ le32 packet.type.code ++
      le32 packet.handle ++ packet.payload := by
  cases packet <;> rfl

theorem send_length (packet : MFiWPacket UInt32) :
    packet.send.length = packet.type.size := by
  rw [send_eq, ← packet.payload_length]
  simp
  omega

theorem size_cases (type : MFiWPacketType) :
    type.size = 12 ∨ type.size = 276 ∨ type.size = 84 ∨ type.size = 16 := by
  cases type <;> decide

theorem send_recognised (packet : MFiWPacket UInt32) :
    packetFraming.Recognises packet.send := by
  have hSizes := size_cases packet.type
  apply recognises_of_size
  · rw [send_length]
    omega
  · have hField : packet.send.take 4 = writeLE 4 packet.type.size := by
      rw [send_eq, List.append_assoc, List.append_assoc]
      exact List.take_left' (writeLE_length 4 _)
    rw [hField, send_length]
    exact readLE_writeLE_of_lt (by omega)
  · intro k hPos hk
    rw [send_length]
    rcases hSizes with h | h | h | h <;> rw [h] <;> interval_cases k <;> decide

theorem send_fits (packet : MFiWPacket UInt32) : packet.send.length ≤ sizeofDataPacket := by
  have hSizes := size_cases packet.type
  rw [send_length, sizeofDataPacket]
  omega

/-- The receiver finds in the packet object what the sender put into it. -/
theorem contents_image_send (packet : MFiWPacket UInt32) :
    (image packet.send).contents = packet.contents := by
  have hData := image_data (send_fits packet)
  have hSize : (image packet.send).size = packet.send.length := by
    have hField : packet.send.take 4 = writeLE 4 packet.type.size := by
      rw [send_eq, List.append_assoc, List.append_assoc]
      exact List.take_left' (writeLE_length 4 _)
    have hSizes := size_cases packet.type
    rw [size_image (send_fits packet), hField, send_length]
    exact readLE_writeLE_of_lt (by omega)
  have hType : (image packet.send).type = packet.type.code.toNat := by
    rw [MFiWDataPacket.type, hData, send_eq]
    simp only [List.append_assoc]
    rw [List.drop_left' (writeLE_length 4 _), List.take_left' (le32_length _), readLE_le32]
  have hHandle : (image packet.send).handle = packet.handle.toNat := by
    rw [MFiWDataPacket.handle, hData, send_eq]
    simp only [List.append_assoc]
    rw [← List.append_assoc, List.drop_left' (by simp), List.take_left' (le32_length _),
      readLE_le32]
  have hPayload : (image packet.send).payload = packet.payload := by
    rw [MFiWDataPacket.payload, hSize, hData, List.take_left, send_eq]
    exact List.drop_left' (by simp)
  simp only [MFiWDataPacket.contents, MFiWPacket.contents, hType, hHandle, hPayload]

/-- What reaches `HandlePacket` while a stream of sent packets is read: a first
part of the packets, and in the reader the beginning of the next one. -/
theorem callbacks_of_stream {packets : List (MFiWPacket UInt32)}
    {reads : List (List (List UInt8))} {rest : List UInt8}
    (hAllowed : initial.ReadsAllowed reads.flatten)
    (hStream : reads.flatten.flatten ++ rest = packets.flatMap MFiWPacket.send) :
    ∃ handled buffer delivered waiting,
      initial.callbacks reads = .ok (handled, ofReceived buffer) ∧
      packets = delivered ++ waiting ∧
      handled.map MFiWDataPacket.contents = delivered.map MFiWPacket.contents ∧
      Framing.Partial buffer (waiting.map MFiWPacket.send) ∧
      buffer ++ rest = waiting.flatMap MFiWPacket.send := by
  have hFrames : ∀ f ∈ packets.map MFiWPacket.send, packetFraming.Recognises f := by
    intro f hf
    obtain ⟨packet, -, rfl⟩ := List.mem_map.mp hf
    exact send_recognised packet
  have hFits : ∀ f ∈ packets.map MFiWPacket.send, f.length ≤ sizeofDataPacket := by
    intro f hf
    obtain ⟨packet, -, rfl⟩ := List.mem_map.mp hf
    exact send_fits packet
  rw [List.flatMap_def] at hStream
  rw [← ofReceived_nil] at hAllowed
  obtain ⟨hFed, hParse⟩ := parse_ofReceived hFrames hFits (Framing.partial_nil hFrames)
    unfinished_nil hAllowed (by simpa using hStream)
  obtain ⟨remaining, hSplit, hPart, hFlat⟩ :=
    Framing.feedAll_frames hFrames (Framing.partial_nil hFrames) hFed (by simpa using hStream)
  obtain ⟨delivered, waiting, rfl, hDelivered, rfl⟩ := List.map_eq_append_iff.mp hSplit
  refine ⟨(packetFraming.feedAll [] reads.flatten).2.map image,
    (packetFraming.feedAll [] reads.flatten).1, delivered, waiting, ?_, rfl, ?_, hPart, ?_⟩
  · rw [callbacks_eq_parse, ← ofReceived_nil]
    exact hParse
  · rw [← hDelivered, List.map_map, List.map_map]
    exact List.map_congr_left fun packet _ => contents_image_send packet
  · rw [hFlat, List.flatMap_def]

end Connection
end MFiWrapper
