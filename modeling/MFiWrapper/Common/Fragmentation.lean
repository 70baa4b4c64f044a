import MFiWrapper.Common.PacketStream
import MFiWrapper.Library.StreamPosition

/-!
# Cutting a stream of frames

`Read` takes the size of a packet to be unknown until four bytes are there, but
`Parse` compares `Position` with `Packet.Size` after every read.  A frame of 256
or 257 bytes begins with the byte 0 or 1, so `Parse` hands the packet over if a
read ends after that byte.  This is shown to be the only way in which the cuts
matter.
-/

namespace MFiWrapper
namespace Connection

open Library

/-- A frame begins with its own size, which counts the whole frame. -/
structure Frame where
  bytes : List UInt8
  size_eq : readLE (bytes.take 4) = bytes.length
  header_le : 12 ≤ bytes.length
  length_le : bytes.length ≤ sizeofDataPacket

/-- After so many bytes of the stream, the first byte of a frame of 256 or 257 bytes
has been received and no more of it. -/
def EndsEarly (frames : List Frame) (received : Nat) : Prop :=
  ∃ frame, locate Frame.bytes frames received = some (frame, 1) ∧
    (frame.bytes.length = 256 ∨ frame.bytes.length = 257)

/-- No read of the stream ends after such a byte. -/
def NeverEndsEarly (frames : List Frame) (reads : List (List UInt8)) : Prop :=
  ∀ taken, taken <+: reads → ¬ EndsEarly frames taken.flatten.length

/-- The packet `HandlePacket` is to be called with. -/
def Frame.packet (frame : Frame) : MFiWDataPacket := image frame.bytes

variable {frame : Frame} {frames : List Frame} {buffer bytes : List UInt8}
  {reads : List (List UInt8)} {n : Nat}

theorem Frame.delimits (frame : Frame) : packetFraming.Delimits frame.bytes :=
  delimits_of_size (Nat.le_trans (by decide) frame.header_le) frame.size_eq

theorem partial_nil_frames (frames : List Frame) :
    Framing.Partial [] (frames.map Frame.bytes) := by
  refine Framing.partial_nil_of_nonempty fun bytes hMem => ?_
  obtain ⟨frame, -, rfl⟩ := List.mem_map.mp hMem
  exact frame.delimits.nonempty

/-- The only proper beginning that `Parse` takes for a whole packet. -/
theorem Frame.complete_iff (frame : Frame) (hPos : 0 < n) (hn : n < frame.bytes.length) :
    packetFraming.complete (frame.bytes.take n) = true ↔
      n = 1 ∧ (frame.bytes.length = 256 ∨ frame.bytes.length = 257) := by
  have hHeader := frame.header_le
  have hFits : frame.bytes.length ≤ 276 := frame.length_le
  rw [complete_take_iff frame.size_eq hn]
  constructor
  · rintro ⟨hShort, hReached⟩
    interval_cases n <;> omega
  · rintro ⟨rfl, hLength | hLength⟩ <;> rw [hLength] <;> decide

/-- A packet that is handed over early is not the one of the frame. -/
theorem Frame.image_take_ne (frame : Frame) (hn : n < frame.bytes.length)
    (hComplete : packetFraming.complete (frame.bytes.take n) = true) :
    image (frame.bytes.take n) ≠ frame.packet := by
  intro hSame
  have hLength : (frame.bytes.take n).length = n := by
    rw [List.length_take, Nat.min_eq_left hn.le]
  have hFits := frame.length_le
  have hSize : readLE ((frame.bytes.take n).take 4) = frame.bytes.length := by
    rw [← size_image (by omega), hSame, Frame.packet, size_image hFits, frame.size_eq]
  simp only [packetFraming, decide_eq_true_eq] at hComplete
  omega

/-! ## Positions -/

theorem endsEarly_inside (hn : n < frame.bytes.length) :
    EndsEarly (frame :: frames) n ↔
      n = 1 ∧ (frame.bytes.length = 256 ∨ frame.bytes.length = 257) := by
  have hLocate : locate Frame.bytes (frame :: frames) n = some (frame, n) := by
    rw [locate, if_pos hn]
  simp [EndsEarly, hLocate]

theorem endsEarly_behind :
    EndsEarly (frame :: frames) (frame.bytes.length + n) ↔ EndsEarly frames n := by
  have hLocate : locate Frame.bytes (frame :: frames) (frame.bytes.length + n) =
      locate Frame.bytes frames n := by
    rw [locate, if_neg (by omega), Nat.add_sub_cancel_left]
  rw [EndsEarly, EndsEarly, hLocate]

theorem not_endsEarly_zero (frames : List Frame) : ¬ EndsEarly frames 0 := by
  rintro ⟨frame, hLocate, -⟩
  obtain ⟨before, after, -, hZero, -⟩ := exists_of_locate hLocate
  omega

/-- The condition on the rest of the reads, when some bytes of the stream are in the
buffer already. -/
def NeverEndsEarlyAfter (frames : List Frame) (received : Nat)
    (reads : List (List UInt8)) : Prop :=
  ∀ taken, taken <+: reads → taken ≠ [] → ¬ EndsEarly frames (received + taken.flatten.length)

theorem neverEndsEarlyAfter_cons {received : Nat} :
    NeverEndsEarlyAfter frames received (bytes :: reads) ↔
      ¬ EndsEarly frames (received + bytes.length) ∧
        NeverEndsEarlyAfter frames (received + bytes.length) reads := by
  constructor
  · intro hNever
    refine ⟨?_, fun taken hPrefix _ => ?_⟩
    · simpa using hNever [bytes] ⟨reads, rfl⟩ (List.cons_ne_nil _ _)
    · simpa [Nat.add_assoc] using
        hNever (bytes :: taken) (List.cons_prefix_cons.mpr ⟨rfl, hPrefix⟩) (List.cons_ne_nil _ _)
  · rintro ⟨hFirst, hRest⟩ taken hPrefix hNonempty
    cases taken with
    | nil => exact absurd rfl hNonempty
    | cons first taken =>
        obtain ⟨rfl, hTail⟩ := List.cons_prefix_cons.mp hPrefix
        rw [List.flatten_cons, List.length_append, ← Nat.add_assoc]
        cases taken with
        | nil => simpa using hFirst
        | cons second taken => exact hRest _ hTail (List.cons_ne_nil _ _)

theorem neverEndsEarly_iff :
    NeverEndsEarly frames reads ↔ NeverEndsEarlyAfter frames 0 reads := by
  constructor
  · intro hNever taken hPrefix _
    rw [Nat.zero_add]
    exact hNever taken hPrefix
  · intro hNever taken hPrefix
    cases taken with
    | nil => exact not_endsEarly_zero frames
    | cons first taken =>
        have hTaken := hNever _ hPrefix (List.cons_ne_nil _ _)
        rwa [Nat.zero_add] at hTaken

theorem neverEndsEarlyAfter_behind {received : Nat} :
    NeverEndsEarlyAfter (frame :: frames) (frame.bytes.length + received) reads ↔
      NeverEndsEarlyAfter frames received reads := by
  simp only [NeverEndsEarlyAfter, Nat.add_assoc, endsEarly_behind]

/-! ## Reading a stream of frames -/

/-- One frame after the other is handed over, each with exactly its bytes. -/
def DeliversFrames (c : Connection) (reads : List (List UInt8)) (frames : List Frame) : Prop :=
  ∃ last, c.parse reads = .ok (frames.map Frame.packet, last)

theorem deliversFrames_of_none {c c' : Connection} (hTurn : c.turn bytes = .ok (none, c')) :
    c.DeliversFrames (bytes :: reads) frames ↔ c'.DeliversFrames reads frames := by
  simp only [DeliversFrames, parse, hTurn]
  cases c'.parse reads with
  | error fault => simp
  | ok parsed => simp

theorem deliversFrames_of_some {c c' : Connection} {packet : MFiWDataPacket}
    (hTurn : c.turn bytes = .ok (some packet, c')) :
    c.DeliversFrames (bytes :: reads) (frame :: frames) ↔
      packet = frame.packet ∧ c'.DeliversFrames reads frames := by
  simp only [DeliversFrames, parse, hTurn]
  cases c'.parse reads with
  | error fault => simp
  | ok parsed => simp [Prod.ext_iff, and_assoc]

/-- What one read inside a frame does: it completes the frame; or it ends early, and a
packet nobody sent is handed over; or more of the frame is to come. -/
theorem turn_cases {rest : List UInt8}
    (hPartial : Framing.Partial buffer ((frame :: frames).map Frame.bytes))
    (hUnfinished : Unfinished buffer) (hNonempty : bytes ≠ [])
    (hRequested : bytes.length ≤ (ofReceived buffer).requested)
    (hStream : buffer ++ bytes ++ rest = stream Frame.bytes (frame :: frames)) :
    (buffer.length + bytes.length = frame.bytes.length ∧ rest = stream Frame.bytes frames ∧
      (ofReceived buffer).turn bytes = .ok (some frame.packet, ofReceived [])) ∨
    (EndsEarly (frame :: frames) (buffer.length + bytes.length) ∧
      ∃ packet, packet ≠ frame.packet ∧
        (ofReceived buffer).turn bytes = .ok (some packet, ofReceived [])) ∨
    (¬ EndsEarly (frame :: frames) (buffer.length + bytes.length) ∧
      Framing.Partial (buffer ++ bytes) ((frame :: frames).map Frame.bytes) ∧
      Unfinished (buffer ++ bytes) ∧
      (ofReceived buffer).turn bytes = .ok (none, ofReceived (buffer ++ bytes))) := by
  obtain ⟨hWant, hTurn⟩ :=
    turn_inside frame.delimits frame.length_le hPartial hUnfinished hRequested
  have hUnfinished' : Unfinished (packetFraming.feed buffer bytes).1 := unfinished_feed
  have hFlat : buffer ++ bytes ++ rest = ((frame :: frames).map Frame.bytes).flatten := by
    rw [hStream, stream, List.flatMap_def]
  rw [← List.length_append]
  rcases Framing.feed_inside frame.delimits hPartial hNonempty hWant hFlat with
    ⟨hFeed, hWhole, hBehind⟩ | ⟨n, hPos, hn, hBeginning⟩
  · refine .inl ⟨congrArg List.length hWhole, ?_, ?_⟩
    · rw [hBehind, stream, List.flatMap_def]
    · rw [hTurn, hFeed]
      rfl
  · have hRead : (buffer ++ bytes).length = n := by
      rw [hBeginning, List.length_take, Nat.min_eq_left hn.le]
    rw [hRead, endsEarly_inside hn, ← frame.complete_iff hPos hn]
    by_cases hComplete : packetFraming.complete (frame.bytes.take n) = true
    · have hFeed : packetFraming.feed buffer bytes = ([], some (frame.bytes.take n)) := by
        simp [Framing.feed, hBeginning, hComplete]
      refine .inr (.inl ⟨hComplete, _, frame.image_take_ne hn hComplete, ?_⟩)
      rw [hTurn, hFeed]
      rfl
    · have hFeed : packetFraming.feed buffer bytes = (buffer ++ bytes, none) := by
        simp [Framing.feed, hBeginning, hComplete]
      rw [hFeed] at hTurn hUnfinished'
      exact .inr (.inr ⟨hComplete, ⟨n, hn, hBeginning⟩, hUnfinished', hTurn⟩)

/-- Without another read the stream has been read, and no frame is left. -/
theorem frames_eq_nil (hPartial : Framing.Partial buffer (frames.map Frame.bytes))
    (hStream : buffer = stream Frame.bytes frames) : frames = [] := by
  cases frames with
  | nil => rfl
  | cons frame frames =>
      obtain ⟨n, hn, rfl⟩ := hPartial
      have hLength := congrArg List.length hStream
      rw [List.length_take, stream_cons, List.length_append] at hLength
      omega

/-- The rest of a stream of frames is handed over frame by frame exactly if no read
ends early.  The induction is on the reads, by what each of them does. -/
theorem deliversFrames_iff (hPartial : Framing.Partial buffer (frames.map Frame.bytes))
    (hUnfinished : Unfinished buffer) (hAllowed : (ofReceived buffer).ReadsAllowed reads)
    (hStream : buffer ++ reads.flatten = stream Frame.bytes frames) :
    (ofReceived buffer).DeliversFrames reads frames ↔
      NeverEndsEarlyAfter frames buffer.length reads := by
  induction reads generalizing buffer frames with
  | nil =>
      rw [List.flatten_nil, List.append_nil] at hStream
      obtain rfl := frames_eq_nil hPartial hStream
      refine iff_of_true ⟨_, rfl⟩ fun taken hPrefix hNonempty => ?_
      exact absurd (List.prefix_nil.mp hPrefix) hNonempty
  | cons bytes reads ih =>
      obtain ⟨hNonempty, hRequested, hRest⟩ := hAllowed
      rw [List.flatten_cons, ← List.append_assoc] at hStream
      cases frames with
      | nil =>
          -- a read returns something, but nothing is left to return
          simp only [stream_nil, List.append_eq_nil_iff] at hStream
          exact absurd hStream.1.2 hNonempty
      | cons frame frames =>
          rw [neverEndsEarlyAfter_cons]
          rcases turn_cases hPartial hUnfinished hNonempty hRequested hStream with
            ⟨hWhole, hBehind, hTurn⟩ | ⟨hEarly, packet, hOther, hTurn⟩ |
              ⟨hLate, hPartial', hUnfinished', hTurn⟩
          · rw [hTurn] at hRest
            have hNext := ih (partial_nil_frames frames) unfinished_nil hRest
              (by rw [List.nil_append, hBehind])
            rw [deliversFrames_of_some hTurn, hNext, hWhole, ← Nat.add_zero frame.bytes.length,
              endsEarly_behind, neverEndsEarlyAfter_behind]
            exact ⟨fun h => ⟨not_endsEarly_zero frames, h.2⟩, fun h => ⟨rfl, h.2⟩⟩
          · rw [deliversFrames_of_some hTurn]
            exact iff_of_false (fun h => hOther h.1) fun h => h.1 hEarly
          · rw [hTurn] at hRest
            rw [deliversFrames_of_none hTurn, ih hPartial' hUnfinished' hRest hStream,
              List.length_append]
            exact (and_iff_right hLate).symm

/-- Two ways of reading the same stream lead to the same calls of `HandlePacket`, one
for every frame with exactly its bytes. -/
def SamePackets (frames : List Frame) (reads₁ reads₂ : List (List UInt8)) : Prop :=
  ∃ handled last₁ last₂, initial.parse reads₁ = .ok (handled, last₁) ∧
    initial.parse reads₂ = .ok (handled, last₂) ∧ handled = frames.map Frame.packet

/-- For every stream of frames and any two ways of cutting it into reads, the same
packets are handed over, one for each frame, if and only if no read in either ends
after the first byte of a frame of 256 or 257 bytes. -/
theorem same_packets_iff {frames : List Frame} {reads₁ reads₂ : List (List UInt8)}
    (hAllowed₁ : initial.ReadsAllowed reads₁) (hAllowed₂ : initial.ReadsAllowed reads₂)
    (hStream₁ : reads₁.flatten = stream Frame.bytes frames)
    (hStream₂ : reads₂.flatten = stream Frame.bytes frames) :
    SamePackets frames reads₁ reads₂ ↔
      NeverEndsEarly frames reads₁ ∧ NeverEndsEarly frames reads₂ := by
  have hIff {reads : List (List UInt8)} (hAllowed : initial.ReadsAllowed reads)
      (hStream : reads.flatten = stream Frame.bytes frames) :
      initial.DeliversFrames reads frames ↔ NeverEndsEarly frames reads := by
    rw [neverEndsEarly_iff, ← ofReceived_nil]
    exact deliversFrames_iff (partial_nil_frames frames) unfinished_nil
      (ofReceived_nil.symm ▸ hAllowed) hStream
  rw [← hIff hAllowed₁ hStream₁, ← hIff hAllowed₂ hStream₂]
  constructor
  · rintro ⟨handled, last₁, last₂, hParse₁, hParse₂, rfl⟩
    exact ⟨⟨last₁, hParse₁⟩, last₂, hParse₂⟩
  · rintro ⟨⟨last₁, hParse₁⟩, last₂, hParse₂⟩
    exact ⟨_, last₁, last₂, hParse₁, hParse₂, rfl⟩

/-- A pause packet, read byte by byte at first and in two halves. -/
theorem same_packets_iff_pause :
    SamePackets [⟨[12, 0, 0, 0, 4, 0, 0, 0, 7, 0, 0, 0], rfl, by decide, by decide⟩]
        [[12], [0, 0], [0], [4, 0, 0, 0, 7, 0, 0, 0]] [[12, 0, 0, 0], [4, 0, 0, 0, 7, 0, 0, 0]] ↔
      NeverEndsEarly [⟨[12, 0, 0, 0, 4, 0, 0, 0, 7, 0, 0, 0], rfl, by decide, by decide⟩]
          [[12], [0, 0], [0], [4, 0, 0, 0, 7, 0, 0, 0]] ∧
        NeverEndsEarly [⟨[12, 0, 0, 0, 4, 0, 0, 0, 7, 0, 0, 0], rfl, by decide, by decide⟩]
          [[12, 0, 0, 0], [4, 0, 0, 0, 7, 0, 0, 0]] :=
  same_packets_iff (by decide +kernel) (by decide +kernel) (by decide) (by decide)

/-- A frame of 256 bytes, of which one read delivers the first: instead of one packet
65 are handed over. -/
theorem frame_cut_after_first_byte :
    ¬ ∀ (frames : List Frame) (reads₁ reads₂ : List (List UInt8)),
      initial.ReadsAllowed reads₁ → initial.ReadsAllowed reads₂ →
      reads₁.flatten = stream Frame.bytes frames → reads₂.flatten = stream Frame.bytes frames →
      SamePackets frames reads₁ reads₂ := by
  intro hAll
  let frame : Frame :=
    { bytes := 0 :: 1 :: List.replicate 254 0
      size_eq := by decide +kernel
      header_le := by decide +kernel
      length_le := by decide +kernel }
  let cut : List (List UInt8) :=
    [0] :: [1, 0, 0, 0] :: (List.replicate 62 [0, 0, 0, 0] ++ [[0, 0, 0]])
  obtain ⟨handled, last₁, -, hParse, -, hHandled⟩ :=
    hAll [frame] cut [[0, 1, 0, 0], List.replicate 252 0] (by decide +kernel)
      (by decide +kernel) (by decide +kernel) (by decide +kernel)
  have hCalls : (initial.parse cut).map (fun result => result.1.length) = .ok 65 := by
    decide +kernel
  rw [hParse, hHandled] at hCalls
  cases hCalls

end Connection
end MFiWrapper
