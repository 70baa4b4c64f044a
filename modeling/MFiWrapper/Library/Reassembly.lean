import Mathlib.Data.List.Infix
import Mathlib.Tactic.Basic

/-!
# Reassembling frames from a byte stream

A receiver of a stream protocol keeps the symbols that have arrived in a
buffer, asks the transport for some number of further symbols, appends what it
is given, and hands the buffer over as soon as it recognises a whole frame.
Both decisions look at the buffer only, so they are collected in a `Framing`.

The transport may cut the stream anywhere.  `Framing.Recognises` states what a
frame must satisfy for the receiver to find it again: the receiver never asks
beyond the end of the frame, sees the end when it gets there, and never before.
`Framing.feedAll_frames` is the resulting reassembly theorem: a stream made of
recognised frames is handed over frame by frame, whatever the cuts.
-/

namespace MFiWrapper
namespace Library

/-- The two decisions of an incremental receiver. -/
structure Framing (α : Type*) where
  /-- How many symbols to ask for next. -/
  want : List α → Nat
  /-- Whether the buffer is handed over. -/
  complete : List α → Bool

namespace Framing

variable {α : Type*} (F : Framing α)

/-- Append one chunk; hand the buffer over if it is complete. -/
def feed (buffer chunk : List α) : List α × Option (List α) :=
  if F.complete (buffer ++ chunk) then ([], some (buffer ++ chunk))
  else (buffer ++ chunk, none)

/-- Append the chunks one after the other and collect what is handed over. -/
def feedAll : List α → List (List α) → List α × List (List α)
  | buffer, [] => (buffer, [])
  | buffer, chunk :: chunks =>
      let fed := F.feed buffer chunk
      let final := feedAll fed.1 chunks
      (final.1, fed.2.toList ++ final.2)

/-- The chunks a transport may deliver: never empty, and never longer than
what was asked for at that point. -/
def Allowed : List α → List (List α) → Prop
  | _, [] => True
  | buffer, chunk :: chunks =>
      chunk ≠ [] ∧ chunk.length ≤ F.want buffer ∧
        Allowed (F.feed buffer chunk).1 chunks

instance decidableAllowed [DecidableEq α] (buffer : List α) (chunks : List (List α)) :
    Decidable (F.Allowed buffer chunks) :=
  match chunks with
  | [] => inferInstanceAs (Decidable True)
  | chunk :: rest =>
      have := decidableAllowed (F.feed buffer chunk).1 rest
      inferInstanceAs (Decidable (_ ∧ _ ∧ _))

/-- A frame the receiver finds again however it is cut. -/
structure Recognises (frame : List α) : Prop where
  nonempty : frame ≠ []
  complete : F.complete frame = true
  incomplete : ∀ n, 0 < n → n < frame.length → F.complete (frame.take n) = false
  want_le : ∀ n, n < frame.length → n + F.want (frame.take n) ≤ frame.length

/-- A frame the receiver neither asks beyond nor misses the end of; whether it sees
an end too early depends on the cuts. -/
structure Delimits (frame : List α) : Prop where
  nonempty : frame ≠ []
  complete : F.complete frame = true
  want_le : ∀ n, n < frame.length → n + F.want (frame.take n) ≤ frame.length

/-- The buffer is the beginning of the frame being received; between frames it
is empty. -/
def Partial (buffer : List α) : List (List α) → Prop
  | [] => buffer = []
  | frame :: _ => ∃ n, n < frame.length ∧ buffer = frame.take n

variable {F}

/-- Between two frames, none of them being empty. -/
theorem partial_nil_of_nonempty {frames : List (List α)} (hFrames : ∀ f ∈ frames, f ≠ []) :
    Partial ([] : List α) frames := by
  cases frames with
  | nil => rfl
  | cons frame frames =>
      exact ⟨0, List.length_pos_of_ne_nil (hFrames frame List.mem_cons_self), rfl⟩

theorem partial_nil {frames : List (List α)} (hFrames : ∀ f ∈ frames, F.Recognises f) :
    Partial ([] : List α) frames :=
  partial_nil_of_nonempty fun f hf => (hFrames f hf).nonempty

theorem Recognises.delimits {frame : List α} (hFrame : F.Recognises frame) :
    F.Delimits frame :=
  ⟨hFrame.nonempty, hFrame.complete, hFrame.want_le⟩

/-- What one chunk does: either the frame being received is complete with it and
handed over, or the buffer becomes a longer proper beginning of the frame. -/
theorem feed_inside {frame : List α} {frames : List (List α)} {buffer chunk rest : List α}
    (hFrame : F.Delimits frame) (hPartial : Partial buffer (frame :: frames))
    (hNonempty : chunk ≠ []) (hWant : chunk.length ≤ F.want buffer)
    (hStream : buffer ++ chunk ++ rest = (frame :: frames).flatten) :
    (F.feed buffer chunk = ([], some frame) ∧ buffer ++ chunk = frame ∧
        rest = frames.flatten) ∨
      ∃ n, 0 < n ∧ n < frame.length ∧ buffer ++ chunk = frame.take n := by
  obtain ⟨n, hn, rfl⟩ := hPartial
  have hChunk : 0 < chunk.length := List.length_pos_of_ne_nil hNonempty
  have hFits : n + chunk.length ≤ frame.length := by
    have := hFrame.want_le n hn
    omega
  -- the buffer grows along the frame, because the chunk ends inside it
  have hLength : (frame.take n ++ chunk).length = n + chunk.length := by
    rw [List.length_append, List.length_take, Nat.min_eq_left hn.le]
  have hGrown : frame.take n ++ chunk = frame.take (n + chunk.length) := by
    have hTake := congrArg (List.take (n + chunk.length)) hStream
    rw [List.flatten_cons, List.take_append_of_le_length hFits, ← hLength, List.take_left] at hTake
    rw [hTake, hLength]
  rcases Nat.lt_or_eq_of_le hFits with hInside | hEnd
  · right
    exact ⟨n + chunk.length, by omega, hInside, hGrown⟩
  · left
    have hWhole : frame.take n ++ chunk = frame := by
      rw [hGrown, hEnd, List.take_length]
    refine ⟨by simp [feed, hWhole, hFrame.complete], hWhole, ?_⟩
    rw [hWhole, List.flatten_cons] at hStream
    exact List.append_cancel_left hStream

/-- For a recognised frame the longer beginning stays in the buffer. -/
theorem feed_one_chunk {frame : List α} {frames : List (List α)} {buffer chunk rest : List α}
    (hFrame : F.Recognises frame) (hPartial : Partial buffer (frame :: frames))
    (hNonempty : chunk ≠ []) (hWant : chunk.length ≤ F.want buffer)
    (hStream : buffer ++ chunk ++ rest = (frame :: frames).flatten) :
    (F.feed buffer chunk = ([], some frame) ∧ rest = frames.flatten) ∨
      (F.feed buffer chunk = (buffer ++ chunk, none) ∧
        Partial (buffer ++ chunk) (frame :: frames)) := by
  rcases feed_inside hFrame.delimits hPartial hNonempty hWant hStream with
    ⟨hFeed, -, hRest⟩ | ⟨n, hPos, hInside, hGrown⟩
  · exact Or.inl ⟨hFeed, hRest⟩
  · right
    have hIncomplete := hFrame.incomplete n hPos hInside
    exact ⟨by simp [feed, hGrown, hIncomplete], n, hInside, hGrown⟩

/-- As long as a chunk of the stream arrives, there is a frame that it belongs to. -/
theorem exists_frame {frames : List (List α)} {buffer chunk rest : List α}
    (hNonempty : chunk ≠ []) (hStream : buffer ++ chunk ++ rest = frames.flatten) :
    ∃ frame others, frames = frame :: others := by
  cases frames with
  | nil =>
      simp only [List.flatten_nil, List.append_eq_nil_iff] at hStream
      exact absurd hStream.1.2 hNonempty
  | cons frame others => exact ⟨frame, others, rfl⟩

/-- One chunk of a stream of recognised frames: a frame may be handed over, and the
buffer and the rest of the stream are the frames that remain. -/
theorem feed_frames {frames : List (List α)} {buffer chunk rest : List α}
    (hFrames : ∀ f ∈ frames, F.Recognises f) (hPartial : Partial buffer frames)
    (hNonempty : chunk ≠ []) (hWant : chunk.length ≤ F.want buffer)
    (hStream : buffer ++ chunk ++ rest = frames.flatten) :
    ∃ remaining, frames = (F.feed buffer chunk).2.toList ++ remaining ∧
      Partial (F.feed buffer chunk).1 remaining ∧
      (F.feed buffer chunk).1 ++ rest = remaining.flatten := by
  obtain ⟨frame, others, rfl⟩ := exists_frame hNonempty hStream
  have hFrame := hFrames frame List.mem_cons_self
  have hOthers : ∀ f ∈ others, F.Recognises f :=
    fun f hf => hFrames f (List.mem_cons_of_mem frame hf)
  rcases feed_one_chunk hFrame hPartial hNonempty hWant hStream with
    ⟨hFeed, hTail⟩ | ⟨hFeed, hGrown⟩
  · -- the frame is handed over and the next one starts
    rw [hFeed]
    exact ⟨others, rfl, partial_nil hOthers, hTail⟩
  · -- more of the frame is to come
    rw [hFeed]
    exact ⟨frame :: others, rfl, hGrown, hStream⟩

/-- Reassembly.  Reading a stream of recognised frames in allowed chunks hands
over a first part of the frames, unchanged and in order; the buffer and the
unread rest of the stream are exactly the frames that remain. -/
theorem feedAll_frames {frames : List (List α)} {buffer : List α} {chunks : List (List α)}
    {rest : List α} (hFrames : ∀ f ∈ frames, F.Recognises f)
    (hPartial : Partial buffer frames) (hAllowed : F.Allowed buffer chunks)
    (hStream : buffer ++ chunks.flatten ++ rest = frames.flatten) :
    ∃ remaining, frames = (F.feedAll buffer chunks).2 ++ remaining ∧
      Partial (F.feedAll buffer chunks).1 remaining ∧
      (F.feedAll buffer chunks).1 ++ rest = remaining.flatten := by
  induction chunks generalizing frames buffer with
  | nil => exact ⟨frames, rfl, hPartial, by simpa [feedAll] using hStream⟩
  | cons chunk chunks ih =>
      obtain ⟨hNonempty, hWant, hRest⟩ := hAllowed
      have hChunk : buffer ++ chunk ++ (chunks.flatten ++ rest) = frames.flatten := by
        rw [← hStream]
        simp
      obtain ⟨others, hSplit, hPart, hFlat⟩ :=
        feed_frames hFrames hPartial hNonempty hWant hChunk
      have hOthers : ∀ f ∈ others, F.Recognises f := by
        intro f hf
        exact hFrames f (hSplit ▸ List.mem_append_right _ hf)
      obtain ⟨remaining, hSplit', hPart', hFlat'⟩ :=
        ih hOthers hPart hRest (by rw [List.append_assoc, hFlat])
      refine ⟨remaining, ?_, hPart', hFlat'⟩
      rw [feedAll, List.append_assoc, ← hSplit', ← hSplit]

end Framing

end Library
end MFiWrapper
