import MFiWrapper.Library.Reassembly

/-!
# Messages on a stream

A stream carries messages that are written to it one after the other.  Its reader has
taken the beginning of the stream into a buffer and will be given the rest in chunks of
any sizes.  `Carries` says which messages are still on their way: those whose encodings
are what is in the buffer and what is unread.  To the two ends the stream is then a
queue of messages: writing appends to it (`Carries.write`), and a read either takes
nothing from it or the oldest message (`Carries.read`).
-/

namespace MFiWrapper
namespace Library

/-- What the reader of a stream has in its buffer, and what it has not read. -/
structure Channel (α : Type*) where
  buffer : List α
  unread : List α

namespace Channel

variable {α μ : Type*} (F : Framing α)

def write (channel : Channel α) (symbols : List α) : Channel α :=
  { channel with unread := channel.unread ++ symbols }

/-- What a read returns that could have returned as many symbols. -/
def chunk (channel : Channel α) (count : Nat) : List α :=
  channel.unread.take (min count (F.want channel.buffer))

/-- A read, and the message it hands over. -/
def read (channel : Channel α) (count : Nat) : Channel α × Option (List α) :=
  if (channel.chunk F count).isEmpty then (channel, none)
  else
    let fed := F.feed channel.buffer (channel.chunk F count)
    (⟨fed.1, channel.unread.drop (min count (F.want channel.buffer))⟩, fed.2)

/-- The messages on their way. -/
structure Carries (encode : μ → List α) (channel : Channel α) (messages : List μ) : Prop where
  buffer : Framing.Partial channel.buffer (messages.map encode)
  stream : channel.buffer ++ channel.unread = (messages.map encode).flatten

variable {F} {encode : μ → List α} {channel : Channel α} {messages : List μ}

theorem carries_nil : Carries encode ⟨[], []⟩ [] := ⟨rfl, rfl⟩

/-- Writing messages puts them at the end of the queue. -/
theorem Carries.write (hCarries : Carries encode channel messages) (sent : List μ)
    (hSent : ∀ message ∈ sent, encode message ≠ []) :
    Carries encode (channel.write (sent.map encode).flatten) (messages ++ sent) := by
  constructor
  · cases messages with
    | nil =>
        -- the reader is between two messages
        obtain rfl | ⟨first, rest, rfl⟩ : sent = [] ∨ ∃ first rest, sent = first :: rest := by
          cases sent with
          | nil => exact .inl rfl
          | cons first rest => exact .inr ⟨first, rest, rfl⟩
        · exact hCarries.buffer
        · have hEmpty : channel.buffer = [] := hCarries.buffer
          refine ⟨0, List.length_pos_of_ne_nil (hSent first List.mem_cons_self), ?_⟩
          rw [List.take_zero]
          exact hEmpty
    | cons message messages => exact hCarries.buffer
  · rw [List.map_append, List.flatten_append, ← hCarries.stream, List.append_assoc]
    rfl

/-- Nothing but what is unread tells the reader of further messages. -/
theorem Carries.caught_up (hCarries : Carries encode channel messages)
    (hRead : channel.unread = []) : channel.buffer = [] ∧ messages = [] := by
  obtain ⟨hPartial, hStream⟩ := hCarries
  rw [hRead, List.append_nil] at hStream
  cases messages with
  | nil => exact ⟨hPartial, rfl⟩
  | cons message messages =>
      obtain ⟨n, hShort, hBuffer⟩ := hPartial
      have hLength : channel.buffer.length = n := by
        rw [hBuffer, List.length_take, Nat.min_eq_left hShort.le]
      have hWhole : (encode message).length ≤ channel.buffer.length := by
        rw [hStream, List.map_cons, List.flatten_cons, List.length_append]
        exact Nat.le_add_right _ _
      omega

/-- A read takes nothing from the queue or its oldest message. -/
theorem Carries.read (hCarries : Carries encode channel messages)
    (hFrames : ∀ message ∈ messages, F.Recognises (encode message)) (count : Nat) :
    ((channel.read F count).2 = none ∧ Carries encode (channel.read F count).1 messages) ∨
      ∃ message rest, messages = message :: rest ∧
        (channel.read F count).2 = some (encode message) ∧
        Carries encode (channel.read F count).1 rest := by
  by_cases hNone : (channel.chunk F count).isEmpty = true
  · left
    rw [Channel.read, if_pos hNone]
    exact ⟨rfl, hCarries⟩
  · have hNonempty : channel.chunk F count ≠ [] := fun hNil => hNone (by rw [hNil]; rfl)
    have hWant : (channel.chunk F count).length ≤ F.want channel.buffer := by
      rw [chunk, List.length_take]
      omega
    have hStream : channel.buffer ++ channel.chunk F count ++
        channel.unread.drop (min count (F.want channel.buffer)) = (messages.map encode).flatten := by
      rw [List.append_assoc, chunk, List.take_append_drop, hCarries.stream]
    obtain ⟨frame, others, hFrame⟩ := Framing.exists_frame hNonempty hStream
    obtain ⟨message, rest, rfl, rfl, rfl⟩ := List.map_eq_cons_iff.mp hFrame
    rw [Channel.read, if_neg hNone]
    have hRecognised := hFrames message List.mem_cons_self
    rcases Framing.feed_one_chunk hRecognised hCarries.buffer hNonempty hWant hStream with
      ⟨hFed, hRest⟩ | ⟨hFed, hGrown⟩
    · -- the oldest message is complete
      right
      refine ⟨message, rest, rfl, by rw [hFed], ?_⟩
      simp only [hFed]
      refine ⟨Framing.partial_nil_of_nonempty fun f hf => ?_, hRest⟩
      obtain ⟨other, hOther, rfl⟩ := List.mem_map.mp hf
      exact (hFrames other (List.mem_cons_of_mem _ hOther)).nonempty
    · left
      simp only [hFed]
      exact ⟨trivial, hGrown, hStream⟩

/-- Every read that could return something makes less of what is unread. -/
theorem read_unread {count : Nat} (hCount : 0 < count) (hWant : 0 < F.want channel.buffer) :
    (channel.read F count).1.unread.length ≤ channel.unread.length - 1 := by
  rw [Channel.read]
  split_ifs with hNone
  · have hTaken : channel.unread = [] := by
      rw [List.isEmpty_iff, chunk, List.take_eq_nil_iff] at hNone
      rcases hNone with hZero | hNil
      · omega
      · exact hNil
    rw [hTaken]
    exact le_rfl
  · rw [List.length_drop]
    omega

end Channel

end Library
end MFiWrapper
