import MFiWrapper.Common.PacketStream
import MFiWrapper.Library.Halting

/-!
# The loop of `Parse`

The loop on a socket, from the outside: what the socket has still to deliver, and how
much of it each `read()` returns.  Whatever that is, the loop ends, because every
successful `Read` takes something from the stream; and at every entry to `Read` the
packet object holds the bytes of one unfinished packet and zeros, and something is asked
for.  All this is up to the first `read()` that would store beyond the packet object.

The socket may be empty between two calls of `Parse`, which changes nothing
(`callbacks_eq_parse`): a stream is all that is ever delivered.
-/

namespace MFiWrapper
namespace Connection

open Library

/-- The loop at an entry to `Read`, and the bytes that are still to be delivered. -/
structure ParseLoop where
  connection : Connection
  stream : List UInt8

namespace ParseLoop

/-- What `read()` returns.  The stream is cut by `cut`, which says how many bytes are
returned when so many are left: at least one and no more than requested, unless there
are none. -/
def returned (cut : Nat → Nat) (loop : ParseLoop) : List UInt8 :=
  loop.stream.take (min (max 1 (cut loop.stream.length)) loop.connection.requested)

/-- One turn of the loop; `none` when it ends, because nothing was returned, or when
something goes wrong in `Read`. -/
def step (cut : Nat → Nat) (loop : ParseLoop) : Option ParseLoop :=
  if loop.returned cut = [] then none
  else
    match loop.connection.turn (loop.returned cut) with
    | .error _ => none
    | .ok (_, connection) =>
        some ⟨connection, loop.stream.drop (loop.returned cut).length⟩

/-- `read()` returns more than the packet object has room for. -/
def Overflows (cut : Nat → Nat) (loop : ParseLoop) : Prop :=
  sizeofDataPacket < loop.connection.position + (loop.returned cut).length

/-- What holds at an entry to `Read`, and what `Read` does then. -/
structure AtRead (cut : Nat → Nat) (loop : ParseLoop) : Prop where
  position : loop.connection.position < 4 ∨
    4 ≤ loop.connection.position ∧ loop.connection.position < loop.connection.packet.size
  /-- Nothing of an earlier packet is left. -/
  zeros : ∀ byte ∈ loop.connection.packet.data.drop loop.connection.position, byte = 0
  /-- At least one byte is requested, and the subtraction does not wrap. -/
  requested : 1 ≤ loop.connection.requested ∧
    loop.connection.position + loop.connection.requested = loop.connection.targetSize
  /-- A `Read` succeeds if there is something to be read; its assertion holds, and it has
  consumed something. -/
  succeeds : loop.stream ≠ [] → ¬ loop.Overflows cut → ∃ connection,
    loop.connection.read (loop.returned cut) = .ok connection ∧
      connection.position ≤ loop.connection.targetSize ∧
      connection.position = loop.connection.position + (loop.returned cut).length ∧
      1 ≤ (loop.returned cut).length

/-- The packet object holds the bytes of an unfinished packet. -/
structure Inv (loop : ParseLoop) (buffer : List UInt8) : Prop where
  connection : loop.connection = ofReceived buffer
  unfinished : Unfinished buffer
  fits : buffer.length ≤ sizeofDataPacket

variable {cut : Nat → Nat} {loop after : ParseLoop} {buffer : List UInt8}

theorem inv_initial (stream : List UInt8) : Inv ⟨initial, stream⟩ [] :=
  ⟨ofReceived_nil.symm, unfinished_nil, Nat.zero_le _⟩

theorem Inv.requested (hInv : loop.Inv buffer) :
    loop.connection.requested = packetFraming.want buffer := by
  rw [hInv.connection, requested_ofReceived hInv.unfinished hInv.fits]

theorem Inv.returned_le (hInv : loop.Inv buffer) (cut : Nat → Nat) :
    (loop.returned cut).length ≤ packetFraming.want buffer := by
  rw [← hInv.requested, returned, List.length_take]
  exact (min_le_left _ _).trans (min_le_right _ _)

/-- As long as something is left and requested, something is returned. -/
theorem Inv.returned_pos (hInv : loop.Inv buffer) (hStream : loop.stream ≠ []) (cut : Nat → Nat) :
    1 ≤ (loop.returned cut).length := by
  have hWant := want_pos hInv.unfinished
  have hLeft := List.length_pos_of_ne_nil hStream
  rw [returned, List.length_take, hInv.requested]
  omega

/-- Behind the bytes received the packet object is zero. -/
theorem zeros_ofReceived (hFits : buffer.length ≤ sizeofDataPacket) :
    ∀ byte ∈ (image buffer).data.drop buffer.length, byte = 0 := by
  rw [image_data hFits, List.drop_left]
  exact fun byte hMem => List.eq_of_mem_replicate hMem

theorem Inv.atRead (hInv : loop.Inv buffer) (cut : Nat → Nat) : loop.AtRead cut := by
  obtain ⟨connection, stream⟩ := loop
  obtain rfl : connection = ofReceived buffer := hInv.connection
  have hWant := want_pos hInv.unfinished
  have hSize := size_image hInv.fits
  have hUnfinished := hInv.unfinished
  refine ⟨?_, zeros_ofReceived hInv.fits, ?_, ?_⟩
  · show buffer.length < 4 ∨ 4 ≤ buffer.length ∧ buffer.length < (image buffer).size
    rw [hSize]
    unfold Unfinished at hUnfinished
    omega
  · rw [hInv.requested]
    exact ⟨hWant, length_add_want hInv.unfinished hInv.fits⟩
  · intro hStream hFits
    have hEnd : buffer.length + (returned cut ⟨ofReceived buffer, stream⟩).length ≤
        sizeofDataPacket := Nat.not_lt.mp hFits
    obtain ⟨hTarget, hRead⟩ :=
      read_ofReceived hInv.unfinished (hInv.returned_le cut) hEnd
    exact ⟨_, hRead, hTarget, List.length_append, hInv.returned_pos hStream cut⟩

/-! ## One turn -/

/-- A `Read` that does not fit stores beyond the packet object. -/
theorem read_overflows {bytes : List UInt8}
    (hBeyond : sizeofDataPacket < buffer.length + bytes.length) :
    (ofReceived buffer).read bytes = .error .storeOutOfBounds := by
  have hStore : (image buffer).store buffer.length bytes = none :=
    dif_neg (Nat.not_le.mpr hBeyond)
  simp only [read, ofReceived, hStore]

theorem step_eq_some_iff :
    loop.step cut = some after ↔ loop.returned cut ≠ [] ∧ ∃ handed,
      loop.connection.turn (loop.returned cut) = .ok (handed, after.connection) ∧
        after.stream = loop.stream.drop (loop.returned cut).length := by
  obtain ⟨connection, stream⟩ := after
  unfold step
  split_ifs with hNone
  · simp [hNone]
  · cases hTurn : loop.connection.turn (loop.returned cut) with
    | error fault => simp
    | ok turned =>
        obtain ⟨handed, connection'⟩ := turned
        simp [hNone, eq_comm]

/-- Every turn takes something from the stream. -/
theorem step_shrinks (hStep : loop.step cut = some after) :
    after.stream.length < loop.stream.length := by
  obtain ⟨hSome, handed, -, hStream⟩ := step_eq_some_iff.mp hStep
  have hPos := List.length_pos_of_ne_nil hSome
  have hLe : (loop.returned cut).length ≤ loop.stream.length :=
    (List.take_sublist _ _).length_le
  rw [hStream, List.length_drop]
  omega

theorem Inv.step (hInv : loop.Inv buffer) (hStep : loop.step cut = some after) :
    ∃ buffer', after.Inv buffer' := by
  obtain ⟨-, handed, hTurn, -⟩ := step_eq_some_iff.mp hStep
  rw [hInv.connection] at hTurn
  by_cases hFits : buffer.length + (loop.returned cut).length ≤ sizeofDataPacket
  · rw [turn_ofReceived hInv.unfinished (hInv.returned_le cut) hFits] at hTurn
    have hAfter := congrArg Prod.snd (Except.ok.inj hTurn)
    refine ⟨_, hAfter.symm, unfinished_feed, ?_⟩
    unfold Framing.feed
    split_ifs
    · exact Nat.zero_le _
    · rw [List.length_append]
      exact hFits
  · rw [turn, read_overflows (Nat.not_le.mp hFits)] at hTurn
    cases hTurn

/-- The loop ends only when the stream does, or where it would store beyond the packet
object. -/
theorem Inv.halted (hInv : loop.Inv buffer) (hHalted : loop.step cut = none) :
    loop.stream = [] ∨ loop.Overflows cut := by
  by_contra hNot
  obtain ⟨hStream, hFits⟩ := not_or.mp hNot
  have hSome : loop.returned cut ≠ [] :=
    List.ne_nil_of_length_pos (hInv.returned_pos hStream cut)
  rw [Overflows, hInv.connection] at hFits
  have hTurn := turn_ofReceived hInv.unfinished (hInv.returned_le cut) (Nat.not_lt.mp hFits)
  rw [ParseLoop.step, if_neg hSome, hInv.connection, hTurn] at hHalted
  cases hHalted

/-! ## Every cut -/

/-- The loop does not depend on where the stream would have been cut before. -/
theorem reaches_congr {cut' : Nat → Nat} (hReaches : Reaches (step cut) loop after)
    (hSame : ∀ n ≤ loop.stream.length, cut n = cut' n) : Reaches (step cut') loop after := by
  induction hReaches using Relation.ReflTransGen.head_induction_on with
  | refl => exact .refl
  | @head first second hStep _ ih =>
      have hReturned : first.returned cut = first.returned cut' := by
        rw [returned, returned, hSame _ le_rfl]
      refine .head ?_ (ih fun n hn => hSame n (hn.trans (step_shrinks hStep).le))
      rw [step, hReturned] at hStep
      exact hStep

theorem exists_update (cut : Nat → Nat) (left size : Nat) :
    ∃ cut' : Nat → Nat, cut' left = size ∧ ∀ n < left, cut n = cut' n :=
  ⟨Function.update cut left size, Function.update_self _ _ _,
    fun _ hLess => (Function.update_of_ne hLess.ne _ _).symm⟩

/-- A read that returns some bytes of the stream, cut behind them. -/
theorem returned_eq {c : Connection} {bytes rest : List UInt8} (hNonempty : bytes ≠ [])
    (hRequested : bytes.length ≤ c.requested) (hCut : cut (bytes ++ rest).length = bytes.length) :
    returned cut ⟨c, bytes ++ rest⟩ = bytes := by
  have hPos := List.length_pos_of_ne_nil hNonempty
  rw [returned, hCut, max_eq_right hPos, min_eq_left hRequested]
  exact List.take_left

/-- A turn on some bytes of the stream is a step of every cut behind them. -/
theorem step_of_turn {c c' : Connection} {bytes rest : List UInt8} {handed : Option MFiWDataPacket}
    (hNonempty : bytes ≠ []) (hRequested : bytes.length ≤ c.requested)
    (hTurn : c.turn bytes = .ok (handed, c'))
    (hCut : cut (bytes ++ rest).length = bytes.length) :
    step cut ⟨c, bytes ++ rest⟩ = some ⟨c', rest⟩ := by
  have hReturned := returned_eq hNonempty hRequested hCut
  rw [step_eq_some_iff, hReturned]
  exact ⟨hNonempty, handed, hTurn, List.drop_left.symm⟩

/-- Whatever the reads of a call of `Parse` return is one of these cuts of what they
return together. -/
theorem reaches_of_parse {c last : Connection} {reads : List (List UInt8)}
    {handled : List MFiWDataPacket} (hAllowed : c.ReadsAllowed reads)
    (hParse : c.parse reads = .ok (handled, last)) (rest : List UInt8) :
    ∃ cut, Reaches (step cut) ⟨c, reads.flatten ++ rest⟩ ⟨last, rest⟩ := by
  induction reads generalizing c handled with
  | nil =>
      cases hParse
      exact ⟨id, .refl⟩
  | cons bytes reads ih =>
      obtain ⟨hNonempty, hRequested, hRest⟩ := hAllowed
      obtain ⟨handed, c', later, hTurn, hLater, -⟩ := parse_cons_eq_ok hParse
      rw [hTurn] at hRest
      obtain ⟨cut, hReaches⟩ := ih hRest hLater
      -- the first read returns these bytes, the others as before
      obtain ⟨cut', hFirst, hOthers⟩ :=
        exists_update cut (bytes ++ (reads.flatten ++ rest)).length bytes.length
      have hStep := step_of_turn hNonempty hRequested hTurn hFirst
      rw [List.flatten_cons, List.append_assoc]
      refine ⟨cut', .head hStep (reaches_congr hReaches fun n hn => hOthers n ?_)⟩
      rw [List.length_append]
      exact Nat.lt_of_le_of_lt hn
        (Nat.lt_add_of_pos_left (List.length_pos_of_ne_nil hNonempty))

/-! ## Runs -/

/-- For every stream, whatever sizes it announces, and every cut into reads: what holds
at an entry to `Read` holds at every entry, and the loop of `Parse` ends, at the end of
the stream or at the first `read()` that would store beyond the packet object. -/
theorem reader_progresses (cut : Nat → Nat) (stream : List UInt8) :
    (∀ loop, Reaches (step cut) ⟨initial, stream⟩ loop → loop.AtRead cut) ∧
      ∃ last, Reaches (step cut) ⟨initial, stream⟩ last ∧ last.step cut = none ∧
        (last.stream = [] ∨ last.Overflows cut) := by
  have hKept (loop after : ParseLoop) (hInv : ∃ buffer, loop.Inv buffer)
      (hStep : loop.step cut = some after) : ∃ buffer, after.Inv buffer := by
    obtain ⟨buffer, hInv⟩ := hInv
    exact hInv.step hStep
  have hInv (loop : ParseLoop) (hReaches : Reaches (step cut) ⟨initial, stream⟩ loop) :
      ∃ buffer, loop.Inv buffer := hReaches.invariant hKept ⟨[], inv_initial stream⟩
  constructor
  · intro loop hReaches
    obtain ⟨buffer, hInv⟩ := hInv loop hReaches
    exact hInv.atRead cut
  · obtain ⟨last, hReaches, hHalted⟩ := exists_halted (fun loop => loop.stream.length)
      (fun _ _ hStep => step_shrinks hStep) ⟨initial, stream⟩
    obtain ⟨buffer, hInv⟩ := hInv last hReaches
    exact ⟨last, hReaches, hHalted, hInv.halted hHalted⟩

end ParseLoop

end Connection
end MFiWrapper
