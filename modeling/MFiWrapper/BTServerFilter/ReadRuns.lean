import MFiWrapper.BTServerFilter.ReadBuffer
import MFiWrapper.Library.Runs

/-!
# The read hook over whole runs

The controller sends packets, one after the other, and the caller reads them in
pieces of any size.  The hook keeps what it has seen of the packet being
received; it loses its place when a read goes beyond the end of that packet
and stops inside another one.
-/

namespace MFiWrapper
namespace BTServerFilter

open Library

/-- A successful read: how many bytes `read` returns, which is at most `INT_MAX`,
and what the vector is followed by in memory. -/
structure ReadCall where
  length : Nat
  length_pos : 0 < length
  length_le : length ≤ 2147483647
  beyond : List UInt8

/-- The hook, with the number of bytes read so far, the bytes handed to the
caller and the stores outside of the buffers. -/
structure Trace where
  hook : ReadHook
  received : Nat
  handed : List UInt8
  outside : List Store

/-- What the caller finds in its buffer. -/
def bytesOf : Except Int (List UInt8) → List UInt8
  | .ok data => data
  | .error _ => []

namespace Trace

/-- The Bluetooth socket has been opened. -/
def start (descriptor : Int32) : Trace :=
  ⟨ReadHook.initial.newSocket 32 descriptor, 0, [], []⟩

/-- The bytes that a call reads. -/
def chunk (packets : List Packet) (trace : Trace) (call : ReadCall) : List UInt8 :=
  ((stream Packet.bytes packets).drop trace.received).take call.length

/-- One read on the Bluetooth socket; at the end of the stream there is nothing
to read. -/
def step (packets : List Packet) (trace : Trace) (call : ReadCall) : Option Trace :=
  let data := trace.chunk packets call
  let outcome := trace.hook.newRead call.beyond trace.hook.globals.bluetoothSocket (.ok data)
  some
    { hook := outcome.2.2
      received := trace.received + data.length
      handed := trace.handed ++ bytesOf outcome.1
      outside := trace.outside ++ outcome.2.1 }

end Trace

/-- What has been received, after `n` bytes of the stream, of the packet being
received. -/
def receivedPart (version : Packet → Packet) (packets : List Packet) (n : Nat) : List UInt8 :=
  match locate Packet.bytes packets n with
  | none => []
  | some (packet, k) => (version packet).bytes.take k

/-- The bytes are those of the stream, but byte 12 of an inquiry result with one
peripheral may be patched. -/
def Transparent (packets : List Packet) (handed : List UInt8) : Prop :=
  ∀ (i : Nat) (byte : UInt8), handed[i]? = some byte →
    (stream Packet.bytes packets)[i]? = some byte ∨
      (stream (fun packet => packet.asKeyboard.bytes) packets)[i]? = some byte

/-- The buffer is the received part of the packet being received, up to the byte
that may be patched, and the caller was handed what was read. -/
structure Agrees (packets : List Packet) (trace : Trace) : Prop where
  aligned : trace.hook.context = receivedPart id packets trace.received ∨
    trace.hook.context = receivedPart Packet.asKeyboard packets trace.received
  length : trace.handed.length = trace.received
  transparent : Transparent packets trace.handed

/-- The same with a buffer that is not patched. -/
structure AgreesToTheLetter (packets : List Packet) (trace : Trace) : Prop where
  aligned : trace.hook.context = receivedPart id packets trace.received
  length : trace.handed.length = trace.received
  transparent : Transparent packets trace.handed

/-- A read that completes the packet being received ends at the end of a packet. -/
def EndsAtBoundary (packets : List Packet) (trace : Trace) (call : ReadCall) : Prop :=
  ∀ packet k, locate Packet.bytes packets trace.received = some (packet, k) →
    packet.bytes.length ≤ k + (trace.chunk packets call).length →
    ∀ next k', locate Packet.bytes packets (trace.received + (trace.chunk packets call).length) =
      some (next, k') → k' = 0

/-- The read does not end inside a packet of which enough was seen to patch it,
unless the patch makes no difference. -/
def EndsOutsidePatched (packets : List Packet) (trace : Trace) (call : ReadCall) : Prop :=
  ∀ packet k, locate Packet.bytes packets (trace.received + (trace.chunk packets call).length) =
    some (packet, k) → packet.isPeripheralResult = true → 16 ≤ k →
    packet.asKeyboard.bytes = packet.bytes

/-! ## One read -/

/-- The buffer of a read is a beginning of the packet, as it was seen before, and
of what follows it. -/
theorem receive_begins {packet : Packet} {tail data : List UInt8} (beyond : List UInt8) {k : Nat}
    {hook : ReadHook} (hBuffer : hook.context = (packet.seen k).bytes.take k)
    (hk : k < packet.bytes.length) (hData : data <+: packet.bytes.drop k ++ tail)
    (hNonempty : data ≠ []) (hRoom : k + data.length < 2 ^ 32) :
    hook.context.length = k ∧
      (hook.receive beyond data).context.length = k + data.length ∧
      (hook.receive beyond data).Begins ((packet.seen k).bytes ++ tail) := by
  have hOffset : hook.context.length = k := by
    rw [hBuffer, List.length_take, Packet.seen_length, Nat.min_eq_left hk.le]
  have hLength : (hook.receive beyond data).context.length = k + data.length := by
    rw [← hOffset]
    exact List.length_append
  refine ⟨hOffset, hLength, ?_, ?_, Nat.mod_eq_of_lt (hLength ▸ hRoom)⟩
  · have hSplit : (packet.seen k).bytes ++ tail =
        (packet.seen k).bytes.take k ++ (packet.bytes.drop k ++ tail) := by
      rw [← packet.seen_drop k, ← List.append_assoc, List.take_append_drop]
    rw [hSplit, ← hBuffer]
    exact (List.prefix_append_right_inj _).mpr hData
  · have := List.length_pos_of_ne_nil hNonempty
    omega

/-- One read while the buffer is what was seen of a packet. -/
theorem newRead_of_seen {packet : Packet} {tail data : List UInt8} (beyond : List UInt8) {k : Nat}
    {hook : ReadHook} (hBuffer : hook.context = (packet.seen k).bytes.take k)
    (hk : k < packet.bytes.length) (hData : data <+: packet.bytes.drop k ++ tail)
    (hNonempty : data ≠ []) (hRoom : k + data.length < 2 ^ 32) (hTail : tail[0]? ≠ some 1)
    (hFilters : hook.globals.FiltersInquiries) :
    ∃ data' outside hook',
      hook.newRead beyond hook.globals.bluetoothSocket (.ok data) = (.ok data', outside, hook') ∧
      hook'.globals.FiltersInquiries ∧
      hook'.context = (if packet.bytes.length ≤ k + data.length then []
        else (packet.seen (k + data.length)).bytes.take (k + data.length)) ∧
      (data' = data ∨
        packet.isPeripheralResult = true ∧ k ≤ 12 ∧ data' = data.set (12 - k) 0x40) := by
  obtain ⟨hOffset, hLength, hBegins⟩ := receive_begins beyond hBuffer hk hData hNonempty hRoom
  obtain ⟨hSize, hContext, hPatched⟩ := hBegins.runFilter hTail hFilters
    (hLength.trans (by rw [← hOffset]; rfl))
  obtain ⟨hFilters', -⟩ := runFilter_globals (hook.receive beyond data) hFilters
  have hClear : (hook.receive beyond data).size ≥ (hook.receive beyond data).pktSize ↔
      packet.bytes.length ≤ k + data.length := by
    rw [hBegins.size, ge_iff_le, hBegins.pktSize_le_iff, Packet.seen_length, hLength]
  refine ⟨_, _, _, newRead_ok _ hNonempty hook, hFilters', ?_, ?_⟩
  · dsimp only
    rw [hSize, if_congr hClear rfl rfl]
    split_ifs with hComplete
    · rfl
    · -- as long as the packet is not complete, the buffer is a beginning of it
      have hInside : (hook.receive beyond data).context =
          (packet.seen k).bytes.take (k + data.length) := by
        have hTake := List.prefix_iff_eq_take.mp hBegins.isPrefix
        rwa [hLength, List.take_append_of_le_length
          (by rw [Packet.seen_length]; exact (not_le.mp hComplete).le)] at hTake
      rw [hContext, hLength, Packet.seen_isPeripheralResult, hInside]
      split_ifs with hCalls
      · rw [← List.take_set, Packet.seen_set hCalls.1, Packet.seen, if_pos hCalls]
      · -- without a patch now there was none before
        rw [Packet.seen, if_neg fun h => hCalls ⟨h.1, by omega⟩, Packet.seen, if_neg hCalls]
  · rw [Packet.seen_isPeripheralResult] at hPatched
    rw [← hOffset]
    exact hPatched

/-! ## The invariant -/

/-- What the buffer holds after `n` bytes of the stream. -/
def held (packets : List Packet) (n : Nat) : List UInt8 :=
  match locate Packet.bytes packets n with
  | none => []
  | some (packet, k) => (packet.seen k).bytes.take k

/-- The invariant of the runs that keep their place. -/
structure Inv (packets : List Packet) (trace : Trace) : Prop where
  filters : trace.hook.globals.FiltersInquiries
  buffer : trace.hook.context = held packets trace.received
  length : trace.handed.length = trace.received
  transparent : Transparent packets trace.handed

theorem inv_start (packets : List Packet) (descriptor : Int32) :
    Inv packets (Trace.start descriptor) := by
  constructor
  · intro code
    show (if code = 0x07 then some ReadFilter.remoteNameRequestCompleteEvent
      else if code = 0x0E then some .commandCompleteEvent
      else if code = 0x22 ∨ code = 0x2F then some .inquiryResultEventGeneral
      else none) = some .inquiryResultEventGeneral ↔ _
    split_ifs with hName hCommand hInquiry
    · simp [hName, isInquiryResult]
    · simp [hCommand, isInquiryResult]
    · simpa [isInquiryResult] using hInquiry
    · simpa [isInquiryResult] using hInquiry
  · show [] = held packets 0
    unfold held
    split
    · rfl
    next packet k hLocate =>
      obtain ⟨before, after, -, hn, -⟩ := exists_of_locate hLocate
      obtain rfl : k = 0 := by omega
      rfl
  · rfl
  · intro i byte hByte
    cases hByte

variable {packets : List Packet} {trace : Trace}

theorem tail_ne_one (packets : List Packet) : (stream Packet.bytes packets)[0]? ≠ some 1 := by
  cases packets with
  | nil => simp
  | cons packet packets =>
      rw [stream_cons, List.getElem?_append_left packet.length_pos]
      exact packet.head_ne_one

/-- The bytes handed over are those of the stream at the position of the read, or
one of them is patched. -/
theorem Transparent.append {handed data data' : List UInt8} {before after : List Packet}
    {packet : Packet} {k : Nat} (hTransparent : Transparent (before ++ packet :: after) handed)
    (hHanded : handed.length = (stream Packet.bytes before).length + k)
    (hk : k < packet.bytes.length)
    (hData : data <+: packet.bytes.drop k ++ stream Packet.bytes after)
    (hPatched : data' = data ∨
      packet.isPeripheralResult = true ∧ k ≤ 12 ∧ data' = data.set (12 - k) 0x40) :
    Transparent (before ++ packet :: after) (handed ++ data') := by
  have hRead {j : Nat} {byte : UInt8} (hByte : data[j]? = some byte) :
      (stream Packet.bytes (before ++ packet :: after))[handed.length + j]? = some byte := by
    rw [← List.getElem?_drop, hHanded, drop_stream_inside hk.le]
    obtain ⟨rest, hRest⟩ := hData
    rw [← hRest, List.getElem?_append_left (List.getElem?_eq_some_iff.mp hByte).1]
    exact hByte
  intro i byte hByte
  rcases lt_or_ge i handed.length with hOld | hNew
  · rw [List.getElem?_append_left hOld] at hByte
    exact hTransparent i byte hByte
  · obtain ⟨j, rfl⟩ := Nat.exists_eq_add_of_le hNew
    rw [List.getElem?_append_right hNew, Nat.add_sub_cancel_left] at hByte
    rcases hPatched with rfl | ⟨hPeripheral, hEarly, rfl⟩
    · exact .inl (hRead hByte)
    · by_cases hj : j = 12 - k
      · -- the patched byte
        right
        subst hj
        have hEnough := Packet.length_of_isPeripheralResult hPeripheral
        have hTwelve : handed.length + (12 - k) =
            (stream (fun packet => packet.asKeyboard.bytes) before).length + 12 := by
          rw [stream_length_congr Packet.asKeyboard_length, hHanded]
          omega
        have hValue : byte = 0x40 := by
          obtain ⟨hLt, hGet⟩ := List.getElem?_eq_some_iff.mp hByte
          rw [← hGet, List.getElem_set_self]
        rw [hTwelve, getElem?_stream_inside (by simp; omega), Packet.asKeyboard_bytes,
          if_pos hPeripheral, List.getElem?_set_self (by omega), hValue]
      · rw [List.getElem?_set_ne (Ne.symm hj)] at hByte
        exact .inl (hRead hByte)

/-- At the end of the stream nothing is read. -/
theorem chunk_end (hLocate : locate Packet.bytes packets trace.received = none)
    (call : ReadCall) : trace.chunk packets call = [] := by
  rw [Trace.chunk, List.drop_eq_nil_of_le (locate_eq_none_iff.mp hLocate), List.take_nil]

/-- Inside a packet, some of the packet and of what follows it is read, and the
size of the buffer fits into 32 bits. -/
theorem chunk_inside {before after : List Packet} {packet : Packet} {k : Nat}
    (hReceived : trace.received = (stream Packet.bytes before).length + k)
    (hk : k < packet.bytes.length) (call : ReadCall) :
    trace.chunk (before ++ packet :: after) call <+:
        packet.bytes.drop k ++ stream Packet.bytes after ∧
      trace.chunk (before ++ packet :: after) call ≠ [] ∧
      k + (trace.chunk (before ++ packet :: after) call).length < 2 ^ 32 := by
  rw [Trace.chunk, hReceived, drop_stream_inside hk.le]
  refine ⟨List.take_prefix _ _, List.ne_nil_of_length_pos ?_, ?_⟩
  · have := call.length_pos
    rw [List.length_take, List.length_append, List.length_drop]
    omega
  · have hFit : packet.bytes.length ≤ 65540 := packet.length_le
    have := call.length_le
    rw [List.length_take]
    omega

/-- What one read does to a trace that has kept its place. -/
theorem Inv.step (hInv : Inv packets trace) (call : ReadCall) :
    ∃ trace', trace.step packets call = some trace' ∧
      trace'.received = trace.received + (trace.chunk packets call).length ∧
      trace'.hook.globals.FiltersInquiries ∧
      trace'.handed.length = trace'.received ∧ Transparent packets trace'.handed ∧
      trace'.hook.context =
        match locate Packet.bytes packets trace.received with
        | none => []
        | some (packet, k) =>
            if packet.bytes.length ≤ k + (trace.chunk packets call).length then []
            else (packet.seen (k + (trace.chunk packets call).length)).bytes.take
              (k + (trace.chunk packets call).length) := by
  obtain ⟨hFilters, hBuffer, hLength, hTransparent⟩ := hInv
  unfold held at hBuffer
  cases hLocate : locate Packet.bytes packets trace.received with
  | none =>
      have hNone := chunk_end hLocate call
      rw [hLocate] at hBuffer
      have hRead : trace.hook.newRead call.beyond trace.hook.globals.bluetoothSocket (.ok []) =
          (.ok [], [], trace.hook) := by
        simp [ReadHook.newRead]
      refine ⟨_, rfl, rfl, ?_, ?_, ?_, ?_⟩
      · rw [hNone, hRead]
        exact hFilters
      · rw [hNone, hRead]
        simpa [bytesOf] using hLength
      · rw [hNone, hRead]
        simpa [bytesOf] using hTransparent
      · rw [hNone, hRead]
        exact hBuffer
  | some located =>
      obtain ⟨packet, k⟩ := located
      obtain ⟨before, after, rfl, hReceived, hk⟩ := exists_of_locate hLocate
      rw [hLocate] at hBuffer
      obtain ⟨hData, hNonempty, hRoom⟩ := chunk_inside hReceived hk call
      obtain ⟨data', outside, hook', hRead, hFilters', hContext, hPatched⟩ :=
        newRead_of_seen call.beyond hBuffer hk hData hNonempty hRoom (tail_ne_one after) hFilters
      have hSame : data'.length = (trace.chunk (before ++ packet :: after) call).length := by
        rcases hPatched with rfl | ⟨-, -, rfl⟩
        · rfl
        · rw [List.length_set]
      refine ⟨_, rfl, rfl, ?_, ?_, ?_, ?_⟩
      · rw [hRead]
        exact hFilters'
      · rw [hRead, List.length_append, hLength]
        exact congrArg (trace.received + ·) hSame
      · rw [hRead]
        exact hTransparent.append (hLength.trans hReceived) hk hData hPatched
      · rw [hRead]
        exact hContext

/-- A read that ends where it may leaves the hook in place. -/
theorem Inv.next (hInv : Inv packets trace) {call : ReadCall}
    (hEnds : EndsAtBoundary packets trace call) :
    ∃ trace', trace.step packets call = some trace' ∧ Inv packets trace' ∧
      trace'.received = trace.received + (trace.chunk packets call).length := by
  obtain ⟨trace', hStep, hReceived, hFilters, hLength, hTransparent, hContext⟩ := hInv.step call
  refine ⟨trace', hStep, ⟨hFilters, ?_, hLength, hTransparent⟩, hReceived⟩
  rw [hContext, held, hReceived]
  cases hLocate : locate Packet.bytes packets trace.received with
  | none =>
      have hEnd := locate_eq_none_iff.mp hLocate
      rw [locate_eq_none_iff.mpr (hEnd.trans (Nat.le_add_right _ _))]
  | some located =>
      obtain ⟨packet, k⟩ := located
      dsimp only
      split_ifs with hComplete
      · -- the buffer is cleared, which is right only between packets
        split
        · rfl
        next following k' hLocate' =>
          rw [hEnds packet k hLocate hComplete following k' hLocate', List.take_zero]
      · obtain ⟨before, after, rfl, hk, -⟩ := exists_of_locate hLocate
        rw [hk, Nat.add_assoc, locate_inside (not_le.mp hComplete)]

/-- A read that goes on into another packet and stops inside it loses what was
read of that packet. -/
theorem Inv.lost (hInv : Inv packets trace) {call : ReadCall}
    (hNot : ¬ EndsAtBoundary packets trace call) {trace' : Trace}
    (hStep : trace.step packets call = some trace') {version : Packet → Packet}
    (hVersion : ∀ packet, (version packet).bytes.length = packet.bytes.length) :
    trace'.hook.context ≠ receivedPart version packets trace'.received := by
  obtain ⟨trace'', hStep', hReceived, -, -, -, hContext⟩ := hInv.step call
  obtain rfl : trace'' = trace' := Option.some.inj (hStep'.symm.trans hStep)
  simp only [EndsAtBoundary, not_forall] at hNot
  obtain ⟨packet, k, hLocate, hComplete, following, k', hLocate', hInside⟩ := hNot
  rw [hContext, hLocate, hReceived, receivedPart, hLocate']
  dsimp only
  rw [if_pos hComplete]
  obtain ⟨before, after, -, -, hk'⟩ := exists_of_locate hLocate'
  intro hEmpty
  have hZero := congrArg List.length hEmpty
  rw [List.length_take, hVersion, List.length_nil] at hZero
  omega

theorem Inv.agrees (hInv : Inv packets trace) : Agrees packets trace := by
  refine ⟨?_, hInv.length, hInv.transparent⟩
  rw [hInv.buffer, held, receivedPart, receivedPart]
  cases locate Packet.bytes packets trace.received with
  | none => exact .inl rfl
  | some located =>
      obtain ⟨packet, k⟩ := located
      dsimp only
      rcases packet.seen_eq_or k with h | h
      · exact .inl (by rw [h, id])
      · exact .inr (by rw [h])

/-- The patched part of a packet differs from the packet when the patch makes a
difference. -/
theorem held_eq_receivedPart_iff {n : Nat} :
    held packets n = receivedPart id packets n ↔
      ∀ packet k, locate Packet.bytes packets n = some (packet, k) →
        packet.isPeripheralResult = true → 16 ≤ k → packet.asKeyboard.bytes = packet.bytes := by
  rw [held, receivedPart]
  cases locate Packet.bytes packets n with
  | none => simp
  | some located =>
      obtain ⟨packet, k⟩ := located
      simp only [Option.some.injEq, Prod.mk.injEq, and_imp, id]
      constructor
      · rintro hTake _ _ rfl rfl hPeripheral hEnough
        rw [Packet.seen, if_pos ⟨hPeripheral, hEnough⟩] at hTake
        rw [← List.take_append_drop k packet.asKeyboard.bytes, hTake,
          packet.asKeyboard_drop (by omega), List.take_append_drop]
      · intro hSame
        rw [Packet.seen]
        split_ifs with hPatched
        · rw [hSame packet k rfl rfl hPatched.1 hPatched.2]
        · rfl

theorem Inv.toTheLetter_iff (hInv : Inv packets trace) :
    AgreesToTheLetter packets trace ↔
      held packets trace.received = receivedPart id packets trace.received :=
  ⟨fun hAgrees => hInv.buffer.symm.trans hAgrees.aligned,
    fun hHeld => ⟨hInv.buffer.trans hHeld, hInv.length, hInv.transparent⟩⟩

/-! ## Runs -/

/-- The hook keeps its place and hands over what it has read throughout a run if
and only if no read of the run completes a packet and stops inside another
one.  For the buffer to be unpatched, in addition no read may stop inside a
packet that is patched by then. -/
theorem read_hook_agrees_iff (packets : List Packet) (descriptor : Int32)
    (calls : List ReadCall) :
    (Throughout (Trace.step packets) (Agrees packets) (Trace.start descriptor) calls ↔
      Along (Trace.step packets) (EndsAtBoundary packets) (Trace.start descriptor) calls) ∧
    (Throughout (Trace.step packets) (AgreesToTheLetter packets) (Trace.start descriptor) calls ↔
      Along (Trace.step packets)
        (fun trace call => EndsAtBoundary packets trace call ∧
          EndsOutsidePatched packets trace call) (Trace.start descriptor) calls) := by
  constructor
  · have hGood : ∀ trace, Inv packets trace → Agrees packets trace := fun _ hInv => hInv.agrees
    refine throughout_iff_along hGood ?_ ?_ (inv_start packets descriptor) calls
    · intro trace call hInv hEnds
      obtain ⟨trace', hStep, hInv', -⟩ := hInv.next hEnds
      exact ⟨trace', hStep, hInv'⟩
    · intro trace call hInv hNot trace' hStep hAgrees
      rcases hAgrees.aligned with hAligned | hAligned
      · exact hInv.lost hNot hStep (fun _ => rfl) hAligned
      · exact hInv.lost hNot hStep Packet.asKeyboard_length hAligned
  · have hGood : ∀ trace, Inv packets trace ∧ AgreesToTheLetter packets trace →
        AgreesToTheLetter packets trace := fun _ hInv => hInv.2
    refine throughout_iff_along hGood ?_ ?_ ⟨inv_start packets descriptor, ?_⟩ calls
    · rintro trace call ⟨hInv, -⟩ ⟨hEnds, hOutside⟩
      obtain ⟨trace', hStep, hInv', hReceived⟩ := hInv.next hEnds
      refine ⟨trace', hStep, hInv', hInv'.toTheLetter_iff.mpr ?_⟩
      rw [hReceived]
      exact held_eq_receivedPart_iff.mpr hOutside
    · rintro trace call ⟨hInv, -⟩ hNot trace' hStep hAgrees
      by_cases hEnds : EndsAtBoundary packets trace call
      · obtain ⟨trace'', hStep', hInv', hReceived⟩ := hInv.next hEnds
        obtain rfl : trace'' = trace' := Option.some.inj (hStep'.symm.trans hStep)
        have hHeld := hInv'.toTheLetter_iff.mp hAgrees
        rw [hReceived] at hHeld
        exact hNot ⟨hEnds, held_eq_receivedPart_iff.mp hHeld⟩
      · exact hInv.lost hEnds hStep (fun _ => rfl) hAgrees.aligned
    · refine (inv_start packets descriptor).toTheLetter_iff.mpr (held_eq_receivedPart_iff.mpr ?_)
      intro packet k hLocate _ hEnough
      obtain ⟨before, after, -, hZero, -⟩ := exists_of_locate hLocate
      change 0 = _ at hZero
      omega

/-- A command status, and an ACL packet whose payload looks like the beginning of
an inquiry result. -/
def statusThenAcl : List Packet :=
  [.event 0x0F [0, 1, 0, 0] (by decide) (by decide),
    .acl 0x0B 0x20 [0x04, 0x22, 0x0F, 1, 0, 0, 0, 0, 0, 0, 0, 0, 0, 0x05, 0, 0] (by decide)]

/-- Two reads, the first of which ends behind the header of the second packet. -/
def headerThenPayload : List ReadCall :=
  [⟨12, by decide, by decide, []⟩, ⟨16, by decide, by decide, []⟩]

/-- The second read hands over the payload of an ACL packet with byte 12 of the
payload changed: the header of the packet was dropped together with the event
before it. -/
theorem acl_payload_changed :
    ¬ ∀ (packets : List Packet) (descriptor : Int32) (calls : List ReadCall),
      Throughout (Trace.step packets) (fun trace => Transparent packets trace.handed)
        (Trace.start descriptor) calls := by
  intro hAlways
  obtain ⟨trace, hRun, hTransparent⟩ :=
    hAlways statusThenAcl 3 headerThenPayload headerThenPayload List.prefix_rfl
  have hByte : (run (Trace.step statusThenAcl) (Trace.start 3) headerThenPayload).bind
      (fun trace => trace.handed[24]?) = some 0x40 := by decide
  rw [hRun] at hByte
  have hChanged := hTransparent 24 0x40 hByte
  revert hChanged
  decide

end BTServerFilter
end MFiWrapper
