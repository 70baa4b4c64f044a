import MFiWrapper.BTServerFilter.ReadRuns

/-!
# The patch and the buffer of the caller

An inquiry result is patched whenever a read leaves at least 16 of its bytes in
the buffer of the hook, so also by reads that deliver later bytes only.  For
those `WriteByte` takes an index before the buffer of the caller: its bounds test
looks at the end of the chunk but not at the beginning.
-/

namespace MFiWrapper
namespace BTServerFilter

open Library

/-- The hook between two packets. -/
structure BetweenPackets (hook : ReadHook) : Prop where
  context : hook.context = []
  filters : hook.globals.FiltersInquiries

/-- The caller is about to read a packet. -/
def Trace.before (hook : ReadHook) : Trace := ⟨hook, 0, [], []⟩

/-- The stores of the read stay inside the buffer of the hook and inside the bytes
just read, and these are patched exactly if byte 12 of the packet is among them. -/
structure StaysInChunk (packet : Packet) (trace : Trace) (call : ReadCall) : Prop where
  inside : (trace.hook.newRead call.beyond trace.hook.globals.bluetoothSocket
    (.ok (trace.chunk [packet] call))).2.1 = []
  patched : bytesOf (trace.hook.newRead call.beyond trace.hook.globals.bluetoothSocket
      (.ok (trace.chunk [packet] call))).1 =
    if trace.received ≤ 12 ∧ 12 < trace.received + (trace.chunk [packet] call).length then
      (trace.chunk [packet] call).set (12 - trace.received) 0x40
    else trace.chunk [packet] call

/-- The read begins with byte 12 of the packet or before it. -/
def BeginsByTwelve (trace : Trace) (_ : ReadCall) : Prop := trace.received ≤ 12

theorem betweenPackets_start (descriptor : Int32) :
    BetweenPackets (Trace.start descriptor).hook where
  context := rfl
  filters := (inv_start [] descriptor).filters

/-! ## One read -/

variable {packet : Packet} {trace : Trace} {hook : ReadHook}

theorem BetweenPackets.inv (hBetween : BetweenPackets hook) (packet : Packet) :
    Inv [packet] (Trace.before hook) where
  filters := hBetween.filters
  buffer := by
    have hLocate : locate Packet.bytes [packet] (Trace.before hook).received = some (packet, 0) :=
      if_pos packet.length_pos
    rw [held, hLocate]
    exact hBetween.context
  length := rfl
  transparent := by
    intro i byte hByte
    cases hByte

/-- The stores of the patch, the read having filled the buffer far enough. -/
theorem writeByte_twelve_outside {aContext : ReadContext} (value : UInt8)
    (hSize : aContext.size = aContext.context.length)
    (hLength : aContext.context.length = aContext.offset + aContext.data.length)
    (hEnough : 16 ≤ aContext.size) :
    (aContext.writeByte 12 value).outside =
      if aContext.offset ≤ 12 then aContext.outside
      else aContext.outside ++ [.data (12 - aContext.offset) value] := by
  have hInside : 12 < aContext.context.length := by omega
  have hStore : aContext.storeContext 12 value =
      { aContext with context := aContext.context.set 12 value } := if_pos hInside
  have hTotal : 12 < aContext.offset + aContext.size := by omega
  simp only [ReadContext.writeByte, if_neg hInside.not_gt, hStore, if_pos hTotal,
    ReadContext.storeData]
  split_ifs with hData hOffset hOffset
  · rfl
  · omega
  · omega
  · rfl

theorem chunk_length {call : ReadCall}
    (hFits : trace.received + call.length ≤ packet.bytes.length) :
    (trace.chunk [packet] call).length = call.length := by
  rw [Trace.chunk, stream_cons, stream_nil, List.append_nil, List.length_take, List.length_drop]
  omega

/-- The buffer of a read inside the packet, and whether the filter patches it. -/
theorem Inv.receive (hInv : Inv [packet] trace) (hPeripheral : packet.isPeripheralResult = true)
    {call : ReadCall} (hInside : trace.received < packet.bytes.length)
    (hFits : trace.received + call.length ≤ packet.bytes.length) {ctx : ReadContext}
    (hCtx : ctx = trace.hook.receive call.beyond (trace.chunk [packet] call)) :
    ctx.size = ctx.context.length ∧ ctx.context.length = trace.received + call.length ∧
      ctx.offset = trace.received ∧ (trace.chunk [packet] call).length = call.length ∧
      (Patches ctx trace.hook.globals ↔ 16 ≤ trace.received + call.length) := by
  have hLocate : locate Packet.bytes [packet] trace.received = some (packet, trace.received) :=
    if_pos hInside
  have hBuffer : trace.hook.context = (packet.seen trace.received).bytes.take trace.received := by
    rw [hInv.buffer, held, hLocate]
  have hReceived : trace.received = (stream Packet.bytes []).length + trace.received := by
    rw [stream_nil, List.length_nil, Nat.zero_add]
  obtain ⟨hData, hNonempty, hRoom⟩ :
      trace.chunk [packet] call <+:
        packet.bytes.drop trace.received ++ stream Packet.bytes [] ∧
      trace.chunk [packet] call ≠ [] ∧
      trace.received + (trace.chunk [packet] call).length < 2 ^ 32 :=
    chunk_inside hReceived hInside call
  have hChunk := chunk_length hFits
  obtain ⟨hOffset, hLength, hBegins⟩ :=
    receive_begins call.beyond hBuffer hInside hData hNonempty hRoom
  have hPatch := hBegins.patches_iff (tail_ne_one []) hInv.filters
  rw [Packet.seen_isPeripheralResult, hLength, hChunk] at hPatch
  rw [hChunk] at hLength
  subst hCtx
  exact ⟨hBegins.size, hLength, hOffset, hChunk, hPatch.trans (and_iff_right hPeripheral)⟩

/-- What a read inside the packet returns. -/
theorem staysInChunk_def {call : ReadCall} (hNonempty : trace.chunk [packet] call ≠ []) :
    StaysInChunk packet trace call ↔
      (runFilter (trace.hook.receive call.beyond (trace.chunk [packet] call))
        trace.hook.globals).1.outside = [] ∧
      (runFilter (trace.hook.receive call.beyond (trace.chunk [packet] call))
        trace.hook.globals).1.data =
        if trace.received ≤ 12 ∧ 12 < trace.received + (trace.chunk [packet] call).length then
          (trace.chunk [packet] call).set (12 - trace.received) 0x40
        else trace.chunk [packet] call := by
  have hRead := newRead_ok call.beyond hNonempty trace.hook
  constructor
  · rintro ⟨hStores, hPatched⟩
    rw [hRead] at hStores hPatched
    exact ⟨hStores, hPatched⟩
  · rintro ⟨hStores, hPatched⟩
    constructor
    · rw [hRead]
      exact hStores
    · rw [hRead]
      exact hPatched

/-- A read with which the packet is far enough for the filter patches it, and does so
in front of the buffer of the caller if it begins after byte 12. -/
theorem staysInChunk_of_enough (hInv : Inv [packet] trace)
    (hPeripheral : packet.isPeripheralResult = true) {call : ReadCall}
    (hInside : trace.received < packet.bytes.length)
    (hFits : trace.received + call.length ≤ packet.bytes.length)
    (hEnough : 16 ≤ trace.received + call.length) :
    StaysInChunk packet trace call ↔ trace.received ≤ 12 := by
  have hPos := call.length_pos
  obtain ⟨hSize, hLength, hOffset, hChunk, hPatch⟩ := hInv.receive hPeripheral hInside hFits rfl
  have hData : (trace.hook.receive call.beyond (trace.chunk [packet] call)).context.length =
      (trace.hook.receive call.beyond (trace.chunk [packet] call)).offset +
        (trace.hook.receive call.beyond (trace.chunk [packet] call)).data.length := by
    rw [hLength, hOffset, ← hChunk]
    rfl
  obtain ⟨-, hBytes, -⟩ := writeByte_twelve 0x40 hSize hData (by omega)
  have hStores := writeByte_twelve_outside 0x40 hSize hData (by omega)
  rw [staysInChunk_def (List.ne_nil_of_length_pos (by omega)),
    runFilter_patches (hPatch.mpr hEnough), hBytes, hStores, hOffset, hChunk]
  constructor
  · rintro ⟨hNone, -⟩
    by_contra hLate
    rw [if_neg hLate] at hNone
    exact absurd hNone (by simp)
  · intro hEarly
    rw [if_pos hEarly, if_pos hEarly, if_pos ⟨hEarly, by omega⟩]
    exact ⟨rfl, rfl⟩

/-- A read that does not get to byte 12 changes nothing. -/
theorem staysInChunk_of_early (hInv : Inv [packet] trace)
    (hPeripheral : packet.isPeripheralResult = true) {call : ReadCall}
    (hInside : trace.received < packet.bytes.length)
    (hFits : trace.received + call.length ≤ packet.bytes.length)
    (hEarly : trace.received + call.length ≤ 12) : StaysInChunk packet trace call := by
  have hPos := call.length_pos
  obtain ⟨-, -, -, hChunk, hPatch⟩ := hInv.receive hPeripheral hInside hFits rfl
  have hKeeps : ¬ Patches (trace.hook.receive call.beyond (trace.chunk [packet] call))
      trace.hook.globals := by
    rw [hPatch]
    omega
  rw [staysInChunk_def (List.ne_nil_of_length_pos (by omega)), runFilter_keeps hKeeps, hChunk,
    if_neg (by omega)]
  exact ⟨rfl, rfl⟩

/-- The run goes on behind the bytes that were read. -/
theorem Inv.read (hInv : Inv [packet] trace) {call : ReadCall}
    (hInside : trace.received < packet.bytes.length)
    (hFits : trace.received + call.length ≤ packet.bytes.length) :
    ∃ trace', trace.step [packet] call = some trace' ∧ Inv [packet] trace' ∧
      trace'.received = trace.received + call.length := by
  have hChunk := chunk_length hFits
  have hEnds : EndsAtBoundary [packet] trace call := by
    intro located k hLocate hComplete next k' hLocate'
    obtain ⟨rfl, rfl⟩ : packet = located ∧ trace.received = k := by
      rw [locate, if_pos hInside] at hLocate
      simpa using hLocate
    rw [locate, if_neg (by omega)] at hLocate'
    cases hLocate'
  obtain ⟨trace', hStep, hInv', hReceived⟩ := hInv.next hEnds
  exact ⟨trace', hStep, hInv', by rw [hReceived, hChunk]⟩

/-! ## The cut of an event -/

/-- The rest of the packet, whatever of it has been read: the last read patches, so
none of them may begin after byte 12. -/
theorem staysInChunk_iff_beginsByTwelve (hPeripheral : packet.isPeripheralResult = true)
    {calls : List ReadCall} (hInv : Inv [packet] trace)
    (hCut : trace.received + (calls.map ReadCall.length).sum = packet.bytes.length) :
    Along (Trace.step [packet]) (StaysInChunk packet) trace calls ↔
      Along (Trace.step [packet]) BeginsByTwelve trace calls := by
  induction calls generalizing trace with
  | nil => exact Iff.rfl
  | cons call calls ih =>
      rw [List.map_cons, List.sum_cons] at hCut
      have hPos := call.length_pos
      have hLong := Packet.length_of_isPeripheralResult hPeripheral
      have hInside : trace.received < packet.bytes.length := by omega
      have hFits : trace.received + call.length ≤ packet.bytes.length := by omega
      obtain ⟨trace', hStep, hInv', hReceived⟩ := hInv.read hInside hFits
      have hTail := ih hInv' (by omega)
      have hNext {ok : Trace → ReadCall → Prop} :
          (∀ s, trace.step [packet] call = some s → Along (Trace.step [packet]) ok s calls) ↔
            Along (Trace.step [packet]) ok trace' calls := by
        rw [hStep]
        simp
      simp only [Along, hNext]
      rw [hTail]
      cases calls with
      | nil =>
          -- the last read
          rw [List.map_nil, List.sum_nil] at hCut
          rw [staysInChunk_of_enough hInv hPeripheral hInside hFits (by omega)]
          rfl
      | cons next calls =>
          constructor
          · rintro ⟨-, hRest⟩
            have hNextBegins : trace'.received ≤ 12 := hRest.1
            exact ⟨show trace.received ≤ 12 by omega, hRest⟩
          · rintro ⟨-, hRest⟩
            have hNextBegins : trace'.received ≤ 12 := hRest.1
            exact ⟨staysInChunk_of_early hInv hPeripheral hInside hFits (by omega), hRest⟩

/-- For every inquiry result with one peripheral and every way of cutting it into
reads, all reads store inside the buffers and patch the chunk with byte 12, if and
only if no read begins after byte 12. -/
theorem patch_stays_in_chunk_iff {hook : ReadHook} (hBetween : BetweenPackets hook)
    {packet : Packet} (hPeripheral : packet.isPeripheralResult = true) {calls : List ReadCall}
    (hCut : (calls.map ReadCall.length).sum = packet.bytes.length) :
    Along (Trace.step [packet]) (StaysInChunk packet) (Trace.before hook) calls ↔
      Along (Trace.step [packet]) BeginsByTwelve (Trace.before hook) calls :=
  staysInChunk_iff_beginsByTwelve hPeripheral (hBetween.inv packet)
    (by rw [← hCut]; exact Nat.zero_add _)

/-- A mouse that answers to an inquiry: an address, the class of device 0x002580, the
clock offset and the signal strength. -/
def mouseResult : Packet :=
  .event 0x22 [1, 1, 2, 3, 4, 5, 6, 1, 0, 0x80, 0x25, 0, 0x10, 0x20, 0xC8] (by decide) (by decide)

/-- The event in two reads, the first of which ends before byte 12. -/
theorem patch_stays_in_chunk_iff_mouse :
    Along (Trace.step [mouseResult]) (StaysInChunk mouseResult)
        (Trace.before (Trace.start 3).hook)
        [⟨12, by decide, by decide, []⟩, ⟨6, by decide, by decide, []⟩] ↔
      Along (Trace.step [mouseResult]) BeginsByTwelve (Trace.before (Trace.start 3).hook)
        [⟨12, by decide, by decide, []⟩, ⟨6, by decide, by decide, []⟩] :=
  patch_stays_in_chunk_iff (betweenPackets_start 3) (by decide) (by decide)

/-- The same event in reads of 16 and of 2 bytes: the second one stores four bytes
before the buffer of the caller. -/
theorem patch_before_buffer :
    ¬ ∀ (descriptor : Int32) (packet : Packet) (calls : List ReadCall),
      packet.isPeripheralResult = true →
      (calls.map ReadCall.length).sum = packet.bytes.length →
      Along (Trace.step [packet]) (StaysInChunk packet)
        (Trace.before (Trace.start descriptor).hook) calls := by
  intro hAll
  obtain ⟨-, hRest⟩ := hAll 3 mouseResult
    [⟨16, by decide, by decide, []⟩, ⟨2, by decide, by decide, []⟩] (by decide) (by decide)
  have hInside := (hRest _ rfl).1.inside
  revert hInside
  decide

end BTServerFilter
end MFiWrapper
