import MFiWrapper.BTServerFilter.WriteHook
import MFiWrapper.Library.Accesses
import MFiWrapper.Library.CString
import MFiWrapper.Library.Runs

/-!
# `BTServerFilter.cpp`: the indexes that the hooks use

The hooks once more, with every index that `new_read` uses into `ctx.context` and
every index that `new_write` uses into the buffer of the caller.  Nothing else
changes (`newReadAccesses_value`, `newWriteAccesses_value`).
-/

namespace MFiWrapper
namespace BTServerFilter

open Library

/-! ## Reading -/

namespace ReadContext

/-- `context[i]`. -/
def look (aContext : ReadContext) (i : Nat) : Accessing Nat UInt8 :=
  .use [i] (aContext.byteAt i)

/-- `(const char*)&context[i]`: the characters, and the NUL behind them. -/
def lookString (aContext : ReadContext) (i : Nat) : Accessing Nat (List UInt8) :=
  let string := ((aContext.context ++ aContext.beyond).drop i).takeWhile (· ≠ 0)
  .use (List.range' i (string.length + 1)) string

def writeByteAccesses (aOffset : Nat) (aValue : UInt8) (aContext : ReadContext) :
    Accessing Nat ReadContext :=
  .use (if aOffset > aContext.context.length then [] else [aOffset])
    (aContext.writeByte aOffset aValue)

def pktSizeAccesses (aContext : ReadContext) : Accessing Nat Nat := do
  if (← aContext.look 0) = 0x04 then
    return (← aContext.look 2).toNat + 3
  else if (← aContext.look 0) = 0x02 then
    return ((← aContext.look 3).toNat ||| (← aContext.look 4).toNat <<< 8) + 5
  else
    return 0

end ReadContext

def filterRemoteNameRequestCompleteEventAccesses (aContext : ReadContext) (globals : Globals) :
    Accessing Nat Globals := do
  if aContext.size < 255 then return globals
  else
    let memory := aContext.context ++ aContext.beyond
    let address ← .use (List.range' 4 6) ((memory.drop 4).take 6)
    let name ← aContext.lookString 10
    return { globals with deviceNames := Function.update globals.deviceNames address (some name) }

def filterCommandCompleteEventAccesses (aContext : ReadContext) (globals : Globals) :
    Accessing Nat Globals := do
  if aContext.size < 13 then return globals
  else if (← aContext.look 4) ≠ 0x09 then return globals
  else if (← aContext.look 5) ≠ 0x10 then return globals
  else
    let address ← .use (List.range' 7 6) ((List.range 6).map fun i => aContext.byteAt (7 + i))
    return { globals with
      localAddress := address
      readFilters := Function.update globals.readFilters 0x0E none }

def filterInquiryResultEventGeneralAccesses (aContext : ReadContext) :
    Accessing Nat ReadContext := do
  if aContext.size < 0x10 then return aContext
  else if (← aContext.look 3) ≠ 1 then return aContext
  else if (← aContext.look 13) &&& 0x1F = 0x05 then aContext.writeByteAccesses 12 0x40
  else return aContext

def runFilterAccesses (aContext : ReadContext) (globals : Globals) :
    Accessing Nat (ReadContext × Globals) := do
  if (← aContext.look 0) = 0x04 then
    match globals.readFilters (← aContext.look 1) with
    | some .remoteNameRequestCompleteEvent =>
        return (aContext, ← filterRemoteNameRequestCompleteEventAccesses aContext globals)
    | some .commandCompleteEvent =>
        return (aContext, ← filterCommandCompleteEventAccesses aContext globals)
    | some .inquiryResultEventGeneral =>
        return (← filterInquiryResultEventGeneralAccesses aContext, globals)
    | none => return (aContext, globals)
  else return (aContext, globals)

/-- `new_read` on the Bluetooth socket, once bytes have been received. -/
def ReadHook.newReadAccesses (beyond data : List UInt8) (hook : ReadHook) :
    Accessing Nat (Except Int (List UInt8) × List Store × ReadHook) := do
  -- `memcpy` to the end of the vector
  let ctx ← .use (List.range' hook.context.length data.length) (hook.receive beyond data)
  let pktSize ← ctx.pktSizeAccesses
  let (filtered, globals) ← runFilterAccesses ctx hook.globals
  return (.ok filtered.data, filtered.outside,
    ⟨globals, if filtered.size ≥ pktSize then [] else filtered.context⟩)

/-! ## Writing -/

def filterAcceptConnectionRequestCommandAccesses (original : OriginalWrite)
    (aBuffer : List UInt8) : Accessing Nat (Int × List (List UInt8)) := do
  if aBuffer.length = 11 then
    let copied ← .use (List.range 11) aBuffer
    let newPacket := copied.set 10 0
    return (original 0 newPacket, [newPacket])
  else return (0, [])

def filterPINCodeRequestReplyCommandAccesses (original : OriginalWrite) (globals : Globals)
    (aBuffer : List UInt8) : Accessing Nat (Int × List (List UInt8)) := do
  if aBuffer.length = 27 then
    let address ← .use (List.range' 4 6) ((aBuffer.drop 4).take 6)
    match globals.deviceNames address with
    | none => return (0, [])
    | some name =>
        if !namesWiiRemote name then return (0, [])
        else
          let copied ← .use (List.range 27) aBuffer
          let newPacket := withPIN globals.localAddress copied
          return (original 0 newPacket, [newPacket])
  else return (0, [])

def runWriteFilterAccesses (original : OriginalWrite) (globals : Globals) (bb : List UInt8) :
    Accessing Nat (Int × List (List UInt8)) := do
  if (← .use [0] (bb.getD 0 0)) = 0x01 then
    let high ← .use [2] (bb.getD 2 0)
    let low ← .use [1] (bb.getD 1 0)
    match writeFilters (high.toNat <<< 8 ||| low.toNat) with
    | some .acceptConnectionRequestCommand =>
        filterAcceptConnectionRequestCommandAccesses original bb
    | some .pinCodeRequestReplyCommand =>
        filterPINCodeRequestReplyCommandAccesses original globals bb
    | none => return (0, [])
  else return (0, [])

/-- `new_write` on the Bluetooth socket. -/
def ReadHook.newWriteAccesses (original : OriginalWrite) (buf : List UInt8) (hook : ReadHook) :
    Accessing Nat (Int × List (List UInt8)) := do
  let (writeFilter, written) ← runWriteFilterAccesses original hook.globals buf
  if writeFilter < 1 then return (original written.length buf, written ++ [buf])
  else return (buf.length, written)

/-! ## The record changes nothing -/

variable {aContext : ReadContext} {globals : Globals} {hook : ReadHook}

@[simp] theorem pktSizeAccesses_value (aContext : ReadContext) :
    aContext.pktSizeAccesses.value = aContext.pktSize := by
  simp only [ReadContext.pktSizeAccesses, ReadContext.look, Accessing.value_bind,
    Accessing.value_use, Accessing.value_ite, Accessing.value_pure]
  rfl

@[simp] theorem filterRemoteNameRequestCompleteEventAccesses_value (aContext : ReadContext)
    (globals : Globals) :
    (filterRemoteNameRequestCompleteEventAccesses aContext globals).value =
      filterRemoteNameRequestCompleteEvent aContext globals := by
  simp only [filterRemoteNameRequestCompleteEventAccesses, ReadContext.lookString,
    Accessing.value_bind, Accessing.value_use, Accessing.value_ite, Accessing.value_pure]
  rfl

@[simp] theorem filterCommandCompleteEventAccesses_value (aContext : ReadContext)
    (globals : Globals) :
    (filterCommandCompleteEventAccesses aContext globals).value =
      filterCommandCompleteEvent aContext globals := by
  simp only [filterCommandCompleteEventAccesses, ReadContext.look, Accessing.value_bind,
    Accessing.value_use, Accessing.value_ite, Accessing.value_pure, filterCommandCompleteEvent]
  -- `||` looks at the bytes in this order
  by_cases hSize : aContext.size < 13
  · rw [if_pos hSize, if_pos (.inl hSize)]
  · rw [if_neg hSize]
    by_cases hLow : aContext.byteAt 4 = 0x09
    · simp only [hSize, hLow, false_or, ne_eq, not_true_eq_false, if_false]
    · simp only [hSize, hLow, false_or, ne_eq, not_false_eq_true, true_or, if_true]

@[simp] theorem filterInquiryResultEventGeneralAccesses_value (aContext : ReadContext) :
    (filterInquiryResultEventGeneralAccesses aContext).value =
      filterInquiryResultEventGeneral aContext := by
  simp only [filterInquiryResultEventGeneralAccesses, ReadContext.look,
    ReadContext.writeByteAccesses, Accessing.value_bind, Accessing.value_use,
    Accessing.value_ite, Accessing.value_pure, filterInquiryResultEventGeneral]
  by_cases hSize : aContext.size < 0x10
  · rw [if_pos hSize, if_pos (.inl hSize)]
  · simp only [hSize, false_or, if_false]

@[simp] theorem runFilterAccesses_value (aContext : ReadContext) (globals : Globals) :
    (runFilterAccesses aContext globals).value = runFilter aContext globals := by
  simp only [runFilterAccesses, ReadContext.look, Accessing.value_bind, Accessing.value_use,
    Accessing.value_ite, runFilter]
  split_ifs
  · cases globals.readFilters (aContext.byteAt 1) with
    | none => rfl
    | some filter =>
        cases filter with
        | remoteNameRequestCompleteEvent => simp
        | commandCompleteEvent => simp
        | inquiryResultEventGeneral => simp
  · rfl

theorem newReadAccesses_value (beyond : List UInt8) {data : List UInt8} (hData : data ≠ [])
    (hook : ReadHook) :
    (hook.newReadAccesses beyond data).value =
      hook.newRead beyond hook.globals.bluetoothSocket (.ok data) := by
  rw [newRead_ok beyond hData]
  simp only [ReadHook.newReadAccesses, Accessing.value_bind, Accessing.value_use,
    Accessing.value_pure, pktSizeAccesses_value, runFilterAccesses_value]

theorem runWriteFilterAccesses_value (original : OriginalWrite) (globals : Globals)
    (bb : List UInt8) :
    (runWriteFilterAccesses original globals bb).value = runWriteFilter original globals bb := by
  simp only [runWriteFilterAccesses, Accessing.value_bind, Accessing.value_use,
    Accessing.value_ite, runWriteFilter]
  split_ifs
  · cases writeFilters ((bb.getD 2 0).toNat <<< 8 ||| (bb.getD 1 0).toNat) with
    | none => rfl
    | some filter =>
        cases filter with
        | acceptConnectionRequestCommand =>
            simp [filterAcceptConnectionRequestCommandAccesses,
              filterAcceptConnectionRequestCommand]
        | pinCodeRequestReplyCommand =>
            simp only [filterPINCodeRequestReplyCommandAccesses, filterPINCodeRequestReplyCommand,
              Accessing.value_bind, Accessing.value_use, Accessing.value_ite]
            cases globals.deviceNames ((bb.drop 4).take 6) with
            | none => rfl
            | some name => simp
  · rfl

theorem newWriteAccesses_value (original : OriginalWrite) (buf : List UInt8) (hook : ReadHook) :
    (hook.newWriteAccesses original buf).value =
      hook.newWrite original hook.globals.bluetoothSocket buf := by
  simp only [ReadHook.newWriteAccesses, ReadHook.newWrite, Accessing.value_bind,
    Accessing.value_ite, Accessing.value_pure, runWriteFilterAccesses_value, ne_eq,
    not_true_eq_false, if_false]

/-! ## The indexes -/

section Indexes

theorem forall_mem_range'_lt {start count bound : Nat} (hCount : 0 < count) :
    (∀ i ∈ List.range' start count, i < bound) ↔ start + count ≤ bound := by
  simp only [List.mem_range'_1]
  constructor
  · intro hAll
    have hLast := hAll (start + count - 1) (by omega)
    omega
  · intro hBound i hi
    omega

theorem pktSizeAccesses_within_iff {bound : Nat} :
    aContext.pktSizeAccesses.Within (· < bound) ↔
      0 < bound ∧ (aContext.byteAt 0 = 0x04 → 2 < bound) ∧
        (aContext.byteAt 0 = 0x02 → 4 < bound) := by
  simp only [ReadContext.pktSizeAccesses, ReadContext.look, Accessing.within_bind_iff,
    Accessing.within_ite_iff, Accessing.within_use_iff, Accessing.within_pure,
    Accessing.value_use, List.forall_mem_singleton, and_true]
  by_cases hEvent : aContext.byteAt 0 = 0x04
  · simp [hEvent]
  · by_cases hData : aContext.byteAt 0 = 0x02
    · simp [hData]
      omega
    · simp [hEvent, hData]

/-- A string stays inside the vector if it ends there. -/
theorem lookString_within_iff {i : Nat} :
    (aContext.lookString i).Within (· < aContext.context.length) ↔
      0 ∈ aContext.context.drop i := by
  simp only [ReadContext.lookString, Accessing.within_use_iff]
  rw [forall_mem_range'_lt (Nat.succ_pos _)]
  by_cases hStart : i ≤ aContext.context.length
  · have hDrop : (aContext.context ++ aContext.beyond).drop i =
        aContext.context.drop i ++ aContext.beyond := List.drop_append_of_le_length hStart
    have hLength : (aContext.context.drop i).length = aContext.context.length - i :=
      List.length_drop
    rw [hDrop]
    by_cases hMem : (0 : UInt8) ∈ aContext.context.drop i
    · have hShort := length_takeWhile_lt_iff.mpr hMem
      rw [takeWhile_append_of_mem hMem]
      exact iff_of_true (by omega) hMem
    · rw [takeWhile_append_of_notMem hMem, List.length_append]
      exact iff_of_false (by omega) hMem
  · rw [List.drop_eq_nil_of_le (Nat.le_of_not_le hStart)]
    exact iff_of_false (by omega) List.not_mem_nil

/-- The filter for names waits for the beginning of the name, not for its end. -/
theorem filterRemoteNameRequestCompleteEventAccesses_within_iff
    (hSize : aContext.size ≤ aContext.context.length) :
    (filterRemoteNameRequestCompleteEventAccesses aContext globals).Within
        (· < aContext.context.length) ↔
      (255 ≤ aContext.size → 0 ∈ aContext.context.drop 10) := by
  simp only [filterRemoteNameRequestCompleteEventAccesses, Accessing.within_bind_iff,
    Accessing.within_ite_iff, Accessing.within_use_iff, Accessing.within_pure,
    lookString_within_iff, implies_true, true_and, and_true, not_lt]
  refine forall_congr' fun hEnough => ?_
  rw [forall_mem_range'_lt (by omega)]
  exact and_iff_right (by omega)

/-- What the filter for names needs, and what the others check by themselves. -/
theorem runFilterAccesses_within_iff (hSize : aContext.size ≤ aContext.context.length)
    (hReceived : 0 < aContext.context.length)
    (hCode : aContext.byteAt 0 = 0x04 → 1 < aContext.context.length) :
    (runFilterAccesses aContext globals).Within (· < aContext.context.length) ↔
      (aContext.byteAt 0 = 0x04 →
        globals.readFilters (aContext.byteAt 1) = some .remoteNameRequestCompleteEvent →
        255 ≤ aContext.size → 0 ∈ aContext.context.drop 10) := by
  simp only [runFilterAccesses, ReadContext.look, Accessing.within_bind_iff,
    Accessing.within_ite_iff, Accessing.within_use_iff, Accessing.within_pure,
    Accessing.value_use, List.forall_mem_singleton, hReceived, true_and, implies_true, and_true]
  refine forall_congr' fun hEvent => ?_
  simp only [hCode hEvent, true_and]
  cases hFilter : globals.readFilters (aContext.byteAt 1) with
  | none => simp
  | some filter =>
      cases filter with
      | remoteNameRequestCompleteEvent =>
          simp only [Accessing.within_bind_iff, Accessing.within_pure, and_true, forall_const]
          exact filterRemoteNameRequestCompleteEventAccesses_within_iff hSize
      | commandCompleteEvent =>
          simp only [filterCommandCompleteEventAccesses, ReadContext.look,
            Accessing.within_bind_iff, Accessing.within_ite_iff, Accessing.within_use_iff,
            Accessing.within_pure, List.forall_mem_singleton, implies_true, true_and, and_true,
            reduceCtorEq, Option.some.injEq, false_implies, iff_true]
          intro hEnough
          refine ⟨by omega, fun _ => ⟨by omega, fun _ => ?_⟩⟩
          rw [forall_mem_range'_lt (by omega)]
          omega
      | inquiryResultEventGeneral =>
          simp only [filterInquiryResultEventGeneralAccesses, ReadContext.look,
            ReadContext.writeByteAccesses, Accessing.within_bind_iff, Accessing.within_ite_iff,
            Accessing.within_use_iff, Accessing.within_pure, List.forall_mem_singleton,
            implies_true, true_and, and_true, reduceCtorEq, Option.some.injEq, false_implies,
            iff_true]
          intro hEnough
          refine ⟨by omega, fun _ => ⟨by omega, fun _ => ?_⟩⟩
          rw [if_neg (by omega), List.forall_mem_singleton]
          omega

/-- The header has been received as far as it is looked at, and a name that is
looked at has an end. -/
def HeaderReceived (readFilters : UInt8 → Option ReadFilter) (received : List UInt8) : Prop :=
  (received.getD 0 0 = 0x04 → 3 ≤ received.length) ∧
    (received.getD 0 0 = 0x02 → 5 ≤ received.length) ∧
    (received.getD 0 0 = 0x04 →
      readFilters (received.getD 1 0) = some .remoteNameRequestCompleteEvent →
      255 ≤ received.length % 2 ^ 32 → 0 ∈ received.drop 10)

theorem newReadAccesses_within_iff (beyond : List UInt8) {data : List UInt8} (hData : data ≠ [])
    (hook : ReadHook) :
    (hook.newReadAccesses beyond data).Within (· < (hook.context ++ data).length) ↔
      HeaderReceived hook.globals.readFilters (hook.context ++ data) := by
  have hLength : 0 < data.length := List.length_pos_of_ne_nil hData
  have hTotal : (hook.context ++ data).length = hook.context.length + data.length :=
    List.length_append
  have hByte {i : Nat} (hi : i < (hook.context ++ data).length) :
      (hook.receive beyond data).byteAt i = (hook.context ++ data).getD i 0 := by
    rw [ReadContext.byteAt, List.getD_eq_getElem?_getD, List.getD_eq_getElem?_getD]
    show ((hook.context ++ data ++ beyond)[i]?).getD 0 = _
    rw [List.getElem?_append_left hi]
  have hType := hByte (show 0 < (hook.context ++ data).length by omega)
  have hCopied : ∀ i ∈ List.range' hook.context.length data.length,
      i < (hook.context ++ data).length := by
    rw [forall_mem_range'_lt hLength]
    omega
  simp only [ReadHook.newReadAccesses, Accessing.within_bind_iff, Accessing.within_use_iff,
    Accessing.within_pure, Accessing.value_use, and_true, pktSizeAccesses_within_iff, hType]
  -- the filters are called with a complete header, if the sizes could be read
  rw [and_iff_right hCopied, and_assoc, and_assoc,
    and_iff_right (by omega : 0 < (hook.context ++ data).length)]
  refine and_congr_right fun hEvent => and_congr_right fun _ => ?_
  have hCode (h : (hook.receive beyond data).byteAt 0 = 0x04) :
      1 < (hook.receive beyond data).context.length :=
    Nat.lt_of_succ_lt (hEvent (hType ▸ h))
  have hReceived : 0 < (hook.receive beyond data).context.length := hTotal ▸ (by omega)
  refine (runFilterAccesses_within_iff (Nat.mod_le _ _) hReceived hCode).trans ?_
  rw [hType]
  refine forall_congr' fun hCommand => ?_
  rw [hByte (Nat.lt_of_succ_lt (hEvent hCommand))]
  rfl

/-- The filters of commands know the sizes of their commands. -/
theorem newWriteAccesses_within_iff (original : OriginalWrite) {buf : List UInt8} (hBuf : buf ≠ [])
    (hook : ReadHook) :
    (hook.newWriteAccesses original buf).Within (· < buf.length) ↔
      (buf.getD 0 0 = 0x01 → 3 ≤ buf.length) := by
  have hLength : 0 < buf.length := List.length_pos_of_ne_nil hBuf
  simp only [ReadHook.newWriteAccesses, runWriteFilterAccesses, Accessing.within_bind_iff,
    Accessing.within_ite_iff, Accessing.within_use_iff, Accessing.within_pure,
    Accessing.value_use, List.forall_mem_singleton, hLength, true_and, implies_true, and_true]
  refine forall_congr' fun _ => ⟨fun hUsed => hUsed.1, fun hHeader => ⟨hHeader, by omega, ?_⟩⟩
  cases writeFilters ((buf.getD 2 0).toNat <<< 8 ||| (buf.getD 1 0).toNat) with
  | none => simp
  | some filter =>
      cases filter with
      | acceptConnectionRequestCommand =>
          simp only [filterAcceptConnectionRequestCommandAccesses, Accessing.within_bind_iff,
            Accessing.within_ite_iff, Accessing.within_use_iff, Accessing.within_pure,
            List.mem_range, implies_true, and_true]
          intro hSize i hi
          omega
      | pinCodeRequestReplyCommand =>
          simp only [filterPINCodeRequestReplyCommandAccesses, Accessing.within_bind_iff,
            Accessing.within_ite_iff, Accessing.within_use_iff, Accessing.within_pure,
            Accessing.value_use, implies_true, and_true]
          intro hSize
          refine ⟨by rw [forall_mem_range'_lt (by omega)]; omega, ?_⟩
          cases hook.globals.deviceNames ((buf.drop 4).take 6) with
          | none => simp
          | some name =>
              simp only [Accessing.within_ite_iff, Accessing.within_bind_iff,
                Accessing.within_use_iff, Accessing.within_pure, List.mem_range, implies_true,
                true_and, and_true]
              intro _ i hi
              omega

end Indexes

/-! ## Runs -/

/-- A call on the Bluetooth socket: a read that returns some bytes, or a write of
some bytes. -/
inductive SocketCall
  | read (beyond data : List UInt8) (hData : data ≠ [])
  | write (original : OriginalWrite) (buf : List UInt8) (hBuf : buf ≠ [])

/-- The hooks, and every index that has been used with the size it must be below:
that of `ctx.context`, or `nbyte`. -/
structure AccessTrace where
  hook : ReadHook
  accesses : List (Nat × Nat)

namespace AccessTrace

def step (trace : AccessTrace) : SocketCall → Option AccessTrace
  | .read beyond data _ =>
      let outcome := trace.hook.newReadAccesses beyond data
      some
        { hook := outcome.value.2.2
          accesses := trace.accesses ++
            outcome.used.map fun i => (i, (trace.hook.context ++ data).length) }
  | .write original buf _ =>
      let outcome := trace.hook.newWriteAccesses original buf
      some
        { trace with
          accesses := trace.accesses ++ outcome.used.map fun i => (i, buf.length) }

/-- Everything that was used had been received, or was the caller's. -/
def InRange (trace : AccessTrace) : Prop := ∀ access ∈ trace.accesses, access.1 < access.2

end AccessTrace

/-- Before the call: the header is complete with it. -/
def SocketCall.Complete (trace : AccessTrace) : SocketCall → Prop
  | .read _ data _ =>
      HeaderReceived trace.hook.globals.readFilters (trace.hook.context ++ data)
  | .write _ buf _ => buf.getD 0 0 = 0x01 → 3 ≤ buf.length

theorem AccessTrace.step_inRange_iff {trace : AccessTrace} (hInRange : trace.InRange)
    (call : SocketCall) :
    ∃ after, trace.step call = some after ∧ (after.InRange ↔ call.Complete trace) := by
  have hAppend (used : List Nat) (bound : Nat) :
      (∀ access ∈ trace.accesses ++ used.map fun i => (i, bound), access.1 < access.2) ↔
        ∀ i ∈ used, i < bound := by
    rw [List.forall_mem_append, List.forall_mem_map]
    exact and_iff_right hInRange
  cases call with
  | read beyond data hData =>
      refine ⟨_, rfl, ?_⟩
      rw [AccessTrace.InRange, hAppend]
      exact newReadAccesses_within_iff beyond hData trace.hook
  | write original buf hBuf =>
      refine ⟨_, rfl, ?_⟩
      rw [AccessTrace.InRange, hAppend]
      exact newWriteAccesses_within_iff original hBuf trace.hook

/-- In every sequence of reads and writes, whatever the hooks look at has been
received or is the caller's if and only if each call completes the header it is
about. -/
theorem accesses_inRange_iff (hook : ReadHook) (calls : List SocketCall) :
    Throughout AccessTrace.step AccessTrace.InRange ⟨hook, []⟩ calls ↔
      Along AccessTrace.step (fun trace call => call.Complete trace) ⟨hook, []⟩ calls := by
  refine throughout_iff_along (fun _ (hInRange : AccessTrace.InRange _) => hInRange) ?_ ?_ ?_ _
  · intro trace call hInRange hComplete
    obtain ⟨after, hAfter, hIff⟩ := AccessTrace.step_inRange_iff hInRange call
    exact ⟨after, hAfter, hIff.mpr hComplete⟩
  · intro trace call hInRange hIncomplete after hAfter hGood
    obtain ⟨_, hSame, hIff⟩ := AccessTrace.step_inRange_iff hInRange call
    obtain rfl := Option.some.inj (hSame.symm.trans hAfter)
    exact hIncomplete (hIff.mp hGood)
  · exact fun access hAccess => nomatch hAccess

theorem outOfRange_of_incomplete {hook : ReadHook} {call : SocketCall}
    (hIncomplete : ¬ call.Complete ⟨hook, []⟩) :
    ¬ Throughout AccessTrace.step AccessTrace.InRange ⟨hook, []⟩ [call] := by
  intro hAll
  obtain ⟨after, hAfter, hGood⟩ := hAll _ (List.prefix_refl _)
  rw [run_singleton] at hAfter
  have hStart : AccessTrace.InRange ⟨hook, []⟩ := fun access hAccess => nomatch hAccess
  obtain ⟨_, hSame, hIff⟩ := AccessTrace.step_inRange_iff hStart call
  obtain rfl := Option.some.inj (hSame.symm.trans hAfter)
  exact hIncomplete (hIff.mp hGood)

/-- An event whose type arrives alone, and a command whose type is written alone. -/
theorem accesses_outOfRange :
    ¬ Throughout AccessTrace.step AccessTrace.InRange ⟨ReadHook.initial.newSocket 32 5, []⟩
        [.read [] [0x04] (by decide)] ∧
      ¬ Throughout AccessTrace.step AccessTrace.InRange ⟨ReadHook.initial.newSocket 32 5, []⟩
        [.write wholeWrites [0x01] (by decide)] := by
  constructor
  · apply outOfRange_of_incomplete
    rintro ⟨hEvent, -, -⟩
    exact absurd (hEvent (by decide)) (by decide)
  · apply outOfRange_of_incomplete
    intro hCommand
    exact absurd (hCommand (by decide)) (by decide)

end BTServerFilter
end MFiWrapper
