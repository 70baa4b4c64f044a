import MFiWrapper.BTServerFilter.HeaderAccesses

/-!
# `BTServerFilter.cpp`: the name of a device, read in parts

The filter for Remote Name Request Complete waits for 255 of the 258 bytes of the
event and takes what it has for a C string.  It does so again with every later
part of the event.
-/

namespace MFiWrapper
namespace BTServerFilter

open Library

/-- A Remote Name Request Complete event. -/
structure NameEvent where
  status : UInt8
  address : List UInt8
  name : List UInt8
  address_length : address.length = 6
  name_length : name.length = 248

namespace NameEvent

def bytes (event : NameEvent) : List UInt8 :=
  0x04 :: 0x07 :: 0xFF :: event.status :: (event.address ++ event.name)

variable (event : NameEvent)

theorem bytes_length : event.bytes.length = 258 := by
  simp [bytes, event.address_length, event.name_length]

/-- What has been received of the name. -/
theorem drop_take_bytes (n : Nat) : (event.bytes.take n).drop 10 = event.name.take (n - 10) := by
  rw [List.drop_take]
  congr 1
  show (event.address ++ event.name).drop 6 = event.name
  rw [List.drop_append_of_le_length event.address_length.ge, ← event.address_length,
    List.drop_length, List.nil_append]

/-- The address, once the name has begun. -/
theorem address_of_take {n : Nat} (hn : 10 ≤ n) (beyond : List UInt8) :
    ((event.bytes.take n ++ beyond).drop 4).take 6 = event.address := by
  have hLength : (event.bytes.take n).length = min n 258 := by
    rw [List.length_take, bytes_length]
  rw [List.drop_append_of_le_length (by omega), List.take_append_of_le_length
    (by rw [List.length_drop]; omega), List.drop_take, List.take_take, Nat.min_eq_left (by omega)]
  show (event.address ++ event.name).take 6 = event.address
  rw [List.take_append_of_le_length event.address_length.ge, ← event.address_length,
    List.take_length]

end NameEvent

/-- A part of the event, as one read delivers it, and what the vector is followed
by in memory then. -/
structure Chunk where
  data : List UInt8
  beyond : List UInt8
  nonempty : data ≠ []

/-- The indexes that are used to store a name, if one is stored. -/
def storing (aContext : ReadContext) (globals : Globals) : List Nat :=
  if aContext.byteAt 0 = 0x04 ∧
      globals.readFilters (aContext.byteAt 1) = some .remoteNameRequestCompleteEvent then
    (filterRemoteNameRequestCompleteEventAccesses aContext globals).used
  else []

/-- One read on the Bluetooth socket, with the indexes used to store a name. -/
def AccessTrace.readChunk (trace : AccessTrace) (chunk : Chunk) : Option AccessTrace :=
  let ctx := trace.hook.receive chunk.beyond chunk.data
  let outcome := trace.hook.newRead chunk.beyond trace.hook.globals.bluetoothSocket
    (.ok chunk.data)
  some
    { hook := outcome.2.2
      accesses := trace.accesses ++
        (storing ctx trace.hook.globals).map fun i => (i, ctx.context.length) }

/-- The name was stored from what had been received, as it is in the event, and no
other entry has changed. -/
structure Captured (event : NameEvent) (before : Globals) (after : AccessTrace) : Prop where
  inside : after.InRange
  stored : after.hook.globals.deviceNames event.address =
    some (event.name.takeWhile (· ≠ 0))
  others : ∀ other, other ≠ event.address →
    after.hook.globals.deviceNames other = before.deviceNames other

/-- With every read after which 255 bytes of the event have been received, the name
has ended in what has been received. -/
def EndsInReceived (event : NameEvent) : Nat → List Chunk → Prop
  | _, [] => True
  | received, chunk :: chunks =>
      (255 ≤ received + chunk.data.length →
        0 ∈ event.name.take (received + chunk.data.length - 10)) ∧
      EndsInReceived event (received + chunk.data.length) chunks

/-- The filter for names is in the table. -/
def Globals.FiltersNames (globals : Globals) : Prop :=
  globals.readFilters 0x07 = some .remoteNameRequestCompleteEvent

/-- The hook has received so much of the event. -/
structure Receiving (event : NameEvent) (received : Nat) (hook : ReadHook) : Prop where
  context : hook.context = event.bytes.take received
  filters : hook.globals.FiltersNames

/-! ## One read -/

theorem runFilter_filtersNames {globals : Globals} (aContext : ReadContext)
    (hFilters : globals.FiltersNames) : (runFilter aContext globals).2.FiltersNames := by
  unfold runFilter
  split_ifs
  · split
    · unfold filterRemoteNameRequestCompleteEvent
      split_ifs
      · exact hFilters
      · exact hFilters
    · unfold filterCommandCompleteEvent
      split_ifs
      · exact hFilters
      · show Function.update globals.readFilters 0x0E none 0x07 = _
        rw [Function.update_of_ne (by decide)]
        exact hFilters
    · exact hFilters
    · exact hFilters
  · exact hFilters

/-- No filter does anything before 13 bytes have arrived. -/
theorem runFilter_short {aContext : ReadContext} (hShort : aContext.size < 13)
    (globals : Globals) : runFilter aContext globals = (aContext, globals) := by
  have hName : filterRemoteNameRequestCompleteEvent aContext globals = globals :=
    if_pos (by omega)
  have hCommand : filterCommandCompleteEvent aContext globals = globals := if_pos (.inl hShort)
  have hInquiry : filterInquiryResultEventGeneral aContext = aContext :=
    if_pos (.inl (by omega))
  unfold runFilter
  split_ifs
  · split
    · rw [hName]
    · rw [hCommand]
    · rw [hInquiry]
    · rfl
  · rfl

section Part

variable {event : NameEvent} {received : Nat} {hook : ReadHook} {chunk : Chunk}
  {rest : List UInt8}

/-- What the hook has after a read that delivers the next part of the event. -/
theorem Receiving.receive (hReceiving : Receiving event received hook)
    (hPart : event.bytes.drop received = chunk.data ++ rest) :
    (hook.receive chunk.beyond chunk.data).context =
        event.bytes.take (received + chunk.data.length) ∧
      (hook.receive chunk.beyond chunk.data).context.length = received + chunk.data.length ∧
      (hook.receive chunk.beyond chunk.data).size = received + chunk.data.length ∧
      received + chunk.data.length ≤ 258 := by
  have hLength := congrArg List.length hPart
  have hPos := List.length_pos_of_ne_nil chunk.nonempty
  rw [List.length_drop, event.bytes_length, List.length_append] at hLength
  have hContext : hook.context ++ chunk.data =
      event.bytes.take (received + chunk.data.length) := by
    rw [hReceiving.context, List.take_add, hPart, List.take_left]
  have hTotal : (hook.context ++ chunk.data).length = received + chunk.data.length := by
    rw [hContext, List.length_take, event.bytes_length]
    omega
  refine ⟨hContext, hTotal, ?_, by omega⟩
  show (hook.context ++ chunk.data).length % 2 ^ 32 = _
  rw [hTotal, Nat.mod_eq_of_lt (by omega)]

theorem byteAt_of_context {aContext : ReadContext} {bytes : List UInt8} {n i : Nat}
    (hContext : aContext.context = bytes.take n) (hi : i < n) (hn : n ≤ bytes.length) :
    aContext.byteAt i = bytes.getD i 0 := by
  have hInside : i < (bytes.take n).length := by
    rw [List.length_take]
    omega
  rw [ReadContext.byteAt, hContext, List.getD_eq_getElem?_getD, List.getD_eq_getElem?_getD,
    List.getElem?_append_left hInside, List.getElem?_take_of_lt hi]

/-- The name is stored when 255 bytes have been received. -/
theorem Receiving.runFilter (hReceiving : Receiving event received hook)
    (hPart : event.bytes.drop received = chunk.data ++ rest) :
    runFilter (hook.receive chunk.beyond chunk.data) hook.globals =
      (hook.receive chunk.beyond chunk.data,
        if 255 ≤ received + chunk.data.length then
          { hook.globals with
            deviceNames := Function.update hook.globals.deviceNames event.address
              (some ((event.name.take (received + chunk.data.length - 10) ++
                chunk.beyond).takeWhile (· ≠ 0))) }
        else hook.globals) := by
  obtain ⟨hContext, hLength, hSize, hFits⟩ := hReceiving.receive hPart
  by_cases hShort : received + chunk.data.length < 13
  · rw [runFilter_short (hSize ▸ hShort), if_neg (by omega)]
  · have hTotal := event.bytes_length
    have hType : (hook.receive chunk.beyond chunk.data).byteAt 0 = 0x04 :=
      byteAt_of_context hContext (by omega) (by omega)
    have hCode : (hook.receive chunk.beyond chunk.data).byteAt 1 = 0x07 :=
      byteAt_of_context hContext (by omega) (by omega)
    have hFilter : hook.globals.readFilters 0x07 = some .remoteNameRequestCompleteEvent :=
      hReceiving.filters
    simp only [BTServerFilter.runFilter, if_pos hType, hCode, hFilter,
      filterRemoteNameRequestCompleteEvent, hSize]
    by_cases hEnough : 255 ≤ received + chunk.data.length
    · have hBeyond : (hook.receive chunk.beyond chunk.data).beyond = chunk.beyond := rfl
      have hDrop : (event.bytes.take (received + chunk.data.length) ++ chunk.beyond).drop 10 =
          event.name.take (received + chunk.data.length - 10) ++ chunk.beyond := by
        rw [← event.drop_take_bytes, List.drop_append_of_le_length]
        rw [List.length_take]
        omega
      rw [if_neg (by omega), if_pos hEnough, hContext, hBeyond,
        event.address_of_take (by omega), hDrop]
    · rw [if_pos (by omega), if_neg hEnough]

/-- What is looked at then has been received, if the name has ended. -/
theorem Receiving.storing_iff (hReceiving : Receiving event received hook)
    (hPart : event.bytes.drop received = chunk.data ++ rest) :
    (∀ i ∈ storing (hook.receive chunk.beyond chunk.data) hook.globals,
        i < (hook.receive chunk.beyond chunk.data).context.length) ↔
      (255 ≤ received + chunk.data.length →
        0 ∈ event.name.take (received + chunk.data.length - 10)) := by
  obtain ⟨hContext, hLength, hSize, hFits⟩ := hReceiving.receive hPart
  have hWithin : (filterRemoteNameRequestCompleteEventAccesses
      (hook.receive chunk.beyond chunk.data) hook.globals).Within _ ↔ _ :=
    filterRemoteNameRequestCompleteEventAccesses_within_iff (hSize.trans hLength.symm).le
  rw [hSize, hContext, event.drop_take_bytes, ← hContext] at hWithin
  by_cases hEnough : 255 ≤ received + chunk.data.length
  · have hTotal := event.bytes_length
    have hType : (hook.receive chunk.beyond chunk.data).byteAt 0 = 0x04 :=
      byteAt_of_context hContext (by omega) (by omega)
    have hCode : (hook.receive chunk.beyond chunk.data).byteAt 1 = 0x07 :=
      byteAt_of_context hContext (by omega) (by omega)
    rw [storing, if_pos ⟨hType, hCode ▸ hReceiving.filters⟩]
    exact hWithin
  · -- whatever the event is taken for, no name is looked at
    refine iff_of_true ?_ fun hAbsurd => absurd hAbsurd hEnough
    unfold storing
    split_ifs
    · exact hWithin.mpr fun hAbsurd => absurd hAbsurd hEnough
    · exact fun i hi => nomatch hi

/-- The buffer is kept until the event is complete. -/
theorem Receiving.pktSize_le_iff (hReceiving : Receiving event received hook)
    (hPart : event.bytes.drop received = chunk.data ++ rest) :
    (hook.receive chunk.beyond chunk.data).pktSize ≤ received + chunk.data.length ↔
      258 ≤ received + chunk.data.length := by
  obtain ⟨hContext, hLength, hSize, hFits⟩ := hReceiving.receive hPart
  have hPos := List.length_pos_of_ne_nil chunk.nonempty
  have hTotal := event.bytes_length
  have hType : (hook.receive chunk.beyond chunk.data).byteAt 0 = 0x04 :=
    byteAt_of_context hContext (by omega) (by omega)
  rw [ReadContext.pktSize, if_pos hType]
  by_cases hHeader : 2 < received + chunk.data.length
  · have hParams : (hook.receive chunk.beyond chunk.data).byteAt 2 = 0xFF :=
      byteAt_of_context hContext hHeader (by omega)
    rw [hParams]
    rfl
  · omega

/-- The event is complete when as many bytes have arrived as its header says. -/
theorem Receiving.kept (hReceiving : Receiving event received hook)
    (hPart : event.bytes.drop received = chunk.data ++ rest) :
    (if (hook.receive chunk.beyond chunk.data).size ≥
        (hook.receive chunk.beyond chunk.data).pktSize then []
      else (hook.receive chunk.beyond chunk.data).context) =
      if received + chunk.data.length < 258 then
        event.bytes.take (received + chunk.data.length) else [] := by
  obtain ⟨hContext, -, hSize, -⟩ := hReceiving.receive hPart
  have hClear := hReceiving.pktSize_le_iff hPart
  rw [← hSize] at hClear
  by_cases hComplete : 258 ≤ received + chunk.data.length
  · rw [if_pos (hClear.mpr (hSize.symm ▸ hComplete)), if_neg (by omega)]
  · rw [if_neg fun hLe => hComplete (hSize ▸ hClear.mp hLe), if_pos (by omega)]
    exact hContext

end Part

/-! ## The parts of an event -/

/-- So much of the event has been received since the hook was between two packets. -/
structure Progress (event : NameEvent) (before : Globals) (received : Nat) (trace : AccessTrace) :
    Prop where
  context : trace.hook.context = if received < 258 then event.bytes.take received else []
  filters : trace.hook.globals.FiltersNames
  others : ∀ other, other ≠ event.address →
    trace.hook.globals.deviceNames other = before.deviceNames other
  stored : 255 ≤ received → ∃ beyond, trace.hook.globals.deviceNames event.address =
    some ((event.name.take (received - 10) ++ beyond).takeWhile (· ≠ 0))
  ended : trace.InRange → 255 ≤ received → 0 ∈ event.name.take (received - 10)

section Parts

variable {event : NameEvent} {before : Globals} {received : Nat} {trace : AccessTrace}

theorem Progress.receiving (hProgress : Progress event before received trace)
    (hFits : received < 258) : Receiving event received trace.hook :=
  ⟨hProgress.context.trans (if_pos hFits), hProgress.filters⟩

/-- One part of the event. -/
theorem Progress.readChunk (hProgress : Progress event before received trace) {chunk : Chunk}
    {rest : List UInt8} (hPart : event.bytes.drop received = chunk.data ++ rest) :
    ∃ after, trace.readChunk chunk = some after ∧
      Progress event before (received + chunk.data.length) after ∧
      (after.InRange ↔ trace.InRange ∧
        (255 ≤ received + chunk.data.length →
          0 ∈ event.name.take (received + chunk.data.length - 10))) := by
  have hFits : received < 258 := by
    have hLength := congrArg List.length hPart
    have hPos := List.length_pos_of_ne_nil chunk.nonempty
    rw [List.length_drop, event.bytes_length, List.length_append] at hLength
    omega
  have hReceiving := hProgress.receiving hFits
  have hRead := newRead_ok chunk.beyond chunk.nonempty trace.hook
  dsimp only at hRead
  rw [hReceiving.runFilter hPart] at hRead
  have hIn : (∀ access ∈ trace.accesses ++
        (storing (trace.hook.receive chunk.beyond chunk.data) trace.hook.globals).map
          fun i => (i, (trace.hook.receive chunk.beyond chunk.data).context.length),
        access.1 < access.2) ↔
      trace.InRange ∧ (255 ≤ received + chunk.data.length →
        0 ∈ event.name.take (received + chunk.data.length - 10)) := by
    rw [List.forall_mem_append, List.forall_mem_map]
    exact and_congr_right fun _ => hReceiving.storing_iff hPart
  refine ⟨_, rfl, ⟨?_, ?_, ?_, ?_, ?_⟩, hIn⟩
  · rw [hRead]
    exact hReceiving.kept hPart
  · rw [hRead]
    dsimp only
    split_ifs
    · exact hProgress.filters
    · exact hProgress.filters
  · intro other hOther
    rw [hRead]
    dsimp only
    split_ifs
    · show Function.update trace.hook.globals.deviceNames event.address _ other = _
      rw [Function.update_of_ne hOther]
      exact hProgress.others other hOther
    · exact hProgress.others other hOther
  · intro hEnough
    refine ⟨chunk.beyond, ?_⟩
    rw [hRead]
    dsimp only
    rw [if_pos hEnough]
    exact Function.update_self _ _ _
  · exact fun hInRange => (hIn.mp hInRange).2

/-- All parts of the event. -/
theorem Progress.run (hProgress : Progress event before received trace) {chunks : List Chunk}
    (hParts : event.bytes.drop received = (chunks.map Chunk.data).flatten)
    (hReceived : received ≤ 258) :
    ∃ after, Library.run AccessTrace.readChunk trace chunks = some after ∧
      Progress event before 258 after ∧
      (after.InRange ↔ trace.InRange ∧ EndsInReceived event received chunks) := by
  induction chunks generalizing received trace with
  | nil =>
      have hEnd := congrArg List.length hParts
      rw [List.length_drop, event.bytes_length] at hEnd
      obtain rfl : received = 258 := by
        have hZero : 258 - received = 0 := hEnd
        omega
      exact ⟨trace, rfl, hProgress, (and_iff_left trivial).symm⟩
  | cons chunk chunks ih =>
      rw [List.map_cons, List.flatten_cons] at hParts
      obtain ⟨next, hNext, hProgress', hIn⟩ := hProgress.readChunk hParts
      have hRest : event.bytes.drop (received + chunk.data.length) =
          (chunks.map Chunk.data).flatten := by
        rw [← List.drop_drop, hParts, List.drop_left]
      have hFits := (hProgress.receiving (by
        have hLength := congrArg List.length hParts
        have hPos := List.length_pos_of_ne_nil chunk.nonempty
        rw [List.length_drop, event.bytes_length, List.length_append] at hLength
        omega)).receive hParts
      obtain ⟨after, hRun, hLast, hAll⟩ := ih hProgress' hRest hFits.2.2.2
      refine ⟨after, ?_, hLast, ?_⟩
      · rw [run_cons, hNext]
        exact hRun
      · rw [hAll, hIn, and_assoc]
        rfl

end Parts

/-! ## Events in any state of the hook -/

/-- Reads and writes leave the filter for names in the table. -/
theorem filtersNames_of_run {descriptor : Int32} {calls : List SocketCall} {trace : AccessTrace}
    (hRun : run AccessTrace.step ⟨ReadHook.initial.newSocket 32 descriptor, []⟩ calls =
      some trace) : trace.hook.globals.FiltersNames := by
  let inv (trace : AccessTrace) : Prop := trace.hook.globals.FiltersNames
  have hStart : inv ⟨ReadHook.initial.newSocket 32 descriptor, []⟩ := rfl
  have hStep (trace : AccessTrace) (call : SocketCall) (hFilters : inv trace) :
      ∃ after, trace.step call = some after ∧ inv after := by
    cases call with
    | read beyond data hData =>
        refine ⟨_, rfl, ?_⟩
        show (trace.hook.newReadAccesses beyond data).value.2.2.globals.FiltersNames
        rw [newReadAccesses_value beyond hData, newRead_ok beyond hData]
        exact runFilter_filtersNames _ hFilters
    | write original buf hBuf => exact ⟨_, rfl, hFilters⟩
  obtain ⟨after, hAfter, hFilters⟩ := run_invariant hStep hStart calls
  obtain rfl := Option.some.inj (hAfter.symm.trans hRun)
  exact hFilters

/-- The same for any hook that is between two packets. -/
theorem captured_iff_of_filters {hook : ReadHook} (hFilters : hook.globals.FiltersNames)
    (hBetween : hook.context = []) (event : NameEvent) {chunks : List Chunk}
    (hCut : (chunks.map Chunk.data).flatten = event.bytes) :
    ∃ after, run AccessTrace.readChunk ⟨hook, []⟩ chunks = some after ∧
      (Captured event hook.globals after ↔ EndsInReceived event 0 chunks) := by
  have hStart : Progress event hook.globals 0 ⟨hook, []⟩ :=
    { context := hBetween
      filters := hFilters
      others := fun _ _ => rfl
      stored := fun hEnough => absurd hEnough (by decide)
      ended := fun _ hEnough => absurd hEnough (by decide) }
  obtain ⟨after, hAfter, hProgress, hIn⟩ := hStart.run (by rw [hCut]; rfl) (Nat.zero_le _)
  have hAll : after.InRange ↔ EndsInReceived event 0 chunks :=
    hIn.trans (and_iff_right fun access hAccess => nomatch hAccess)
  refine ⟨after, hAfter, fun hCaptured => hAll.mp hCaptured.inside, fun hEnds => ?_⟩
  have hWhole : event.name.take (258 - 10) = event.name :=
    List.take_of_length_le event.name_length.le
  obtain ⟨beyond, hStored⟩ := hProgress.stored (by decide)
  have hEnded := hProgress.ended (hAll.mpr hEnds) (by decide)
  rw [hWhole] at hStored hEnded
  refine ⟨hAll.mpr hEnds, ?_, hProgress.others⟩
  rw [hStored, takeWhile_append_of_mem hEnded]

/-- A Remote Name Request Complete event that begins between two packets and is cut
in any way is captured if and only if its name has ended in what has been received
whenever it is looked at. -/
theorem name_captured_iff {descriptor : Int32} {calls : List SocketCall} {trace : AccessTrace}
    (hRun : run AccessTrace.step ⟨ReadHook.initial.newSocket 32 descriptor, []⟩ calls =
      some trace)
    (hBetween : trace.hook.context = []) (event : NameEvent) {chunks : List Chunk}
    (hCut : (chunks.map Chunk.data).flatten = event.bytes) :
    ∃ after, run AccessTrace.readChunk ⟨trace.hook, []⟩ chunks = some after ∧
      (Captured event trace.hook.globals after ↔ EndsInReceived event 0 chunks) :=
  captured_iff_of_filters (filtersNames_of_run hRun) hBetween event hCut

/-- An event about the device 1:2:3:4:5:6, whose name is so many letters A and then
NULs. -/
def lettersThenNuls (letters : Nat) (hLetters : letters ≤ 248) : NameEvent where
  status := 0
  address := [1, 2, 3, 4, 5, 6]
  name := List.replicate letters 0x41 ++ List.replicate (248 - letters) 0
  address_length := rfl
  name_length := by
    rw [List.length_append, List.length_replicate, List.length_replicate]
    omega

/-- The event in one read, or cut behind its first 255 bytes. -/
def NameEvent.whole (event : NameEvent) : List Chunk :=
  [⟨event.bytes, [0x42], List.cons_ne_nil _ _⟩]

def NameEvent.cut (event : NameEvent) : List Chunk :=
  [⟨event.bytes.take 255, [0x42], List.cons_ne_nil _ _⟩,
    ⟨event.bytes.drop 255, [0x42],
      List.ne_nil_of_length_pos (by rw [List.length_drop, event.bytes_length]; decide)⟩]

theorem NameEvent.whole_flatten (event : NameEvent) :
    (event.whole.map Chunk.data).flatten = event.bytes := by
  simp [whole]

theorem NameEvent.cut_flatten (event : NameEvent) :
    (event.cut.map Chunk.data).flatten = event.bytes := by
  simp [cut]

theorem name_captured_short :
    ∃ after, run AccessTrace.readChunk ⟨ReadHook.initial.newSocket 32 5, []⟩
        (lettersThenNuls 19 (by decide)).cut = some after ∧
      Captured (lettersThenNuls 19 (by decide))
        (ReadHook.initial.newSocket 32 5).globals after := by
  have hRun : run AccessTrace.step ⟨ReadHook.initial.newSocket 32 5, []⟩ [] =
    some ⟨ReadHook.initial.newSocket 32 5, []⟩ := rfl
  obtain ⟨after, hAfter, hCaptured⟩ := name_captured_iff hRun rfl
    (lettersThenNuls 19 (by decide)) (NameEvent.cut_flatten _)
  refine ⟨after, hAfter, hCaptured.mpr ⟨fun _ => by decide +kernel, fun _ => ?_, trivial⟩⟩
  decide +kernel

/-- A name of 248 letters goes on behind the event; one of 247 letters does so when
the end of the event has not been received. -/
theorem name_not_captured :
    (∃ after, run AccessTrace.readChunk ⟨ReadHook.initial.newSocket 32 5, []⟩
        (lettersThenNuls 248 le_rfl).whole = some after ∧
      ¬ Captured (lettersThenNuls 248 le_rfl) (ReadHook.initial.newSocket 32 5).globals after) ∧
    ∃ after, run AccessTrace.readChunk ⟨ReadHook.initial.newSocket 32 5, []⟩
        (lettersThenNuls 247 (by decide)).cut = some after ∧
      ¬ Captured (lettersThenNuls 247 (by decide))
        (ReadHook.initial.newSocket 32 5).globals after := by
  have hFilters : (ReadHook.initial.newSocket 32 5).globals.FiltersNames := rfl
  constructor
  · obtain ⟨after, hAfter, hCaptured⟩ := captured_iff_of_filters hFilters rfl
      (lettersThenNuls 248 le_rfl) (NameEvent.whole_flatten _)
    refine ⟨after, hAfter, fun hBoth => ?_⟩
    exact absurd ((hCaptured.mp hBoth).1 (by decide +kernel)) (by decide +kernel)
  · obtain ⟨after, hAfter, hCaptured⟩ := captured_iff_of_filters hFilters rfl
      (lettersThenNuls 247 (by decide)) (NameEvent.cut_flatten _)
    refine ⟨after, hAfter, fun hBoth => ?_⟩
    exact absurd ((hCaptured.mp hBoth).1 (by decide +kernel)) (by decide +kernel)

end BTServerFilter
end MFiWrapper
