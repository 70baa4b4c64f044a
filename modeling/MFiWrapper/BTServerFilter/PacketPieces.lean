import MFiWrapper.BTServerFilter.NameCapture
import MFiWrapper.BTServerFilter.PairingRuns
import MFiWrapper.BTServerFilter.ReadRuns

/-!
# Packets in pieces

The caller may read a packet in pieces of any size and write commands in between.  As
long as no read goes beyond the packet it begins in, the hook knows at every moment what
it would know if every packet, and what was received of the last one, had been read in
one piece.
-/

namespace MFiWrapper
namespace BTServerFilter

open Library

/-! ## What the filters note -/

/-- What the filter for an event makes of the static variables. -/
def filterGlobals (aContext : ReadContext) (globals : Globals) : Option ReadFilter → Globals
  | some .remoteNameRequestCompleteEvent => filterRemoteNameRequestCompleteEvent aContext globals
  | some .commandCompleteEvent => filterCommandCompleteEvent aContext globals
  | some .inquiryResultEventGeneral | none => globals

theorem runFilter_snd (aContext : ReadContext) (globals : Globals) :
    (runFilter aContext globals).2 =
      if aContext.byteAt 0 = 0x04 then
        filterGlobals aContext globals (globals.readFilters (aContext.byteAt 1))
      else globals := by
  unfold runFilter
  split_ifs
  · cases globals.readFilters (aContext.byteAt 1) with
    | none => rfl
    | some filter => cases filter <;> rfl
  · rfl

/-- The static variables once the filters have seen a buffer. -/
def noted (beyond context : List UInt8) (globals : Globals) : Globals :=
  (runFilter ⟨[], 0, context.length % 2 ^ 32, context, beyond, []⟩ globals).2

/-- The filters do not look at the buffer of the caller. -/
theorem runFilter_noted (beyond data : List UInt8) (hook : ReadHook) (globals : Globals) :
    (runFilter (hook.receive beyond data) globals).2 =
      noted beyond (hook.context ++ data) globals := by
  rw [noted, runFilter_snd, runFilter_snd]
  rfl

section Noted

variable {packet : Packet} {beyond beyond' : List UInt8} {globals : Globals} {k k' : Nat}

theorem noted_short {context : List UInt8} (hShort : context.length < 13) (globals : Globals) :
    noted beyond context globals = globals := by
  rw [noted, runFilter_short (lt_of_le_of_lt (Nat.mod_le _ _) hShort)]

theorem noted_nil (globals : Globals) : noted beyond [] globals = globals :=
  noted_short (by simp) globals

/-- A byte of a part of a packet. -/
theorem byteAt_take {bytes : List UInt8} {i n : Nat} (hi : i < n) (hn : n ≤ bytes.length)
    (size : Nat) :
    (⟨[], 0, size, bytes.take n, beyond, []⟩ : ReadContext).byteAt i = bytes.getD i 0 :=
  byteAt_of_context rfl hi hn

theorem noted_acl {handleLow handleHigh : UInt8} {payload : List UInt8}
    {hLength : payload.length ≤ 65535}
    (hk : k ≤ (Packet.acl handleLow handleHigh payload hLength).bytes.length) :
    noted beyond ((Packet.acl handleLow handleHigh payload hLength).bytes.take k) globals =
      globals := by
  by_cases hShort : k < 13
  · exact noted_short (lt_of_le_of_lt (List.length_take_le _ _) hShort) globals
  · rw [noted, runFilter_snd, byteAt_take (show 0 < k by omega) hk]
    rfl

theorem noted_acl_whole {handleLow handleHigh : UInt8} {payload : List UInt8}
    {hLength : payload.length ≤ 65535} :
    noted beyond (Packet.acl handleLow handleHigh payload hLength).bytes globals = globals := by
  have hQuiet : noted beyond ((Packet.acl handleLow handleHigh payload hLength).bytes.take _)
      globals = globals := noted_acl le_rfl
  rwa [List.take_length] at hQuiet

/-- Enough of an event to call its filter. -/
theorem noted_event {code : UInt8} {params : List UInt8} {hLength : params.length ≤ 255}
    {hResponse : HoldsResponse code params} (hEnough : 13 ≤ k)
    (hk : k ≤ (Packet.event code params hLength hResponse).bytes.length) :
    noted beyond ((Packet.event code params hLength hResponse).bytes.take k) globals =
      filterGlobals ⟨[], 0, k, (Packet.event code params hLength hResponse).bytes.take k,
        beyond, []⟩ globals (globals.readFilters code) := by
  have hFit := (Packet.event code params hLength hResponse).length_le
  have hSize : ((Packet.event code params hLength hResponse).bytes.take k).length % 2 ^ 32 =
      k := by
    rw [List.length_take, Nat.min_eq_left hk, Nat.mod_eq_of_lt (by omega)]
  rw [noted, hSize, runFilter_snd, byteAt_take (show 0 < k by omega) hk,
    byteAt_take (show 1 < k by omega) hk]
  rfl

/-- The address in an event is the same whenever its name is stored. -/
theorem address_take {bytes : List UInt8} (hk : 255 ≤ k) (hBytes : k ≤ bytes.length) :
    ((bytes.take k ++ beyond).drop 4).take 6 = (bytes.drop 4).take 6 := by
  rw [List.drop_append_of_le_length (by rw [List.length_take]; omega),
    List.take_append_of_le_length (by rw [List.length_drop, List.length_take]; omega),
    List.drop_take, List.take_take]
  congr 1
  omega

/-- The name that is stored last counts. -/
theorem filterRemoteName_again {bytes : List UInt8} (hLe : k ≤ k') (hk : k' ≤ bytes.length) :
    filterRemoteNameRequestCompleteEvent ⟨[], 0, k', bytes.take k', beyond', []⟩
        (filterRemoteNameRequestCompleteEvent ⟨[], 0, k, bytes.take k, beyond, []⟩ globals) =
      filterRemoteNameRequestCompleteEvent ⟨[], 0, k', bytes.take k', beyond', []⟩ globals := by
  simp only [filterRemoteNameRequestCompleteEvent]
  split_ifs with hLater hEarlier hEarlier
  · rfl
  · exact absurd (show k < 255 by omega) hEarlier
  · rfl
  · simp only [address_take (show 255 ≤ k by omega) (hLe.trans hk),
      address_take (show 255 ≤ k' by omega) hk, Function.update_idem]

/-- The local address is the same whenever it is stored. -/
theorem filterCommand_again {bytes : List UInt8} (hEnough : 13 ≤ k) (hLe : k ≤ k')
    (hk : k' ≤ bytes.length) (globals : Globals) :
    filterCommandCompleteEvent ⟨[], 0, k, bytes.take k, beyond, []⟩ globals =
      filterCommandCompleteEvent ⟨[], 0, k', bytes.take k', beyond', []⟩ globals := by
  have hByte {i : Nat} (hi : i < 13) :
      (⟨[], 0, k, bytes.take k, beyond, []⟩ : ReadContext).byteAt i =
        (⟨[], 0, k', bytes.take k', beyond', []⟩ : ReadContext).byteAt i := by
    rw [byteAt_take (by omega) (hLe.trans hk), byteAt_take (by omega) hk]
  have hAddress : ((List.range 6).map fun i =>
        (⟨[], 0, k, bytes.take k, beyond, []⟩ : ReadContext).byteAt (7 + i)) =
      (List.range 6).map fun i =>
        (⟨[], 0, k', bytes.take k', beyond', []⟩ : ReadContext).byteAt (7 + i) :=
    List.map_congr_left fun i hi => hByte (by have := List.mem_range.mp hi; omega)
  have hSizes : k < 13 ↔ k' < 13 := by omega
  simp only [filterCommandCompleteEvent, hByte (show 4 < 13 by omega),
    hByte (show 5 < 13 by omega), hAddress, hSizes]

/-- The filter of Command Complete has nothing more to do once it has run, whether it is
still in the table or not. -/
theorem filterCommand_idem {aContext : ReadContext} {code : UInt8}
    (hFilter : globals.readFilters code = some .commandCompleteEvent) :
    filterGlobals aContext (filterCommandCompleteEvent aContext globals)
        ((filterCommandCompleteEvent aContext globals).readFilters code) =
      filterCommandCompleteEvent aContext globals := by
  unfold filterCommandCompleteEvent
  split_ifs with hSkip
  · rw [hFilter]
    exact if_pos hSkip
  · show filterGlobals aContext _ (Function.update globals.readFilters 0x0E none code) = _
    by_cases hCode : code = 0x0E
    · rw [hCode, Function.update_self]
      rfl
    · rw [Function.update_of_ne hCode, hFilter]
      show filterCommandCompleteEvent aContext _ = _
      rw [filterCommandCompleteEvent, if_neg hSkip, Function.update_idem]

/-- A packet that is not an inquiry result is never patched. -/
theorem seen_of_not_inquiry {code : UInt8} {params : List UInt8} {hLength : params.length ≤ 255}
    {hResponse : HoldsResponse code params} (hOther : isInquiryResult code ≠ true) (k : Nat) :
    (Packet.event code params hLength hResponse).seen k = .event code params hLength hResponse :=
  if_neg fun hPatched => hOther (Packet.isPeripheralResult_event.mp hPatched.1).1

/-- A patched event is an event of the same code. -/
theorem seen_event {code : UInt8} {params : List UInt8} (hLength : params.length ≤ 255)
    (hResponse : HoldsResponse code params) (k : Nat) :
    ∃ params' hLength' hResponse', (Packet.event code params hLength hResponse).seen k =
      .event code params' hLength' hResponse' := by
  rcases (Packet.event code params hLength hResponse).seen_eq_or k with hSeen | hSeen
  · exact ⟨params, hLength, hResponse, hSeen⟩
  · rw [hSeen, Packet.asKeyboard]
    split_ifs
    · exact ⟨params.set 9 0x40, by simpa using hLength, by
        simpa [HoldsResponse, List.getElem?_set] using hResponse, rfl⟩
    · exact ⟨params, hLength, hResponse, rfl⟩

/-- Events that nothing is noted of. -/
theorem noted_quiet {code : UInt8} {params : List UInt8} {hLength : params.length ≤ 255}
    {hResponse : HoldsResponse code params}
    (hQuiet : ∀ aContext, filterGlobals aContext globals (globals.readFilters code) = globals)
    (hEnough : 13 ≤ k)
    (hk : k ≤ (Packet.event code params hLength hResponse).bytes.length) :
    noted beyond ((Packet.event code params hLength hResponse).bytes.take k) globals =
      globals := by
  rw [noted_event hEnough hk, hQuiet]

/-- What was noted of a part of a packet is noted again with more of it. -/
theorem noted_again (hFilters : globals.FiltersInquiries) (hLe : k ≤ k')
    (hk : k' ≤ packet.bytes.length) :
    noted beyond' ((packet.seen k).bytes.take k')
        (noted beyond (packet.bytes.take k) globals) =
      noted beyond' (packet.bytes.take k') globals := by
  by_cases hShort : k < 13
  · -- the filters have not looked at the part, and it is not patched
    rw [noted_short (lt_of_le_of_lt (List.length_take_le _ _) hShort), Packet.seen,
      if_neg fun hPatched => by omega]
  have hEnough : 13 ≤ k := not_lt.mp hShort
  cases packet with
  | acl handleLow handleHigh payload hLength =>
      rw [noted_acl (hLe.trans hk)]
      rfl
  | event code params hLength hResponse =>
      have hQuiet (hSame : ∀ aContext,
          filterGlobals aContext globals (globals.readFilters code) = globals) :
          noted beyond' (((Packet.event code params hLength hResponse).seen k).bytes.take k')
              (noted beyond ((Packet.event code params hLength hResponse).bytes.take k) globals) =
            noted beyond' ((Packet.event code params hLength hResponse).bytes.take k') globals := by
        obtain ⟨params', hLength', hResponse', hSeen⟩ :=
          seen_event hLength hResponse k
        have hk' : k' ≤ (Packet.event code params' hLength' hResponse').bytes.length := by
          rwa [← hSeen, Packet.seen_length]
        rw [hSeen, noted_quiet hSame hEnough (hLe.trans hk),
          noted_quiet hSame (hEnough.trans hLe) hk', noted_quiet hSame (hEnough.trans hLe) hk]
      cases hFilter : globals.readFilters code with
      | none => exact hQuiet fun _ => by rw [hFilter]; rfl
      | some filter =>
          cases filter with
          | inquiryResultEventGeneral => exact hQuiet fun _ => by rw [hFilter]; rfl
          | remoteNameRequestCompleteEvent =>
              rw [seen_of_not_inquiry (mt (hFilters code).mpr (by simp [hFilter])),
                noted_event hEnough (hLe.trans hk), noted_event (hEnough.trans hLe) hk,
                noted_event (hEnough.trans hLe) hk, hFilter]
              have hKept : (filterRemoteNameRequestCompleteEvent
                  ⟨[], 0, k, (Packet.event code params hLength hResponse).bytes.take k, beyond, []⟩
                  globals).readFilters = globals.readFilters := by
                unfold filterRemoteNameRequestCompleteEvent
                split_ifs <;> rfl
              simp only [filterGlobals, hKept, hFilter]
              exact filterRemoteName_again hLe hk
          | commandCompleteEvent =>
              rw [seen_of_not_inquiry (mt (hFilters code).mpr (by simp [hFilter])),
                noted_event hEnough (hLe.trans hk), noted_event (hEnough.trans hLe) hk,
                noted_event (hEnough.trans hLe) hk, hFilter]
              simp only [filterGlobals]
              rw [filterCommand_again hEnough hLe hk]
              exact filterCommand_idem hFilter

end Noted

/-! ## Reading in one piece -/

namespace ReadHook

/-- The hook after it has read the bytes in one piece. -/
def readWhole (hook : ReadHook) (beyond data : List UInt8) : ReadHook :=
  (hook.newRead beyond hook.globals.bluetoothSocket (.ok data)).2.2

/-- The hook after whole packets, each with what followed it in memory. -/
def readPackets (hook : ReadHook) (packets : List (Packet × List UInt8)) : ReadHook :=
  packets.foldl (fun hook read => hook.readWhole read.2 read.1.bytes) hook

variable {hook : ReadHook} {packet : Packet}

theorem readWhole_nil (hook : ReadHook) (beyond : List UInt8) :
    hook.readWhole beyond [] = hook := by
  simp [readWhole, newRead]

theorem readWhole_globals (hEmpty : hook.context = []) (beyond data : List UInt8) :
    (hook.readWhole beyond data).globals = noted beyond data hook.globals := by
  by_cases hData : data = []
  · subst hData
    rw [noted_nil, readWhole_nil]
  · have hNoted := runFilter_noted beyond data hook hook.globals
    rw [hEmpty, List.nil_append] at hNoted
    rw [readWhole, newRead_ok beyond hData]
    exact hNoted

/-- A part of a packet is kept as it was seen; a whole one is not kept. -/
theorem readWhole_context (hEmpty : hook.context = []) (hFilters : hook.globals.FiltersInquiries)
    (beyond : List UInt8) {k : Nat} (hk : k ≤ packet.bytes.length) :
    (hook.readWhole beyond (packet.bytes.take k)).context =
      if packet.bytes.length ≤ k then [] else (packet.seen k).bytes.take k := by
  rcases k.eq_zero_or_pos with rfl | hPos
  · have hShort : ¬ packet.bytes.length ≤ 0 := packet.length_pos.not_ge
    rw [if_neg hShort, List.take_zero, List.take_zero, readWhole_nil, hEmpty]
  · have hLength : (packet.bytes.take k).length = k := by
      rw [List.length_take, Nat.min_eq_left hk]
    have hNonempty : packet.bytes.take k ≠ [] := by
      rw [← List.length_pos_iff, hLength]
      exact hPos
    have hBuffer : hook.context = (packet.seen 0).bytes.take 0 := by
      rw [hEmpty, List.take_zero]
    have hPrefix : packet.bytes.take k <+: packet.bytes.drop 0 ++ [] := by
      rw [List.drop_zero, List.append_nil]
      exact List.take_prefix _ _
    have hFit := packet.length_le
    obtain ⟨data', outside, hook', hRead, -, hContext, -⟩ :=
      newRead_of_seen beyond hBuffer packet.length_pos hPrefix hNonempty
        (by rw [hLength]; omega) (by simp) hFilters
    rw [readWhole, hRead]
    rwa [Nat.zero_add, hLength] at hContext

end ReadHook

/-- The hook is between two packets. -/
structure Waits (descriptor : Int32) (hook : ReadHook) : Prop where
  context : hook.context = []
  filters : hook.globals.FiltersInquiries
  socket : hook.globals.bluetoothSocket = descriptor

theorem Waits.readWhole {descriptor : Int32} {hook : ReadHook} (hWaits : Waits descriptor hook)
    (beyond : List UInt8) (packet : Packet) :
    Waits descriptor (hook.readWhole beyond packet.bytes) := by
  obtain ⟨hContext, hFilters, hSocket⟩ := hWaits
  have hKept := runFilter_globals
    ⟨[], 0, packet.bytes.length % 2 ^ 32, packet.bytes, beyond, []⟩ hFilters
  have hGlobals := ReadHook.readWhole_globals hContext beyond packet.bytes
  have hCleared := ReadHook.readWhole_context hContext hFilters beyond (le_refl packet.bytes.length)
  rw [List.take_length, if_pos le_rfl] at hCleared
  refine ⟨hCleared, ?_, ?_⟩
  · rw [hGlobals]
    exact hKept.1
  · rw [hGlobals]
    exact hKept.2.trans hSocket

/-! ## Runs -/

inductive SocketAction
  | read (call : ReadCall)
  /-- A read that returns no bytes, or one on another descriptor. -/
  | readOther (fildes : Int32) (original : Except Int (List UInt8))
  | write (original : OriginalWrite) (fildes : Int32) (buf : List UInt8)

/-- A write, and what the hook made of it. -/
structure Reply where
  original : OriginalWrite
  fildes : Int32
  buf : List UInt8
  /-- The packets that had been received to their end, each with what followed its last
  piece in memory. -/
  completed : List (Packet × List UInt8)
  /-- What had been received of the next one, and what followed its last piece. -/
  part : List UInt8
  beyond : List UInt8
  answer : Int × List (List UInt8)

/-- The reads with what they have completed, and the writes. -/
structure PieceTrace where
  reads : Trace
  completed : List (Packet × List UInt8)
  /-- What followed the last piece in memory. -/
  beyond : List UInt8
  replies : List Reply

namespace PieceTrace

def start (descriptor : Int32) : PieceTrace := ⟨.start descriptor, [], [], []⟩

/-- What has been received of the packet being received. -/
def part (packets : List Packet) (trace : PieceTrace) : List UInt8 :=
  receivedPart id packets trace.reads.received

/-- The packet that a read completes. -/
def completes (packets : List Packet) (trace : PieceTrace) (call : ReadCall) : Option Packet :=
  match locate Packet.bytes packets trace.reads.received with
  | none => none
  | some (packet, k) =>
      if packet.bytes.length ≤ k + (trace.reads.chunk packets call).length then some packet
      else none

/-- What a read leaves behind, when the hook has done so much. -/
def afterRead (packets : List Packet) (trace : PieceTrace) (call : ReadCall) (reads : Trace) :
    PieceTrace :=
  { trace with
    reads := reads
    completed := trace.completed ++
      (trace.completes packets call).toList.map fun packet => (packet, call.beyond)
    beyond := call.beyond }

def step (packets : List Packet) (trace : PieceTrace) : SocketAction → Option PieceTrace
  | .read call => (trace.reads.step packets call).map (trace.afterRead packets call)
  | .readOther fildes original =>
      some { trace with reads :=
        { trace.reads with hook := (trace.reads.hook.newRead [] fildes original).2.2 } }
  | .write original fildes buf =>
      some { trace with replies := trace.replies ++
        [{ original := original
           fildes := fildes
           buf := buf
           completed := trace.completed
           part := trace.part packets
           beyond := trace.beyond
           answer := trace.reads.hook.newWrite original fildes buf }] }

end PieceTrace

/-- A read does not go beyond the packet it begins in; another read returns no bytes or is on
another descriptor. -/
def InPackets (packets : List Packet) (trace : PieceTrace) : SocketAction → Prop
  | .read call => ∀ packet k, locate Packet.bytes packets trace.reads.received = some (packet, k) →
      k + (trace.reads.chunk packets call).length ≤ packet.bytes.length
  | .readOther fildes original =>
      fildes ≠ trace.reads.hook.globals.bluetoothSocket ∨ bytesOf original = []
  | .write _ _ _ => True

instance InPackets.decidable (packets : List Packet) (trace : PieceTrace) :
    ∀ action, Decidable (InPackets packets trace action)
  | .read call =>
      match hLocate : locate Packet.bytes packets trace.reads.received with
      | none => .isTrue fun _ _ h => nomatch hLocate.symm.trans h
      | some (packet, k) =>
          decidable_of_iff
            (k + (trace.reads.chunk packets call).length ≤ packet.bytes.length)
            ⟨fun hWithin packet' k' h => by
                obtain ⟨rfl, rfl⟩ := Prod.mk.inj (Option.some.inj (hLocate.symm.trans h))
                exact hWithin,
              fun hIn => hIn packet k hLocate⟩
  | .readOther fildes original =>
      inferInstanceAs (Decidable (fildes ≠ trace.reads.hook.globals.bluetoothSocket ∨
        bytesOf original = []))
  | .write _ _ _ => .isTrue trivial

/-! ## Where the reads are -/

/-- So many bytes have been received: the completed packets and a part of the next one. -/
inductive Place (packets completed : List Packet) (received : Nat) : Prop
  | atEnd (hPackets : completed = packets)
      (hReceived : received = (stream Packet.bytes completed).length)
  | inside {packet : Packet} {after : List Packet} {k : Nat}
      (hPackets : packets = completed ++ packet :: after)
      (hReceived : received = (stream Packet.bytes completed).length + k)
      (hk : k < packet.bytes.length)

variable {packets completed : List Packet} {received : Nat} {trace : PieceTrace}
  {descriptor : Int32}

/-- The position behind some packets. -/
theorem Place.behind (hPrefix : completed <+: packets)
    (hReceived : received = (stream Packet.bytes completed).length) :
    Place packets completed received := by
  obtain ⟨rest, rfl⟩ := hPrefix
  cases rest with
  | nil => exact .atEnd (List.append_nil _).symm hReceived
  | cons packet after => exact .inside rfl hReceived packet.length_pos

theorem receivedPart_inside (before after : List Packet) {packet : Packet} {k : Nat}
    (hk : k < packet.bytes.length) :
    receivedPart id (before ++ packet :: after) ((stream Packet.bytes before).length + k) =
      packet.bytes.take k := by
  rw [receivedPart, locate_inside hk]
  rfl

/-- What has been received, packet by packet. -/
theorem Place.taken (hPlace : Place packets completed received) :
    stream Packet.bytes completed ++ receivedPart id packets received =
      (stream Packet.bytes packets).take received := by
  cases hPlace with
  | atEnd hPackets hReceived =>
      have hNone : locate Packet.bytes packets received = none :=
        locate_eq_none_iff.mpr (by rw [hReceived, hPackets])
      rw [receivedPart, hNone, List.append_nil, hReceived, hPackets, List.take_length]
  | @inside packet after k hPackets hReceived hk =>
      subst hPackets hReceived
      rw [receivedPart_inside _ after hk, stream_append, List.take_length_add_append, stream_cons,
        List.take_append_of_le_length hk.le]

theorem locate_zero (packets : List Packet) :
    locate Packet.bytes packets 0 = packets.head?.map (·, 0) := by
  cases packets with
  | nil => rfl
  | cons packet after => exact if_pos packet.length_pos

/-- Nothing has been received of the packet behind some packets. -/
theorem receivedPart_behind (before after : List Packet) :
    receivedPart id (before ++ after) (stream Packet.bytes before).length = [] := by
  have hLocate : locate Packet.bytes (before ++ after) (stream Packet.bytes before).length =
      after.head?.map (·, 0) := by
    rw [← locate_zero, ← locate_append before after 0, Nat.add_zero]
  rw [receivedPart, hLocate]
  cases after with
  | nil => rfl
  | cons packet after => rfl

/-- A read inside a packet ends at the end of the packet at the latest. -/
theorem InPackets.endsAtBoundary {call : ReadCall} (hIn : InPackets packets trace (.read call)) :
    EndsAtBoundary packets trace.reads call := by
  intro packet k hLocate hComplete next k' hLocate'
  have hWithin := hIn packet k hLocate
  obtain ⟨before, after, rfl, hReceived, -⟩ := exists_of_locate hLocate
  have hBehind : trace.reads.received +
      (trace.reads.chunk (before ++ packet :: after) call).length =
        (stream Packet.bytes (before ++ [packet])).length + 0 := by
    rw [stream_append, List.length_append, stream_cons, stream_nil, List.append_nil, hReceived]
    omega
  rw [hBehind, ← List.singleton_append, ← List.append_assoc, locate_append, locate_zero] at hLocate'
  obtain ⟨first, -, hSame⟩ := Option.map_eq_some_iff.mp hLocate'
  exact (congrArg Prod.snd hSame).symm

/-! ## What the hook knows -/

/-- The hook after the completed packets, each read in one piece. -/
def PieceTrace.base (descriptor : Int32) (trace : PieceTrace) : ReadHook :=
  (ReadHook.initial.newSocket 32 descriptor).readPackets trace.completed

/-- The hook that has read in one piece what had been received when the write was made. -/
def Reply.hook (descriptor : Int32) (reply : Reply) : ReadHook :=
  ((ReadHook.initial.newSocket 32 descriptor).readPackets reply.completed).readWhole reply.beyond
    reply.part

theorem waits_base (descriptor : Int32) (completed : List (Packet × List UInt8)) :
    Waits descriptor ((ReadHook.initial.newSocket 32 descriptor).readPackets completed) := by
  have hStart : Waits descriptor (ReadHook.initial.newSocket 32 descriptor) :=
    ⟨rfl, (inv_start [] descriptor).filters, rfl⟩
  induction completed using List.reverseRecOn with
  | nil => exact hStart
  | append_singleton completed read ih =>
      rw [ReadHook.readPackets, List.foldl_append]
      exact ih.readWhole read.2 read.1

/-- A write was made with packets of the stream received, and answered as if they had been
read in one piece. -/
structure Reply.Answered (packets : List Packet) (descriptor : Int32) (reply : Reply) : Prop where
  completed : reply.completed.map Prod.fst <+: packets
  answer : reply.answer =
    (reply.hook descriptor).newWrite reply.original reply.fildes reply.buf

/-- The pieces do not matter. -/
structure InPieces (packets : List Packet) (descriptor : Int32) (trace : PieceTrace) : Prop where
  inv : Inv packets trace.reads
  place : Place packets (trace.completed.map Prod.fst) trace.reads.received
  knows : trace.reads.hook.globals =
    noted trace.beyond (trace.part packets) (trace.base descriptor).globals
  replies : ∀ reply ∈ trace.replies, reply.Answered packets descriptor

theorem inPieces_start (packets : List Packet) (descriptor : Int32) :
    InPieces packets descriptor (.start descriptor) where
  inv := inv_start packets descriptor
  place := .behind List.nil_prefix rfl
  knows := by
    have hPart : (PieceTrace.start descriptor).part packets = [] := receivedPart_behind [] packets
    rw [hPart, noted_nil]
    rfl
  replies := fun _ hReply => nomatch hReply

theorem PieceTrace.waits (descriptor : Int32) (trace : PieceTrace) :
    Waits descriptor (trace.base descriptor) := waits_base descriptor trace.completed

theorem InPieces.socket (hPieces : InPieces packets descriptor trace) :
    trace.reads.hook.globals.bluetoothSocket = descriptor := by
  have hWaits := trace.waits descriptor
  rw [hPieces.knows]
  exact (runFilter_globals _ hWaits.filters).2.trans hWaits.socket

/-- What a read inside a packet adds to the buffer, and what is noted of it. -/
theorem InPieces.readInside (hPieces : InPieces packets descriptor trace) {packet : Packet}
    {after : List Packet} {k : Nat}
    (hPackets : packets = trace.completed.map Prod.fst ++ packet :: after)
    (hReceived : trace.reads.received =
      (stream Packet.bytes (trace.completed.map Prod.fst)).length + k)
    (hk : k < packet.bytes.length) {call : ReadCall}
    (hIn : InPackets packets trace (.read call)) :
    (trace.reads.hook.readWhole call.beyond (trace.reads.chunk packets call)).globals =
      noted call.beyond (packet.bytes.take (k + (trace.reads.chunk packets call).length))
        (trace.base descriptor).globals := by
  have hLocate : locate Packet.bytes packets trace.reads.received = some (packet, k) := by
    rw [hPackets, hReceived, locate_inside hk]
  have hWithin := hIn packet k hLocate
  have hBuffer : trace.reads.hook.context = (packet.seen k).bytes.take k := by
    rw [hPieces.inv.buffer, held, hLocate]
  have hPart : trace.part packets = packet.bytes.take k := by
    rw [PieceTrace.part, receivedPart, hLocate]
    rfl
  subst hPackets
  obtain ⟨hData, hNonempty, -⟩ := chunk_inside hReceived hk call
  generalize trace.reads.chunk _ call = data at hWithin hData hNonempty ⊢
  have hTake : data = (packet.bytes.drop k).take data.length := by
    have hTake := List.prefix_iff_eq_take.mp hData
    rwa [List.take_append_of_le_length (by rw [List.length_drop]; omega)] at hTake
  have hContext : trace.reads.hook.context ++ data =
      (packet.seen k).bytes.take (k + data.length) := by
    rw [hBuffer, List.take_add, packet.seen_drop k, ← hTake]
  rw [ReadHook.readWhole, newRead_ok call.beyond hNonempty]
  show (runFilter _ trace.reads.hook.globals).2 = _
  rw [runFilter_noted, hContext, hPieces.knows, hPart]
  exact noted_again (trace.waits descriptor).filters (Nat.le_add_right _ _) hWithin

section Read

variable {call : ReadCall} {reads : Trace}

/-- At the end of the stream nothing is left to read. -/
theorem InPieces.readAtEnd (hPieces : InPieces packets descriptor trace)
    (hNone : locate Packet.bytes packets trace.reads.received = none) (hInv : Inv packets reads)
    (hReceived : reads.received = trace.reads.received)
    (hHook : reads.hook = trace.reads.hook.readWhole call.beyond []) :
    InPieces packets descriptor (trace.afterRead packets call reads) := by
  have hCompletes : trace.completes packets call = none := by
    rw [PieceTrace.completes, hNone]
  have hSame : trace.afterRead packets call reads =
      { trace with reads := reads, beyond := call.beyond } := by
    rw [PieceTrace.afterRead, hCompletes]
    simp
  have hPart : receivedPart id packets trace.reads.received = [] := by
    rw [receivedPart, hNone]
  have hKnows := hPieces.knows
  rw [PieceTrace.part, hPart, noted_nil] at hKnows
  rw [hSame]
  refine ⟨hInv, ?_, ?_, hPieces.replies⟩
  · rw [hReceived]
    exact hPieces.place
  · show reads.hook.globals = noted call.beyond (receivedPart id packets reads.received) _
    rw [hHook, ReadHook.readWhole_nil, hReceived, hPart, noted_nil]
    exact hKnows

/-- The read completes the packet. -/
theorem InPieces.readLast (hPieces : InPieces packets descriptor trace) {packet : Packet}
    {after : List Packet} (hPackets : packets = trace.completed.map Prod.fst ++ packet :: after)
    (hCompletes : trace.completes packets call = some packet) (hInv : Inv packets reads)
    (hReceived : reads.received =
      (stream Packet.bytes (trace.completed.map Prod.fst ++ [packet])).length)
    (hKnows : reads.hook.globals =
      noted call.beyond packet.bytes (trace.base descriptor).globals) :
    InPieces packets descriptor (trace.afterRead packets call reads) := by
  have hSplit : packets = (trace.completed.map Prod.fst ++ [packet]) ++ after := by
    rw [hPackets, List.append_assoc, List.singleton_append]
  have hPart : receivedPart id packets reads.received = [] := by
    rw [hReceived, hSplit]
    exact receivedPart_behind _ after
  have hCompleted : (trace.afterRead packets call reads).completed =
      trace.completed ++ [(packet, call.beyond)] := by
    rw [PieceTrace.afterRead, hCompletes]
    rfl
  have hBase : (trace.afterRead packets call reads).base descriptor =
      (trace.base descriptor).readWhole call.beyond packet.bytes := by
    rw [PieceTrace.base, hCompleted]
    exact List.foldl_append
  refine ⟨hInv, ?_, ?_, hPieces.replies⟩
  · rw [hCompleted, List.map_append]
    exact .behind ⟨after, hSplit.symm⟩ hReceived
  · show reads.hook.globals = noted call.beyond (receivedPart id packets reads.received) _
    rw [hKnows, hPart, hBase, ReadHook.readWhole_globals (trace.waits descriptor).context,
      noted_nil]

/-- More of the packet has been received, but not all of it. -/
theorem InPieces.readFurther (hPieces : InPieces packets descriptor trace) {packet : Packet}
    {after : List Packet} (hPackets : packets = trace.completed.map Prod.fst ++ packet :: after)
    (hCompletes : trace.completes packets call = none) (hInv : Inv packets reads) {k : Nat}
    (hk : k < packet.bytes.length)
    (hReceived : reads.received =
      (stream Packet.bytes (trace.completed.map Prod.fst)).length + k)
    (hKnows : reads.hook.globals =
      noted call.beyond (packet.bytes.take k) (trace.base descriptor).globals) :
    InPieces packets descriptor (trace.afterRead packets call reads) := by
  have hPart := receivedPart_inside (trace.completed.map Prod.fst) after hk
  rw [← hPackets, ← hReceived] at hPart
  have hSame : trace.afterRead packets call reads =
      { trace with reads := reads, beyond := call.beyond } := by
    rw [PieceTrace.afterRead, hCompletes]
    simp
  rw [hSame]
  refine ⟨hInv, .inside hPackets hReceived hk, ?_, hPieces.replies⟩
  show reads.hook.globals = noted call.beyond (receivedPart id packets reads.received) _
  rw [hKnows, hPart]
  rfl

theorem InPieces.read (hPieces : InPieces packets descriptor trace)
    (hIn : InPackets packets trace (.read call)) :
    ∃ trace', trace.step packets (.read call) = some trace' ∧
      InPieces packets descriptor trace' := by
  obtain ⟨reads, hStep, hInv, hReceived⟩ := hPieces.inv.next hIn.endsAtBoundary
  have hHook : reads.hook =
      trace.reads.hook.readWhole call.beyond (trace.reads.chunk packets call) := by
    rw [← Option.some.inj hStep]
    rfl
  refine ⟨trace.afterRead packets call reads, by
    rw [PieceTrace.step, hStep, Option.map_some], ?_⟩
  cases hPieces.place with
  | atEnd hPackets hAtEnd =>
      have hNone : locate Packet.bytes packets trace.reads.received = none :=
        locate_eq_none_iff.mpr (by rw [hAtEnd, hPackets])
      rw [chunk_end hNone call] at hReceived hHook
      exact hPieces.readAtEnd hNone hInv hReceived hHook
  | @inside packet after k hPackets hInside hk =>
      have hLocate : locate Packet.bytes packets trace.reads.received = some (packet, k) := by
        rw [hPackets, hInside, locate_inside hk]
      have hKnows := hPieces.readInside hPackets hInside hk hIn
      rw [← hHook] at hKnows
      have hWithin := hIn packet k hLocate
      rw [hInside] at hReceived
      by_cases hComplete : packet.bytes.length ≤ k + (trace.reads.chunk packets call).length
      · have hCompletes : trace.completes packets call = some packet := by
          simp only [PieceTrace.completes, hLocate, if_pos hComplete]
        rw [List.take_of_length_le hComplete] at hKnows
        refine hPieces.readLast hPackets hCompletes hInv ?_ hKnows
        rw [stream_append, List.length_append, stream_cons, stream_nil, List.append_nil]
        omega
      · have hCompletes : trace.completes packets call = none := by
          simp only [PieceTrace.completes, hLocate, if_neg hComplete]
        exact hPieces.readFurther hPackets hCompletes hInv (not_le.mp hComplete)
          (hReceived.trans (Nat.add_assoc _ _ _)) hKnows

end Read

/-- A read that returns no bytes, and one on another descriptor. -/
theorem newRead_other {hook : ReadHook} {fildes : Int32} {original : Except Int (List UInt8)}
    (hOther : fildes ≠ hook.globals.bluetoothSocket ∨ bytesOf original = [])
    (beyond : List UInt8) : (hook.newRead beyond fildes original).2.2 = hook := by
  unfold ReadHook.newRead
  split_ifs with hFildes
  · rfl
  · cases original with
    | error result => rfl
    | ok data =>
        rcases hOther with hOther | hNone
        · exact absurd hOther hFildes
        · obtain rfl : data = [] := hNone
          rfl

theorem InPieces.readOther (hPieces : InPieces packets descriptor trace) {fildes : Int32}
    {original : Except Int (List UInt8)}
    (hIn : InPackets packets trace (.readOther fildes original)) :
    ∃ trace', trace.step packets (.readOther fildes original) = some trace' ∧
      InPieces packets descriptor trace' := by
  refine ⟨_, rfl, ?_⟩
  rw [newRead_other hIn]
  exact hPieces

/-- What was completed is a beginning of what is sent. -/
theorem Place.prefix (hPlace : Place packets completed received) : completed <+: packets := by
  cases hPlace with
  | atEnd hPackets _ => exact ⟨[], by rw [List.append_nil, hPackets]⟩
  | inside hPackets _ _ => exact ⟨_, hPackets.symm⟩

/-- The buffer holds what would have been kept of the part read in one piece. -/
theorem InPieces.hook_eq (hPieces : InPieces packets descriptor trace) :
    trace.reads.hook =
      (trace.base descriptor).readWhole trace.beyond (trace.part packets) := by
  have hWaits := trace.waits descriptor
  have hGlobals := hPieces.knows
  rw [← ReadHook.readWhole_globals hWaits.context] at hGlobals
  have hContext : trace.reads.hook.context =
      ((trace.base descriptor).readWhole trace.beyond (trace.part packets)).context := by
    rw [hPieces.inv.buffer, held, PieceTrace.part, receivedPart]
    cases hLocate : locate Packet.bytes packets trace.reads.received with
    | none => rw [ReadHook.readWhole_nil, hWaits.context]
    | some located =>
        obtain ⟨packet, k⟩ := located
        obtain ⟨-, -, -, -, hk⟩ := exists_of_locate hLocate
        simp only [id]
        rw [ReadHook.readWhole_context hWaits.context hWaits.filters trace.beyond hk.le,
          if_neg hk.not_ge]
  cases hHook : trace.reads.hook with
  | mk globals context =>
      rw [hHook] at hGlobals hContext
      cases hWhole : (trace.base descriptor).readWhole trace.beyond (trace.part packets) with
      | mk globals' context' =>
          rw [hWhole] at hGlobals hContext
          exact congrArg₂ ReadHook.mk hGlobals hContext

theorem InPieces.write (hPieces : InPieces packets descriptor trace) (original : OriginalWrite)
    (fildes : Int32) (buf : List UInt8) :
    ∃ trace', trace.step packets (.write original fildes buf) = some trace' ∧
      InPieces packets descriptor trace' := by
  refine ⟨_, rfl, hPieces.inv, hPieces.place, hPieces.knows, ?_⟩
  simp only [List.forall_mem_append, List.forall_mem_singleton]
  refine ⟨hPieces.replies, hPieces.place.prefix, ?_⟩
  show trace.reads.hook.newWrite original fildes buf = _
  rw [hPieces.hook_eq]
  rfl

theorem InPieces.step (hPieces : InPieces packets descriptor trace) {action : SocketAction}
    (hIn : InPackets packets trace action) :
    ∃ trace', trace.step packets action = some trace' ∧ InPieces packets descriptor trace' := by
  cases action with
  | read call => exact hPieces.read hIn
  | readOther fildes original => exact hPieces.readOther hIn
  | write original fildes buf => exact hPieces.write original fildes buf

theorem inPieces_run (packets : List Packet) (descriptor : Int32) {actions : List SocketAction}
    (hIn : Along (PieceTrace.step packets) (InPackets packets) (.start descriptor) actions) :
    ∃ trace, run (PieceTrace.step packets) (.start descriptor) actions = some trace ∧
      InPieces packets descriptor trace := by
  have hStep : ∀ trace action, InPieces packets descriptor trace →
      InPackets packets trace action → ∃ trace', trace.step packets action = some trace' ∧
        InPieces packets descriptor trace' := fun _ _ hPieces hIn => hPieces.step hIn
  exact run_invariant_along hStep (inPieces_start packets descriptor) hIn

/-- After reads that keep to one packet each, and writes at any time, the hook is as if the
packets received, and what was received of the next one, had been read in one piece; and
so it was when it answered each of the writes. -/
theorem pieces_make_no_difference (packets : List Packet) (descriptor : Int32)
    (actions : List SocketAction)
    (hIn : Along (PieceTrace.step packets) (InPackets packets) (.start descriptor) actions) :
    ∃ trace, run (PieceTrace.step packets) (.start descriptor) actions = some trace ∧
      trace.completed.map Prod.fst <+: packets ∧
      stream Packet.bytes (trace.completed.map Prod.fst) ++ trace.part packets =
        (stream Packet.bytes packets).take trace.reads.received ∧
      trace.reads.hook =
        (trace.base descriptor).readWhole trace.beyond (trace.part packets) ∧
      ∀ reply ∈ trace.replies, reply.answer =
        (reply.hook descriptor).newWrite reply.original reply.fildes reply.buf := by
  obtain ⟨trace, hRun, hPieces⟩ := inPieces_run packets descriptor hIn
  exact ⟨trace, hRun, hPieces.place.prefix, hPieces.place.taken, hPieces.hook_eq,
    fun reply hReply => (hPieces.replies reply hReply).answer⟩

/-- The name of a Wii Remote and the local address. -/
def nameThenAddress : List Packet :=
  [.event 0x07 (0 :: [1, 2, 3, 4, 5, 6] ++ wiiRemoteText ++ List.replicate 229 0)
      (by decide +kernel) (by decide +kernel),
    .event 0x0E [1, 0x09, 0x10, 0, 6, 5, 4, 3, 2, 1] (by decide) (by decide)]

def pinReply : HCICommand :=
  { opcode := 0x040D
    params := [1, 2, 3, 4, 5, 6] ++ 4 :: List.replicate 16 0x30
    length_le := by decide }

/-- Both events arrive in pieces, and the PIN reply is written afterwards. -/
def nameInPieces : List SocketAction :=
  [.read ⟨5, by decide, by decide, []⟩, .readOther 3 (.error (-1)),
    .read ⟨251, by decide, by decide, []⟩, .read ⟨2, by decide, by decide, []⟩,
    .read ⟨4, by decide, by decide, []⟩, .read ⟨9, by decide, by decide, []⟩,
    .write wholeWrites 3 pinReply.bytes]

theorem nameInPieces_inPackets :
    Along (PieceTrace.step nameThenAddress) (InPackets nameThenAddress) (.start 3)
      nameInPieces := by
  decide +kernel

theorem pieces_make_no_difference_nameInPieces :
    ∃ trace, run (PieceTrace.step nameThenAddress) (.start 3) nameInPieces = some trace ∧
      trace.completed.map Prod.fst <+: nameThenAddress ∧
      stream Packet.bytes (trace.completed.map Prod.fst) ++ trace.part nameThenAddress =
        (stream Packet.bytes nameThenAddress).take trace.reads.received ∧
      trace.reads.hook =
        (trace.base 3).readWhole trace.beyond (trace.part nameThenAddress) ∧
      ∀ reply ∈ trace.replies, reply.answer =
        (reply.hook 3).newWrite reply.original reply.fildes reply.buf :=
  pieces_make_no_difference nameThenAddress 3 nameInPieces nameInPieces_inPackets

/-! ## The PIN of a Wii Remote -/

/-- A Remote Name Request Complete has the status, the address and 248 bytes of a name. -/
def Packet.NameWhole : Packet → Prop
  | .event code params _ _ => code = 0x07 → params.length = 255
  | .acl _ _ _ _ => True

instance Packet.decidableNameWhole : ∀ packet : Packet, Decidable packet.NameWhole
  | .event code params _ _ => inferInstanceAs (Decidable (code = 0x07 → params.length = 255))
  | .acl _ _ _ _ => .isTrue trivial

/-- The event that was received. -/
def received? (read : Packet × List UInt8) : Option Pairing.Received :=
  match read.1 with
  | .event code params hLength _ =>
      if hName : code = 0x07 → params.length = 255 then
        some ⟨⟨code, params, hLength, hName⟩, read.2⟩
      else none
  | .acl _ _ _ _ => none

/-- The events among the packets, most recent first. -/
def history (completed : List (Packet × List UInt8)) : List Pairing.Received :=
  (completed.filterMap received?).reverse

theorem history_append (completed : List (Packet × List UInt8)) (read : Packet × List UInt8) :
    history (completed ++ [read]) = (received? read).toList ++ history completed := by
  rw [history, List.filterMap_append, List.reverse_append]
  congr 1
  cases hReceived : received? read with
  | none => simp [hReceived]
  | some received => simp [hReceived]

/-- The hook remembers what an event says when it is received in pieces, too. -/
theorem remembers_readPackets (descriptor : Int32) (completed : List (Packet × List UInt8))
    (hNames : ∀ read ∈ completed, read.1.NameWhole) :
    Pairing.Remembers
      ((ReadHook.initial.newSocket 32 descriptor).readPackets completed).globals
      (history completed) := by
  induction completed using List.reverseRecOn with
  | nil => exact ⟨rfl, rfl, rfl⟩
  | append_singleton completed read ih =>
      obtain ⟨packet, beyond⟩ := read
      obtain ⟨hBefore, hName⟩ := List.forall_mem_append.mp hNames
      have hRemembers := ih hBefore
      have hWaits := waits_base descriptor completed
      have hLast : (ReadHook.initial.newSocket 32 descriptor).readPackets
          (completed ++ [(packet, beyond)]) =
            ((ReadHook.initial.newSocket 32 descriptor).readPackets completed).readWhole beyond
              packet.bytes := List.foldl_append
      rw [hLast, ReadHook.readWhole_globals hWaits.context, history_append]
      cases packet with
      | acl handleLow handleHigh payload hLength =>
          rw [noted_acl_whole]
          exact hRemembers
      | event code params hLength hResponse =>
          have hWhole : code = 0x07 → params.length = 255 := List.forall_mem_singleton.mp hName
          have hReceived : received? (.event code params hLength hResponse, beyond) =
              some ⟨⟨code, params, hLength, hWhole⟩, beyond⟩ := dif_pos hWhole
          have hRead := hRemembers.read ⟨⟨code, params, hLength, hWhole⟩, beyond⟩
          rw [Pairing.contextOf, runFilter_noted] at hRead
          rw [hReceived]
          exact hRead

/-- A PIN reply that is written before anything can have been noted of the next packet is
sent with the local address that was received first as the PIN if the name that was received
last for its device is that of a Wii Remote, and unchanged otherwise, whatever the pieces were
that the events arrived in. -/
theorem pin_replies_among_pieces (packets : List Packet) (descriptor : Int32)
    (hNames : ∀ packet ∈ packets, packet.NameWhole) (actions : List SocketAction)
    (hIn : Along (PieceTrace.step packets) (InPackets packets) (.start descriptor) actions) :
    ∃ trace, run (PieceTrace.step packets) (.start descriptor) actions = some trace ∧
      ∀ reply ∈ trace.replies, ∀ command : HCICommand, command.isPINReply = true →
        reply.original = wholeWrites → reply.fildes = descriptor → reply.buf = command.bytes →
        reply.part.length < 13 →
        reply.answer.2 =
          [if (Pairing.storedName (history reply.completed) command.address).any namesWiiRemote
            then withPIN (Pairing.storedAddress (history reply.completed)) command.bytes
            else command.bytes] := by
  obtain ⟨trace, hRun, hPieces⟩ := inPieces_run packets descriptor hIn
  refine ⟨trace, hRun, fun reply hReply command hPIN hOriginal hFildes hBuf hPart => ?_⟩
  obtain ⟨hCompleted, hAnswer⟩ := hPieces.replies reply hReply
  have hWaits := waits_base descriptor reply.completed
  have hGlobals : (reply.hook descriptor).globals =
      ((ReadHook.initial.newSocket 32 descriptor).readPackets reply.completed).globals := by
    rw [Reply.hook, ReadHook.readWhole_globals hWaits.context, noted_short hPart]
  have hRemembers : Pairing.Remembers (reply.hook descriptor).globals
      (history reply.completed) := by
    rw [hGlobals]
    refine remembers_readPackets descriptor reply.completed fun read hRead => ?_
    exact hNames read.1 (hCompleted.subset (List.mem_map_of_mem hRead))
  have hSocket : (reply.hook descriptor).globals.bluetoothSocket = descriptor := by
    rw [hGlobals]
    exact hWaits.socket
  have hSent := Pairing.newWrite_remembered hRemembers hPIN
  rw [hAnswer, hOriginal, hFildes, hBuf]
  rwa [hSocket] at hSent

/-- The PIN is the address that arrived in pieces. -/
theorem pin_replies_among_nameInPieces :
    (run (PieceTrace.step nameThenAddress) (.start 3) nameInPieces).map
        (fun trace => trace.replies.map fun reply => (reply.part, reply.answer.2)) =
      some [([], [withPIN [6, 5, 4, 3, 2, 1] pinReply.bytes])] ∧
    ∃ trace, run (PieceTrace.step nameThenAddress) (.start 3) nameInPieces = some trace ∧
      ∀ reply ∈ trace.replies, ∀ command : HCICommand, command.isPINReply = true →
        reply.original = wholeWrites → reply.fildes = 3 → reply.buf = command.bytes →
        reply.part.length < 13 →
        reply.answer.2 =
          [if (Pairing.storedName (history reply.completed) command.address).any namesWiiRemote
            then withPIN (Pairing.storedAddress (history reply.completed)) command.bytes
            else command.bytes] :=
  ⟨by decide +kernel, pin_replies_among_pieces nameThenAddress 3 (by decide +kernel)
    nameInPieces nameInPieces_inPackets⟩

end BTServerFilter
end MFiWrapper
