import MFiWrapper.BTServerFilter.WriteHook
import MFiWrapper.Library.Runs

/-!
# The PIN of a Wii Remote over whole runs

Every read delivers one event and every write transmits one command.  The hook
on the reading side remembers names and the local address; the hook on the
writing side puts the address into the PIN replies for Wii Remotes.  No filter
looks at the status of an event, and none asks whether the address is known.
-/

namespace MFiWrapper
namespace BTServerFilter
namespace Pairing

open Library

/-! ## Events -/

/-- An HCI event, as the controller sends it. -/
structure HCIEvent where
  code : UInt8
  params : List UInt8
  length_le : params.length ≤ 255
  /-- Remote Name Request Complete: the status, the address and a name of 248 bytes. -/
  remoteName : code = 0x07 → params.length = 255

namespace HCIEvent

def bytes (event : HCIEvent) : List UInt8 :=
  0x04 :: event.code :: UInt8.ofNat event.params.length :: event.params

/-- The status, the address and the name in a Remote Name Request Complete. -/
def remoteName? (event : HCIEvent) : Option (UInt8 × List UInt8 × List UInt8) :=
  if event.code = 0x07 then
    some (event.params.getD 0 0, (event.params.drop 1).take 6, event.params.drop 7)
  else none

/-- The status and the address in a Command Complete for Read BD_ADDR. -/
def localAddress? (event : HCIEvent) : Option (UInt8 × List UInt8) :=
  if event.code = 0x0E ∧ event.params.getD 1 0 = 0x09 ∧ event.params.getD 2 0 = 0x10 ∧
      10 ≤ event.params.length then
    some (event.params.getD 3 0, (event.params.drop 4).take 6)
  else none

end HCIEvent

/-- A name ends at its first NUL. -/
def cString (name : List UInt8) : List UInt8 := name.takeWhile (· ≠ 0)

/-- An event that was read, and what followed it in memory. -/
structure Received where
  event : HCIEvent
  beyond : List UInt8

/-- The name in the most recent successful event about the address.  The events
come most recent first. -/
def successfulName (history : List Received) (address : List UInt8) : Option (List UInt8) :=
  history.findSome? fun received => do
    let (status, device, name) ← received.event.remoteName?
    if status = 0 ∧ device = address then some (cString name) else none

/-- The name in the most recent event about the address, whatever its status; a
name without a NUL goes on behind the event. -/
def storedName (history : List Received) (address : List UInt8) : Option (List UInt8) :=
  history.findSome? fun received => do
    let (_, device, name) ← received.event.remoteName?
    if device = address then some (cString (name ++ received.beyond)) else none

/-- The local addresses in successful events. -/
def successfulAddresses (history : List Received) : List (List UInt8) :=
  history.filterMap fun received => do
    let (status, address) ← received.event.localAddress?
    if status = 0 then some address else none

/-- The local address received first, whatever the status of the event. -/
def firstAddress : List Received → Option (List UInt8)
  | [] => none
  | received :: earlier =>
      (firstAddress earlier).or (received.event.localAddress?.map Prod.snd)

/-! ## Runs -/

inductive Action
  | read (received : Received)
  | write (command : HCICommand)

/-- A command that was written, the events read before and what was sent. -/
structure Written where
  history : List Received
  command : HCICommand
  sent : List (List UInt8)

structure Trace where
  hook : ReadHook
  history : List Received
  written : List Written

namespace Trace

/-- The Bluetooth socket has been opened. -/
def start (descriptor : Int32) : Trace := ⟨ReadHook.initial.newSocket 32 descriptor, [], []⟩

/-- A read of one whole event, or a write of one whole command. -/
def step (trace : Trace) : Action → Option Trace
  | .read received =>
      let outcome := trace.hook.newRead received.beyond trace.hook.globals.bluetoothSocket
        (.ok received.event.bytes)
      some { trace with hook := outcome.2.2, history := received :: trace.history }
  | .write command =>
      let outcome := trace.hook.newWrite wholeWrites trace.hook.globals.bluetoothSocket
        command.bytes
      some { trace with written := trace.written ++ [⟨trace.history, command, outcome.2⟩] }

end Trace

/-- The successful events call for the substitution of the PIN. -/
def CallsForPIN (history : List Received) (address : List UInt8) : Prop :=
  (successfulName history address).any namesWiiRemote = true ∧ successfulAddresses history ≠ []

/-- A PIN reply is sent with a local address as the PIN when the successful events
call for it, and unchanged otherwise. -/
structure Written.AsClaimed (written : Written) : Prop where
  substituted : written.command.isPINReply = true →
    CallsForPIN written.history written.command.address →
    ∃ address ∈ successfulAddresses written.history,
      written.sent = [withPIN address written.command.bytes]
  unchanged : written.command.isPINReply = true →
    ¬ CallsForPIN written.history written.command.address →
    written.sent = [written.command.bytes]

/-- Every PIN reply of the run so far. -/
def AsClaimed (trace : Trace) : Prop := ∀ written ∈ trace.written, written.AsClaimed

/-- The name stored last for the address is that of a Wii Remote. -/
def StoredWiiRemote (history : List Received) (address : List UInt8) : Prop :=
  (storedName history address).any namesWiiRemote = true

/-- The address that the hook has for a PIN. -/
def storedAddress (history : List Received) : List UInt8 :=
  (firstAddress history).getD (List.replicate 6 0)

/-- Failed events do not decide about the command, and the address is known when it
is needed; or the substitution makes no difference to the command. -/
structure Settled (history : List Received) (command : HCICommand) : Prop where
  both : StoredWiiRemote history command.address → CallsForPIN history command.address →
    storedAddress history ∈ successfulAddresses history
  onlyStored : StoredWiiRemote history command.address →
    ¬ CallsForPIN history command.address →
    withPIN (storedAddress history) command.bytes = command.bytes
  onlyCalled : ¬ StoredWiiRemote history command.address →
    CallsForPIN history command.address →
    ∃ address ∈ successfulAddresses history, withPIN address command.bytes = command.bytes

/-- The condition on a run: every PIN reply is settled when it is written. -/
def SettledAction (trace : Trace) : Action → Prop
  | .read _ => True
  | .write command => command.isPINReply = true → Settled trace.history command

/-! ## One read -/

/-- What the hooks know after the events. -/
structure Remembers (globals : Globals) (history : List Received) : Prop where
  names : globals.deviceNames = storedName history
  localAddress : globals.localAddress = storedAddress history
  -- the filter of Command Complete is there until it has seen an address
  filters : globals.readFilters =
    if (firstAddress history).isSome then
      Function.update ReadHook.initial.globals.readFilters 0x0E none
    else ReadHook.initial.globals.readFilters

variable {globals : Globals} {history : List Received} {received : Received}

/-- The buffer of a read that delivers one event. -/
def contextOf (globals : Globals) (received : Received) : ReadContext :=
  (⟨globals, []⟩ : ReadHook).receive received.beyond received.event.bytes

theorem bytes_length (event : HCIEvent) : event.bytes.length = event.params.length + 3 := rfl

theorem contextOf_size :
    (contextOf globals received).size = received.event.params.length + 3 := by
  have hLength := received.event.length_le
  show ([] ++ received.event.bytes).length % 2 ^ 32 = _
  rw [List.nil_append, bytes_length]
  omega

theorem contextOf_param {i : Nat} (hi : i < received.event.params.length) :
    (contextOf globals received).byteAt (i + 3) = received.event.params.getD i 0 := by
  show (received.event.bytes ++ received.beyond).getD (i + 3) 0 = _
  rw [List.getD_eq_getElem?_getD, List.getD_eq_getElem?_getD,
    List.getElem?_append_left (by rw [bytes_length]; omega)]
  rfl

/-- The event is complete, so the buffer is cleared. -/
theorem newRead_event (globals : Globals) (received : Received) :
    ((⟨globals, []⟩ : ReadHook).newRead received.beyond globals.bluetoothSocket
      (.ok received.event.bytes)).2.2 =
        ⟨(runFilter (contextOf globals received) globals).2, []⟩ := by
  have hPktSize : (contextOf globals received).pktSize = received.event.params.length + 3 := by
    have hLength := received.event.length_le
    have hType : (contextOf globals received).byteAt 0 = 0x04 := rfl
    have hByte : (contextOf globals received).byteAt 2 =
        UInt8.ofNat received.event.params.length := rfl
    rw [ReadContext.pktSize, if_pos hType, hByte]
    simp only [UInt8.toNat_ofNat']
    omega
  have hNonempty : received.event.bytes ≠ [] := by simp [HCIEvent.bytes]
  have hRead := newRead_ok received.beyond hNonempty ⟨globals, []⟩
  rw [hRead]
  show (⟨_, if (runFilter (contextOf globals received) globals).1.size ≥
    (contextOf globals received).pktSize then [] else _⟩ : ReadHook) = _
  rw [runFilter_size, hPktSize, contextOf_size, if_pos (le_refl _)]
  rfl

/-! ## What an event changes -/

theorem storedName_of_none (hName : received.event.remoteName? = none) :
    storedName (received :: history) = storedName history := by
  funext address
  simp [storedName, hName]

theorem storedName_of_some {status : UInt8} {device name : List UInt8}
    (hName : received.event.remoteName? = some (status, device, name)) :
    storedName (received :: history) =
      Function.update (storedName history) device (some (cString (name ++ received.beyond))) := by
  funext address
  by_cases hSame : address = device
  · simp [storedName, hName, hSame]
  · rw [Function.update_of_ne hSame]
    simp [storedName, hName, Ne.symm hSame]

theorem firstAddress_of_none (hAddress : received.event.localAddress? = none) :
    firstAddress (received :: history) = firstAddress history := by
  simp [firstAddress, hAddress]

/-- An event that no filter acts on leaves things as they are. -/
theorem Remembers.skip (hRemembers : Remembers globals history)
    (hName : received.event.remoteName? = none)
    (hAddress : received.event.localAddress? = none) :
    Remembers globals (received :: history) := by
  constructor
  · rw [storedName_of_none hName]
    exact hRemembers.names
  · rw [storedAddress, firstAddress_of_none hAddress]
    exact hRemembers.localAddress
  · rw [firstAddress_of_none hAddress]
    exact hRemembers.filters

/-- The filter of Remote Name Request Complete. -/
theorem Remembers.name (hRemembers : Remembers globals history)
    (hCode : received.event.code = 0x07) :
    Remembers (filterRemoteNameRequestCompleteEvent (contextOf globals received) globals)
      (received :: history) := by
  have hLength := received.event.remoteName hCode
  have hAddress : received.event.localAddress? = none := by
    simp [HCIEvent.localAddress?, hCode]
  have hSize : ¬ (contextOf globals received).size < 255 := by
    rw [contextOf_size, hLength]
    decide
  have hMemory : (contextOf globals received).context ++ (contextOf globals received).beyond =
      [0x04, received.event.code, UInt8.ofNat received.event.params.length] ++
        (received.event.params ++ received.beyond) := rfl
  have hDevice : (received.event.params ++ received.beyond).drop 1 =
      received.event.params.drop 1 ++ received.beyond :=
    List.drop_append_of_le_length (by omega)
  have hText : (received.event.params ++ received.beyond).drop 7 =
      received.event.params.drop 7 ++ received.beyond :=
    List.drop_append_of_le_length (by omega)
  have hTake : (received.event.params.drop 1 ++ received.beyond).take 6 =
      (received.event.params.drop 1).take 6 :=
    List.take_append_of_le_length (by rw [List.length_drop]; omega)
  have hName : received.event.remoteName? = some (received.event.params.getD 0 0,
      (received.event.params.drop 1).take 6, received.event.params.drop 7) := by
    rw [HCIEvent.remoteName?, if_pos hCode]
  constructor
  · rw [storedName_of_some hName, ← hRemembers.names, filterRemoteNameRequestCompleteEvent,
      if_neg hSize]
    simp only [hMemory, List.cons_append, List.nil_append, List.drop_succ_cons, hDevice, hText,
      hTake, cString]
  · rw [filterRemoteNameRequestCompleteEvent, if_neg hSize, storedAddress,
      firstAddress_of_none hAddress]
    exact hRemembers.localAddress
  · rw [filterRemoteNameRequestCompleteEvent, if_neg hSize, firstAddress_of_none hAddress]
    exact hRemembers.filters

/-- The filter of Command Complete does nothing unless the event carries a local
address. -/
theorem filterCommandCompleteEvent_none (hCode : received.event.code = 0x0E)
    (hAddress : received.event.localAddress? = none) :
    filterCommandCompleteEvent (contextOf globals received) globals = globals := by
  rw [filterCommandCompleteEvent]
  split_ifs with hSkip
  · rfl
  · simp only [contextOf_size, not_or, not_lt, not_not] at hSkip
    obtain ⟨hSize, hLow, hHigh⟩ := hSkip
    rw [contextOf_param (by omega)] at hLow hHigh
    rw [HCIEvent.localAddress?, if_pos ⟨hCode, hLow, hHigh, by omega⟩] at hAddress
    cases hAddress

/-- If it does, the filter takes the address and itself out of the table. -/
theorem filterCommandCompleteEvent_some {status : UInt8} {address : List UInt8}
    (hAddress : received.event.localAddress? = some (status, address)) :
    filterCommandCompleteEvent (contextOf globals received) globals =
      { globals with
        localAddress := address
        readFilters := Function.update globals.readFilters 0x0E none } := by
  obtain ⟨⟨-, hLow, hHigh, hLength⟩, hParams⟩ :
      (received.event.code = 0x0E ∧ received.event.params.getD 1 0 = 0x09 ∧
        received.event.params.getD 2 0 = 0x10 ∧ 10 ≤ received.event.params.length) ∧
      (received.event.params.drop 4).take 6 = address := by
    rw [HCIEvent.localAddress?] at hAddress
    split_ifs at hAddress with hCarries
    exact ⟨hCarries, congrArg Prod.snd (Option.some.inj hAddress)⟩
  have hBytes : ((List.range 6).map fun i => (contextOf globals received).byteAt (7 + i)) =
      address := by
    rw [← hParams]
    refine List.ext_getElem (by simp; omega) fun i hi _ => ?_
    have hParam : (contextOf globals received).byteAt (i + 4 + 3) =
        received.event.params.getD (i + 4) 0 :=
      contextOf_param (by simp at hi; omega)
    simp only [List.getElem_map, List.getElem_range, List.getElem_take, List.getElem_drop]
    rw [show 7 + i = i + 4 + 3 by omega, hParam, List.getD_eq_getElem?_getD,
      List.getElem?_eq_getElem (by simp at hi; omega), Option.getD_some]
    congr 1
    omega
  rw [filterCommandCompleteEvent, if_neg, hBytes]
  rw [contextOf_size, contextOf_param (by omega), contextOf_param (by omega), hLow, hHigh]
  simp
  omega

theorem Remembers.complete (hRemembers : Remembers globals history)
    (hCode : received.event.code = 0x0E) :
    Remembers (runFilter (contextOf globals received) globals).2 (received :: history) := by
  have hName : received.event.remoteName? = none := by
    simp [HCIEvent.remoteName?, hCode]
  have hType : (contextOf globals received).byteAt 0 = 0x04 := rfl
  have hEvent : (contextOf globals received).byteAt 1 = 0x0E := hCode
  by_cases hKnown : (firstAddress history).isSome = true
  · -- the filter is gone already
    have hFilter : globals.readFilters 0x0E = none := by
      rw [hRemembers.filters, if_pos hKnown, Function.update_self]
    have hFirst : firstAddress (received :: history) = firstAddress history :=
      Option.or_of_isSome hKnown
    simp only [runFilter, if_pos hType, hEvent, hFilter]
    constructor
    · rw [storedName_of_none hName]
      exact hRemembers.names
    · rw [storedAddress, hFirst]
      exact hRemembers.localAddress
    · rw [hFirst]
      exact hRemembers.filters
  · -- the filter is there, and unregisters itself once it has run
    have hFilters : globals.readFilters = ReadHook.initial.globals.readFilters := by
      rw [hRemembers.filters, if_neg hKnown]
    have hFilter : globals.readFilters 0x0E = some .commandCompleteEvent := by
      rw [hFilters]
      rfl
    simp only [runFilter, if_pos hType, hEvent, hFilter]
    cases hAddress : received.event.localAddress? with
    | none =>
        rw [filterCommandCompleteEvent_none hCode hAddress]
        exact hRemembers.skip hName hAddress
    | some carried =>
        obtain ⟨status, address⟩ := carried
        have hFirst : firstAddress (received :: history) = some address := by
          rw [Option.not_isSome_iff_eq_none] at hKnown
          rw [firstAddress, hKnown, hAddress]
          rfl
        rw [filterCommandCompleteEvent_some hAddress]
        constructor
        · rw [storedName_of_none hName]
          exact hRemembers.names
        · rw [storedAddress, hFirst]
          rfl
        · rw [hFirst, if_pos Option.isSome_some]
          simp only [hFilters]

/-- The other filters change no static variable. -/
theorem initial_readFilters {code : UInt8} (hName : code ≠ 0x07) (hComplete : code ≠ 0x0E) :
    ReadHook.initial.globals.readFilters code = some .inquiryResultEventGeneral ∨
      ReadHook.initial.globals.readFilters code = none := by
  simp only [ReadHook.initial, if_neg hName, if_neg hComplete]
  split_ifs
  · exact .inl rfl
  · exact .inr rfl

/-- Every event leaves the hooks with what they are to know. -/
theorem Remembers.read (hRemembers : Remembers globals history) (received : Received) :
    Remembers (runFilter (contextOf globals received) globals).2 (received :: history) := by
  by_cases hComplete : received.event.code = 0x0E
  · exact hRemembers.complete hComplete
  have hType : (contextOf globals received).byteAt 0 = 0x04 := rfl
  have hEvent : (contextOf globals received).byteAt 1 = received.event.code := rfl
  have hFilter : globals.readFilters received.event.code =
      ReadHook.initial.globals.readFilters received.event.code := by
    rw [hRemembers.filters]
    split_ifs
    · rw [Function.update_of_ne hComplete]
    · rfl
  by_cases hCode : received.event.code = 0x07
  · have hNames : globals.readFilters 0x07 = some .remoteNameRequestCompleteEvent := by
      rw [← hCode, hFilter, hCode]
      rfl
    simp only [runFilter, if_pos hType, hEvent, hCode, hNames]
    exact hRemembers.name hCode
  · have hName : received.event.remoteName? = none := by
      rw [HCIEvent.remoteName?, if_neg hCode]
    have hAddress : received.event.localAddress? = none := by
      rw [HCIEvent.localAddress?, if_neg fun h => hComplete h.1]
    have hSame : (runFilter (contextOf globals received) globals).2 = globals := by
      rcases initial_readFilters hCode hComplete with hOther | hOther
      · simp only [runFilter, if_pos hType, hEvent, hFilter, hOther]
      · simp only [runFilter, if_pos hType, hEvent, hFilter, hOther]
    rw [hSame]
    exact hRemembers.skip hName hAddress

/-! ## One write -/

variable {command : HCICommand}

/-- The PIN in a substituted command is the address. -/
theorem withPIN_inj {address address' aBuffer : List UInt8} :
    withPIN address aBuffer = withPIN address' aBuffer ↔ address = address' := by
  simp [withPIN]

/-- The hook goes by what it has stored. -/
theorem newWrite_remembered {hook : ReadHook} (hRemembers : Remembers hook.globals history)
    (hReply : command.isPINReply = true) :
    (hook.newWrite wholeWrites hook.globals.bluetoothSocket command.bytes).2 =
      [if (storedName history command.address).any namesWiiRemote then
        withPIN (storedAddress history) command.bytes else command.bytes] := by
  rw [newWrite_pinReply hReply, hRemembers.names, hRemembers.localAddress]
  split_ifs <;> rfl

/-- A PIN reply is sent as claimed exactly if it is settled. -/
theorem asClaimed_iff_settled {written : Written} (hReply : written.command.isPINReply = true)
    (hSent : written.sent =
      [if (storedName written.history written.command.address).any namesWiiRemote then
        withPIN (storedAddress written.history) written.command.bytes
      else written.command.bytes]) :
    written.AsClaimed ↔ Settled written.history written.command := by
  by_cases hStored : (storedName written.history written.command.address).any namesWiiRemote
  · -- the filter substitutes
    rw [if_pos hStored] at hSent
    constructor
    · rintro ⟨hSubstituted, hUnchanged⟩
      rw [hSent] at hSubstituted hUnchanged
      refine ⟨fun _ hCalls => ?_, fun _ hNot => ?_, fun hNot => absurd hStored hNot⟩
      · obtain ⟨address, hAddress, hSame⟩ := hSubstituted hReply hCalls
        rw [withPIN_inj.mp (List.singleton_inj.mp hSame)]
        exact hAddress
      · exact List.singleton_inj.mp (hUnchanged hReply hNot)
    · rintro ⟨hBoth, hOnlyStored, -⟩
      refine ⟨fun _ hCalls => ⟨_, hBoth hStored hCalls, hSent⟩, fun _ hNot => ?_⟩
      rw [hSent, hOnlyStored hStored hNot]
  · -- the filter leaves the command alone
    rw [if_neg hStored] at hSent
    constructor
    · rintro ⟨hSubstituted, -⟩
      rw [hSent] at hSubstituted
      refine ⟨fun h => absurd h hStored, fun h => absurd h hStored, fun _ hCalls => ?_⟩
      obtain ⟨address, hAddress, hSame⟩ := hSubstituted hReply hCalls
      exact ⟨address, hAddress, (List.singleton_inj.mp hSame).symm⟩
    · rintro ⟨-, -, hOnlyCalled⟩
      refine ⟨fun _ hCalls => ?_, fun _ _ => hSent⟩
      obtain ⟨address, hAddress, hSame⟩ := hOnlyCalled hStored hCalls
      exact ⟨address, hAddress, by rw [hSent, hSame]⟩

/-! ## Runs -/

/-- The invariant of the runs that send every PIN reply as claimed. -/
structure Inv (trace : Trace) : Prop where
  context : trace.hook.context = []
  remembers : Remembers trace.hook.globals trace.history
  asClaimed : AsClaimed trace

theorem inv_start (descriptor : Int32) : Inv (Trace.start descriptor) := by
  refine ⟨rfl, ⟨rfl, rfl, rfl⟩, ?_⟩
  intro written hMem
  cases hMem

theorem Inv.read {trace : Trace} (hInv : Inv trace) (received : Received) :
    ∃ trace', trace.step (.read received) = some trace' ∧ Inv trace' := by
  obtain ⟨⟨globals, context⟩, history, written⟩ := trace
  obtain ⟨rfl, hRemembers, hClaimed⟩ := hInv
  refine ⟨⟨⟨(runFilter (contextOf globals received) globals).2, []⟩, received :: history, written⟩,
    ?_, rfl, hRemembers.read received, hClaimed⟩
  rw [Trace.step, newRead_event]

/-- A write keeps the invariant exactly if it is settled. -/
theorem Inv.write {trace : Trace} (hInv : Inv trace) (command : HCICommand) :
    ∃ trace', trace.step (.write command) = some trace' ∧
      (AsClaimed trace' ↔ SettledAction trace (.write command)) ∧
      (AsClaimed trace' → Inv trace') := by
  refine ⟨_, rfl, ?_, fun hClaimed => ⟨hInv.context, hInv.remembers, hClaimed⟩⟩
  have hSplit (written : Written) : AsClaimed { trace with written := trace.written ++ [written] } ↔
      written.AsClaimed := by
    simp only [AsClaimed, List.forall_mem_append, List.forall_mem_singleton]
    exact and_iff_right hInv.asClaimed
  rw [hSplit]
  by_cases hReply : command.isPINReply = true
  · rw [asClaimed_iff_settled hReply (newWrite_remembered hInv.remembers hReply)]
    exact ⟨fun h _ => h, fun h => h hReply⟩
  · exact iff_of_true ⟨fun h => absurd h hReply, fun h => absurd h hReply⟩
      fun h => absurd h hReply

/-- In every run of whole reads and writes, every PIN reply is sent as claimed if
and only if every PIN reply is settled when it is written. -/
theorem pin_substitution_iff (descriptor : Int32) (actions : List Action) :
    Throughout Trace.step AsClaimed (Trace.start descriptor) actions ↔
      Along Trace.step SettledAction (Trace.start descriptor) actions := by
  have hGood : ∀ trace, Inv trace → AsClaimed trace := fun _ hInv => hInv.asClaimed
  refine throughout_iff_along hGood ?_ ?_ (inv_start descriptor) actions
  · intro trace action hInv hSettled
    cases action with
    | read received => exact hInv.read received
    | write command =>
        obtain ⟨trace', hStep, hIff, hKeep⟩ := hInv.write command
        exact ⟨trace', hStep, hKeep (hIff.mpr hSettled)⟩
  · intro trace action hInv hNot trace' hStep hClaimed
    cases action with
    | read received => exact hNot trivial
    | write command =>
        obtain ⟨trace₁, hStep₁, hIff, -⟩ := hInv.write command
        obtain rfl : trace₁ = trace' := Option.some.inj (hStep₁.symm.trans hStep)
        exact hNot (hIff.mp hClaimed)

/-- The name of a Wii Remote arrives, and its PIN reply is written before the local
address is known: the PIN becomes six zeros. -/
theorem pin_reply_before_address :
    ¬ ∀ (descriptor : Int32) (actions : List Action),
      Throughout Trace.step AsClaimed (Trace.start descriptor) actions := by
  intro hAll
  let event : HCIEvent :=
    { code := 0x07
      params := 0 :: [1, 2, 3, 4, 5, 6] ++ wiiRemoteText ++ List.replicate 229 0
      length_le := by decide +kernel
      remoteName := fun _ => by decide +kernel }
  let command : HCICommand :=
    { opcode := 0x040D
      params := [1, 2, 3, 4, 5, 6] ++ 4 :: List.replicate 16 0x30
      length_le := by decide }
  obtain ⟨trace, hRead, hInv⟩ := (inv_start 3).read ⟨event, []⟩
  obtain ⟨trace', hWrite, hIff, -⟩ := hInv.write command
  have hHistory : trace.history = [⟨event, []⟩] := by
    rw [← Option.some.inj hRead]
    rfl
  have hClaimed : AsClaimed trace' := by
    obtain ⟨last, hRun, hClaimed⟩ :=
      hAll 3 [.read ⟨event, []⟩, .write command] _ List.prefix_rfl
    rw [run_cons, hRead, Option.bind_some, run_cons, hWrite] at hRun
    rwa [Option.some.inj hRun]
  have hSettled : Settled [⟨event, []⟩] command := hHistory ▸ hIff.mp hClaimed rfl
  have hStored : StoredWiiRemote [⟨event, []⟩] command.address := by
    unfold StoredWiiRemote
    decide +kernel
  have hSame := hSettled.onlyStored hStored fun hCalls => hCalls.2 rfl
  revert hSame
  decide

end Pairing
end BTServerFilter
end MFiWrapper
