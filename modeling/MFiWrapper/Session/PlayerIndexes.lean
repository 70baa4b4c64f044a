import MFiWrapper.Backend.TracedIndices
import MFiWrapper.Session.Agreement

/-!
# Player indices on their way to the drivers

An index is assigned to a controller in the frontend and travels to the driver of its
device, against the stream of packets that announce devices.  The run is watched: a
log is kept of the assignments, of the handles under which devices were attached,
and of the calls of `SetPlayerIndex` on drivers, as the backend makes them.
-/

namespace MFiWrapper

open Library Frontend

/-! ## Watched runs -/

/-- An assignment of `playerIndex`, which sends a packet. -/
abbrev Assignment := ControllerRef × Int64

/-- A call `device->SetPlayerIndex`, with the number of the packet it is made for. -/
structure DeviceCall where
  address : Nat
  number : Nat
  value : Int32
  deriving DecidableEq

/-- Both sides, and what has happened between them. -/
structure Watched where
  system : System
  /-- The assignments, those in `controllerForHandle:data:` included. -/
  assigned : List Assignment
  /-- The addresses of the interfaces ever attached, with their handles. -/
  attached : List (Nat × UInt32)
  calls : List DeviceCall

namespace Watched

def initial : Watched := ⟨.initial, [], [], []⟩

/-- The assignment that an event makes. -/
def assignment (watched : Watched) : System.Event → Option Assignment
  | .appSetsPlayerIndex ref index =>
      if ref < watched.system.frontend.created.length then some (ref, index) else none
  | .frontendProcesses =>
      match watched.system.toFrontend with
      | .connect _ _ :: _ =>
          some (watched.system.frontend.created.length, gcControllerPlayerIndexUnset)
      | _ => none
  | _ => none

/-- The interface that an event attaches. -/
def attachment (watched : Watched) : System.Event → Option (Nat × UInt32)
  | .deviceAttached _ aName =>
      if Backend.recognised aName then
        some (watched.system.backend.allocated, watched.system.backend.nextHandle)
      else none
  | _ => none

/-- The backend has processed a packet, and has called drivers. -/
def withCalls (watched : Watched) (calls : List (Nat × Int32)) (backend : Backend) : Watched :=
  { watched with
    system := { watched.system with
      backend := backend
      backendProcessed := watched.system.backendProcessed + 1 }
    calls := watched.calls ++ calls.map fun (address, value) =>
      ⟨address, watched.system.backendProcessed, value⟩ }

/-- One event of the two sides; that of the backend traces the calls it makes. -/
def step (watched : Watched) : System.Event → Option Watched
  | .backendProcesses =>
      match watched.system.toBackend with
      | [] => some watched
      | packet :: _ => do
          let (calls, backend) ← watched.system.backend.handlePacketTraced packet
          return watched.withCalls calls backend
  | event => do
      let system ← watched.system.step event
      return { watched with
        system := system
        assigned := watched.assigned ++ (watched.assignment event).toList
        attached := watched.attached ++ (watched.attachment event).toList }

/-! ## Agreement -/

/-- The index in a packet for a handle. -/
def indexFor (handle : UInt32) : MFiWPacket ℚ → Option Int32
  | .setPlayerIndex other value => if other = handle then some value else none
  | _ => none

/-- The indices that the driver at an address has received, in order. -/
def received (watched : Watched) (address : Nat) : List Int32 :=
  (watched.calls.filter fun call => call.address = address).map DeviceCall.value

/-- The indices that are in flight for a handle, in order. -/
def inFlight (watched : Watched) (handle : UInt32) : List Int32 :=
  watched.system.toBackend.filterMap (indexFor handle)

/-- The handles whose `Connect` packets the frontend has processed. -/
def connected (watched : Watched) : List UInt32 :=
  (watched.system.backend.sent.take watched.system.frontendProcessed).filterMap
    Backend.connectHandle

/-- The index the driver ends up with when it is given those in flight. -/
def settles (watched : Watched) (handle : UInt32) (address : Nat) : Option Int32 :=
  (watched.inFlight handle).foldl (fun _ value => some value) (watched.received address).getLast?

/-- The handles of the controllers ever given out. -/
def owners (watched : Watched) : List UInt32 :=
  watched.system.frontend.created.map GCController.tweakHandle

structure Agrees (watched : Watched) : Prop where
  /-- A driver is what its constructor has made, given the indices that it has received. -/
  given : ∀ interface ∈ watched.system.backend.interfaces,
    interface.driver.Given (watched.received interface.address)
  /-- A device that is attached, and known to the frontend, has one controller, and
  settles for its index. -/
  settled : ∀ handle address, (handle, address) ∈ watched.system.backend.entries →
    handle ∈ watched.connected → ∃ tweak ∈ watched.system.frontend.created,
      tweak.tweakHandle = handle ∧
        (watched.settles handle address).map Int32.toInt64 = some tweak.playerIndex
  /-- A packet for a handle that is not attached reaches no driver. -/
  unreachable : ∀ handle value rest,
    watched.system.toBackend = .setPlayerIndex handle value :: rest →
      handle ∉ watched.system.backend.handles → ∃ watched',
        watched.step .backendProcesses = some watched' ∧ watched'.calls = watched.calls ∧
          watched'.system.backend.interfaces = watched.system.backend.interfaces
  /-- Every index a driver has received was assigned to the controller of its device. -/
  own : ∀ call ∈ watched.calls, ∃ ref index handle,
    watched.assigned[call.number]? = some (ref, index) ∧ call.value = index.toInt32 ∧
      watched.owners[ref]? = some handle ∧ (call.address, handle) ∈ watched.attached
  /-- No two devices and no two controllers share a handle. -/
  distinct : (watched.attached.map Prod.fst).Nodup ∧ (watched.attached.map Prod.snd).Nodup ∧
    watched.owners.Nodup

/-! ## The frontend's side of the invariant -/

/-- The packet that an assignment sends. -/
def packetFor (owners : List UInt32) (assignment : Assignment) : MFiWPacket ℚ :=
  .setPlayerIndex (owners.getD assignment.1 0) assignment.2.toInt32

/-- The indices assigned to a controller, in order. -/
def assignedTo (ref : ControllerRef) (assigned : List Assignment) : List Int64 :=
  (assigned.filter fun assignment => assignment.1 = ref).map Prod.snd

/-- The packets sent are those of the assignments, and a controller has the index that
was assigned to it last. -/
structure Recorded (assigned : List Assignment) (owners : List UInt32) (indices : List Int64)
    (sent : List (MFiWPacket ℚ)) : Prop where
  sent : sent = assigned.map (packetFor owners)
  refs : ∀ assignment ∈ assigned, assignment.1 < owners.length
  length : indices.length = owners.length
  latest : ∀ ref index, indices[ref]? = some index →
    (assignedTo ref assigned).getLast? = some index
  int32 : ∀ assignment ∈ assigned, ∃ value : Int32, assignment.2 = value.toInt64

variable {assigned : List Assignment} {owners : List UInt32} {indices : List Int64}
  {sent : List (MFiWPacket ℚ)} {ref : ControllerRef} {index : Int64}

theorem assignedTo_append (ref : ControllerRef) (first second : List Assignment) :
    assignedTo ref (first ++ second) = assignedTo ref first ++ assignedTo ref second := by
  rw [assignedTo, List.filter_append, List.map_append]
  rfl

/-- The application assigns an index to a controller. -/
theorem Recorded.set (hRecorded : Recorded assigned owners indices sent)
    (hRef : ref < owners.length) (hInt32 : ∃ value : Int32, index = value.toInt64) :
    Recorded (assigned ++ [(ref, index)]) owners (indices.set ref index)
      (sent ++ [packetFor owners (ref, index)]) := by
  constructor
  · rw [hRecorded.sent, List.map_append]
    rfl
  · exact List.forall_mem_append.mpr ⟨hRecorded.refs, List.forall_mem_singleton.mpr hRef⟩
  · rw [List.length_set]
    exact hRecorded.length
  · intro other value hValue
    rw [assignedTo_append]
    by_cases hSame : ref = other
    · subst hSame
      rw [List.getElem?_set_self (hRecorded.length ▸ hRef)] at hValue
      simpa [assignedTo] using hValue
    · rw [List.getElem?_set_ne hSame] at hValue
      simpa [assignedTo, hSame] using hRecorded.latest other value hValue
  · exact List.forall_mem_append.mpr ⟨hRecorded.int32, List.forall_mem_singleton.mpr hInt32⟩

/-- A controller is given out, and assigns itself its first index. -/
theorem Recorded.connect (hRecorded : Recorded assigned owners indices sent) (handle : UInt32)
    (hInt32 : ∃ value : Int32, index = value.toInt64) :
    Recorded (assigned ++ [(owners.length, index)]) (owners ++ [handle]) (indices ++ [index])
      (sent ++ [.setPlayerIndex handle index.toInt32]) := by
  constructor
  · rw [hRecorded.sent, List.map_append]
    congr 1
    · refine List.map_congr_left fun assignment hMem => ?_
      rw [packetFor, packetFor, List.getD_eq_getElem?_getD, List.getD_eq_getElem?_getD,
        List.getElem?_append_left (hRecorded.refs assignment hMem)]
    · simp [packetFor]
  · rw [List.length_append]
    refine List.forall_mem_append.mpr ⟨fun assignment hMem => ?_, ?_⟩
    · exact Nat.lt_add_right 1 (hRecorded.refs assignment hMem)
    · exact List.forall_mem_singleton.mpr (Nat.lt_succ_self _)
  · rw [List.length_append, List.length_append, hRecorded.length]
    rfl
  · intro other value hValue
    rw [assignedTo_append]
    by_cases hOld : other < owners.length
    · rw [List.getElem?_append_left (hRecorded.length ▸ hOld)] at hValue
      simpa [assignedTo, hOld.ne'] using hRecorded.latest other value hValue
    · -- the controller that was just given out
      obtain ⟨hLt, -⟩ := List.getElem?_eq_some_iff.mp hValue
      rw [List.length_append, List.length_singleton, hRecorded.length] at hLt
      obtain rfl : other = owners.length := Nat.eq_of_lt_succ_of_not_lt hLt hOld
      rw [← hRecorded.length, List.getElem?_concat_length] at hValue
      simpa [assignedTo] using hValue
  · exact List.forall_mem_append.mpr ⟨hRecorded.int32, List.forall_mem_singleton.mpr hInt32⟩

/-- The packets for the handle of one controller are those of its own assignments. -/
theorem Recorded.indexFor (hRecorded : Recorded assigned owners indices sent)
    (hNodup : owners.Nodup) {handle : UInt32} (hOwner : owners[ref]? = some handle) :
    sent.filterMap (indexFor handle) = (assignedTo ref assigned).map Int64.toInt32 := by
  rw [hRecorded.sent, List.filterMap_map, assignedTo, List.map_map]
  have hRefs := hRecorded.refs
  clear hRecorded
  induction assigned with
  | nil => rfl
  | cons assignment assigned ih =>
      obtain ⟨hRef, hRest⟩ := List.forall_mem_cons.mp hRefs
      have hPacket : (Watched.indexFor handle ∘ packetFor owners) assignment =
          if assignment.1 = ref then some assignment.2.toInt32 else none := by
        have hIff : owners.getD assignment.1 0 = handle ↔ assignment.1 = ref := by
          rw [List.getD_eq_getElem?_getD, List.getElem?_eq_getElem hRef, Option.getD_some]
          obtain ⟨hLt, rfl⟩ := List.getElem?_eq_some_iff.mp hOwner
          exact hNodup.getElem_inj_iff
        rw [Function.comp_apply, packetFor, Watched.indexFor, if_congr hIff rfl rfl]
      by_cases hSame : assignment.1 = ref
      · rw [if_pos hSame] at hPacket
        rw [List.filterMap_cons_some hPacket, ih hRest,
          List.filter_cons_of_pos (by simpa using hSame)]
        rfl
      · rw [if_neg hSame] at hPacket
        rw [List.filterMap_cons_none hPacket, ih hRest,
          List.filter_cons_of_neg (by simpa using hSame)]

/-! ## The invariant -/

structure Inv (watched : Watched) : Prop where
  system : watched.system.Inv
  connection : watched.system.frontend.connection = true
  recorded : Recorded watched.assigned watched.owners
    (watched.system.frontend.created.map GCController.playerIndex) watched.system.frontend.sent
  owners : watched.owners = watched.connected
  connects : watched.attached.map Prod.snd =
    watched.system.backend.sent.filterMap Backend.connectHandle
  issued : ∀ entry ∈ watched.attached, entry.1 < watched.system.backend.allocated ∧
    entry.2.toNat < watched.system.backend.nextHandle.toNat
  bound : watched.system.backend.nextHandle.toNat ≤ 2 ^ 32 - 2
  addresses : (watched.attached.map Prod.fst).Nodup
  handles : (watched.attached.map Prod.snd).Nodup
  entries : ∀ handle address, (handle, address) ∈ watched.system.backend.entries →
    (address, handle) ∈ watched.attached
  received : ∀ handle address, (handle, address) ∈ watched.system.backend.entries →
    watched.received address =
      (watched.system.frontend.sent.take watched.system.backendProcessed).filterMap
        (indexFor handle)
  own : ∀ call ∈ watched.calls, ∃ ref index handle,
    watched.assigned[call.number]? = some (ref, index) ∧ call.value = index.toInt32 ∧
      watched.owners[ref]? = some handle ∧ (call.address, handle) ∈ watched.attached
  given : ∀ interface ∈ watched.system.backend.interfaces,
    interface.driver.Given (watched.received interface.address)

theorem inv_initial : initial.Inv := by
  constructor
  · exact System.inv_initial
  · rfl
  · constructor <;> simp [initial, System.initial, State.initial, State.startup, Watched.owners]
  all_goals simp [initial, System.initial, State.initial, State.startup, Watched.owners,
    Watched.connected, Backend.initial, Backend.entries]

/-! ## The backend moves -/

variable {watched : Watched}

/-- What one more packet adds to those processed. -/
theorem filterMap_take_succ {α β : Type} {log : List α} {n : Nat} {first : α}
    (hFirst : log[n]? = some first) (f : α → Option β) :
    (log.take (n + 1)).filterMap f = (log.take n).filterMap f ++ (f first).toList := by
  rw [List.take_add_one, hFirst, List.filterMap_append]
  cases hValue : f first <;> simp [hValue]

/-- What the frontend has processed stays what it was. -/
theorem connected_of_sent {backend : Backend} {packets : List (MFiWPacket ℚ)}
    (hInv : watched.system.Inv) (hSent : backend.sent = watched.system.backend.sent ++ packets) :
    (backend.sent.take watched.system.frontendProcessed).filterMap Backend.connectHandle =
      watched.connected := by
  rw [hSent, List.take_append_of_le_length hInv.frontendProcessed]
  rfl

/-- Whatever the backend does without a `Connect` packet and a new interface, what it has
done stays as it is. -/
theorem Inv.backend (hInv : watched.Inv) {backend : Backend} {processed : Nat}
    {calls : List DeviceCall} {packets : List (MFiWPacket ℚ)}
    (hSystem : ({ watched.system with
      backend := backend, backendProcessed := processed } : System).Inv)
    (hSent : backend.sent = watched.system.backend.sent ++ packets)
    (hPackets : packets.filterMap Backend.connectHandle = [])
    (hAllocated : watched.system.backend.allocated ≤ backend.allocated)
    (hNext : backend.nextHandle = watched.system.backend.nextHandle)
    (hEntries : ∀ entry ∈ backend.entries, entry ∈ watched.system.backend.entries)
    (hReceived : ∀ handle address, (handle, address) ∈ watched.system.backend.entries →
      Watched.received { watched with calls := calls } address =
        (watched.system.frontend.sent.take processed).filterMap (indexFor handle))
    (hOwn : ∀ call ∈ calls, ∃ ref index handle,
      watched.assigned[call.number]? = some (ref, index) ∧ call.value = index.toInt32 ∧
        watched.owners[ref]? = some handle ∧ (call.address, handle) ∈ watched.attached)
    (hGiven : ∀ interface ∈ backend.interfaces, interface.driver.Given
      (Watched.received { watched with calls := calls } interface.address)) :
    ({ watched with
      system := { watched.system with backend := backend, backendProcessed := processed }
      calls := calls } : Watched).Inv := by
  constructor
  · exact hSystem
  · exact hInv.connection
  · exact hInv.recorded
  · exact hInv.owners.trans (connected_of_sent hInv.system hSent).symm
  · show watched.attached.map Prod.snd = backend.sent.filterMap Backend.connectHandle
    rw [hSent, List.filterMap_append, hPackets, List.append_nil]
    exact hInv.connects
  · intro entry hEntry
    obtain ⟨hAddress, hHandle⟩ := hInv.issued entry hEntry
    exact ⟨hAddress.trans_le hAllocated, hNext ▸ hHandle⟩
  · exact hNext ▸ hInv.bound
  · exact hInv.addresses
  · exact hInv.handles
  · exact fun handle address hEntry => hInv.entries handle address (hEntries _ hEntry)
  · exact fun handle address hEntry => hReceived handle address (hEntries _ hEntry)
  · exact hOwn
  · exact hGiven

/-- The same, if it calls no driver. -/
theorem Inv.quiet (hInv : watched.Inv) {backend : Backend} {packets : List (MFiWPacket ℚ)}
    (hSystem : ({ watched.system with backend := backend } : System).Inv)
    (hSent : backend.sent = watched.system.backend.sent ++ packets)
    (hPackets : packets.filterMap Backend.connectHandle = [])
    (hAllocated : watched.system.backend.allocated ≤ backend.allocated)
    (hNext : backend.nextHandle = watched.system.backend.nextHandle)
    (hEntries : ∀ entry ∈ backend.entries, entry ∈ watched.system.backend.entries)
    (hGiven : ∀ interface ∈ backend.interfaces,
      interface.driver.Given (watched.received interface.address)) :
    ({ watched with system := { watched.system with backend := backend } } : Watched).Inv :=
  hInv.backend hSystem hSent hPackets hAllocated hNext hEntries hInv.received hInv.own hGiven

theorem deviceRemoved_sent (address : Nat) (backend : Backend) :
    ∃ packets, (backend.deviceRemoved address).sent = backend.sent ++ packets ∧
      packets.filterMap Backend.connectHandle = [] := by
  unfold Backend.deviceRemoved Backend.detachController
  split
  · exact ⟨[], (List.append_nil _).symm, rfl⟩
  · dsimp only
    split_ifs
    · exact ⟨_, rfl, rfl⟩
    · exact ⟨[], (List.append_nil _).symm, rfl⟩

theorem Inv.deviceRemoved (hInv : watched.Inv) (address : Nat)
    (hSystem : ({ watched.system with
      backend := watched.system.backend.deviceRemoved address } : System).Inv) :
    ({ watched with system := { watched.system with
      backend := watched.system.backend.deviceRemoved address } } : Watched).Inv := by
  obtain ⟨packets, hSent, hPackets⟩ := deviceRemoved_sent address watched.system.backend
  refine hInv.quiet hSystem hSent hPackets (Backend.deviceRemoved_allocated address _).ge
    (Backend.deviceRemoved_nextHandle address _) ?_ ?_
  · intro entry hEntry
    rw [Backend.entries_deviceRemoved] at hEntry
    exact List.mem_of_mem_filter hEntry
  · intro interface hMem
    rw [Backend.deviceRemoved_interfaces] at hMem
    exact hInv.given interface (List.mem_of_mem_filter hMem)

/-- The handles of the controllers were given out before. -/
theorem Inv.owner_attached (hInv : watched.Inv) {handle : UInt32}
    (hOwner : handle ∈ watched.owners) : handle ∈ watched.attached.map Prod.snd := by
  have hConnected : handle ∈ watched.connected := hInv.owners ▸ hOwner
  rw [hInv.connects]
  exact ((List.take_sublist _ _).filterMap _).subset hConnected

/-- A handle that has not been given out is nobody's. -/
theorem Inv.sent_next (hInv : watched.Inv) :
    watched.system.frontend.sent.filterMap (indexFor watched.system.backend.nextHandle) = [] := by
  rw [hInv.recorded.sent, List.filterMap_map, List.filterMap_eq_nil_iff]
  intro assignment hMem
  have hRef := hInv.recorded.refs assignment hMem
  obtain ⟨entry, hEntry, hHandle⟩ := List.mem_map.mp (hInv.owner_attached (List.getElem_mem hRef))
  have hIssued := (hInv.issued entry hEntry).2
  have hOther : watched.owners.getD assignment.1 0 ≠ watched.system.backend.nextHandle := by
    rw [List.getD_eq_getElem?_getD, List.getElem?_eq_getElem hRef, Option.getD_some, ← hHandle]
    exact fun hSame => hIssued.ne (congrArg UInt32.toNat hSame)
  rw [Function.comp_apply, packetFor, indexFor, if_neg hOther]

/-- An address that has not been given out has heard of nothing. -/
theorem Inv.received_next (hInv : watched.Inv) :
    watched.received watched.system.backend.allocated = [] := by
  rw [Watched.received, List.map_eq_nil_iff, List.filter_eq_nil_iff]
  intro call hCall hSame
  obtain ⟨-, -, handle, -, -, -, hAttached⟩ := hInv.own call hCall
  exact (hInv.issued _ hAttached).1.ne (of_decide_eq_true hSame)

theorem nodup_map_concat {α β : Type} {f : α → β} {list : List α} {a : α}
    (hNodup : (list.map f).Nodup) (hFresh : ∀ b ∈ list, f b ≠ f a) :
    ((list ++ [a]).map f).Nodup := by
  rw [List.map_append]
  refine hNodup.append (List.nodup_singleton _) (List.disjoint_singleton.mpr fun hMem => ?_)
  obtain ⟨b, hOld, hSame⟩ := List.mem_map.mp hMem
  exact hFresh b hOld hSame

/-- A driver that was just made has been given nothing. -/
theorem Inv.given_new (hInv : watched.Inv) {platform : HIDPad.Platform} {aName : String}
    {driver : HIDPad.Driver} (hConnect : HIDPad.connect platform aName = some driver)
    {handle : UInt32} {backend : Backend}
    (hInterfaces : backend.interfaces = watched.system.backend.interfaces ++
      [⟨watched.system.backend.allocated, handle, driver⟩]) :
    ∀ interface ∈ backend.interfaces,
      interface.driver.Given (watched.received interface.address) := by
  rw [hInterfaces]
  refine List.forall_mem_append.mpr ⟨hInv.given, List.forall_mem_singleton.mpr ?_⟩
  show driver.Given (watched.received watched.system.backend.allocated)
  rw [hInv.received_next]
  exact ⟨platform, aName, driver, hConnect, rfl⟩

/-- A device is attached under the next handle, and has received nothing yet. -/
theorem Inv.attach (hInv : watched.Inv) {platform : HIDPad.Platform} {aName : String}
    {driver : HIDPad.Driver} (hConnect : HIDPad.connect platform aName = some driver)
    (hAttaches : driver.attaches = true)
    (hSystem : ({ watched.system with
      backend := watched.system.backend.construct driver } : System).Inv)
    (hRoom : watched.system.backend.nextHandle.toNat + 1 ≤ 2 ^ 32 - 2) :
    ({ watched with
      system := { watched.system with backend := watched.system.backend.construct driver }
      attached := watched.attached ++
        [(watched.system.backend.allocated, watched.system.backend.nextHandle)] } :
        Watched).Inv := by
  have hSucc : (watched.system.backend.nextHandle + 1).toNat =
      watched.system.backend.nextHandle.toNat + 1 :=
    Backend.nextHandle_succ (by omega)
  have hEntries := Backend.entries_construct_attached hAttaches watched.system.backend
  have hConstruct := Backend.construct_attached hAttaches watched.system.backend
  have hSent : (watched.system.backend.construct driver).sent = watched.system.backend.sent ++
      [.connect watched.system.backend.nextHandle (Backend.connectPacket driver)] := by
    rw [hConstruct]
  constructor
  · exact hSystem
  · exact hInv.connection
  · exact hInv.recorded
  · exact hInv.owners.trans (connected_of_sent hInv.system hSent).symm
  · show (watched.attached ++ _).map Prod.snd =
      (watched.system.backend.construct driver).sent.filterMap Backend.connectHandle
    rw [hSent, List.map_append, List.filterMap_append, hInv.connects]
    rfl
  · show ∀ entry ∈ watched.attached ++ _,
      entry.1 < (watched.system.backend.construct driver).allocated ∧
        entry.2.toNat < (watched.system.backend.construct driver).nextHandle.toNat
    rw [hConstruct]
    refine List.forall_mem_append.mpr ⟨fun entry hEntry => ?_, ?_⟩
    · obtain ⟨hAddress, hHandle⟩ := hInv.issued entry hEntry
      exact ⟨Nat.lt_succ_of_lt hAddress, hSucc ▸ Nat.lt_succ_of_lt hHandle⟩
    · exact List.forall_mem_singleton.mpr ⟨Nat.lt_succ_self _, hSucc ▸ Nat.lt_succ_self _⟩
  · show (watched.system.backend.construct driver).nextHandle.toNat ≤ _
    rw [hConstruct]
    exact hSucc ▸ hRoom
  · exact nodup_map_concat hInv.addresses fun entry hEntry => (hInv.issued entry hEntry).1.ne
  · refine nodup_map_concat hInv.handles fun entry hEntry hSame => ?_
    exact (hInv.issued entry hEntry).2.ne (congrArg UInt32.toNat hSame)
  · intro handle address hEntry
    rcases List.mem_append.mp (hEntries ▸ hEntry) with hOld | hNew
    · exact List.mem_append_left _ (hInv.entries handle address hOld)
    · cases List.mem_singleton.mp hNew
      exact List.mem_append_right _ (List.mem_singleton_self _)
  · intro handle address hEntry
    rcases List.mem_append.mp (hEntries ▸ hEntry) with hOld | hNew
    · exact hInv.received handle address hOld
    · -- nobody has heard of the new device
      cases List.mem_singleton.mp hNew
      refine hInv.received_next.trans (List.filterMap_eq_nil_iff.mpr fun packet hMem => ?_).symm
      exact List.filterMap_eq_nil_iff.mp hInv.sent_next packet (List.mem_of_mem_take hMem)
  · intro call hCall
    obtain ⟨ref, index, handle, hNumber, hValue, hOwner, hAttached⟩ := hInv.own call hCall
    exact ⟨ref, index, handle, hNumber, hValue, hOwner, List.mem_append_left _ hAttached⟩
  · exact hInv.given_new hConnect (by rw [hConstruct])

/-! ## The backend processes a packet -/

theorem Inv.own_packet (hInv : watched.Inv) {n : Nat} {packet : MFiWPacket ℚ}
    (hPacket : watched.system.frontend.sent[n]? = some packet) :
    ∃ ref index handle, watched.assigned[n]? = some (ref, index) ∧
      watched.owners[ref]? = some handle ∧
      packet = .setPlayerIndex handle index.toInt32 := by
  rw [hInv.recorded.sent, List.getElem?_map] at hPacket
  obtain ⟨⟨ref, index⟩, hAssigned, rfl⟩ := Option.map_eq_some_iff.mp hPacket
  have hRef := hInv.recorded.refs _ (List.mem_of_getElem? hAssigned)
  refine ⟨ref, index, watched.owners[ref], hAssigned, List.getElem?_eq_getElem hRef, ?_⟩
  rw [packetFor, List.getD_eq_getElem?_getD, List.getElem?_eq_getElem hRef, Option.getD_some]

/-- The driver that a packet reaches is the one under its handle. -/
theorem Inv.device_iff (hInv : watched.Inv) {handle : UInt32} {address : Nat} :
    (watched.system.backend.devices handle).getD none = some address ↔
      (handle, address) ∈ watched.system.backend.entries := by
  have hTracked := hInv.system.backend
  constructor
  · intro hDevice
    have hMem : handle ∈ watched.system.backend.handles := by
      by_contra hNot
      rw [hTracked.stray handle hNot] at hDevice
      cases hDevice
    obtain ⟨other, hEntry⟩ := Backend.mem_handles.mp hMem
    rw [hTracked.stored handle other hEntry, Option.getD_some] at hDevice
    obtain rfl : other = address := Option.some.inj hDevice
    exact hEntry
  · intro hEntry
    rw [hTracked.stored handle address hEntry]
    rfl

/-- What a packet leaves as it is. -/
theorem handlePacket_same {backend backend' : Backend} (hTracked : backend.Tracked)
    {packet : MFiWPacket ℚ} (hHandle : backend.handlePacket packet = some backend') :
    backend'.entries = backend.entries ∧ backend'.sent = backend.sent ∧
      backend'.allocated = backend.allocated ∧ backend'.nextHandle = backend.nextHandle := by
  cases packet with
  | setPlayerIndex handle value =>
      simp only [Backend.handlePacket] at hHandle
      split at hHandle
      · next address hDevice =>
          let stored : Backend := { backend with
            devices := Function.update backend.devices handle
              (some ((backend.devices handle).getD none)) }
          have hSound : stored.Sound :=
            ⟨hTracked.sound.nodup, hTracked.sound.fresh, hTracked.sound.unattached⟩
          obtain ⟨interface, hLive, -⟩ := Option.bind_eq_some_iff.mp hHandle
          obtain ⟨reached, hSet, hSame⟩ := Backend.setPlayerIndex_live hSound hLive value
          obtain rfl : reached = backend' := Option.some.inj (hSet.symm.trans hHandle)
          exact ⟨hSame.entries, hSame.sent, hSame.allocated, hSame.nextHandle⟩
      · cases hHandle
        exact ⟨rfl, rfl, rfl, rfl⟩
  | connect handle data =>
      cases hHandle
      exact ⟨rfl, rfl, rfl, rfl⟩
  | disconnect handle =>
      cases hHandle
      exact ⟨rfl, rfl, rfl, rfl⟩
  | inputState handle data =>
      cases hHandle
      exact ⟨rfl, rfl, rfl, rfl⟩
  | pausePressed handle =>
      cases hHandle
      exact ⟨rfl, rfl, rfl, rfl⟩

/-- Among the attached interfaces a packet reaches the one with its handle. -/
theorem Inv.reaches_iff (hInv : watched.Inv) {handle other : UInt32} {address : Nat}
    (hEntry : (other, address) ∈ watched.system.backend.entries) :
    (watched.system.backend.devices handle).getD none = some address ↔ handle = other := by
  constructor
  · intro hDevice
    exact congrArg Prod.fst (List.inj_on_of_nodup_map
      (Backend.entries_addresses_nodup hInv.system.backend.sound)
      (hInv.device_iff.mp hDevice) hEntry rfl)
  · rintro rfl
    exact hInv.device_iff.mpr hEntry

/-- The indices of the calls that were traced are those received. -/
theorem received_withCalls (watched : Watched) (calls : List (Nat × Int32)) (backend : Backend)
    (address : Nat) :
    (watched.withCalls calls backend).received address =
      watched.received address ++ Backend.indicesFor address calls := by
  rw [Watched.received, withCalls, List.filter_append, List.map_append, List.filter_map,
    List.map_map]
  rfl

/-- The index of a packet for the driver that it reaches, if it reaches one. -/
theorem indicesFor_reached (reached : Option Nat) (value : Int32) (address : Nat) :
    Backend.indicesFor address (reached.map (·, value)).toList =
      if reached = some address then [value] else [] := by
  cases reached with
  | none => rfl
  | some other => by_cases hSame : other = address <;> simp [Backend.indicesFor, hSame]

theorem toList_indexFor (handle other : UInt32) (value : Int32) :
    (indexFor other (.setPlayerIndex handle value)).toList =
      if handle = other then [value] else [] := by
  by_cases hSame : handle = other <;> simp [indexFor, hSame]

theorem Inv.backendProcesses (hInv : watched.Inv) {packet : MFiWPacket ℚ}
    {rest : List (MFiWPacket ℚ)} (hNext : watched.system.toBackend = packet :: rest)
    {calls : List (Nat × Int32)} {backend : Backend}
    (hTraced : watched.system.backend.handlePacketTraced packet = some (calls, backend))
    (hSystem : (watched.withCalls calls backend).system.Inv) :
    (watched.withCalls calls backend).Inv := by
  obtain ⟨hEntries, hSent, hAllocated, hNextHandle⟩ :=
    handlePacket_same hInv.system.backend (Backend.handlePacket_of_traced hTraced)
  obtain ⟨-, hPacket, -⟩ := System.drop_eq_cons hNext
  obtain ⟨ref, index, handle, hAssigned, hOwner, rfl⟩ := hInv.own_packet hPacket
  have hCalls := Backend.calls_of_traced hTraced
  refine hInv.backend hSystem (hSent.trans (List.append_nil _).symm) rfl hAllocated.ge hNextHandle
    (fun entry hEntry => hEntries ▸ hEntry) ?_ ?_ ?_
  · intro other address hEntry
    refine (received_withCalls watched calls backend address).trans ?_
    rw [filterMap_take_succ hPacket, ← hInv.received other address hEntry, hCalls,
      indicesFor_reached, if_congr (hInv.reaches_iff hEntry) rfl rfl, toList_indexFor]
  · intro call hMem
    rcases List.mem_append.mp hMem with hOld | hNew
    · exact hInv.own call hOld
    · obtain ⟨⟨address, value⟩, hMade, rfl⟩ := List.mem_map.mp hNew
      rw [hCalls] at hMade
      obtain ⟨other, hDevice, hSame⟩ := Option.map_eq_some_iff.mp (Option.mem_toList.mp hMade)
      obtain ⟨rfl, rfl⟩ := Prod.mk.inj hSame
      exact ⟨ref, index, handle, hAssigned, rfl, hOwner,
        hInv.entries handle other (hInv.device_iff.mp hDevice)⟩
  · intro interface hMem
    have hGiven := Backend.given_of_traced hInv.system.backend.sound hTraced hInv.given
      interface hMem
    rw [← received_withCalls watched calls backend] at hGiven
    exact hGiven

/-! ## The frontend moves -/

theorem getElem?_of_prefix {α : Type} {first second : List α} {i : Nat} {a : α}
    (hPrefix : first <+: second) (hAt : first[i]? = some a) : second[i]? = some a := by
  obtain ⟨hLt, rfl⟩ := List.getElem?_eq_some_iff.mp hAt
  exact List.prefix_iff_getElem?.mp hPrefix i hLt

/-- Whatever the frontend does, what it has done stays as it is. -/
theorem Inv.frontend (hInv : watched.Inv) {frontend : State} {processed : Nat}
    {assigned : List Assignment}
    (hSystem : ({ watched.system with
      frontend := frontend, frontendProcessed := processed } : System).Inv)
    (hConnection : frontend.connection = true)
    (hRecorded : Recorded assigned (frontend.created.map GCController.tweakHandle)
      (frontend.created.map GCController.playerIndex) frontend.sent)
    (hOwners : frontend.created.map GCController.tweakHandle =
      (watched.system.backend.sent.take processed).filterMap Backend.connectHandle)
    (hOwnersGrow : watched.owners <+: frontend.created.map GCController.tweakHandle)
    (hAssignedGrow : watched.assigned <+: assigned)
    (hSentGrow : watched.system.frontend.sent <+: frontend.sent) :
    ({ watched with
      system := { watched.system with frontend := frontend, frontendProcessed := processed }
      assigned := assigned } : Watched).Inv := by
  refine ⟨hSystem, hConnection, hRecorded, hOwners, hInv.connects, hInv.issued, hInv.bound,
    hInv.addresses, hInv.handles, hInv.entries, ?_, ?_, hInv.given⟩
  · intro handle address hEntry
    refine (hInv.received handle address hEntry).trans ?_
    obtain ⟨packets, hSent⟩ := hSentGrow
    show _ = (frontend.sent.take watched.system.backendProcessed).filterMap _
    rw [← hSent, List.take_append_of_le_length hInv.system.backendProcessed]
  · intro call hCall
    obtain ⟨ref, index, handle, hNumber, hValue, hOwner, hAttached⟩ := hInv.own call hCall
    exact ⟨ref, index, handle, getElem?_of_prefix hAssignedGrow hNumber, hValue,
      getElem?_of_prefix hOwnersGrow hOwner, hAttached⟩

theorem map_set_same {α β : Type} {f : α → β} {list : List α} {i : Nat} {a b : α}
    (hAt : list[i]? = some b) (hSame : f a = f b) : (list.set i a).map f = list.map f := by
  obtain ⟨hLt, rfl⟩ := List.getElem?_eq_some_iff.mp hAt
  rw [List.map_set, hSame, ← List.map_set, List.set_getElem_self]

/-- What the frontend sends and what its controllers are is changed by `Connect` packets
only. -/
theorem frontend_quiet {frontend frontend' : State} {packet : MFiWPacket ℚ}
    (hPacket : Backend.connectHandle packet = none)
    (hHandle : frontend.handlePacket packet = some frontend') :
    frontend'.created.map GCController.tweakHandle =
        frontend.created.map GCController.tweakHandle ∧
      frontend'.created.map GCController.playerIndex =
        frontend.created.map GCController.playerIndex ∧
      frontend'.sent = frontend.sent ∧ frontend'.connection = frontend.connection := by
  cases packet with
  | connect handle data => cases hPacket
  | disconnect handle =>
      rw [State.handlePacket, State.handlePacketDisconnect] at hHandle
      split at hHandle
      · cases hHandle
        exact ⟨rfl, rfl, rfl, rfl⟩
      · obtain ⟨i, -, hMore⟩ := Option.bind_eq_some_iff.mp hHandle
        obtain ⟨tweak, -, hReturn⟩ := Option.bind_eq_some_iff.mp hMore
        cases hReturn
        exact ⟨rfl, rfl, rfl, rfl⟩
  | inputState handle data =>
      rw [State.handlePacket, State.handlePacketInputState] at hHandle
      split at hHandle
      · cases hHandle
        exact ⟨rfl, rfl, rfl, rfl⟩
      · next ref hRef =>
          obtain ⟨tweak, hTweak, hMore⟩ := Option.bind_eq_some_iff.mp hHandle
          obtain ⟨⟨tweak', left, calls⟩, hUpdate, hReturn⟩ := Option.bind_eq_some_iff.mp hMore
          cases hReturn
          obtain ⟨⟨elements, rest⟩, -, hTweak'⟩ := Option.bind_eq_some_iff.mp hUpdate
          cases hTweak'
          exact ⟨map_set_same hTweak rfl, map_set_same hTweak rfl, rfl, rfl⟩
  | setPlayerIndex handle value =>
      cases hHandle
      exact ⟨rfl, rfl, rfl, rfl⟩
  | pausePressed handle =>
      rw [State.handlePacket, State.handlePacketPausePressed] at hHandle
      split at hHandle
      · cases hHandle
        exact ⟨rfl, rfl, rfl, rfl⟩
      · split_ifs at hHandle
        all_goals
          cases hHandle
          exact ⟨rfl, rfl, rfl, rfl⟩

/-- The handle of a `Connect` packet was given out, and is not that of the keyboard. -/
theorem Inv.handle_ne_local (hInv : watched.Inv) {handle : UInt32}
    (hMem : handle ∈ watched.attached.map Prod.snd) : handle ≠ MFiWLocalHandle := by
  obtain ⟨entry, hEntry, rfl⟩ := List.mem_map.mp hMem
  have hIssued := (hInv.issued entry hEntry).2
  have hBound := hInv.bound
  intro hLocal
  rw [hLocal, show MFiWLocalHandle.toNat = 2 ^ 32 - 1 from rfl] at hIssued
  omega

theorem setControllerIndex_eq {frontend : State} (hConnection : frontend.connection = true)
    {handle : UInt32} (hHandle : handle ≠ MFiWLocalHandle) (index : Int32) :
    frontend.setControllerIndex handle index =
      { frontend with sent := frontend.sent ++ [.setPlayerIndex handle index] } := by
  rw [State.setControllerIndex, if_pos ⟨hConnection, hHandle⟩]

theorem unset_int32 : ∃ value : Int32, gcControllerPlayerIndexUnset = value.toInt64 :=
  ⟨-1, by decide⟩

/-- A packet that builds no controller assigns no index. -/
theorem Inv.frontendPasses (hInv : watched.Inv) {packet : MFiWPacket ℚ}
    (hPacket : watched.system.backend.sent[watched.system.frontendProcessed]? = some packet)
    (hConnect : Backend.connectHandle packet = none) {frontend : State}
    (hHandle : watched.system.frontend.handlePacket packet = some frontend)
    (hSystem : ({ watched.system with
      frontend := frontend
      frontendProcessed := watched.system.frontendProcessed + 1 } : System).Inv) :
    ({ watched with
      system := { watched.system with
        frontend := frontend
        frontendProcessed := watched.system.frontendProcessed + 1 } } : Watched).Inv := by
  obtain ⟨hOwners, hIndices, hSent, hConnection⟩ := frontend_quiet hConnect hHandle
  refine hInv.frontend hSystem (hConnection.trans hInv.connection) ?_ ?_ ?_ List.prefix_rfl ?_
  · rw [hOwners, hIndices, hSent]
    exact hInv.recorded
  · rw [hOwners, filterMap_take_succ hPacket, hConnect, Option.toList_none, List.append_nil]
    exact hInv.owners
  · rw [hOwners]
    exact List.prefix_rfl
  · rw [hSent]

/-- A new controller sends the unset index to its own device. -/
theorem Inv.frontendConnects (hInv : watched.Inv) {handle : UInt32} {data : MFiWConnectPacket}
    (hPacket : watched.system.backend.sent[watched.system.frontendProcessed]? =
      some (.connect handle data))
    (hSystem : ({ watched.system with
      frontend := watched.system.frontend.handlePacketConnect handle data
      frontendProcessed := watched.system.frontendProcessed + 1 } : System).Inv) :
    ({ watched with
      system := { watched.system with
        frontend := watched.system.frontend.handlePacketConnect handle data
        frontendProcessed := watched.system.frontendProcessed + 1 }
      assigned := watched.assigned ++ [(watched.owners.length, gcControllerPlayerIndexUnset)] } :
        Watched).Inv := by
  have hIssued : handle ∈ watched.attached.map Prod.snd := by
    rw [hInv.connects]
    exact List.mem_filterMap.mpr ⟨_, List.mem_of_getElem? hPacket, rfl⟩
  have hControl := setControllerIndex_eq hInv.connection (hInv.handle_ne_local hIssued)
    gcControllerPlayerIndexUnset.toInt32
  have hCreated := State.handlePacketConnect_created handle data watched.system.frontend
  have hSent : (watched.system.frontend.handlePacketConnect handle data).sent =
      watched.system.frontend.sent ++
        [.setPlayerIndex handle gcControllerPlayerIndexUnset.toInt32] := by
    rw [State.handlePacketConnect, hControl]
  refine hInv.frontend hSystem ?_ ?_ ?_ ?_ (List.prefix_append _ _) ?_
  · rw [State.handlePacketConnect, hControl]
    exact hInv.connection
  · rw [hCreated, hSent, List.map_append, List.map_append]
    exact hInv.recorded.connect handle unset_int32
  · rw [hCreated, List.map_append, filterMap_take_succ hPacket]
    exact congrArg (· ++ [handle]) hInv.owners
  · rw [hCreated, List.map_append]
    exact List.prefix_append _ _
  · rw [hSent]
    exact List.prefix_append _ _

theorem Inv.frontendProcesses (hInv : watched.Inv) {packet : MFiWPacket ℚ}
    {rest : List (MFiWPacket ℚ)} (hNext : watched.system.toFrontend = packet :: rest)
    {frontend : State} (hHandle : watched.system.frontend.handlePacket packet = some frontend)
    (hSystem : ({ watched.system with
      frontend := frontend
      frontendProcessed := watched.system.frontendProcessed + 1 } : System).Inv) :
    ({ watched with
      system := { watched.system with
        frontend := frontend, frontendProcessed := watched.system.frontendProcessed + 1 }
      assigned := watched.assigned ++ (watched.assignment .frontendProcesses).toList } :
        Watched).Inv := by
  obtain ⟨-, hPacket, -⟩ := System.drop_eq_cons hNext
  cases packet with
  | connect handle data =>
      have hSome : watched.assignment .frontendProcesses =
          some (watched.owners.length, gcControllerPlayerIndexUnset) := by
        simp only [assignment, hNext, Watched.owners, List.length_map]
      cases hHandle
      rw [hSome]
      exact hInv.frontendConnects hPacket hSystem
  | disconnect _ | inputState _ _ | setPlayerIndex _ _ | pausePressed _ =>
      have hNone : watched.assignment .frontendProcesses = none := by
        simp only [assignment, hNext]
      rw [hNone, Option.toList_none, List.append_nil]
      exact hInv.frontendPasses hPacket rfl hHandle hSystem

/-- The application assigns an index to a controller that it was given. -/
theorem Inv.appSetsPlayerIndex (hInv : watched.Inv) {ref : ControllerRef} {index : Int64}
    (hInt32 : ∃ value : Int32, index = value.toInt64)
    (hSystem : ({ watched.system with
      frontend := watched.system.frontend.setPlayerIndex ref index } : System).Inv) :
    ({ watched with
      system := { watched.system with
        frontend := watched.system.frontend.setPlayerIndex ref index }
      assigned := watched.assigned ++
        (watched.assignment (.appSetsPlayerIndex ref index)).toList } : Watched).Inv := by
  by_cases hRef : ref < watched.system.frontend.created.length
  · have hTweak := List.getElem?_eq_getElem hRef
    have hOwner : watched.owners[ref]? =
        some watched.system.frontend.created[ref].tweakHandle := by
      rw [Watched.owners, List.getElem?_map, hTweak, Option.map_some]
    have hIssued := hInv.owner_attached (List.mem_of_getElem? hOwner)
    have hSet : watched.system.frontend.setPlayerIndex ref index =
        { watched.system.frontend with
          created := watched.system.frontend.created.set ref
            { watched.system.frontend.created[ref] with playerIndex := index }
          sent := watched.system.frontend.sent ++
            [.setPlayerIndex watched.system.frontend.created[ref].tweakHandle index.toInt32] } := by
      simp only [State.setPlayerIndex, hTweak]
      exact if_pos ⟨hInv.connection, hInv.handle_ne_local hIssued⟩
    have hPacket : packetFor watched.owners (ref, index) =
        .setPlayerIndex watched.system.frontend.created[ref].tweakHandle index.toInt32 := by
      rw [packetFor, List.getD_eq_getElem?_getD, hOwner, Option.getD_some]
    have hSome : watched.assignment (.appSetsPlayerIndex ref index) = some (ref, index) :=
      if_pos hRef
    rw [hSome, Option.toList_some]
    rw [hSet] at hSystem ⊢
    have hOwners : (watched.system.frontend.created.set ref
        { watched.system.frontend.created[ref] with playerIndex := index }).map
          GCController.tweakHandle = watched.owners := map_set_same hTweak rfl
    refine hInv.frontend hSystem hInv.connection ?_ (hOwners.trans hInv.owners) ?_
      (List.prefix_append _ _) (List.prefix_append _ _)
    · rw [hOwners, List.map_set, ← hPacket]
      refine hInv.recorded.set ?_ hInt32
      rw [Watched.owners, List.length_map]
      exact hRef
    · rw [hOwners]
  · -- there is no such controller
    have hSame : watched.system.frontend.setPlayerIndex ref index = watched.system.frontend := by
      rw [State.setPlayerIndex, List.getElem?_eq_none (not_lt.mp hRef)]
    have hNone : watched.assignment (.appSetsPlayerIndex ref index) = none := if_neg hRef
    rw [hSame, hNone, Option.toList_none, List.append_nil]
    exact hInv

end Watched
end MFiWrapper
