import MFiWrapper.Backend.Interface
import MFiWrapper.Library.FiniteMap
import MFiWrapper.Library.Runs

/-!
# `backend.cpp`: the devices of the backend

The map from handles to interfaces, the packets that arrive from the frontend
and the packets that are sent to it.  An interface is referred to by its
address; addresses are not reused.
-/

namespace MFiWrapper

open Library HIDPad

/-- `strlcpy` into a zeroed buffer of 256 characters. -/
def strlcpy (text : String) : Vector UInt8 256 :=
  Vector.ofFn fun i => ((text.toList.map fun c => UInt8.ofNat c.toNat).take 255).getD i 0

/-- The static variables of `backend.cpp`, the interfaces alive in the order of
their construction, and the packets sent so far. -/
structure Backend where
  nextHandle : UInt32
  /-- `std::map<uint32_t, HIDPad::Interface*>`; the inner `none` is a null
  pointer. -/
  devices : UInt32 → Option (Option Nat)
  interfaces : List Interface
  /-- The next address `new` returns. -/
  allocated : Nat
  sent : List (MFiWPacket ℚ)

namespace Backend

def initial : Backend := ⟨1, fun _ => none, [], 0, []⟩

/-- The description of a controller in `AttachController`. -/
def connectPacket (driver : Driver) : MFiWConnectPacket where
  vendorName := strlcpy driver.getVendorName
  presentControls := driver.getPresentControls
  analogControls := driver.getAnalogControls

/-- `AttachController`. -/
def attachController (driver : Driver) (address : Nat) (backend : Backend) :
    UInt32 × Backend :=
  let handle := backend.nextHandle
  (handle, { backend with
    nextHandle := handle + 1
    devices := Function.update backend.devices handle (some (some address))
    sent := backend.sent ++ [.connect handle (connectPacket driver)] })

/-- `DetachController`. -/
def detachController (interface : Interface) (backend : Backend) : Backend :=
  if (backend.devices interface.handle).isSome then
    { backend with
      devices := Function.update backend.devices interface.handle none
      sent := backend.sent ++ [.disconnect interface.handle] }
  else backend

/-- `SendControllerState`. -/
def sendControllerState (interface : Interface) (aData : MFiWInputStatePacket ℚ)
    (backend : Backend) : Backend :=
  { backend with sent := backend.sent ++ [.inputState interface.handle aData] }

/-- `SendPausePressed`. -/
def sendPausePressed (interface : Interface) (backend : Backend) : Backend :=
  { backend with sent := backend.sent ++ [.pausePressed interface.handle] }

/-- The interface at an address. -/
def interfaceAt (backend : Backend) (address : Nat) : Option Interface :=
  backend.interfaces.find? fun interface => interface.address == address

/-- The construction of an interface: `FinalizeConnection` stores the handle that
`AttachController` returns; a plain interface keeps handle 0. -/
def construct (driver : Driver) (backend : Backend) : Backend :=
  let address := backend.allocated
  let backend := { backend with allocated := address + 1 }
  if driver.attaches then
    let (handle, backend) := backend.attachController driver address
    { backend with interfaces := backend.interfaces ++ [⟨address, handle, driver⟩] }
  else
    { backend with interfaces := backend.interfaces ++ [⟨address, 0, driver⟩] }

/-- A device is attached: `HIDPad::Connect`. -/
def deviceAttached (platform : Platform) (aName : String) (backend : Backend) :
    Option Backend := do
  let driver ← HIDPad.connect platform aName
  return backend.construct driver

/-- A device is removed: its interface is deleted. -/
def deviceRemoved (address : Nat) (backend : Backend) : Backend :=
  match backend.interfaceAt address with
  | none => backend
  | some interface =>
      let backend := backend.detachController interface
      { backend with
        interfaces := backend.interfaces.filter fun interface => interface.address ≠ address }

/-- `device->SetPlayerIndex`, which is undefined when nothing lives at the
address. -/
def setPlayerIndex (address : Nat) (aIndex : Int32) (backend : Backend) : Option Backend := do
  let interface ← backend.interfaceAt address
  let driver ← interface.driver.setPlayerIndex aIndex
  return { backend with
    interfaces := backend.interfaces.map fun interface =>
      if interface.address = address then { interface with driver := driver } else interface }

/-- `BackendConnection::HandlePacket`; `operator[]` inserts a null pointer under
a key that the map does not have. -/
def handlePacket (aPacket : MFiWPacket ℚ) (backend : Backend) : Option Backend :=
  match aPacket with
  | .setPlayerIndex handle value =>
      let device := (backend.devices handle).getD none
      let backend :=
        { backend with devices := Function.update backend.devices handle (some device) }
      match device with
      | some address => backend.setPlayerIndex address value
      | none => some backend
  -- unknown packet
  | _ => some backend

/-- The handles and addresses of the interfaces attached and not yet detached,
in the order in which they were attached. -/
def entries (backend : Backend) : List (UInt32 × Nat) :=
  (backend.interfaces.filter Interface.attached).map fun interface =>
    (interface.handle, interface.address)

/-- Their handles. -/
def handles (backend : Backend) : List UInt32 := backend.entries.map Prod.fst

/-! ## What the operations do to the interfaces -/

/-- What holds of the interfaces in every state: addresses are not shared, and
an interface that was never attached has handle 0. -/
structure Sound (backend : Backend) : Prop where
  nodup : (backend.interfaces.map Interface.address).Nodup
  fresh : ∀ interface ∈ backend.interfaces, interface.address < backend.allocated
  unattached : ∀ interface ∈ backend.interfaces,
    interface.attached = false → interface.handle = 0

variable {backend backend' : Backend}

theorem sound_initial : initial.Sound := by
  constructor
  · exact List.nodup_nil
  · simp [initial]
  · simp [initial]

/-- A recognised device is attached under the next handle. -/
theorem construct_attached {driver : Driver} (hAttaches : driver.attaches = true)
    (backend : Backend) :
    backend.construct driver = {
      nextHandle := backend.nextHandle + 1
      devices := Function.update backend.devices backend.nextHandle (some (some backend.allocated))
      interfaces := backend.interfaces ++ [⟨backend.allocated, backend.nextHandle, driver⟩]
      allocated := backend.allocated + 1
      sent := backend.sent ++ [.connect backend.nextHandle (connectPacket driver)] } := by
  rw [construct, if_pos hAttaches]
  rfl

/-- Any other device gets a plain interface. -/
theorem construct_plain {driver : Driver} (hPlain : driver.attaches = false)
    (backend : Backend) :
    backend.construct driver = { backend with
      interfaces := backend.interfaces ++ [⟨backend.allocated, 0, driver⟩]
      allocated := backend.allocated + 1 } := by
  rw [construct, if_neg (by simp [hPlain])]

theorem Sound.add (hSound : backend.Sound) {handle : UInt32} {driver : Driver}
    (hHandle : driver.attaches = false → handle = 0)
    (hInterfaces : backend'.interfaces =
      backend.interfaces ++ [⟨backend.allocated, handle, driver⟩])
    (hAllocated : backend'.allocated = backend.allocated + 1) : backend'.Sound := by
  constructor
  · rw [hInterfaces, List.map_append, List.nodup_append]
    refine ⟨hSound.nodup, List.nodup_singleton _, ?_⟩
    intro address hMem address' hNew hEq
    obtain ⟨interface, hInterface, rfl⟩ := List.mem_map.mp hMem
    obtain rfl := List.mem_singleton.mp hNew
    exact absurd hEq (hSound.fresh interface hInterface).ne
  · rw [hInterfaces, hAllocated]
    intro interface hMem
    rcases List.mem_append.mp hMem with hOld | hNew
    · exact Nat.lt_succ_of_lt (hSound.fresh interface hOld)
    · obtain rfl := List.mem_singleton.mp hNew
      exact Nat.lt_succ_self _
  · rw [hInterfaces]
    intro interface hMem hPlain
    rcases List.mem_append.mp hMem with hOld | hNew
    · exact hSound.unattached interface hOld hPlain
    · obtain rfl := List.mem_singleton.mp hNew
      exact hHandle hPlain

theorem entries_add {interface : Interface}
    (hInterfaces : backend'.interfaces = backend.interfaces ++ [interface]) :
    backend'.entries = backend.entries ++
      if interface.attached then [(interface.handle, interface.address)] else [] := by
  rw [entries, hInterfaces, List.filter_append, List.map_append, ← entries]
  cases hAttached : interface.attached <;> simp [hAttached]

theorem Sound.construct (hSound : backend.Sound) (driver : Driver) :
    (backend.construct driver).Sound := by
  cases hAttaches : driver.attaches
  · rw [construct_plain hAttaches]
    exact hSound.add (fun _ => rfl) rfl rfl
  · rw [construct_attached hAttaches]
    exact hSound.add (fun hPlain => by simp [hAttaches] at hPlain) rfl rfl

theorem entries_construct_attached {driver : Driver} (hAttaches : driver.attaches = true)
    (backend : Backend) :
    (backend.construct driver).entries =
      backend.entries ++ [(backend.nextHandle, backend.allocated)] := by
  rw [construct_attached hAttaches, entries_add rfl, if_pos (by exact hAttaches)]

theorem handles_construct_attached {driver : Driver} (hAttaches : driver.attaches = true)
    (backend : Backend) :
    (backend.construct driver).handles = backend.handles ++ [backend.nextHandle] := by
  rw [handles, entries_construct_attached hAttaches, List.map_append]
  rfl

theorem entries_construct_plain {driver : Driver} (hPlain : driver.attaches = false)
    (backend : Backend) : (backend.construct driver).entries = backend.entries := by
  rw [construct_plain hPlain, entries_add rfl, if_neg (by simp [Interface.attached, hPlain]),
    List.append_nil]

/-- What is live at an address. -/
theorem interfaceAt_eq_some (hSound : backend.Sound) {address : Nat} {interface : Interface} :
    backend.interfaceAt address = some interface ↔
      interface ∈ backend.interfaces ∧ interface.address = address := by
  rw [interfaceAt]
  constructor
  · intro hFind
    exact ⟨List.mem_of_find?_eq_some hFind, by simpa using List.find?_some hFind⟩
  · rintro ⟨hMem, rfl⟩
    cases hFind : backend.interfaces.find? fun other => other.address == interface.address with
    | none => exact absurd (List.find?_eq_none.mp hFind interface hMem) (by simp)
    | some other =>
        have hOther := List.mem_of_find?_eq_some hFind
        have hSame : other.address = interface.address := by simpa using List.find?_some hFind
        rw [List.inj_on_of_nodup_map hSound.nodup hOther hMem hSame]

theorem mem_entries {handle : UInt32} {address : Nat} :
    (handle, address) ∈ backend.entries ↔
      ∃ interface ∈ backend.interfaces, interface.attached = true ∧
        interface.handle = handle ∧ interface.address = address := by
  simp [entries, and_assoc]

theorem mem_handles {handle : UInt32} :
    handle ∈ backend.handles ↔ ∃ address, (handle, address) ∈ backend.entries := by
  simp [handles]

/-- An interface that is alive and attached has an entry. -/
theorem entry_of_live (hSound : backend.Sound) {address : Nat} {interface : Interface}
    (hLive : backend.interfaceAt address = some interface)
    (hAttached : interface.attached = true) : (interface.handle, address) ∈ backend.entries := by
  obtain ⟨hMem, hAddress⟩ := (interfaceAt_eq_some hSound).mp hLive
  exact mem_entries.mpr ⟨interface, hMem, hAttached, rfl, hAddress⟩

theorem deviceRemoved_interfaces (address : Nat) (backend : Backend) :
    (backend.deviceRemoved address).interfaces =
      backend.interfaces.filter fun interface => interface.address ≠ address := by
  unfold deviceRemoved
  cases hFind : backend.interfaceAt address with
  | none =>
      have hNone := List.find?_eq_none.mp hFind
      refine (List.filter_eq_self.mpr fun interface hMem => ?_).symm
      simpa using hNone interface hMem
  | some interface =>
      simp only [detachController]
      split_ifs <;> rfl

theorem entries_deviceRemoved (address : Nat) (backend : Backend) :
    (backend.deviceRemoved address).entries =
      backend.entries.filter fun entry => entry.2 ≠ address := by
  rw [entries, deviceRemoved_interfaces, entries, List.filter_map, List.filter_filter,
    List.filter_filter]
  simp only [Function.comp_def, Bool.and_comm]

theorem deviceRemoved_absent {address : Nat} (hAbsent : backend.interfaceAt address = none) :
    backend.deviceRemoved address = backend := by
  simp only [deviceRemoved, hAbsent]

/-- An interface that the map knows is erased, and its removal is announced. -/
theorem deviceRemoved_known {address : Nat} {interface : Interface}
    (hLive : backend.interfaceAt address = some interface)
    (hKnown : (backend.devices interface.handle).isSome) :
    backend.deviceRemoved address = { backend with
      devices := Function.update backend.devices interface.handle none
      sent := backend.sent ++ [.disconnect interface.handle]
      interfaces := backend.interfaces.filter fun interface => interface.address ≠ address } := by
  simp only [deviceRemoved, hLive, detachController, if_pos hKnown]

theorem deviceRemoved_unknown {address : Nat} {interface : Interface}
    (hLive : backend.interfaceAt address = some interface)
    (hUnknown : backend.devices interface.handle = none) :
    backend.deviceRemoved address = { backend with
      interfaces := backend.interfaces.filter fun interface => interface.address ≠ address } := by
  simp only [deviceRemoved, hLive, detachController, hUnknown, Option.isSome_none,
    Bool.false_eq_true, if_false]

theorem deviceRemoved_allocated (address : Nat) (backend : Backend) :
    (backend.deviceRemoved address).allocated = backend.allocated := by
  unfold deviceRemoved detachController
  split
  · rfl
  · dsimp only
    split_ifs <;> rfl

theorem deviceRemoved_nextHandle (address : Nat) (backend : Backend) :
    (backend.deviceRemoved address).nextHandle = backend.nextHandle := by
  unfold deviceRemoved detachController
  split
  · rfl
  · dsimp only
    split_ifs <;> rfl

theorem Sound.remove (hSound : backend.Sound) (address : Nat) :
    (backend.deviceRemoved address).Sound := by
  have hSublist : (backend.deviceRemoved address).interfaces.Sublist backend.interfaces := by
    rw [deviceRemoved_interfaces]
    exact List.filter_sublist
  constructor
  · exact hSound.nodup.sublist (hSublist.map _)
  · intro interface hMem
    rw [deviceRemoved_allocated]
    exact hSound.fresh interface (hSublist.subset hMem)
  · exact fun interface hMem => hSound.unattached interface (hSublist.subset hMem)

theorem entries_addresses_nodup (hSound : backend.Sound) :
    (backend.entries.map Prod.snd).Nodup := by
  have hAddresses : backend.entries.map Prod.snd =
      (backend.interfaces.filter Interface.attached).map Interface.address := by
    rw [entries, List.map_map]
    rfl
  rw [hAddresses]
  exact hSound.nodup.sublist (List.filter_sublist.map _)

/-- Dropping the entry with an address drops the entry with its handle. -/
theorem filter_address (hSound : backend.Sound) (hNodup : backend.handles.Nodup)
    {handle : UInt32} {address : Nat} (hEntry : (handle, address) ∈ backend.entries) :
    (backend.entries.filter fun entry => entry.2 ≠ address) =
      backend.entries.filter fun entry => entry.1 ≠ handle := by
  refine List.filter_congr fun entry hMem => ?_
  have hIff : entry.2 = address ↔ entry.1 = handle := by
    constructor
    · intro hAddress
      rw [List.inj_on_of_nodup_map (entries_addresses_nodup hSound) hMem hEntry hAddress]
    · intro hHandle
      rw [List.inj_on_of_nodup_map hNodup hMem hEntry hHandle]
  exact decide_eq_decide.mpr (not_congr hIff)

theorem entries_remove_attached (hSound : backend.Sound) (hNodup : backend.handles.Nodup)
    {handle : UInt32} {address : Nat} (hEntry : (handle, address) ∈ backend.entries) :
    (backend.deviceRemoved address).entries =
      backend.entries.filter fun entry => entry.1 ≠ handle := by
  rw [entries_deviceRemoved, filter_address hSound hNodup hEntry]

theorem handles_remove_attached (hSound : backend.Sound) (hNodup : backend.handles.Nodup)
    {handle : UInt32} {address : Nat} (hEntry : (handle, address) ∈ backend.entries) :
    (backend.deviceRemoved address).handles = backend.handles.erase handle := by
  rw [handles, entries_remove_attached hSound hNodup hEntry, hNodup.erase_eq_filter, handles,
    List.filter_map]
  congr 1
  exact List.filter_congr fun entry _ => decide_not

theorem entries_remove_plain (hSound : backend.Sound) {address : Nat} {interface : Interface}
    (hLive : backend.interfaceAt address = some interface) (hPlain : interface.attached = false) :
    (backend.deviceRemoved address).entries = backend.entries := by
  rw [entries_deviceRemoved, List.filter_eq_self]
  rintro ⟨handle, other⟩ hEntry
  obtain ⟨attached, hMem, hAttached, -, rfl⟩ := mem_entries.mp hEntry
  refine decide_eq_true fun hSame => ?_
  have hLive' := (interfaceAt_eq_some hSound).mpr ⟨hMem, hSame⟩
  obtain rfl : attached = interface := Option.some.inj (hLive'.symm.trans hLive)
  rw [hAttached] at hPlain
  cases hPlain

/-- What the backend sees of an interface. -/
def shape (interface : Interface) : Nat × UInt32 × Bool :=
  (interface.address, interface.handle, interface.attached)

/-- Everything but the states of the drivers is the same. -/
structure SameButDrivers (backend backend' : Backend) : Prop where
  nextHandle : backend'.nextHandle = backend.nextHandle
  devices : backend'.devices = backend.devices
  sent : backend'.sent = backend.sent
  allocated : backend'.allocated = backend.allocated
  shapes : backend'.interfaces.map shape = backend.interfaces.map shape

namespace SameButDrivers

theorem sound (hSame : SameButDrivers backend backend') (hSound : backend.Sound) :
    backend'.Sound := by
  have hOld : ∀ interface ∈ backend'.interfaces,
      ∃ old ∈ backend.interfaces, shape old = shape interface := by
    intro interface hMem
    have hShape : shape interface ∈ backend'.interfaces.map shape := List.mem_map_of_mem hMem
    rw [hSame.shapes] at hShape
    exact List.mem_map.mp hShape
  constructor
  · have hAddresses := congrArg (List.map Prod.fst) hSame.shapes
    simp only [List.map_map] at hAddresses
    exact hAddresses ▸ hSound.nodup
  · intro interface hMem
    obtain ⟨old, hOldMem, hShape⟩ := hOld interface hMem
    rw [hSame.allocated, ← show old.address = interface.address from congrArg Prod.fst hShape]
    exact hSound.fresh old hOldMem
  · intro interface hMem hPlain
    obtain ⟨old, hOldMem, hShape⟩ := hOld interface hMem
    obtain ⟨-, hRest⟩ := Prod.ext_iff.mp hShape
    obtain ⟨hHandle, hAttached⟩ := Prod.ext_iff.mp hRest
    rw [← show old.handle = interface.handle from hHandle]
    exact hSound.unattached old hOldMem (hAttached.trans hPlain)

theorem entries (hSame : SameButDrivers backend backend') :
    backend'.entries = backend.entries := by
  have hEntries (b : Backend) : b.entries =
      ((b.interfaces.map shape).filter fun t => t.2.2).map fun t => (t.2.1, t.1) := by
    rw [Backend.entries, List.filter_map, List.map_map]
    rfl
  rw [hEntries, hEntries, hSame.shapes]

end SameButDrivers

theorem setPlayerIndex_live (hSound : backend.Sound) {address : Nat} {interface : Interface}
    (hLive : backend.interfaceAt address = some interface) (aIndex : Int32) :
    ∃ backend', backend.setPlayerIndex address aIndex = some backend' ∧
      SameButDrivers backend backend' := by
  obtain ⟨driver, hDriver, hAttaches⟩ := interface.driver.setPlayerIndex_attaches aIndex
  refine ⟨{ backend with interfaces := backend.interfaces.map fun interface =>
    if interface.address = address then { interface with driver := driver } else interface },
    ?_, rfl, rfl, rfl, rfl, ?_⟩
  · simp only [setPlayerIndex, hLive, Option.bind_eq_bind, Option.bind_some, hDriver]
    rfl
  · rw [List.map_map]
    refine List.map_congr_left fun other hMem => ?_
    rw [Function.comp_apply]
    by_cases hSame : other.address = address
    · have hOther : other = interface :=
        Option.some.inj (((interfaceAt_eq_some hSound).mpr ⟨hMem, hSame⟩).symm.trans hLive)
      rw [if_pos hSame, hOther]
      simp only [shape, Interface.attached, hAttaches]
    · rw [if_neg hSame]

end Backend
end MFiWrapper
