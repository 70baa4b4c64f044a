import MFiWrapper.Backend.Attachments
import MFiWrapper.Backend.Isolation
import MFiWrapper.Backend.RegistryRuns
import MFiWrapper.Backend.ReportBuffer

/-!
# `HIDManager.cpp`: devices and their reports

The HID manager has an interface made for every device, hands it the reports of the
device, and passes on what the driver asks of the device.  A connection and its interface
are made and deleted together, so both are referred to by the address of the interface.
A log is kept of the calls made on the interfaces, each with the static buffers as it
found them.
-/

namespace MFiWrapper

open Library HIDPad Wiimote

/-! ## Devices -/

/-- What `IOHIDDeviceGetProperty` returns for a device. -/
structure HIDDevice where
  product : String
  vendorID : Int32
  productID : Int32

/-- The name `DeviceAttached` finds for a device; on iOS it is not the device's own. -/
def HIDDevice.name (platform : Platform) (device : HIDDevice) : String :=
  if !platform.ios then device.product
  else if device.vendorID = 0x57E ∧ device.productID = 0x306 then "Nintendo RVL-CNT-01"
  else if device.vendorID = 0x57E ∧ device.productID = 0x330 then "Nintendo RVL-CNT-01-UC"
  else if device.vendorID = 0x54C ∧ device.productID = 0x5C4 then "Wireless Controller"
  else "Unrecognized Device"

/-- What IOKit is asked to do with a device. -/
inductive DeviceRequest
  /-- `IOHIDDeviceSetReport`. -/
  | setReport (aFeature : Bool) (reportID : UInt8) (report : List UInt8)
  /-- `IOHIDDeviceGetReport`. -/
  | getReport (aFeature : Bool) (reportID : UInt8) (size : Nat)
  deriving DecidableEq

/-- `HIDManager::SetReport` and `HIDManager::GetReport`: the first byte of the buffer is
the driver's own. -/
def DriverCall.request : DriverCall → Option DeviceRequest
  | .setReport aFeature aID aData => some (.setReport aFeature aID (aData.drop 1))
  | .getReport aFeature aID aSize => some (.getReport aFeature aID (aSize.toNat - 1))
  | .attachController | .sendPausePressed | .sendControllerState _ => none

/-- The packet that a call sends to the frontend. -/
def DriverCall.packet (handle : UInt32) : DriverCall → Option (MFiWPacket ℚ)
  | .sendPausePressed => some (.pausePressed handle)
  | .sendControllerState aData => some (.inputState handle aData)
  | .setReport _ _ _ | .getReport _ _ _ | .attachController => none

namespace HIDPad

/-- The class that `HIDPad::Connect` selects. -/
def kindOf (aName : String) : Option Kind :=
  if strstr aName "PLAYSTATION(R)3 Controller" then some .playstation3
  else if strstr aName "Nintendo RVL-CNT-01-UC" then some .wiiUPro
  else if strstr aName "Nintendo RVL-CNT-01" then some .wiiMote
  else if strstr aName "Wireless Controller" then some .dualShock4
  else none

/-- `HIDPad::Connect`, with the calls that the constructor makes. -/
def connectCalls (platform : Platform) (aName : String) : Option (Driver × List DriverCall) :=
  match kindOf aName with
  | some kind => kind.construct platform
  -- a plain interface
  | none => some (.dummy, [])

/-- What `HandlePacket` leaves of the bytes it is given: the Wii U Pro Controller driver
inverts the button bytes where they are. -/
def Driver.leaves (aData : Bytes) (aSize : UInt16) : Driver → Bytes
  | .wiiUPro _ =>
      if WiiUPro.Accepts aData aSize then fun i =>
        if i = 0x0C ∨ i = 0x0D ∨ i = 0x0E then aData i ^^^ 0xFF else aData i
      else aData
  | .playstation3 _ | .dualShock4 _ | .wiiMote _ | .dummy => aData

end HIDPad

namespace Backend

/-- A driver has moved on. -/
def setDriver (address : Nat) (driver : Driver) (backend : Backend) : Backend :=
  { backend with interfaces := backend.interfaces.map fun interface =>
      if interface.address = address then { interface with driver := driver } else interface }

/-- A call that a driver makes of the backend. -/
def perform (interface : Interface) (backend : Backend) : DriverCall → Backend
  | .sendPausePressed => backend.sendPausePressed interface
  | .sendControllerState aData => backend.sendControllerState interface aData
  | .setReport _ _ _ | .getReport _ _ _ | .attachController => backend

end Backend

/-! ## The manager -/

/-- `HIDManager::Connection`, and what is behind it in memory. -/
structure HIDConnection where
  hidpad : Nat
  data : Bytes

/-- The backend with the connections of the HID manager, the static buffers of the
drivers, and what IOKit was asked for. -/
structure HIDManager where
  backend : Backend
  statics : Statics
  connections : List HIDConnection
  requests : List (Nat × DeviceRequest)
  /-- The calls made on the interfaces. -/
  history : List (Nat × Statics × PadCall)

namespace HIDManager

def initial : HIDManager := ⟨.initial, .initial, [], [], []⟩

/-- What a driver asks of its device. -/
def requestsOf (address : Nat) (calls : List DriverCall) : List (Nat × DeviceRequest) :=
  (calls.filterMap DriverCall.request).map (address, ·)

/-- `DeviceAttached`. -/
def deviceAttached (platform : Platform) (device : HIDDevice) (manager : HIDManager) :
    Option HIDManager := do
  let (driver, calls) ← HIDPad.connectCalls platform (device.name platform)
  let address := manager.backend.allocated
  return { manager with
    backend := manager.backend.construct driver
    connections := manager.connections ++ [⟨address, fun _ => 0⟩]
    requests := manager.requests ++ requestsOf address calls }

/-- `DeviceRemoved`. -/
def deviceRemoved (address : Nat) (manager : HIDManager) : HIDManager :=
  { manager with
    backend := manager.backend.deviceRemoved address
    connections := manager.connections.filter fun connection => connection.hidpad ≠ address }

/-- A virtual call on the interface at an address, which is undefined when nothing lives
there. -/
def call (address : Nat) (c : PadCall) (manager : HIDManager) : Option HIDManager := do
  let interface ← manager.backend.interfaceAt address
  let (statics, driver, calls) ← interface.driver.call manager.statics c
  return { manager with
    backend := calls.foldl (Backend.perform interface) (manager.backend.setDriver address driver)
    statics := statics
    requests := manager.requests ++ requestsOf address calls
    history := manager.history ++ [(address, manager.statics, c)] }

/-- `DeviceReport`: IOKit has stored the report in the buffer it was registered with,
which is all of `data` but its first byte.  Without a connection there is no callback. -/
def deviceReport (address : Nat) (report : List UInt8) (manager : HIDManager) :
    Option HIDManager :=
  match manager.connections.find? fun connection => connection.hidpad == address with
  | none => some manager
  | some connection => do
      let report := report.take 2047
      let data := reportBuffer report connection.data
      let interface ← manager.backend.interfaceAt address
      let manager ← manager.call address (HIDPad.deviceReport report connection.data)
      let data := interface.driver.leaves data (UInt16.ofNat (report.length + 1))
      return { manager with connections := manager.connections.map fun other =>
        if other.hidpad = address then { other with data := data } else other }

/-- `BackendConnection::HandlePacket` for a player index. -/
def playerIndexReceived (handle : UInt32) (value : Int32) (manager : HIDManager) :
    Option HIDManager :=
  let device := (manager.backend.devices handle).getD none
  let manager := { manager with backend := { manager.backend with
    devices := Function.update manager.backend.devices handle (some device) } }
  match device with
  | some address => manager.call address (.setPlayerIndex value)
  | none => some manager

/-- What can happen to the backend. -/
inductive Event
  | deviceAttached (platform : Platform) (device : HIDDevice)
  | deviceRemoved (address : Nat)
  | deviceReport (address : Nat) (report : List UInt8)
  | playerIndexReceived (handle : UInt32) (value : Int32)

def step (manager : HIDManager) : Event → Option HIDManager
  | .deviceAttached platform device => manager.deviceAttached platform device
  | .deviceRemoved address => some (manager.deviceRemoved address)
  | .deviceReport address report => manager.deviceReport address report
  | .playerIndexReceived handle value => manager.playerIndexReceived handle value

/-- How many handles an event uses up. -/
def Event.attaches : Event → Nat
  | .deviceAttached platform device => if Backend.recognised (device.name platform) then 1 else 0
  | _ => 0

end HIDManager

/-! ## Drivers and their calls -/

namespace HIDPad

/-- The driver that is selected, without the calls of its constructor. -/
theorem connectCalls_fst (platform : Platform) (aName : String) :
    (connectCalls platform aName).map Prod.fst = connect platform aName := by
  unfold connectCalls kindOf connect
  split_ifs
  · rfl
  · rfl
  · simp only [Kind.construct, Option.map_map]
    cases WiiMote.construct <;> rfl
  · rfl
  · rfl

/-- A call on a driver leaves it the driver it is. -/
theorem Driver.call_attaches {statics statics' : Statics} {driver driver' : Driver} {c : PadCall}
    {calls : List DriverCall} (hCall : driver.call statics c = some (statics', driver', calls)) :
    driver'.attaches = driver.attaches := by
  cases driver with
  | playstation3 pad =>
      cases c with
      | setPlayerIndex aIndex => cases hCall; rfl
      | handlePacket aData aSize =>
          obtain ⟨result, -, hResult⟩ := Option.map_eq_some_iff.mp hCall
          cases hResult
          rfl
  | dualShock4 pad =>
      cases c with
      | setPlayerIndex aIndex => cases hCall; rfl
      | handlePacket aData aSize =>
          obtain ⟨result, -, hResult⟩ := Option.map_eq_some_iff.mp hCall
          cases hResult
          rfl
  | wiiMote device =>
      cases c with
      | setPlayerIndex aIndex | handlePacket aData aSize =>
          obtain ⟨result, -, hResult⟩ := Option.map_eq_some_iff.mp hCall
          cases hResult
          rfl
  | wiiUPro pad =>
      cases c with
      | setPlayerIndex aIndex => cases hCall; rfl
      | handlePacket aData aSize =>
          obtain ⟨result, -, hResult⟩ := Option.map_eq_some_iff.mp hCall
          cases hResult
          rfl
  | dummy => cases hCall; rfl

/-- A call on a driver in a state that it can be in completes. -/
theorem Driver.Sound.call {driver : Driver} (hSound : driver.Sound) {statics : Statics}
    (hInv : statics.Inv) (c : PadCall) :
    ∃ statics' driver' calls, driver.call statics c = some (statics', driver', calls) ∧
      statics'.Inv ∧ driver'.Sound := by
  by_cases hSends : driver.SendsStoredColour c
  · obtain ⟨driver', answer, hSound', hCall⟩ := sendsStoredColour_call hSends
    exact ⟨_, _, _, hCall statics hInv, hInv, hSound'⟩
  · obtain ⟨driver', calls, hSound', hCall⟩ := independent_of_not_sendsStoredColour hSound hSends
    obtain ⟨statics', hCall, hInv'⟩ := hCall statics hInv
    exact ⟨_, _, _, hCall, hInv', hSound'⟩

/-- A constructor sends the frontend nothing but the description of the controller. -/
theorem Kind.construct_quiet {platform : Platform} {kind : Kind} {driver : Driver}
    {calls : List DriverCall} (hConstruct : kind.construct platform = some (driver, calls))
    (handle : UInt32) :
    driver.attaches = true ∧ calls.filterMap (DriverCall.packet handle) = [] := by
  cases kind with
  | playstation3 =>
      cases hConstruct
      refine ⟨rfl, ?_⟩
      unfold Playstation3.construct
      split_ifs <;> rfl
  | dualShock4 => cases hConstruct; exact ⟨rfl, rfl⟩
  | wiiMote =>
      -- the LEDs are turned off and the status is asked for
      have hCalls : (Kind.wiiMote.construct platform).map Prod.snd =
          some [.setReport false 0x11 [0x52, 0x11, 0x00],
            .setReport false 0x15 [0x52, 0x15, 0x00], .attachController] := rfl
      have hAttaches : (Kind.wiiMote.construct platform).map (fun made => made.1.attaches) =
          some true := rfl
      rw [hConstruct] at hCalls hAttaches
      obtain rfl := Option.some.inj hCalls
      exact ⟨Option.some.inj hAttaches, rfl⟩
  | wiiUPro => cases hConstruct; exact ⟨rfl, rfl⟩

/-- The LEDs of a Wii Remote are all that a player index changes there. -/
theorem setPlayerLeds_quiet {wm wm' : WiimoteT} {index : Int32} {calls : List DriverCall}
    (hSet : setPlayerLeds wm index = some (wm', calls)) (handle : UInt32) :
    calls.filterMap (DriverCall.packet handle) = [] := by
  have hLeds {leds : UInt8} (hSet : wiimoteSetLeds wm leds = some (wm', calls)) :
      calls.filterMap (DriverCall.packet handle) = [] := by
    unfold wiimoteSetLeds at hSet
    split_ifs at hSet
    · cases hSet
      rfl
    · obtain ⟨made, hSend, hReturn⟩ := Option.bind_eq_some_iff.mp hSet
      rw [wiimoteSend, if_pos (by simp)] at hSend
      cases hReturn
      cases hSend
      rfl
  unfold setPlayerLeds at hSet
  split_ifs at hSet
  · exact hLeds hSet
  · exact hLeds hSet
  · exact hLeds hSet
  · exact hLeds hSet
  · cases hSet
    rfl

/-- A player index sends nothing to the frontend. -/
theorem Driver.call_setPlayerIndex {statics statics' : Statics} {driver driver' : Driver}
    {aIndex : Int32} {calls : List DriverCall}
    (hCall : driver.call statics (.setPlayerIndex aIndex) = some (statics', driver', calls)) :
    driver.setPlayerIndex aIndex = some driver' ∧
      ∀ handle, calls.filterMap (DriverCall.packet handle) = [] := by
  cases driver with
  | playstation3 _ | dualShock4 _ | wiiUPro _ | dummy => cases hCall; exact ⟨rfl, fun _ => rfl⟩
  | wiiMote device =>
      obtain ⟨⟨device', made⟩, hSet, hResult⟩ := Option.map_eq_some_iff.mp hCall
      cases hResult
      refine ⟨?_, setPlayerLeds_quiet hSet⟩
      simp only [setPlayerIndex, hSet, Option.bind_eq_bind, Option.bind_some]
      rfl

end HIDPad

/-! ## The backend -/

namespace Backend

variable {backend : Backend} {interface : Interface}

/-- The calls of a driver put packets with its handle at the end of what was sent. -/
theorem foldl_perform (interface : Interface) (calls : List DriverCall) (backend : Backend) :
    calls.foldl (perform interface) backend = { backend with
      sent := backend.sent ++ calls.filterMap (DriverCall.packet interface.handle) } := by
  induction calls generalizing backend with
  | nil => simp
  | cons c calls ih =>
      rw [List.foldl_cons, ih, List.filterMap_cons]
      cases c <;> simp [perform, sendPausePressed, sendControllerState, DriverCall.packet]

theorem setDriver_same {address : Nat} {driver : Driver} (hSound : backend.Sound)
    (hLive : backend.interfaceAt address = some interface)
    (hAttaches : driver.attaches = interface.driver.attaches) :
    SameButDrivers backend (backend.setDriver address driver) := by
  refine ⟨rfl, rfl, rfl, rfl, ?_⟩
  rw [setDriver, List.map_map]
  refine List.map_congr_left fun other hMem => ?_
  rw [Function.comp_apply]
  by_cases hSame : other.address = address
  · have hOther : other = interface :=
      Option.some.inj (((interfaceAt_eq_some hSound).mpr ⟨hMem, hSame⟩).symm.trans hLive)
    rw [if_pos hSame, hOther]
    simp only [shape, Interface.attached, hAttaches]
  · rw [if_neg hSame]

/-- The other interfaces are left alone. -/
theorem mem_setDriver {address : Nat} {driver : Driver} {other : Interface}
    (hMem : other ∈ (backend.setDriver address driver).interfaces) :
    (other ∈ backend.interfaces ∧ other.address ≠ address) ∨
      ∃ old ∈ backend.interfaces, old.address = address ∧ other = { old with driver := driver } := by
  obtain ⟨old, hOld, rfl⟩ := List.mem_map.mp hMem
  by_cases hSame : old.address = address
  · rw [if_pos hSame]
    exact .inr ⟨old, hOld, hSame, rfl⟩
  · rw [if_neg hSame]
    exact .inl ⟨hOld, hSame⟩

end Backend

end MFiWrapper
