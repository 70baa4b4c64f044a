import Mathlib.Data.List.Infix
import MFiWrapper.Backend.HIDPadDualShock4
import MFiWrapper.Backend.HIDPadPlaystation3
import MFiWrapper.Backend.HIDPadWiiMote
import MFiWrapper.Backend.HIDPadWiiUPro

/-!
# `HIDPad.cpp`: interfaces and their drivers

A HID device is served by an object derived from `Interface`; which one is
decided by the device's name.  A device with an unknown name gets a plain
`Interface`, which is never attached to the backend.
-/

namespace MFiWrapper
namespace HIDPad

open Library Wiimote

/-- The class of an interface, with the state of its driver. -/
inductive Driver
  | playstation3 (pad : Playstation3)
  | dualShock4 (pad : DualShock4)
  | wiiMote (device : WiimoteT)
  | wiiUPro (pad : WiiUPro)
  | dummy

namespace Driver

/-- The constructor of the class ends in `FinalizeConnection`. -/
def attaches : Driver → Bool
  | .dummy => false
  | _ => true

def getVendorName : Driver → String
  | .playstation3 _ => Playstation3.getVendorName
  | .dualShock4 _ => DualShock4.getVendorName
  | .wiiMote _ => WiiMote.getVendorName
  | .wiiUPro _ => WiiUPro.getVendorName
  | .dummy => "Unknown Vendor"

def getPresentControls : Driver → UInt32
  | .playstation3 _ => Playstation3.getPresentControls
  | .dualShock4 _ => DualShock4.getPresentControls
  | .wiiUPro _ => WiiUPro.getPresentControls
  -- the base class
  | .wiiMote _ | .dummy => 0xFFFFFFFF

def getAnalogControls : Driver → UInt32
  | .playstation3 _ => Playstation3.getAnalogControls
  | .dualShock4 _ => DualShock4.getAnalogControls
  | .wiiUPro _ => WiiUPro.getAnalogControls
  -- the base class
  | .wiiMote _ | .dummy => 0

/-- The virtual `SetPlayerIndex`; what is written to the device is left out. -/
def setPlayerIndex (aIndex : Int32) : Driver → Option Driver
  | .playstation3 pad => some (.playstation3 (pad.setPlayerIndex aIndex))
  | .dualShock4 pad => some (.dualShock4 (pad.setPlayerIndex aIndex))
  | .wiiMote device => do
      let (device, _) ← WiiMote.setPlayerIndex aIndex device
      return .wiiMote device
  | .wiiUPro pad => some (.wiiUPro (pad.setPlayerIndex aIndex))
  | .dummy => some .dummy

end Driver

/-- The system the code runs on, as far as it shows: the build, and what the
uninitialised members of a new object hold. -/
structure Platform where
  ios : Bool
  memory : StickAxis → Calibration

/-- `strstr(aName, text)` is not null. -/
def strstr (aName text : String) : Bool := decide (text.toList <:+: aName.toList)

/-- `HIDPad::Connect`, up to the call of `FinalizeConnection` in the constructor
it selects. -/
def connect (platform : Platform) (aName : String) : Option Driver :=
  if strstr aName "PLAYSTATION(R)3 Controller" then
    some (.playstation3 (Playstation3.construct platform.ios).1)
  else if strstr aName "Nintendo RVL-CNT-01-UC" then
    some (.wiiUPro (WiiUPro.construct platform.memory).1)
  else if strstr aName "Nintendo RVL-CNT-01" then do
    let (device, _) ← WiiMote.construct
    return .wiiMote device
  else if strstr aName "Wireless Controller" then
    some (.dualShock4 DualShock4.construct.1)
  else
    some .dummy

/-- An object derived from `Interface`. -/
structure Interface where
  /-- The address `new` has returned. -/
  address : Nat
  handle : UInt32
  driver : Driver

/-- The interface was attached to the backend. -/
def Interface.attached (interface : Interface) : Bool := interface.driver.attaches

/-! ## Facts -/

/-- Every construction completes. -/
theorem connect_isSome (platform : Platform) (aName : String) :
    ∃ driver, connect platform aName = some driver := by
  unfold connect
  split_ifs
  · exact ⟨_, rfl⟩
  · exact ⟨_, rfl⟩
  · exact ⟨_, rfl⟩
  · exact ⟨_, rfl⟩
  · exact ⟨_, rfl⟩

/-- Every driver accepts every player index, and stays the driver it is. -/
theorem Driver.setPlayerIndex_attaches (aIndex : Int32) (driver : Driver) :
    ∃ driver', driver.setPlayerIndex aIndex = some driver' ∧
      driver'.attaches = driver.attaches := by
  cases driver with
  | wiiMote device =>
      obtain ⟨result, hSet⟩ : ∃ result, WiiMote.setPlayerIndex aIndex device = some result :=
        setPlayerLeds_isSome _ aIndex
      exact ⟨.wiiMote result.1, by simp [setPlayerIndex, hSet], rfl⟩
  | playstation3 pad => exact ⟨_, rfl, rfl⟩
  | dualShock4 pad => exact ⟨_, rfl, rfl⟩
  | wiiUPro pad => exact ⟨_, rfl, rfl⟩
  | dummy => exact ⟨_, rfl, rfl⟩

end HIDPad
end MFiWrapper
