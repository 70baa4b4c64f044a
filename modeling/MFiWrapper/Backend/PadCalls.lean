import MFiWrapper.Backend.Interface

/-!
# The calls on a pad

The HID manager calls `HandlePacket` of a pad, the backend `SetPlayerIndex`.  A call
may go through the buffers that are static in two functions `SetReport`, so the
state of a call is the driver together with these buffers.  Calls on constructed
drivers always complete.
-/

namespace MFiWrapper
namespace HIDPad

open Library Wiimote

/-- The classes that serve a pad. -/
inductive Kind
  | playstation3 | dualShock4 | wiiMote | wiiUPro
  deriving DecidableEq

/-- The buffers that are static in `Playstation3::SetReport` and in
`DualShock4::SetReport`. -/
structure Statics where
  playstation3 : List UInt8
  dualShock4 : List UInt8

def Statics.initial : Statics := ⟨Playstation3.reportBuffer, DualShock4.reportBuffer⟩

/-- The driver and the calls its constructor makes. -/
def Kind.construct (platform : Platform) : Kind → Option (Driver × List DriverCall)
  | .playstation3 =>
      some (.playstation3 (Playstation3.construct platform.ios).1,
        (Playstation3.construct platform.ios).2)
  | .dualShock4 => some (.dualShock4 DualShock4.construct.1, DualShock4.construct.2)
  | .wiiMote => WiiMote.construct.map fun (device, calls) => (.wiiMote device, calls)
  | .wiiUPro =>
      some (.wiiUPro (WiiUPro.construct platform.memory).1,
        (WiiUPro.construct platform.memory).2)

inductive PadCall
  | setPlayerIndex (aIndex : Int32)
  | handlePacket (aData : Bytes) (aSize : UInt16)

namespace Driver

/-- The virtual call, with the calls it makes. -/
def call (statics : Statics) : Driver → PadCall → Option (Statics × Driver × List DriverCall)
  | .playstation3 pad, .setPlayerIndex aIndex =>
      some (statics, .playstation3 (pad.setPlayerIndex aIndex), [])
  | .playstation3 pad, .handlePacket aData _ =>
      (pad.handlePacket statics.playstation3 aData).map fun (buffer, pad, calls) =>
        ({ statics with playstation3 := buffer }, .playstation3 pad, calls)
  | .dualShock4 pad, .setPlayerIndex aIndex =>
      some (statics, .dualShock4 (pad.setPlayerIndex aIndex), [])
  | .dualShock4 pad, .handlePacket aData aSize =>
      (pad.handlePacket statics.dualShock4 aData aSize).map fun (buffer, pad, calls) =>
        ({ statics with dualShock4 := buffer }, .dualShock4 pad, calls)
  | .wiiMote device, .setPlayerIndex aIndex =>
      (WiiMote.setPlayerIndex aIndex device).map fun (device, calls) =>
        (statics, .wiiMote device, calls)
  | .wiiMote device, .handlePacket aData _ =>
      (WiiMote.handlePacket aData device).map fun (device, calls) =>
        (statics, .wiiMote device, calls)
  | .wiiUPro pad, .setPlayerIndex aIndex =>
      some (statics, .wiiUPro (pad.setPlayerIndex aIndex), [])
  | .wiiUPro pad, .handlePacket aData aSize =>
      (WiiUPro.handlePacket aData aSize pad).map fun (pad, calls) =>
        (statics, .wiiUPro pad, calls)
  | .dummy, _ => some (statics, .dummy, [])

end Driver

/-! ## Calls complete -/

/-- The states a constructed driver can be in. -/
def Driver.Sound : Driver → Prop
  | .wiiMote device =>
      ∃ (trace : WiiMote.Trace) (phase : Phase), trace.device = device ∧ trace.Inv phase
  | .wiiUPro pad => ∃ trace : WiiUPro.Trace, trace.device = pad ∧ trace.Inv
  | _ => True

theorem Kind.construct_sound (platform : Platform) (kind : Kind) :
    ∃ driver calls, kind.construct platform = some (driver, calls) ∧ driver.Sound := by
  cases kind with
  | playstation3 => exact ⟨_, _, rfl, trivial⟩
  | dualShock4 => exact ⟨_, _, rfl, trivial⟩
  | wiiMote =>
      obtain ⟨trace, hStart, hInv, -⟩ := WiiMote.construct_inv
      rw [WiiMote.Trace.start] at hStart
      obtain ⟨⟨device, calls⟩, hConstruct, hTrace⟩ := Option.bind_eq_some_iff.mp hStart
      obtain rfl := Option.some.inj hTrace
      refine ⟨.wiiMote device, calls, ?_, _, _, rfl, hInv⟩
      rw [construct, hConstruct]
      rfl
  | wiiUPro => exact ⟨_, _, rfl, _, rfl, WiiUPro.Trace.start_inv platform.memory⟩

/-- The Wii Remote driver: what it does to the device and calls does not depend on
the static buffers. -/
theorem Driver.Sound.wiiMote {device : WiimoteT} (hSound : (Driver.wiiMote device).Sound)
    (c : PadCall) :
    ∃ device' calls, (∀ statics, (Driver.wiiMote device).call statics c =
      some (statics, .wiiMote device', calls)) ∧ (Driver.wiiMote device').Sound := by
  obtain ⟨trace, phase, rfl, hInv⟩ := hSound
  cases c with
  | setPlayerIndex aIndex =>
      obtain ⟨trace', hStep, hInv', -⟩ := hInv.step (.setPlayerIndex aIndex)
      obtain ⟨⟨device, calls⟩, hCall, hTrace⟩ := Option.bind_eq_some_iff.mp hStep
      obtain rfl := Option.some.inj hTrace
      refine ⟨device, calls, fun statics => ?_, _, _, rfl, hInv'⟩
      rw [Driver.call, hCall]
      rfl
  | handlePacket aData aSize =>
      obtain ⟨trace', hStep, hInv', -⟩ := hInv.step (.handlePacket aData)
      obtain ⟨⟨device, calls⟩, hCall, hTrace⟩ := Option.bind_eq_some_iff.mp hStep
      obtain rfl := Option.some.inj hTrace
      refine ⟨device, calls, fun statics => ?_, _, _, rfl, hInv'⟩
      rw [Driver.call, hCall]
      rfl

/-- A report to a constructed driver is handled, and moves the handshake on by its
signal. -/
theorem Driver.Sound.handled {device : WiimoteT} (hSound : (Driver.wiiMote device).Sound) :
    ∃ phase, Represents device phase ∧ ∀ data : Bytes, ∃ device' calls,
      WiiMote.handlePacket data device = some (device', calls) ∧
        Represents device' (phase.next (WiiMote.Event.signal (.handlePacket data))) := by
  obtain ⟨trace, phase, rfl, hInv⟩ := hSound
  refine ⟨phase, hInv.represents, fun data => ?_⟩
  obtain ⟨device', calls, hHandle, hHandled⟩ := WiiMote.handlePacket_handled hInv.represents data
    fun axis => hInv.valid (WiiMote.rawStick data axis) axis
  exact ⟨device', calls, hHandle, hHandled.represents⟩

/-- So with the Wii U Pro Controller driver. -/
theorem Driver.Sound.wiiUPro {pad : WiiUPro} (hSound : (Driver.wiiUPro pad).Sound)
    (c : PadCall) :
    ∃ pad' calls, (∀ statics, (Driver.wiiUPro pad).call statics c =
      some (statics, .wiiUPro pad', calls)) ∧ (Driver.wiiUPro pad').Sound := by
  obtain ⟨trace, rfl, hInv⟩ := hSound
  cases c with
  | setPlayerIndex aIndex =>
      obtain ⟨trace', hStep, hInv'⟩ := hInv.step (.setPlayerIndex aIndex)
      obtain rfl := Option.some.inj hStep
      exact ⟨_, [], fun statics => rfl, _, rfl, hInv'⟩
  | handlePacket aData aSize =>
      obtain ⟨trace', hStep, hInv'⟩ := hInv.step (.handlePacket aData aSize)
      obtain ⟨⟨pad, calls⟩, hCall, hTrace⟩ := Option.bind_eq_some_iff.mp hStep
      obtain rfl := Option.some.inj hTrace
      refine ⟨pad, calls, fun statics => ?_, _, rfl, hInv'⟩
      rw [Driver.call, hCall]
      rfl

/-- A connected pad with the calls made for it so far. -/
structure Pad where
  driver : Driver
  calls : List DriverCall

theorem Kind.construct_isSome (platform : Platform) (kind : Kind) :
    (kind.construct platform).isSome = true := by
  obtain ⟨driver, calls, hConstruct, -⟩ := kind.construct_sound platform
  rw [hConstruct]
  rfl

/-- A pad that has just been connected. -/
def Kind.connected (platform : Platform) (kind : Kind) : Pad :=
  let constructed := (kind.construct platform).get (kind.construct_isSome platform)
  ⟨constructed.1, constructed.2⟩

theorem Kind.connected_sound (platform : Platform) (kind : Kind) :
    (kind.connected platform).driver.Sound := by
  obtain ⟨driver, calls, hConstruct, hSound⟩ := kind.construct_sound platform
  have hDriver : (kind.connected platform).driver = driver := by
    simp [connected, hConstruct]
  rw [hDriver]
  exact hSound

/-- A call on a pad, over the static buffers. -/
def Pad.turn (statics : Statics) (pad : Pad) (c : PadCall) : Option (Statics × Pad) :=
  (pad.driver.call statics c).map fun (statics, driver, calls) =>
    (statics, ⟨driver, pad.calls ++ calls⟩)

/-- The reports sent to the pad, from its connection on. -/
def Pad.reports (pad : Pad) : List (Bool × UInt8 × List UInt8) :=
  pad.calls.filterMap DriverCall.report

end HIDPad
end MFiWrapper
