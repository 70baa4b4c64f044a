import MFiWrapper.Backend.ManagedPads
import MFiWrapper.Common.Socket
import MFiWrapper.Frontend.Handlers
import MFiWrapper.Session.FloatFormat
import MFiWrapper.Session.System

/-!
# The whole program

Backend and frontend as they run: the HID manager with its devices, the drivers, a
socket in each direction with the bytes that wait in it, the `Connection` objects that
read them, and the application.  A callback of one side is one event; a callback that
reads a socket is cut into the turns of the loop of `Parse`.  The sockets have room for
what is written.
-/

namespace MFiWrapper

open Library

/-- `BackendConnection::HandlePacket` on a received packet. -/
def HIDManager.handleDataPacket (aPacket : MFiWDataPacket) (manager : HIDManager) :
    Option HIDManager :=
  match aPacket.knownType with
  | some .setPlayerIndex => manager.playerIndexReceived aPacket.aHandle (aPacket.word 12).toInt32
  -- unknown packet
  | _ => some manager

/-- The two sides, with the objects that read the sockets and the bytes in the sockets. -/
structure Process where
  manager : HIDManager
  frontend : Frontend.State
  backendConnection : Connection
  frontendConnection : Connection
  toBackend : List UInt8
  toFrontend : List UInt8

namespace Process

def initial : Process where
  manager := .initial
  frontend := Frontend.State.initial.startup
  backendConnection := .initial
  frontendConnection := .initial
  toBackend := []
  toFrontend := []

/-- What can happen. -/
inductive Event
  | deviceAttached (platform : HIDPad.Platform) (device : HIDDevice)
  | deviceRemoved (address : Nat)
  | deviceReport (address : Nat) (report : List UInt8)
  /-- A turn of `Parse` in the backend; `read()` could return as many bytes. -/
  | backendReads (count : Nat)
  /-- A turn of `Parse` in the frontend. -/
  | frontendReads (count : Nat)
  /-- The application sets `playerIndex`. -/
  | appSetsPlayerIndex (tweak : Frontend.ControllerRef) (index : Int64)
  /-- The application sets or clears a `valueChangedHandler`. -/
  | appSetsHandler (tweak : Frontend.ControllerRef) (element : Frontend.ElementRef)
      (part : Frontend.Part) (isSet : Bool)
  /-- The application sets or clears a `controllerPausedHandler`. -/
  | appSetsPausedHandler (tweak : Frontend.ControllerRef) (isSet : Bool)

variable (format : FloatFormat)

/-- What is written when the packets sent become these: their numbers, which the drivers
have computed exactly, are converted here. -/
def written (before after : List (MFiWPacket ℚ)) : List UInt8 :=
  (after.drop before.length).flatMap fun packet => (packet.convert format.toBits).send

/-- The backend has moved on. -/
def withManager (process : Process) (manager : HIDManager) : Process :=
  { process with
    manager := manager
    toFrontend := process.toFrontend ++
      written format process.manager.backend.sent manager.backend.sent }

/-- The frontend has moved on. -/
def withFrontend (process : Process) (frontend : Frontend.State) : Process :=
  { process with
    frontend := frontend
    toBackend := process.toBackend ++ written format process.frontend.sent frontend.sent }

/-- One event.  `none` stands for whatever must not happen: a store outside a packet, a
failed assertion, a call through a dangling pointer, an exception. -/
def step (process : Process) : Event → Option Process
  | .deviceAttached platform device => do
      let manager ← process.manager.deviceAttached platform device
      return process.withManager format manager
  | .deviceRemoved address =>
      some (process.withManager format (process.manager.deviceRemoved address))
  | .deviceReport address report => do
      let manager ← process.manager.deviceReport address report
      return process.withManager format manager
  | .backendReads count =>
      match process.backendConnection.receive process.toBackend count with
      | .error _ => none
      | .ok (handed, connection, result) =>
          let process := { process with
            backendConnection := connection
            toBackend := process.toBackend.drop result }
          match handed with
          | none => some process
          | some aPacket => do
              let manager ← process.manager.handleDataPacket aPacket
              return process.withManager format manager
  | .frontendReads count =>
      match process.frontendConnection.receive process.toFrontend count with
      | .error _ => none
      | .ok (handed, connection, result) =>
          let process := { process with
            frontendConnection := connection
            toFrontend := process.toFrontend.drop result }
          match handed with
          | none => some process
          | some aPacket => do
              let frontend ← process.frontend.handleDataPacket format.ofBits aPacket
              return process.withFrontend format frontend
  | .appSetsPlayerIndex tweak index =>
      some (process.withFrontend format (process.frontend.setPlayerIndex tweak index))
  | .appSetsHandler tweak element part isSet =>
      some { process with frontend := process.frontend.setHandler tweak element part isSet }
  | .appSetsPausedHandler tweak isSet =>
      some { process with frontend := process.frontend.setPausedHandler tweak isSet }

/-- How many handles an event uses up. -/
def Event.attaches : Event → Nat
  | .deviceAttached platform device => if Backend.recognised (device.name platform) then 1 else 0
  | _ => 0

end Process
end MFiWrapper
