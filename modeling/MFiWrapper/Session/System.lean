import MFiWrapper.Backend.Attachments
import MFiWrapper.Backend.RegistryRuns
import MFiWrapper.Frontend.Dispatch

/-!
# Backend and frontend joined by queues

Both sides with what happens to them: devices come and go, their drivers send,
the application assigns player indices, and each side processes the packets of
the other in the order in which they were sent, but at a time of its own.
-/

namespace MFiWrapper

open Library Frontend

/-- Both sides, and how many packets of the other each of them has processed. -/
structure System where
  backend : Backend
  frontend : Frontend.State
  backendProcessed : Nat
  frontendProcessed : Nat

namespace System

def initial : System := ⟨.initial, Frontend.State.initial.startup, 0, 0⟩

/-- The packets in flight from the backend to the frontend. -/
def toFrontend (system : System) : List (MFiWPacket ℚ) :=
  system.backend.sent.drop system.frontendProcessed

/-- The packets in flight from the frontend to the backend. -/
def toBackend (system : System) : List (MFiWPacket ℚ) :=
  system.frontend.sent.drop system.backendProcessed

/-- What can happen. -/
inductive Event
  | deviceAttached (platform : HIDPad.Platform) (aName : String)
  | deviceRemoved (address : Nat)
  /-- The driver at the address calls `SendControllerState`. -/
  | driverSendsState (address : Nat) (aData : MFiWInputStatePacket ℚ)
  /-- The driver at the address calls `SendPausePressed`. -/
  | driverSendsPause (address : Nat)
  | frontendProcesses
  /-- The application sets `playerIndex`. -/
  | appSetsPlayerIndex (tweak : ControllerRef) (index : Int64)
  | backendProcesses

/-- The driver of an attached interface. -/
def liveDriver (system : System) (address : Nat) : Option HIDPad.Interface :=
  (system.backend.interfaceAt address).filter HIDPad.Interface.attached

/-- One event.  Where nothing is alive at an address, no controller was created
at a position, or no packet is in flight, the event does nothing. -/
def step (system : System) : Event → Option System
  | .deviceAttached platform aName => do
      let backend ← system.backend.deviceAttached platform aName
      return { system with backend := backend }
  | .deviceRemoved address =>
      some { system with backend := system.backend.deviceRemoved address }
  | .driverSendsState address aData =>
      match system.liveDriver address with
      | none => some system
      | some interface =>
          some { system with backend := system.backend.sendControllerState interface aData }
  | .driverSendsPause address =>
      match system.liveDriver address with
      | none => some system
      | some interface =>
          some { system with backend := system.backend.sendPausePressed interface }
  | .frontendProcesses =>
      match system.toFrontend with
      -- nothing is in flight
      | [] => some system
      | packet :: _ => do
          let frontend ← system.frontend.handlePacket packet
          return { system with
            frontend := frontend
            frontendProcessed := system.frontendProcessed + 1 }
  | .appSetsPlayerIndex tweak index =>
      some { system with frontend := system.frontend.setPlayerIndex tweak index }
  | .backendProcesses =>
      match system.toBackend with
      | [] => some system
      | packet :: _ => do
          let backend ← system.backend.handlePacket packet
          return { system with
            backend := backend
            backendProcessed := system.backendProcessed + 1 }

/-- How many handles an event uses up. -/
def Event.attaches : Event → Nat
  | .deviceAttached _ aName => if Backend.recognised aName then 1 else 0
  | _ => 0

end System
end MFiWrapper
