import MFiWrapper.Frontend.Capability
import MFiWrapper.Frontend.Handlers

/-!
# What a controller is for life

The name of a controller, its gamepads and which of its elements are analog come from
the `Connect` packet that it was built for; no packet and nothing that the application
does changes them afterwards.
-/

namespace MFiWrapper
namespace Frontend

open Library

/-- The part of a controller that is decided when it is built. -/
structure Description where
  handle : UInt32
  vendorName : List UInt8
  gamepad : GCGamepad
  extendedGamepad : Option GCExtendedGamepad
  analogFlags : List (List Bool)
  deriving DecidableEq

def GCController.description (tweak : GCController) : Description where
  handle := tweak.tweakHandle
  vendorName := tweak.vendorName
  gamepad := tweak.gamepad
  extendedGamepad := tweak.extendedGamepad
  analogFlags := tweak.tweakElements.map GCControllerElement.analogFlags

/-- The controller that a packet announces. -/
def announced : MFiWPacket ℚ → Option Description
  | .connect handle data => some (controllerForHandle handle data).description
  | .disconnect _ | .inputState _ _ | .setPlayerIndex _ _ | .pausePressed _ => none

/-! ## Values -/

namespace State

variable {frontend frontend' : State} {packet : MFiWPacket ℚ}

end State

/-! ## Drivers -/

end Frontend
end MFiWrapper
