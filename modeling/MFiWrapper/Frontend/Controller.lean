import Mathlib.Algebra.Order.Field.Rat
import MFiWrapper.Protocol

/-!
# `MFiWrapper.mm`: controllers and their elements

The objects an application sees.  An element is referred to by its position in
`tweakElements`.  A call of a `valueChangedHandler` is recorded with the part of the
element whose handler it is.  Any scalars will do of which the code can take what it
needs, in particular floats with infinities and NaNs; unless said otherwise they are
exact.
-/

namespace MFiWrapper
namespace Frontend

/-! ## Scalars -/

/-- The constant `0.0001f`. -/
def pressThreshold : ℚ := 13743895 * 2 ^ (-37 : Int)

/-- What the code does with a `float`. -/
class Scalar (α : Type) extends Zero α, LT α where
  /-- `!=`, under which a NaN differs from itself. -/
  ne : α → α → Prop
  fabsf : α → α
  /-- `0.0001f`. -/
  threshold : α
  decidableNe : DecidableRel ne
  decidableLT : DecidableLT α

instance {α : Type} [Scalar α] : DecidableRel (@Scalar.ne α _) := Scalar.decidableNe

instance Scalar.instDecidableLT {α : Type} [Scalar α] : DecidableLT α := Scalar.decidableLT

instance : Scalar ℚ where
  ne x y := x ≠ y
  fabsf := abs
  threshold := pressThreshold
  decidableNe _ _ := inferInstance
  decidableLT _ _ := inferInstance

/-! ## Elements -/

structure GCControllerButtonInput (α : Type := ℚ) where
  analog : Bool
  value : α
  pressed : Bool
  /-- A `valueChangedHandler` is set. -/
  valueChangedHandler : Bool
  deriving DecidableEq

structure GCControllerAxisInput (α : Type := ℚ) where
  analog : Bool
  value : α
  valueChangedHandler : Bool
  deriving DecidableEq

structure GCControllerDirectionPad (α : Type := ℚ) where
  analog : Bool
  xAxis : GCControllerAxisInput α
  yAxis : GCControllerAxisInput α
  up : GCControllerButtonInput α
  down : GCControllerButtonInput α
  left : GCControllerButtonInput α
  right : GCControllerButtonInput α
  valueChangedHandler : Bool
  deriving DecidableEq

inductive GCControllerElement (α : Type := ℚ)
  | button (input : GCControllerButtonInput α)
  | directionPad (pad : GCControllerDirectionPad α)
  deriving DecidableEq

/-- The arguments of a `valueChangedHandler`. -/
inductive HandlerCall (α : Type := ℚ)
  | button (value : α) (pressed : Bool)
  | axis (value : α)
  | directionPad (xValue yValue : α)
  deriving DecidableEq

/-- An element itself, or one of the children of a direction pad. -/
inductive Part
  | self | xAxis | yAxis | up | down | left | right
  deriving DecidableEq

variable {α : Type} [Scalar α]

namespace GCControllerButtonInput

/-- `buttonWithParent:analog:`. -/
def buttonWithParent (isAnalog : Bool) : GCControllerButtonInput α := ⟨isAnalog, 0, false, false⟩

def tweakSetValue (tweak : GCControllerButtonInput α) (value : α) :
    GCControllerButtonInput α × List (HandlerCall α) :=
  if Scalar.ne value tweak.value then
    let tweak := { tweak with value := value, pressed := decide (value > Scalar.threshold) }
    (tweak, if tweak.valueChangedHandler then [.button tweak.value tweak.pressed] else [])
  else (tweak, [])

end GCControllerButtonInput

namespace GCControllerAxisInput

/-- `axisWithParent:analog:`. -/
def axisWithParent (isAnalog : Bool) : GCControllerAxisInput α := ⟨isAnalog, 0, false⟩

def tweakSetValue (tweak : GCControllerAxisInput α) (value : α) :
    GCControllerAxisInput α × List (HandlerCall α) :=
  if Scalar.ne value tweak.value then
    let tweak := { tweak with value := value }
    (tweak, if tweak.valueChangedHandler then [.axis tweak.value] else [])
  else (tweak, [])

end GCControllerAxisInput

namespace GCControllerDirectionPad

/-- `dpadWithParent:analog:`. -/
def dpadWithParent (isAnalog : Bool) : GCControllerDirectionPad α where
  analog := isAnalog
  xAxis := .axisWithParent isAnalog
  yAxis := .axisWithParent isAnalog
  up := .buttonWithParent isAnalog
  down := .buttonWithParent isAnalog
  left := .buttonWithParent isAnalog
  right := .buttonWithParent isAnalog
  valueChangedHandler := false

/-- `tweakSetValues:`, given the two values it reads. -/
def tweakSetValues (tweak : GCControllerDirectionPad α) (x y : α) :
    GCControllerDirectionPad α × List (Part × HandlerCall α) :=
  if ¬ Scalar.ne tweak.xAxis.value x ∧ ¬ Scalar.ne tweak.yAxis.value y then (tweak, [])
  else
    let (xAxis, xCalls) := tweak.xAxis.tweakSetValue x
    let (left, leftCalls) := tweak.left.tweakSetValue (if x < 0 then Scalar.fabsf x else 0)
    let (right, rightCalls) := tweak.right.tweakSetValue (if x > 0 then x else 0)
    let (yAxis, yCalls) := tweak.yAxis.tweakSetValue y
    let (up, upCalls) := tweak.up.tweakSetValue (if y < 0 then Scalar.fabsf y else 0)
    let (down, downCalls) := tweak.down.tweakSetValue (if y > 0 then y else 0)
    ({ tweak with
        xAxis := xAxis, yAxis := yAxis, up := up, down := down, left := left, right := right },
      xCalls.map (Part.xAxis, ·) ++ leftCalls.map (Part.left, ·) ++
        rightCalls.map (Part.right, ·) ++ yCalls.map (Part.yAxis, ·) ++
        upCalls.map (Part.up, ·) ++ downCalls.map (Part.down, ·) ++
        if tweak.valueChangedHandler then [(.self, .directionPad x y)] else [])

end GCControllerDirectionPad

/-- `tweakSetValues:`: the element, the number of values it has read from the
buffer, and the handlers called; `none` when it reads beyond the buffer. -/
def GCControllerElement.tweakSetValues (tweak : GCControllerElement α) (values : List α) :
    Option (GCControllerElement α × Nat × List (Part × HandlerCall α)) :=
  match tweak with
  | .button input => do
      let value ← values[0]?
      let (input, calls) := input.tweakSetValue value
      return (.button input, 1, calls.map (Part.self, ·))
  | .directionPad pad => do
      let x ← values[0]?
      let y ← values[1]?
      let (pad, calls) := pad.tweakSetValues x y
      return (.directionPad pad, 2, calls)

/-! ## Gamepads -/

/-- A position in `tweakElements`. -/
abbrev ElementRef := Nat

structure GCGamepad where
  dpad : ElementRef
  buttonA : ElementRef
  buttonB : ElementRef
  buttonX : ElementRef
  buttonY : ElementRef
  leftShoulder : ElementRef
  rightShoulder : ElementRef
  deriving DecidableEq

structure GCExtendedGamepad where
  dpad : ElementRef
  leftThumbstick : ElementRef
  rightThumbstick : ElementRef
  buttonA : ElementRef
  buttonB : ElementRef
  buttonX : ElementRef
  buttonY : ElementRef
  leftShoulder : ElementRef
  rightShoulder : ElementRef
  leftTrigger : ElementRef
  rightTrigger : ElementRef
  select : ElementRef
  start : ElementRef
  leftStickButton : ElementRef
  rightStickButton : ElementRef
  deriving DecidableEq

/-- `[GCGamepad gamepadForController:]`. -/
def GCGamepad.gamepadForController : GCGamepad where
  dpad := MFiButtons.dPad.index
  buttonA := MFiButtons.a.index
  buttonB := MFiButtons.b.index
  buttonX := MFiButtons.x.index
  buttonY := MFiButtons.y.index
  leftShoulder := MFiButtons.leftShoulder.index
  rightShoulder := MFiButtons.rightShoulder.index

/-- `[GCExtendedGamepad gamepadForController:]`. -/
def GCExtendedGamepad.gamepadForController : GCExtendedGamepad where
  dpad := MFiButtons.dPad.index
  leftThumbstick := MFiButtons.leftThumbstick.index
  rightThumbstick := MFiButtons.rightThumbstick.index
  buttonA := MFiButtons.a.index
  buttonB := MFiButtons.b.index
  buttonX := MFiButtons.x.index
  buttonY := MFiButtons.y.index
  leftShoulder := MFiButtons.leftShoulder.index
  rightShoulder := MFiButtons.rightShoulder.index
  leftTrigger := MFiButtons.leftTrigger.index
  rightTrigger := MFiButtons.rightTrigger.index
  select := MFiButtons.select.index
  start := MFiButtons.start.index
  leftStickButton := MFiButtons.leftStickButton.index
  rightStickButton := MFiButtons.rightStickButton.index

/-! ## Controllers -/

structure GCController (α : Type := ℚ) where
  tweakHandle : UInt32
  /-- The bytes of the name, without the terminating NUL. -/
  vendorName : List UInt8
  tweakElements : List (GCControllerElement α)
  playerIndex : Int64
  gamepad : GCGamepad
  extendedGamepad : Option GCExtendedGamepad
  /-- A `controllerPausedHandler` is set. -/
  controllerPausedHandler : Bool
  deriving DecidableEq

def gcControllerPlayerIndexUnset : Int64 := -1

/-- `ANALOG_TEST(X)`. -/
def analogTest (data : MFiWConnectPacket) (control : MFiButtons) : Bool :=
  data.analogControls &&& MFiButtonMask control != 0

/-- `DPAD(X)`. -/
def dpad (data : MFiWConnectPacket) (control : MFiButtons) : GCControllerElement α :=
  .directionPad (.dpadWithParent (analogTest data control))

/-- `BUTTON(X)`. -/
def button (data : MFiWConnectPacket) (control : MFiButtons) : GCControllerElement α :=
  .button (.buttonWithParent (analogTest data control))

/-- The array assigned to `tweakElements`. -/
def elementsFor (data : MFiWConnectPacket) : List (GCControllerElement α) :=
  -- GCGamepad
  [dpad data .dPad, button data .a, button data .b, button data .x, button data .y,
    button data .leftShoulder, button data .rightShoulder,
    dpad data .leftThumbstick, dpad data .rightThumbstick,
    button data .leftTrigger, button data .rightTrigger,
    -- MFiWrapper extensions
    button data .select, button data .start, button data .leftStickButton,
    button data .rightStickButton]

/-- `controllerForHandle:data:`.  The assignment of `playerIndex` in it also
tells the backend about the index, see `setPlayerIndex`. -/
def controllerForHandle (handle : UInt32) (data : MFiWConnectPacket) : GCController α where
  tweakHandle := handle
  vendorName := data.vendorName.toList.takeWhile (· ≠ 0)
  tweakElements := elementsFor data
  playerIndex := gcControllerPlayerIndexUnset
  gamepad := .gamepadForController
  extendedGamepad :=
    if data.presentControls &&& mfiExtendedElements ≠ 0 then some .gamepadForController else none
  controllerPausedHandler := false

/-- The loop of `tweakUpdateButtons:`, with the part of the buffer that is left
over at its end and, for each element, the handlers called. -/
def updateElements : List (GCControllerElement α) → List α →
    Option (List (GCControllerElement α) × List α × List (List (Part × HandlerCall α)))
  | [], buf => some ([], buf, [])
  | i :: rest, buf => do
      let (i, consumed, calls) ← i.tweakSetValues buf
      let (rest, left, restCalls) ← updateElements rest (buf.drop consumed)
      return (i :: rest, left, calls :: restCalls)

/-- `tweakUpdateButtons:`, with the values of the packet that were not
consumed. -/
def GCController.tweakUpdateButtons (tweak : GCController α) (data : MFiWInputStatePacket α) :
    Option (GCController α × List α × List (List (Part × HandlerCall α))) := do
  let (elements, left, calls) ← updateElements tweak.tweakElements data.fields
  return ({ tweak with tweakElements := elements }, left, calls)

end Frontend
end MFiWrapper
