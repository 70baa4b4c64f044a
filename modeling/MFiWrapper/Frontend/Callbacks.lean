import MFiWrapper.Frontend.Handlers

/-!
# Handlers that call back

The handlers and observers of an application run in the middle of the functions that
handle packets, and may themselves set handlers and player indices.  What they do takes
effect at once: a handler that is set or cleared by another is called or not in the rest
of the same update.
-/

namespace MFiWrapper
namespace Frontend

open Library

/-- What an application can do to the frontend. -/
inductive Action
  | setPlayerIndex (tweak : ControllerRef) (index : Int64)
  | setHandler (tweak : ControllerRef) (element : ElementRef) (part : Part) (isSet : Bool)
  | setPausedHandler (tweak : ControllerRef) (isSet : Bool)
  deriving DecidableEq

/-- What an application does when it is told something, by all that it can see then. -/
abbrev Application := State → Notice → List Action

/-- `tweakSetValue:` of a part of an element, and the calls of its handler; that of a
direction pad itself is the empty one of `GCControllerElement`. -/
def GCControllerElement.tweakSetValue (part : Part) (value : ℚ) :
    GCControllerElement → GCControllerElement × List HandlerCall
  | .button input =>
      match part with
      | .self =>
          let (input, calls) := input.tweakSetValue value
          (.button input, calls)
      | _ => (.button input, [])
  | .directionPad pad =>
      match part with
      | .self => (.directionPad pad, [])
      | .xAxis =>
          let (xAxis, calls) := pad.xAxis.tweakSetValue value
          (.directionPad { pad with xAxis := xAxis }, calls)
      | .yAxis =>
          let (yAxis, calls) := pad.yAxis.tweakSetValue value
          (.directionPad { pad with yAxis := yAxis }, calls)
      | .up =>
          let (up, calls) := pad.up.tweakSetValue value
          (.directionPad { pad with up := up }, calls)
      | .down =>
          let (down, calls) := pad.down.tweakSetValue value
          (.directionPad { pad with down := down }, calls)
      | .left =>
          let (left, calls) := pad.left.tweakSetValue value
          (.directionPad { pad with left := left }, calls)
      | .right =>
          let (right, calls) := pad.right.tweakSetValue value
          (.directionPad { pad with right := right }, calls)

/-- The messages that a direction pad sends to its children, in their order. -/
def padMessages (x y : ℚ) : List (Part × ℚ) :=
  [(.xAxis, x), (.left, negativePart x), (.right, positivePart x),
    (.yAxis, y), (.up, negativePart y), (.down, positivePart y)]

namespace State

def act (frontend : State) : Action → State
  | .setPlayerIndex tweak index => frontend.setPlayerIndex tweak index
  | .setHandler tweak element part isSet => frontend.setHandler tweak element part isSet
  | .setPausedHandler tweak isSet => frontend.setPausedHandler tweak isSet

def elementAt (ref : ControllerRef) (element : ElementRef) (frontend : State) :
    Option GCControllerElement := do
  (← frontend.created[ref]?).tweakElements[element]?

def changeElement (ref : ControllerRef) (element : ElementRef)
    (change : GCControllerElement → GCControllerElement) (frontend : State) : State :=
  { frontend with created := frontend.created.modify ref fun tweak =>
      { tweak with tweakElements := tweak.tweakElements.modify element change } }

section Messages

variable (application : Application)

/-- A handler or an observer is called. -/
def tell (notice : Notice) (frontend : State) : State :=
  let frontend := { frontend with notices := frontend.notices ++ [notice] }
  (application frontend notice).foldl act frontend

/-- The `valueChangedHandler` of a part is called. -/
def callHandler (ref : ControllerRef) (element : ElementRef) (part : Part) (frontend : State)
    (call : HandlerCall) : State :=
  frontend.tell application
    (.valuesChanged ref (List.replicate element [] ++ [[(part, call)]]))

/-- `tweakSetValue:` sent to a part of an element. -/
def tweakSetValue (ref : ControllerRef) (element : ElementRef) (part : Part) (value : ℚ)
    (frontend : State) : State :=
  match frontend.elementAt ref element with
  | none => frontend
  | some tweak =>
      let (tweak, calls) := tweak.tweakSetValue part value
      calls.foldl (callHandler application ref element part)
        (frontend.changeElement ref element fun _ => tweak)

/-- Messages sent to the parts of an element, one after the other. -/
def sendMessages (ref : ControllerRef) (element : ElementRef) (messages : List (Part × ℚ))
    (frontend : State) : State :=
  messages.foldl (fun frontend (part, value) =>
    frontend.tweakSetValue application ref element part value) frontend

/-- `tweakSetValues:` sent to an element, and the number of values that it has read. -/
def tweakSetValues (ref : ControllerRef) (element : ElementRef) (values : List ℚ)
    (frontend : State) : Option (State × Nat) :=
  match frontend.elementAt ref element with
  | none => none
  | some (.button _) => do
      let value ← values[0]?
      return (frontend.tweakSetValue application ref element .self value, 1)
  | some (.directionPad pad) => do
      let x ← values[0]?
      let y ← values[1]?
      if ¬ Scalar.ne pad.xAxis.value x ∧ ¬ Scalar.ne pad.yAxis.value y then
        return (frontend, 2)
      else
        let frontend := frontend.sendMessages application ref element (padMessages x y)
        -- the handler that the pad has by now
        if (frontend.elementAt ref element).any (·.handlerSet .self) then
          return (frontend.callHandler application ref element .self (.directionPad x y), 2)
        else return (frontend, 2)

/-- The loop of `tweakUpdateButtons:`; the array of elements stays the same meanwhile. -/
def updateEach (ref : ControllerRef) : List ElementRef → List ℚ → State → Option State
  | [], _, frontend => some frontend
  | i :: rest, buf, frontend => do
      let (frontend, consumed) ← frontend.tweakSetValues application ref i buf
      frontend.updateEach ref rest (buf.drop consumed)

/-! ## Packets -/

/-- `HandlePacketConnect`. -/
def handlePacketConnectWith (aHandle : UInt32) (data : MFiWConnectPacket) (frontend : State) :
    State :=
  let tweak := frontend.created.length
  let frontend := frontend.setControllerIndex aHandle gcControllerPlayerIndexUnset.toInt32
  { frontend with
    created := frontend.created ++ [controllerForHandle aHandle data]
    controllers := frontend.controllers.map (· ++ [tweak]) }.tell application (.didConnect tweak)

/-- `HandlePacketDisconnect`. -/
def handlePacketDisconnectWith (aHandle : UInt32) (frontend : State) : Option State :=
  match frontend.controllers with
  | none => some frontend
  | some controllers => do
      let idx ← frontend.idx aHandle
      let tweak ← controllers[idx]?
      return { frontend with controllers := some (controllers.eraseIdx idx) }.tell application
        (.didDisconnect tweak)

/-- `HandlePacketInputState`. -/
def handlePacketInputStateWith (aHandle : UInt32) (data : MFiWInputStatePacket ℚ)
    (frontend : State) : Option State :=
  match frontend.tweak aHandle with
  | none => some frontend
  | some ref => do
      let tweak ← frontend.created[ref]?
      frontend.updateEach application ref (List.range tweak.tweakElements.length) data.fields

/-- `HandlePacketPausePressed`. -/
def handlePacketPausePressedWith (aHandle : UInt32) (frontend : State) : State :=
  match frontend.tweak aHandle with
  | none => frontend
  | some ref =>
      if (frontend.created[ref]?.map GCController.controllerPausedHandler).getD false then
        frontend.tell application (.paused ref)
      else frontend

/-- `FrontendConnection::HandlePacket`. -/
def handlePacketWith (frontend : State) : MFiWPacket ℚ → Option State
  | .connect handle data => some (frontend.handlePacketConnectWith application handle data)
  | .disconnect handle => frontend.handlePacketDisconnectWith application handle
  | .inputState handle data => frontend.handlePacketInputStateWith application handle data
  | .pausePressed handle => some (frontend.handlePacketPausePressedWith application handle)
  -- unknown packet
  | .setPlayerIndex _ _ => some frontend

/-- The same on the bytes received. -/
def handleDataPacketWith (ofBits : UInt32 → ℚ) (frontend : State) (aPacket : MFiWDataPacket) :
    Option State :=
  match aPacket.knownType with
  | some .connect =>
      if 0 ∈ aPacket.connect.vendorName.toList then
        some (frontend.handlePacketConnectWith application aPacket.aHandle aPacket.connect)
      else none
  | some .disconnect => frontend.handlePacketDisconnectWith application aPacket.aHandle
  | some .inputState =>
      frontend.handlePacketInputStateWith application aPacket.aHandle (aPacket.state.map ofBits)
  | some .pausePressed => some (frontend.handlePacketPausePressedWith application aPacket.aHandle)
  -- unknown packet
  | some .setPlayerIndex | none => some frontend

/-- In the memory of a received packet the frontend finds the packet that was sent. -/
theorem handleDataPacketWith_eq {packet : MFiWPacket UInt32} {aPacket : MFiWDataPacket}
    (ofBits : UInt32 → ℚ) (hContents : aPacket.contents = packet.contents)
    (hName : packet.NameEnds) (frontend : State) :
    frontend.handleDataPacketWith application ofBits aPacket =
      frontend.handlePacketWith application (packet.map ofBits) := by
  simp only [MFiWDataPacket.contents, MFiWPacket.contents, Prod.mk.injEq] at hContents
  obtain ⟨hType, hHandle, hPayload⟩ := hContents
  have hHandle' : aPacket.aHandle = packet.handle := by
    rw [MFiWDataPacket.aHandle, hHandle, UInt32.ofNat_toNat]
  rw [handleDataPacketWith, MFiWDataPacket.knownType_eq hType, hHandle']
  cases packet with
  | connect handle data =>
      simp only [MFiWPacket.type]
      rw [MFiWDataPacket.connect_eq hPayload]
      exact if_pos hName
  | inputState handle state =>
      simp only [MFiWPacket.type]
      rw [MFiWDataPacket.state_eq hPayload]
      rfl
  | disconnect handle => rfl
  | setPlayerIndex handle value => rfl
  | pausePressed handle => rfl

end Messages

end State

end Frontend
end MFiWrapper
