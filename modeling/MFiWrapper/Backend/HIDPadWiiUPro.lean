import Mathlib.Logic.Function.Basic
import MFiWrapper.Backend.AutoCalibration
import MFiWrapper.Library.Runs

/-!
# `HIDPad_WiiUPro.cpp`: the Wii U Pro Controller driver

Unlike the classic controller, whose axes remember one by one whether they were
seen, this driver keeps a single flag for its four axes and sets it after the
loop over them.
-/

namespace MFiWrapper

open Library HIDPad

structure WiiUPro where
  pauseHeld : Bool
  playerIndex : UInt8
  needSetReport : Bool
  /-- `int32_t calibration[4][4]`: LX, LY, RX, RY. -/
  calibration : StickAxis → Calibration
  calibrationInitialized : Bool

namespace WiiUPro

def getVendorName : String := "Wii U Pro Controller"

def getPresentControls : UInt32 := mfiAllElements

def getAnalogControls : UInt32 :=
  MFiButtonMask .leftThumbstick ||| MFiButtonMask .rightThumbstick

/-- `WiiUPro::WiiUPro`.  The calibration is not initialised: it is what the
memory holds. -/
def construct (memory : StickAxis → Calibration) : WiiUPro × List DriverCall :=
  (⟨true, 255, true, memory, false⟩,
    [.attachController, .setReport false 0x12 [0xA2, 0x15, 0x00, 0x00]])

def setPlayerIndex (aIndex : Int32) (pad : WiiUPro) : WiiUPro :=
  { pad with playerIndex := aIndex.toUInt32.toUInt8, needSetReport := true }

/-- The private member `SetReport`. -/
def setReport (pad : WiiUPro) : List DriverCall :=
  .setReport false 0x12 [0xA2, 0x12, 0x00, 0x34] ::
    if pad.playerIndex < 4 then
      [.setReport false 0x11 [0xA2, 0x11, 1 <<< (4 + pad.playerIndex)]]
    else []

/-- `FETCH_16`. -/
def fetch16 (aData : Bytes) (x : Nat) : Int := (aData x).toNat ||| ((aData (x + 1)).toNat <<< 8)

/-- The table over which the axes are processed, with the offsets into the
report. -/
def axisTable : List (StickAxis × Nat) :=
  [(.leftX, 4), (.leftY, 8), (.rightX, 6), (.rightY, 10)]

/-- The calibrations, and the values written to the packet so far. -/
abbrev AxisLoop := (StickAxis → Calibration) × (StickAxis → ℚ)

/-- The body of the loop over the axes. -/
def axisTurn (aData : Bytes) (calibrationInitialized : Bool) (state : AxisLoop)
    (entry : StickAxis × Nat) : Option AxisLoop := do
  let (axis, offset) := entry
  let value := fetch16 aData offset
  let calibration :=
    if !calibrationInitialized then ⟨value - 0x100, value - 0x80, value + 0x80, value + 0x100⟩
    else state.1 axis
  let calibration :=
    { calibration with c0 := min value calibration.c0, c3 := max value calibration.c3 }
  let result ← calculateAxis value calibration
  return (Function.update state.1 axis calibration, Function.update state.2 axis result)

/-- `B(X)`. -/
def pressed (byte mask : UInt8) : ℚ := if byte &&& mask ≠ 0 then 1 else 0

/-- The packet for the button bytes `0x0C` to `0x0E`, inverted as the code
inverts them, and the stick values. -/
def inputState (b12 b13 b14 : UInt8) (stick : StickAxis → ℚ) : MFiWInputStatePacket ℚ where
  a := pressed b13 0x40
  b := pressed b13 0x10
  x := pressed b13 0x20
  y := pressed b13 0x08
  leftShoulder := pressed b12 0x20
  rightShoulder := pressed b12 0x02
  leftTrigger := pressed b13 0x80
  rightTrigger := pressed b13 0x04
  select := pressed b12 0x10
  start := pressed b12 0x04
  leftStickButton := pressed b14 0x02
  rightStickButton := pressed b14 0x01
  dPadX := if b13 &&& 0x02 ≠ 0 then -pressed b13 0x02 else pressed b12 0x80
  dPadY := if b13 &&& 0x01 ≠ 0 then -pressed b13 0x01 else pressed b12 0x40
  leftStickX := stick .leftX
  leftStickY := stick .leftY
  rightStickX := stick .rightX
  rightStickY := stick .rightY

/-- An input report with all buttons and sticks. -/
def Accepts (aData : Bytes) (aSize : UInt16) : Prop := aSize = 23 ∧ aData 1 = 0x34

instance (aData : Bytes) (aSize : UInt16) : Decidable (Accepts aData aSize) :=
  inferInstanceAs (Decidable (_ ∧ _))

/-- `HandlePacket` after the loop: the pause button, and the packet. -/
def sendInput (aData : Bytes) (pad : WiiUPro) (state : AxisLoop) : WiiUPro × List DriverCall :=
  let b12 := aData 0x0C ^^^ 0xFF
  let b13 := aData 0x0D ^^^ 0xFF
  let b14 := aData 0x0E ^^^ 0xFF
  let home := b12 &&& 0x8 != 0
  let pause := if !pad.pauseHeld && home then [.sendPausePressed] else []
  ({ pad with calibration := state.1, calibrationInitialized := true, pauseHeld := home },
    pause ++ [.sendControllerState (inputState b12 b13 b14 state.2)])

/-- The part of `HandlePacket` that is reached by an accepted report. -/
def handleInput (aData : Bytes) (pad : WiiUPro) : Option (WiiUPro × List DriverCall) := do
  let state ←
    axisTable.foldlM (axisTurn aData pad.calibrationInitialized) (pad.calibration, fun _ => 0)
  return sendInput aData pad state

/-- `WiiUPro::HandlePacket`. -/
def handlePacket (aData : Bytes) (aSize : UInt16) (pad : WiiUPro) :
    Option (WiiUPro × List DriverCall) := do
  let calls := if pad.needSetReport then pad.setReport else []
  let pad := { pad with needSetReport := false }
  if ¬ Accepts aData aSize then
    return (pad, calls)
  let (pad, input) ← handleInput aData pad
  return (pad, calls ++ input)

/-! ## Runs -/

inductive Event
  | handlePacket (aData : Bytes) (aSize : UInt16)
  | setPlayerIndex (aIndex : Int32)

/-- A run as it is observed: the device, all calls made, and the reports
accepted since construction. -/
structure Trace where
  device : WiiUPro
  calls : List DriverCall
  period : List AcceptedReport

/-- The raw stick positions in a report. -/
def rawStick (aData : Bytes) : StickAxis → Int
  | .leftX => fetch16 aData 4
  | .leftY => fetch16 aData 8
  | .rightX => fetch16 aData 6
  | .rightY => fetch16 aData 10

def Trace.step (trace : Trace) : Event → Option Trace
  | .handlePacket aData aSize => do
      let (device, calls) ← WiiUPro.handlePacket aData aSize trace.device
      return {
        device := device
        calls := trace.calls ++ calls
        period :=
          if Accepts aData aSize then
            trace.period ++ [⟨rawStick aData, calls.filterMap DriverCall.sentState⟩]
          else trace.period }
  | .setPlayerIndex aIndex =>
      some { trace with device := trace.device.setPlayerIndex aIndex }

def Trace.start (memory : StickAxis → Calibration) : Trace :=
  ⟨(construct memory).1, (construct memory).2, []⟩

/-! ## One step -/

variable {aData : Bytes} {aSize : UInt16} {initialized : Bool}

/-- The calibration of an axis after a report. -/
def updated (initialized : Bool) (calibration : StickAxis → Calibration) (aData : Bytes)
    (axis : StickAxis) : Calibration :=
  (calibration axis).update 0x80 0x100 initialized (rawStick aData axis)

/-- The calibrations and values after the loop. -/
def axesAfter (initialized : Bool) (calibration : StickAxis → Calibration) (aData : Bytes) :
    AxisLoop :=
  (updated initialized calibration aData, fun axis =>
    (updated initialized calibration aData axis).reading (rawStick aData axis))

theorem axisTurn_valid {state : AxisLoop} {axis : StickAxis} {offset : Nat}
    {calibration : StickAxis → Calibration} (hOffset : fetch16 aData offset = rawStick aData axis)
    (hState : state.1 axis = calibration axis)
    (hValid : (updated initialized calibration aData axis).Valid) :
    axisTurn aData initialized state (axis, offset) =
      some (Function.update state.1 axis (updated initialized calibration aData axis),
        Function.update state.2 axis
          ((updated initialized calibration aData axis).reading (rawStick aData axis))) := by
  have hUpdate : updated initialized calibration aData axis =
      let c : Calibration :=
        if !initialized then ⟨rawStick aData axis - 0x100, rawStick aData axis - 0x80,
          rawStick aData axis + 0x80, rawStick aData axis + 0x100⟩ else calibration axis
      { c with c0 := min (rawStick aData axis) c.c0, c3 := max (rawStick aData axis) c.c3 } := by
    simp only [updated, Calibration.update, Calibration.widen, min_comm, max_comm]
    rfl
  have hAxis := calculateAxis_valid hValid (rawStick aData axis)
  rw [hUpdate] at hAxis ⊢
  simp only [axisTurn, hOffset, hState, hAxis]
  rfl

/-- The loop treats the four axes independently of each other. -/
theorem axisLoop_valid (calibration : StickAxis → Calibration)
    (hValid : ∀ axis, (updated initialized calibration aData axis).Valid) :
    axisTable.foldlM (axisTurn aData initialized) (calibration, fun _ => 0) =
      some (axesAfter initialized calibration aData) := by
  have hTurn (state : AxisLoop) (axis : StickAxis) (offset : Nat)
      (hOffset : fetch16 aData offset = rawStick aData axis)
      (hState : state.1 axis = calibration axis) :=
    axisTurn_valid hOffset hState (hValid axis)
  simp only [axisTable, List.foldlM_cons, List.foldlM_nil, Option.bind_eq_bind]
  rw [hTurn _ .leftX 4 rfl rfl, Option.bind_some, hTurn _ .leftY 8 rfl rfl, Option.bind_some,
    hTurn _ .rightX 6 rfl rfl, Option.bind_some, hTurn _ .rightY 10 rfl rfl, Option.bind_some]
  refine congrArg some (Prod.ext ?_ ?_)
  · funext axis
    cases axis <;> rfl
  · funext axis
    cases axis <;> rfl

/-- The reports to the device send no input state. -/
theorem setReport_quiet (pad : WiiUPro) :
    (if pad.needSetReport then pad.setReport else []).filterMap DriverCall.sentState = [] := by
  simp only [setReport]
  split_ifs <;> rfl

theorem handlePacket_rejected (pad : WiiUPro) (hRejected : ¬ Accepts aData aSize) :
    handlePacket aData aSize pad =
      some ({ pad with needSetReport := false }, if pad.needSetReport then pad.setReport else []) := by
  simp only [handlePacket, if_pos hRejected]
  rfl

/-- Whatever the buttons are, the answer to an input report is one input state
with the stick values of the loop. -/
theorem sendInput_sent (aData : Bytes) (pad : WiiUPro) (state : AxisLoop) :
    ∃ packet, (sendInput aData pad state).2.filterMap DriverCall.sentState = [packet] ∧
      packet.stick = state.2 := by
  refine ⟨inputState (aData 0x0C ^^^ 0xFF) (aData 0x0D ^^^ 0xFF) (aData 0x0E ^^^ 0xFF) state.2,
    ?_, ?_⟩
  · rw [sendInput, List.filterMap_append]
    split_ifs <;> rfl
  · funext axis
    cases axis <;> rfl

theorem handlePacket_accepted (pad : WiiUPro) (hAccepts : Accepts aData aSize)
    (hValid : ∀ axis,
      (updated pad.calibrationInitialized pad.calibration aData axis).Valid) :
    handlePacket aData aSize pad =
      let input := sendInput aData { pad with needSetReport := false }
        (axesAfter pad.calibrationInitialized pad.calibration aData)
      some (input.1, (if pad.needSetReport then pad.setReport else []) ++ input.2) := by
  simp only [handlePacket, if_neg (not_not.mpr hAccepts), handleInput,
    axisLoop_valid pad.calibration hValid]
  rfl

/-- Every axis of the pad is tracked, under the flag they share. -/
def Trace.Inv (trace : Trace) : Prop :=
  ∀ axis, AxisTracked 0x80 0x100 axis trace.period trace.device.calibrationInitialized
    (trace.device.calibration axis)

theorem Trace.start_inv (memory : StickAxis → Calibration) : (Trace.start memory).Inv :=
  fun _ => rfl

/-- No assertion fails on an axis. -/
theorem Trace.Inv.valid {trace : Trace} (hInv : trace.Inv) (aData : Bytes) (axis : StickAxis) :
    (updated trace.device.calibrationInitialized trace.device.calibration aData axis).Valid :=
  (hInv axis).update_valid (by decide) (by decide) (rawStick aData axis)

theorem Trace.Inv.step {trace : Trace} (hInv : trace.Inv) (e : Event) :
    ∃ trace', trace.step e = some trace' ∧ trace'.Inv := by
  cases e with
  | setPlayerIndex aIndex => exact ⟨_, rfl, hInv⟩
  | handlePacket aData aSize =>
      by_cases hAccepts : Accepts aData aSize
      · have hValid := hInv.valid aData
        obtain ⟨packet, hSent, hStick⟩ := sendInput_sent aData
          { trace.device with needSetReport := false }
          (axesAfter trace.device.calibrationInitialized trace.device.calibration aData)
        refine ⟨_, by rw [Trace.step, handlePacket_accepted _ hAccepts hValid]; rfl, fun axis => ?_⟩
        rw [if_pos hAccepts, List.filterMap_append, setReport_quiet, List.nil_append]
        exact (hInv axis).accept (by decide) (by decide) hSent (congrFun hStick axis)
      · refine ⟨_, by rw [Trace.step, handlePacket_rejected _ hAccepts]; rfl, fun axis => ?_⟩
        show AxisTracked 0x80 0x100 axis
          (if Accepts aData aSize then _ else trace.period) _ _
        rw [if_neg hAccepts]
        exact hInv axis

end WiiUPro
end MFiWrapper
