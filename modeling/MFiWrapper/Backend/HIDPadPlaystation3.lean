import MFiWrapper.Backend.HIDPad

/-!
# `HIDPad_Playstation3.cpp`: the PlayStation 3 driver

As in the DualShock 4 driver, the buffer of `SetReport` is static in the function
and passed explicitly; here every call stores the one byte that varies.
-/

namespace MFiWrapper

open HIDPad

structure Playstation3 where
  pauseHeld : Bool
  ledByte : UInt8
  needSetReport : Bool
  deriving DecidableEq

namespace Playstation3

def getVendorName : String := "SixAxis/DualShock 3"

def getPresentControls : UInt32 := mfiAllElements

def getAnalogControls : UInt32 := mfiAllElements &&& ~~~mfiFullElements

/-- `Playstation3::Playstation3`.  On iOS the packet that starts the reports is
sent first; elsewhere the system sends it. -/
def construct (ios : Bool) : Playstation3 × List DriverCall :=
  (⟨true, 0, true⟩,
    (if ios then [.setReport true 0 [0x53, 0xF4, 0x42, 0x03, 0x00, 0x00]] else []) ++
      [.attachController])

def setPlayerIndex (aIndex : Int32) (pad : Playstation3) : Playstation3 :=
  { pad with
    ledByte := if aIndex < 0 ∨ aIndex ≥ 4 then 0 else 1 <<< (aIndex.toUInt32.toUInt8 + 1)
    needSetReport := true }

/-! ## Output reports -/

/-- The initialiser of `report_buffer`. -/
def reportBuffer : List UInt8 :=
  [0x52, 0x01,
    0x00, 0xFF, 0x00, 0xFF, 0x00,
    0x00, 0x00, 0x00, 0x00, 0x00,
    0xFF, 0x27, 0x10, 0x00, 0x32,
    0xFF, 0x27, 0x10, 0x00, 0x32,
    0xFF, 0x27, 0x10, 0x00, 0x32,
    0xFF, 0x27, 0x10, 0x00, 0x32] ++ List.replicate 18 0

/-- The private member `SetReport`. -/
def setReport (buffer : List UInt8) (pad : Playstation3) : List UInt8 × List DriverCall :=
  let buffer := buffer.set 11 pad.ledByte
  (buffer, [.setReport false 0x01 buffer])

/-! ## Input reports -/

/-- A bit of `SS_BUTTONS`. -/
def bit (byte mask : UInt8) : ℚ := if byte &&& mask ≠ 0 then 1 else 0

/-- `B(X, Y)`: a pressure. -/
def sens (byte : UInt8) : ℚ := (byte.toNat : ℚ) / 255

def calibration : Calibration := ⟨0, 100, 155, 255⟩

/-- The packet for the `SS_GAMEPAD` at `aData[1]` and the readings of the axes. -/
def inputState (aData : Bytes) (leftX leftY rightX rightY : ℚ) : MFiWInputStatePacket ℚ where
  a := sens (aData 25)
  b := sens (aData 24)
  x := sens (aData 26)
  y := sens (aData 23)
  leftShoulder := sens (aData 21)
  rightShoulder := sens (aData 22)
  leftTrigger := sens (aData 19)
  rightTrigger := sens (aData 20)
  select := bit (aData 3) 0x01
  start := bit (aData 3) 0x08
  leftStickButton := bit (aData 3) 0x02
  rightStickButton := bit (aData 3) 0x04
  dPadX := if sens (aData 18) > 0 then -sens (aData 18) else sens (aData 16)
  dPadY := if sens (aData 15) > 0 then -sens (aData 15) else sens (aData 17)
  leftStickX := leftX
  leftStickY := 0 - leftY
  rightStickX := rightX
  rightStickY := 0 - rightY

/-- `HandlePacket` after the output report: it takes every report for an input
report, whatever its size. -/
def handleInput (aData : Bytes) (pad : Playstation3) :
    Option (Playstation3 × List DriverCall) := do
  let leftX ← calculateAxis (aData 7).toNat calibration
  let leftY ← calculateAxis (aData 8).toNat calibration
  let rightX ← calculateAxis (aData 9).toNat calibration
  let rightY ← calculateAxis (aData 10).toNat calibration
  let ps := aData 5 &&& 0x01 != 0
  let pause := if !pad.pauseHeld && ps then [.sendPausePressed] else []
  return ({ pad with pauseHeld := ps },
    pause ++ [.sendControllerState (inputState aData leftX leftY rightX rightY)])

/-- `Playstation3::HandlePacket`. -/
def handlePacket (buffer : List UInt8) (aData : Bytes) (pad : Playstation3) :
    Option (List UInt8 × Playstation3 × List DriverCall) := do
  let (buffer, calls) := if pad.needSetReport then pad.setReport buffer else (buffer, [])
  let (pad, input) ← handleInput aData { pad with needSetReport := false }
  return (buffer, pad, calls ++ input)

/-! ## Facts -/

theorem calibration_valid : calibration.Valid := by decide

/-- The input state for a report. -/
def sentState (aData : Bytes) : MFiWInputStatePacket ℚ :=
  inputState aData (calibration.reading (aData 7).toNat)
    (calibration.reading (aData 8).toNat) (calibration.reading (aData 9).toNat)
    (calibration.reading (aData 10).toNat)

/-- No assertion fails on the axes. -/
theorem handleInput_eq (aData : Bytes) (pad : Playstation3) :
    handleInput aData pad = some ({ pad with pauseHeld := aData 5 &&& 0x01 != 0 },
      (if !pad.pauseHeld && (aData 5 &&& 0x01 != 0) then [.sendPausePressed] else []) ++
        [.sendControllerState (sentState aData)]) := by
  simp only [handleInput, calculateAxis_valid calibration_valid]
  rfl

/-- The driver after a report. -/
def next (aData : Bytes) (pad : Playstation3) : Playstation3 :=
  { pad with pauseHeld := aData 5 &&& 0x01 != 0, needSetReport := false }

/-- The calls in answer to a report. -/
def answer (aData : Bytes) (pad : Playstation3) : List DriverCall :=
  (if !pad.pauseHeld && (aData 5 &&& 0x01 != 0) then [.sendPausePressed] else []) ++
    [.sendControllerState (sentState aData)]

/-- A report, after the output report if one is due. -/
theorem handlePacket_eq (buffer : List UInt8) (aData : Bytes) (pad : Playstation3) :
    handlePacket buffer aData pad =
      some (if pad.needSetReport then (pad.setReport buffer).1 else buffer, pad.next aData,
        (if pad.needSetReport then [.setReport false 0x01 (pad.setReport buffer).1] else []) ++
          pad.answer aData) := by
  simp only [handlePacket, handleInput_eq, next, answer]
  split_ifs <;> rfl

theorem answer_reports (aData : Bytes) (pad : Playstation3) :
    (pad.answer aData).filterMap DriverCall.report = [] := by
  unfold answer
  split_ifs <;> rfl

theorem answer_sent (aData : Bytes) (pad : Playstation3) :
    (pad.answer aData).filterMap DriverCall.sentState = [sentState aData] := by
  unfold answer
  split_ifs <;> rfl

end Playstation3
end MFiWrapper
