import MFiWrapper.Backend.HIDPad

/-!
# `HIDPad_DualShock4.cpp`: the DualShock 4 driver

`SetReport` fills a buffer that is static in the function, so all DualShock 4
drivers share it; it is passed in and out explicitly.
-/

namespace MFiWrapper

open HIDPad

structure DualShock4 where
  pauseHeld : Bool
  playerIndex : UInt8
  needSetReport : Bool
  deriving DecidableEq

namespace DualShock4

def getVendorName : String := "DualShock 4"

def getPresentControls : UInt32 := mfiAllElements

def getAnalogControls : UInt32 :=
  MFiButtonMask .leftThumbstick ||| MFiButtonMask .rightThumbstick

/-- `DualShock4::DualShock4`.  Reading the feature report 2 makes the pad send
full input reports. -/
def construct : DualShock4 × List DriverCall :=
  (⟨true, 255, true⟩, [.getReport true 0x2 0x25, .attachController])

def setPlayerIndex (aIndex : Int32) (pad : DualShock4) : DualShock4 :=
  { pad with playerIndex := aIndex.toUInt32.toUInt8, needSetReport := true }

/-! ## Output reports -/

/-- The initialiser of `report_buffer`. -/
def reportBuffer : List UInt8 := [0x52, 0x11, 0xB0, 0x00, 0x0F] ++ List.replicate 74 0

/-- The colours of the four players. -/
def rgb (playerIndex : UInt8) : List UInt8 :=
  if playerIndex = 0 then [0xFF, 0, 0]
  else if playerIndex = 1 then [0, 0xFF, 0]
  else if playerIndex = 2 then [0, 0, 0xFF]
  else [0xFF, 0xFF, 0xFF]

/-- Store a colour at 9 to 11. -/
def storeColour (colour : List UInt8) (buffer : List UInt8) : List UInt8 :=
  ((buffer.set 9 (colour.getD 0 0)).set 10 (colour.getD 1 0)).set 11 (colour.getD 2 0)

/-- The private member `SetReport`. -/
def setReport (buffer : List UInt8) (pad : DualShock4) : List UInt8 × List DriverCall :=
  let buffer := if pad.playerIndex < 4 then storeColour (rgb pad.playerIndex) buffer else buffer
  (buffer, [.setReport false 0x11 buffer])

/-! ## Input reports -/

/-- `B(X)`. -/
def pressed (byte mask : UInt8) : ℚ := if byte &&& mask ≠ 0 then 1 else 0

def dpadStates : List (ℚ × ℚ) :=
  [(0, -1), (1, -1), (1, 0), (1, 1), (0, 1), (-1, 1), (-1, 0), (-1, -1)]

/-- The direction pad, released for every state from 8 on. -/
def dpad (buttons0 : UInt8) : ℚ × ℚ := dpadStates.getD (buttons0 &&& 0xF).toNat (0, 0)

def calibration : Calibration := ⟨0, 100, 155, 255⟩

/-- The packet for the first two button bytes and the readings of the axes. -/
def inputState (buttons0 buttons1 : UInt8) (leftX leftY rightX rightY : ℚ) :
    MFiWInputStatePacket ℚ where
  a := pressed buttons0 0x20
  b := pressed buttons0 0x40
  x := pressed buttons0 0x10
  y := pressed buttons0 0x80
  leftShoulder := pressed buttons1 0x01
  rightShoulder := pressed buttons1 0x02
  leftTrigger := pressed buttons1 0x04
  rightTrigger := pressed buttons1 0x08
  select := pressed buttons1 0x10
  start := pressed buttons1 0x20
  leftStickButton := pressed buttons1 0x40
  rightStickButton := pressed buttons1 0x80
  dPadX := (dpad buttons0).1
  dPadY := (dpad buttons0).2
  leftStickX := leftX
  leftStickY := 0 - leftY
  rightStickX := rightX
  rightStickY := 0 - rightY

/-- A full input report. -/
def Accepts (aData : Bytes) (aSize : UInt16) : Prop :=
  aSize = 79 ∧ aData 2 = 0xC0 ∧ aData 3 = 0

instance (aData : Bytes) (aSize : UInt16) : Decidable (Accepts aData aSize) :=
  inferInstanceAs (Decidable (_ ∧ _))

/-- The part of `HandlePacket` that is reached by an accepted report. -/
def handleInput (aData : Bytes) (pad : DualShock4) : Option (DualShock4 × List DriverCall) := do
  let leftX ← calculateAxis (aData 4).toNat calibration
  let leftY ← calculateAxis (aData 5).toNat calibration
  let rightX ← calculateAxis (aData 6).toNat calibration
  let rightY ← calculateAxis (aData 7).toNat calibration
  let ps := aData 10 &&& 0x01 != 0
  let pause := if !pad.pauseHeld && ps then [.sendPausePressed] else []
  return ({ pad with pauseHeld := ps },
    pause ++ [.sendControllerState
      (inputState (aData 8) (aData 9) leftX leftY rightX rightY)])

/-- `DualShock4::HandlePacket`. -/
def handlePacket (buffer : List UInt8) (aData : Bytes) (aSize : UInt16) (pad : DualShock4) :
    Option (List UInt8 × DualShock4 × List DriverCall) := do
  let (buffer, calls) := if pad.needSetReport then pad.setReport buffer else (buffer, [])
  let pad := { pad with needSetReport := false }
  if ¬ Accepts aData aSize then
    return (buffer, pad, calls)
  let (pad, input) ← handleInput aData pad
  return (buffer, pad, calls ++ input)

/-! ## Facts -/

theorem calibration_valid : calibration.Valid := by decide

/-- The last colour stored is the one in the buffer. -/
theorem storeColour_storeColour (colour colour' buffer : List UInt8) :
    storeColour colour (storeColour colour' buffer) = storeColour colour buffer := by
  refine List.ext_getElem? fun i => ?_
  simp only [storeColour, List.getElem?_set, List.length_set]
  split_ifs <;> rfl

/-- The input state for an accepted report. -/
def sentState (aData : Bytes) : MFiWInputStatePacket ℚ :=
  inputState (aData 8) (aData 9) (calibration.reading (aData 4).toNat)
    (calibration.reading (aData 5).toNat) (calibration.reading (aData 6).toNat)
    (calibration.reading (aData 7).toNat)

/-- No assertion fails on the axes. -/
theorem handleInput_eq (aData : Bytes) (pad : DualShock4) :
    handleInput aData pad = some ({ pad with pauseHeld := aData 10 &&& 0x01 != 0 },
      (if !pad.pauseHeld && (aData 10 &&& 0x01 != 0) then [.sendPausePressed] else []) ++
        [.sendControllerState (sentState aData)]) := by
  simp only [handleInput, calculateAxis_valid calibration_valid]
  rfl

/-- The driver after a report. -/
def next (aData : Bytes) (aSize : UInt16) (pad : DualShock4) : DualShock4 :=
  { pad with
    pauseHeld := if Accepts aData aSize then aData 10 &&& 0x01 != 0 else pad.pauseHeld
    needSetReport := false }

/-- The calls in answer to a report. -/
def answer (aData : Bytes) (aSize : UInt16) (pad : DualShock4) : List DriverCall :=
  if Accepts aData aSize then
    (if !pad.pauseHeld && (aData 10 &&& 0x01 != 0) then [.sendPausePressed] else []) ++
      [.sendControllerState (sentState aData)]
  else []

/-- A report, after the output report if one is due. -/
theorem handlePacket_eq (buffer : List UInt8) (aData : Bytes) (aSize : UInt16)
    (pad : DualShock4) :
    handlePacket buffer aData aSize pad =
      some (if pad.needSetReport then (pad.setReport buffer).1 else buffer, pad.next aData aSize,
        (if pad.needSetReport then [.setReport false 0x11 (pad.setReport buffer).1] else []) ++
          pad.answer aData aSize) := by
  by_cases hAccepts : Accepts aData aSize
  · simp only [handlePacket, if_neg (not_not.mpr hAccepts), handleInput_eq, next, answer,
      if_pos hAccepts]
    split_ifs <;> rfl
  · simp only [handlePacket, if_pos hAccepts, next, answer, if_neg hAccepts, List.append_nil]
    split_ifs <;> rfl

theorem answer_reports (aData : Bytes) (aSize : UInt16) (pad : DualShock4) :
    (pad.answer aData aSize).filterMap DriverCall.report = [] := by
  unfold answer
  split_ifs <;> rfl

end DualShock4
end MFiWrapper
