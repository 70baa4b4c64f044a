import Mathlib.Algebra.Order.Field.Rat
import MFiWrapper.Library.DeadZone
import MFiWrapper.Protocol

/-!
# `HIDPad.cpp`: what all drivers share

The outgoing calls of a driver and the axis scaling of the interface class.
Scalars are exact rationals; raw readings and calibrations are integers (every
value that occurs is far below the 32-bit range).
-/

namespace MFiWrapper

open Library

/-- Memory behind a pointer.  A driver that looks beyond the bytes of a report
finds whatever is there. -/
abbrev Bytes := Nat → UInt8

/-- The memory behind `data + offset`. -/
def Bytes.drop (data : Bytes) (offset : Nat) : Bytes := fun i => data (offset + i)

theorem Bytes.drop_drop (data : Bytes) (first second : Nat) :
    (data.drop first).drop second = data.drop (first + second) := by
  funext i
  exact congrArg data (Nat.add_assoc first second i).symm

/-- The calls a driver makes: to the device through the HID manager, and to
the backend. -/
inductive DriverCall
  | setReport (aFeature : Bool) (aID : UInt8) (aData : List UInt8)
  | getReport (aFeature : Bool) (aID : UInt8) (aSize : UInt16)
  | attachController
  | sendPausePressed
  | sendControllerState (aData : MFiWInputStatePacket ℚ)
  deriving DecidableEq

/-- The input state a call sends, if it sends one. -/
def DriverCall.sentState : DriverCall → Option (MFiWInputStatePacket ℚ)
  | .sendControllerState aData => some aData
  | _ => none

/-- The report a call sends to the device, if it sends one. -/
def DriverCall.report : DriverCall → Option (Bool × UInt8 × List UInt8)
  | .setReport aFeature aID aData => some (aFeature, aID, aData)
  | _ => none

namespace HIDPad

/-- `int32_t calibration[4]`: the outer range is 0 to 3, the dead zone 1 to 2. -/
structure Calibration where
  c0 : Int
  c1 : Int
  c2 : Int
  c3 : Int
  deriving DecidableEq

/-- "Must satisfy 0 < 1 <= 2 < 3". -/
def Calibration.Valid (c : Calibration) : Prop := c.c0 < c.c1 ∧ c.c1 ≤ c.c2 ∧ c.c2 < c.c3

instance (c : Calibration) : Decidable c.Valid := inferInstanceAs (Decidable (_ ∧ _ ∧ _))

/-- `Interface::CalculateAxis`, in exact arithmetic; `none` when one of its three assertions
fails. -/
def calculateAxis (aValue : Int) (aCalibration : Calibration) : Option ℚ :=
  if ¬ aCalibration.Valid then none
  -- Handle out of range cases
  else if aValue < aCalibration.c0 then some (-1)
  else if aValue > aCalibration.c3 then some 1
  -- Check if it's inside the dead zone
  else if aValue ≥ aCalibration.c1 ∧ aValue ≤ aCalibration.c2 then some 0
  else if aValue < aCalibration.c1 then
    let val : ℚ := (aValue - aCalibration.c0 : Int)
    let div : ℚ := (aCalibration.c1 - aCalibration.c0 : Int)
    some (0 - (1 - val / div))
  else
    let val : ℚ := (aValue - aCalibration.c2 : Int)
    let div : ℚ := (aCalibration.c3 - aCalibration.c2 : Int)
    some (val / div)

/-- The reading of a value under a calibration. -/
def Calibration.reading (c : Calibration) (aValue : Int) : ℚ :=
  deadZone (c.c0 : ℚ) c.c1 c.c2 c.c3 aValue

/-- Under a valid calibration no assertion fails and the result is the reading
around the dead zone. -/
theorem calculateAxis_valid {c : Calibration} (hValid : c.Valid) (aValue : Int) :
    calculateAxis aValue c = some (c.reading aValue) := by
  unfold calculateAxis Calibration.reading deadZone
  rw [if_neg (not_not.mpr hValid)]
  simp only [Int.cast_lt, Int.cast_le, Int.cast_sub, zero_sub, gt_iff_lt, ge_iff_le]
  split_ifs <;> rfl

theorem abs_reading_le_one (c : Calibration) (aValue : Int) : |c.reading aValue| ≤ 1 :=
  abs_deadZone_le_one _ _ _ _ _

/-- Widening the outer range does not enlarge the reading of a value in range. -/
theorem abs_reading_widen {c c' : Calibration} (h₁ : c'.c1 = c.c1) (h₂ : c'.c2 = c.c2)
    (hLow : c'.c0 ≤ c.c0) (hHigh : c.c3 ≤ c'.c3) {aValue : Int}
    (h₀ : c.c0 ≤ aValue) (h₃ : aValue ≤ c.c3) :
    |c'.reading aValue| ≤ |c.reading aValue| := by
  unfold Calibration.reading
  rw [h₁, h₂]
  exact abs_deadZone_widen (by exact_mod_cast hLow) (by exact_mod_cast hHigh)
    (by exact_mod_cast h₀) (by exact_mod_cast h₃)

end HIDPad
end MFiWrapper
