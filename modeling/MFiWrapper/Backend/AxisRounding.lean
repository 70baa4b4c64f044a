import MFiWrapper.Backend.HIDPad
import MFiWrapper.Library.FloatEncoding

/-!
# `CalculateAxis` in single precision

The drivers are modelled in exact arithmetic; the code rounds after every operation.  What
it makes of a value is determined by the exact reading all the same: the reading is rounded
once on the right of the dead zone, and on the left by the operations that lead back to the
edge of the range.
-/

namespace MFiWrapper
namespace HIDPad

open Library

/-- `Interface::CalculateAxis` with a rounding after each of its operations. -/
def calculateAxisRounded (rnd : ℚ → ℚ) (aValue : Int) (aCalibration : Calibration) : Option ℚ :=
  if ¬ aCalibration.Valid then none
  -- Handle out of range cases
  else if aValue < aCalibration.c0 then some (-1)
  else if aValue > aCalibration.c3 then some 1
  -- Check if it's inside the dead zone
  else if aValue ≥ aCalibration.c1 ∧ aValue ≤ aCalibration.c2 then some 0
  else if aValue < aCalibration.c1 then
    let val : ℚ := rnd (aValue - aCalibration.c0 : Int)
    let div : ℚ := rnd (aCalibration.c1 - aCalibration.c0 : Int)
    some (rnd (0 - rnd (1 - rnd (val / div))))
  else
    let val : ℚ := rnd (aValue - aCalibration.c2 : Int)
    let div : ℚ := rnd (aCalibration.c3 - aCalibration.c2 : Int)
    some (rnd (val / div))

theorem calculateAxisRounded_id (aValue : Int) (aCalibration : Calibration) :
    calculateAxisRounded id aValue aCalibration = calculateAxis aValue aCalibration := rfl

/-! ## Single precision -/

/-- The float nearest to a number, ties to even. -/
def single (value : ℚ) : ℚ := nearest 23 (-149) value

theorem single_neg (value : ℚ) : single (-value) = -single value := nearest_neg value

theorem single_mono {x y : ℚ} (hLe : x ≤ y) : single x ≤ single y := nearest_mono hLe

theorem single_single (value : ℚ) : single (single value) = single value :=
  nearest_of_isBinaryFloat (isBinaryFloat_nearest value)

/-- Integers of 24 bits are floats. -/
theorem single_intCast {n : Int} (hSmall : |n| < 2 ^ 24) : single n = n :=
  nearest_of_isBinaryFloat ⟨n, 0, hSmall, by norm_num, by norm_num⟩

@[simp] theorem single_zero : single 0 = 0 := nearest_zero

@[simp] theorem single_one : single 1 = 1 := by
  exact_mod_cast single_intCast (n := 1) (by norm_num)

/-! ## Readings -/

/-- What the code makes of a reading. -/
def singleAxis (reading : ℚ) : ℚ :=
  if reading < 0 then -single (1 - single (1 + reading)) else single reading

@[simp] theorem singleAxis_neg_one : singleAxis (-1) = -1 := by
  rw [singleAxis, if_pos (by norm_num)]
  simp

@[simp] theorem singleAxis_zero : singleAxis 0 = 0 := by
  rw [singleAxis, if_neg (lt_irrefl _), single_zero]

@[simp] theorem singleAxis_one : singleAxis 1 = 1 := by
  rw [singleAxis, if_neg (by norm_num), single_one]

theorem singleAxis_mono {x y : ℚ} (hLe : x ≤ y) : singleAxis x ≤ singleAxis y := by
  have hLeft {reading : ℚ} (hNegative : reading < 0) :
      0 ≤ single (1 - single (1 + reading)) := by
    have hEdge : single (1 + reading) ≤ 1 :=
      (single_mono (by linarith)).trans_eq single_one
    rw [← single_zero]
    exact single_mono (by linarith)
  rw [singleAxis, singleAxis]
  split_ifs with hX hY hY
  · refine neg_le_neg (single_mono (sub_le_sub_left (single_mono ?_) 1))
    linarith
  · have hRight : 0 ≤ single y := by
      rw [← single_zero]
      exact single_mono (not_lt.mp hY)
    exact (neg_nonpos.mpr (hLeft hX)).trans hRight
  · exact absurd (hLe.trans_lt hY) hX
  · exact single_mono hLe

theorem abs_singleAxis_le_one {reading : ℚ} (hReading : |reading| ≤ 1) :
    |singleAxis reading| ≤ 1 := by
  obtain ⟨hLow, hHigh⟩ := abs_le.mp hReading
  refine abs_le.mpr ⟨?_, ?_⟩
  · exact singleAxis_neg_one.symm.trans_le (singleAxis_mono hLow)
  · exact (singleAxis_mono hHigh).trans_eq singleAxis_one

theorem single_singleAxis (reading : ℚ) : single (singleAxis reading) = singleAxis reading := by
  rw [singleAxis]
  split_ifs
  · rw [single_neg, single_single]
  · exact single_single reading

/-- With the roundings of single precision the code computes `singleAxis` of the exact
reading, as long as the parts of the range are of 24 bits. -/
theorem calculateAxisRounded_single {c : Calibration} (hLeft : c.c1 - c.c0 < 2 ^ 24)
    (hRight : c.c3 - c.c2 < 2 ^ 24) (aValue : Int) :
    calculateAxisRounded single aValue c = (calculateAxis aValue c).map singleAxis := by
  rw [calculateAxisRounded, calculateAxis]
  split_ifs with hValid hBelow hAbove hDead hSide
  · rw [Option.map_some, singleAxis_neg_one]
  · rw [Option.map_some, singleAxis_one]
  · rw [Option.map_some, singleAxis_zero]
  · -- left of the dead zone
    have hVal : single (aValue - c.c0 : Int) = (aValue - c.c0 : Int) :=
      single_intCast (by rw [abs_of_nonneg (by omega)]; omega)
    have hDiv : single (c.c1 - c.c0 : Int) = (c.c1 - c.c0 : Int) :=
      single_intCast (by rw [abs_of_nonneg (by omega)]; omega)
    have hSpan : (0 : ℚ) < (c.c1 - c.c0 : Int) := by exact_mod_cast sub_pos.mpr hValid.1
    have hLess : ((aValue - c.c0 : Int) : ℚ) / (c.c1 - c.c0 : Int) < 1 :=
      (div_lt_one hSpan).mpr (by exact_mod_cast sub_lt_sub_right hSide c.c0)
    simp only [hVal, hDiv, Option.map_some, Option.some.injEq]
    rw [singleAxis, if_pos (by linarith), zero_sub, single_neg, single_single, zero_sub,
      neg_sub, add_sub_cancel]
  · -- right of it
    obtain ⟨-, -, hOuter⟩ := hValid
    have hVal : single (aValue - c.c2 : Int) = (aValue - c.c2 : Int) :=
      single_intCast (by rw [abs_of_nonneg (by omega)]; omega)
    have hDiv : single (c.c3 - c.c2 : Int) = (c.c3 - c.c2 : Int) :=
      single_intCast (by rw [abs_of_nonneg (by omega)]; omega)
    have hVal' : (0 : ℚ) ≤ (aValue - c.c2 : Int) := by
      exact_mod_cast (by omega : 0 ≤ aValue - c.c2)
    have hSpan : (0 : ℚ) ≤ (c.c3 - c.c2 : Int) := by exact_mod_cast (sub_pos.mpr hOuter).le
    simp only [hVal, hDiv, Option.map_some, Option.some.injEq]
    rw [singleAxis, if_neg (not_lt.mpr (div_nonneg hVal' hSpan))]
  · -- an assertion fails
    rfl

end HIDPad
end MFiWrapper
