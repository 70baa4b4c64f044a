import Mathlib.Data.Int.ConditionallyCompleteOrder
import MFiWrapper.Backend.HIDPad

/-!
# The contract of `CalculateAxis`

What the comment in `HIDPad.h` promises of a calibration, for every value: both ranges
are inclusive, the dead zone is 0, and the reading rises on either side of it up to the
ends of the analog range, without jumps back where the branches of the code meet.
-/

namespace MFiWrapper
namespace HIDPad

open Library

/-- The readings of all values under a calibration. -/
structure AxisContract (c : Calibration) (reading : Int → ℚ) : Prop where
  range : ∀ v, -1 ≤ reading v ∧ reading v ≤ 1
  monotone : Monotone reading
  dead : ∀ v, reading v = 0 ↔ c.c1 ≤ v ∧ v ≤ c.c2
  below : ∀ v, reading v < 0 ↔ v < c.c1
  above : ∀ v, 0 < reading v ↔ c.c2 < v
  lowEnd : ∀ v, reading v = -1 ↔ v ≤ c.c0
  highEnd : ∀ v, reading v = 1 ↔ c.c3 ≤ v
  risesBelow : StrictMonoOn reading (Set.Icc c.c0 c.c1)
  risesAbove : StrictMonoOn reading (Set.Icc c.c2 c.c3)

/-- The order of a calibration, among the rationals. -/
theorem Calibration.Valid.cast {c : Calibration} (hValid : c.Valid) :
    (c.c0 : ℚ) < c.c1 ∧ (c.c1 : ℚ) ≤ c.c2 ∧ (c.c2 : ℚ) < c.c3 :=
  ⟨Int.cast_lt.mpr hValid.1, Int.cast_le.mpr hValid.2.1, Int.cast_lt.mpr hValid.2.2⟩

theorem reading_contract {c : Calibration} (hValid : c.Valid) : AxisContract c c.reading := by
  obtain ⟨h₀₁, h₁₂, h₂₃⟩ := hValid.cast
  constructor
  · exact fun v => abs_le.mp (abs_reading_le_one c v)
  · exact (deadZone_monotone h₀₁ h₁₂ h₂₃).comp Int.cast_mono
  · intro v
    rw [Calibration.reading, deadZone_eq_zero_iff h₀₁ h₁₂ h₂₃, Int.cast_le, Int.cast_le]
  · intro v
    rw [Calibration.reading, deadZone_neg_iff h₀₁ h₁₂ h₂₃, Int.cast_lt]
  · intro v
    rw [Calibration.reading, deadZone_pos_iff h₀₁ h₁₂ h₂₃, Int.cast_lt]
  · intro v
    rw [Calibration.reading, deadZone_eq_neg_one_iff h₀₁ h₁₂ h₂₃, Int.cast_le]
  · intro v
    rw [Calibration.reading, deadZone_eq_one_iff h₀₁ h₁₂ h₂₃, Int.cast_le]
  · intro v hv w hw hvw
    refine deadZone_strictMonoOn_below h₀₁ h₁₂ h₂₃ ?_ ?_ (Int.cast_lt.mpr hvw)
    · exact ⟨Int.cast_le.mpr hv.1, Int.cast_le.mpr hv.2⟩
    · exact ⟨Int.cast_le.mpr hw.1, Int.cast_le.mpr hw.2⟩
  · intro v hv w hw hvw
    refine deadZone_strictMonoOn_above h₀₁ h₁₂ h₂₃ ?_ ?_ (Int.cast_lt.mpr hvw)
    · exact ⟨Int.cast_le.mpr hv.1, Int.cast_le.mpr hv.2⟩
    · exact ⟨Int.cast_le.mpr hw.1, Int.cast_le.mpr hw.2⟩

/-- Under every calibration in order and for every value, `CalculateAxis` returns, and
its results are as the contract says. -/
theorem calculateAxis_contract {c : Calibration} (hValid : c.Valid) :
    ∃ reading : Int → ℚ, (∀ aValue, calculateAxis aValue c = some (reading aValue)) ∧
      AxisContract c reading :=
  ⟨c.reading, calculateAxis_valid hValid, reading_contract hValid⟩

/-- A dead zone of one point between two ranges of width one. -/
theorem calculateAxis_contract_narrow :
    ∃ reading : Int → ℚ, (∀ aValue, calculateAxis aValue ⟨0, 1, 1, 2⟩ = some (reading aValue)) ∧
      AxisContract ⟨0, 1, 1, 2⟩ reading :=
  calculateAxis_contract (by decide)

end HIDPad
end MFiWrapper
